import UnnamedOS.BootProtocol.Extensions

namespace UnnamedOS.BootProtocol

open UnnamedOS.Data

/-! # The owned frames of a page-table hierarchy

The protocol's own check of an ownership record against the frame list and the
memory map.  Its arithmetic is not checked in the source; an overflow is the
outcome `panic`. -/

structure OwnedPageTableFrame where
  physicalFrame : Nat
  reserved0 : Nat
deriving DecidableEq, Repr

/-- The closure that looks for the frame in one descriptor; the sum is taken
only when the first comparison holds. -/
def reservesFrame (address : Nat) (descriptor : MemoryDescriptor) :
    Except ExtensionFailure Bool :=
  if descriptor.kind ≠ memoryKindPageTable ∨ ¬ descriptor.validate.isOk then .ok false
  else do
    let length ← okOr (checkedMul descriptor.pageCount memoryPageSize) .panic
    if descriptor.physicalStart ≤ address then do
      let stop ← okOr (checkedAdd descriptor.physicalStart length) .panic
      .ok (decide (address < stop))
    else .ok false

/-- `memory_map.iter().any(..)`. -/
def isReserved (address : Nat) : List MemoryDescriptor → Except ExtensionFailure Bool
  | [] => .ok false
  | descriptor :: rest => do
      if ← reservesFrame address descriptor then .ok true else isReserved address rest

/-- `root_count += 1` at the root's frame; the counter is a `u32`. -/
def countRoot (ownership : ValidatedPageTableOwnership) (rootCount : Nat)
    (frame : OwnedPageTableFrame) : Except ExtensionFailure Nat :=
  if frame.physicalFrame = ownership.raw.rootPhysicalFrame then
    if rootCount + 1 < 2 ^ 32 then .ok (rootCount + 1) else .error .panic
  else .ok rootCount

/-- One iteration of the loop over the frames. -/
def checkOwnedFrame (ownership : ValidatedPageTableOwnership) (frames : List OwnedPageTableFrame)
    (memoryMap : List MemoryDescriptor) (rootCount : Nat) (indexed : OwnedPageTableFrame × Nat) :
    Except ExtensionFailure Nat :=
  if indexed.1.reserved0 ≠ 0 then .error (.refused .ownedFrameReservedNotZero)
  else do
    (validateFrameAddress indexed.1.physicalFrame ownership.raw.physicalAddressCap).mapError .refused
    if ∃ previous ∈ frames.take indexed.2, previous.physicalFrame = indexed.1.physicalFrame then
      .error (.refused .duplicateOwnedFrame)
    else do
      let rootCount ← countRoot ownership rootCount indexed.1
      let reserved ← isReserved indexed.1.physicalFrame memoryMap
      if ¬ reserved then .error (.refused .ownedFrameNotReserved) else .ok rootCount

def validatePageTableFrames (ownership : ValidatedPageTableOwnership)
    (frames : List OwnedPageTableFrame) (memoryMap : List MemoryDescriptor) :
    Except ExtensionFailure Unit :=
  if frames.length ≠ ownership.raw.ownedFrameCount then
    .error (.refused .ownedFrameCountMismatch)
  else do
    let rootCount ← frames.zipIdx.foldlM (checkOwnedFrame ownership frames memoryMap) 0
    if rootCount ≠ 1 then .error (.refused .rootFrameMissingOrDuplicated) else .ok ()

/-- A validated record is the record itself, under the only supported cap. -/
theorem PageTableOwnership.validate_raw {ownership : PageTableOwnership}
    {validated : ValidatedPageTableOwnership} (accepted : ownership.validate = .ok validated) :
    validated.raw = ownership ∧ ownership.physicalAddressCap = pageTablePhysicalCap := by
  simp only [validate, guard_eq_ok, bind_eq_ok, okOr_eq_ok, Except.ok.injEq] at accepted
  obtain ⟨_, _, _, _, cap, _, _, _, _, _, _, _, _, _, _, _, rfl⟩ := accepted
  exact ⟨rfl, not_not.mp cap⟩

/-! ## What the check asks for -/

/-- A valid page-table descriptor of the map holds the address. -/
def InPageTableMemory (memoryMap : List MemoryDescriptor) (address : Nat) : Prop :=
  ∃ descriptor ∈ memoryMap, descriptor.kind = memoryKindPageTable ∧ descriptor.Valid ∧
    descriptor.Contains address

section

variable {address : Nat} {descriptor : MemoryDescriptor} {memoryMap : List MemoryDescriptor}

theorem isOk_validate_iff : descriptor.validate.isOk = true ↔ descriptor.Valid := by
  rw [← MemoryDescriptor.validate_iff]
  cases descriptor.validate <;> simp [Except.isOk, Except.toBool]

/-- Validation has already made the product and the sum fit. -/
theorem reservesFrame_returns : ∃ reserved, reservesFrame address descriptor = .ok reserved ∧
    (reserved = true ↔ descriptor.kind = memoryKindPageTable ∧ descriptor.Valid ∧
      descriptor.Contains address) := by
  by_cases skipped : descriptor.kind ≠ memoryKindPageTable ∨ ¬ descriptor.validate.isOk
  · refine ⟨false, if_pos skipped, ?_⟩
    rw [isOk_validate_iff] at skipped
    simp only [Bool.false_eq_true, false_iff]
    intro reserves
    exact skipped.elim (fun other => other reserves.1) fun invalid => invalid reserves.2.1
  · have relevant := skipped
    rw [isOk_validate_iff, not_or, not_not, not_not] at relevant
    obtain ⟨kind, valid⟩ := relevant
    have bounded := valid.bounded
    simp only [MemoryDescriptor.stop] at bounded
    have length : checkedMul descriptor.pageCount memoryPageSize =
        some (descriptor.pageCount * memoryPageSize) := checkedMul_eq_some.mpr ⟨by omega, rfl⟩
    have stop : checkedAdd descriptor.physicalStart (descriptor.pageCount * memoryPageSize) =
        some descriptor.stop := checkedAdd_eq_some.mpr ⟨bounded, rfl⟩
    rw [reservesFrame, if_neg skipped]
    simp only [length, stop, okOr_some, ok_bind, kind, valid, true_and, Covers]
    by_cases lower : descriptor.physicalStart ≤ address
    · exact ⟨_, if_pos lower, by simp [lower]⟩
    · exact ⟨_, if_neg lower, by simp [lower]⟩

theorem isReserved_returns : ∃ reserved, isReserved address memoryMap = .ok reserved ∧
    (reserved = true ↔ InPageTableMemory memoryMap address) := by
  induction memoryMap with
  | nil => exact ⟨false, rfl, by simp [InPageTableMemory]⟩
  | cons descriptor rest ih =>
      obtain ⟨here, checked, reserves⟩ := @reservesFrame_returns address descriptor
      obtain ⟨later, searched, found⟩ := ih
      simp only [InPageTableMemory, List.exists_mem_cons_iff] at found ⊢
      cases here with
      | true =>
          refine ⟨true, by simp [isReserved, checked], ?_⟩
          simp only [true_iff]
          exact .inl (reserves.mp rfl)
      | false =>
          refine ⟨later, by simp [isReserved, checked, searched], ?_⟩
          rw [found, or_iff_right]
          intro holds
          exact absurd (reserves.mpr holds) (by decide)

end

section

variable {ownership : ValidatedPageTableOwnership} {frames : List OwnedPageTableFrame}
  {memoryMap : List MemoryDescriptor}

/-- The root among the frames seen so far. -/
def rootsIn (ownership : ValidatedPageTableOwnership)
    (indexed : List (OwnedPageTableFrame × Nat)) : Nat :=
  (indexed.map fun frame => frame.1.physicalFrame).count ownership.raw.rootPhysicalFrame

/-- What one iteration has established of its frame. -/
structure Owned (ownership : ValidatedPageTableOwnership) (frames : List OwnedPageTableFrame)
    (memoryMap : List MemoryDescriptor) (indexed : OwnedPageTableFrame × Nat) : Prop where
  reserved : indexed.1.reserved0 = 0
  addressed : validateFrameAddress indexed.1.physicalFrame ownership.raw.physicalAddressCap = .ok ()
  new : ∀ previous ∈ frames.take indexed.2, previous.physicalFrame ≠ indexed.1.physicalFrame
  held : InPageTableMemory memoryMap indexed.1.physicalFrame

/-- The counter of roots fits its type, so an iteration either accepts its frame
or refuses it for a reason. -/
theorem checkOwnedFrame_ends {rootCount : Nat} {indexed : OwnedPageTableFrame × Nat}
    (counts : rootCount + 1 < 2 ^ 32) :
    Ends (fun next => Owned ownership frames memoryMap indexed ∧
        next = rootCount + rootsIn ownership [indexed])
      (fun reason => reason ≠ .panic ∧ ¬ Owned ownership frames memoryMap indexed)
      (checkOwnedFrame ownership frames memoryMap rootCount indexed) := by
  obtain ⟨reserved, searched, found⟩ := @isReserved_returns indexed.1.physicalFrame memoryMap
  have counted : countRoot ownership rootCount indexed.1 =
      .ok (rootCount + rootsIn ownership [indexed]) := by
    by_cases root : indexed.1.physicalFrame = ownership.raw.rootPhysicalFrame
    · rw [countRoot, if_pos root, if_pos counts]
      simp [root, rootsIn]
    · rw [countRoot, if_neg root]
      simp [root, rootsIn]
  unfold checkOwnedFrame
  refine .guard (fun marked => ⟨nofun, fun owned => marked owned.reserved⟩) fun unmarked => ?_
  refine Ends.bind (.mapError (fun _ => id) fun reason refused =>
    ⟨nofun, fun owned => by rw [owned.addressed] at refused; contradiction⟩) ?_
  intro _ _ addressed
  refine .guard ?_ fun new => ?_
  · intro repeated
    obtain ⟨previous, member, same⟩ := repeated
    exact ⟨nofun, fun owned => owned.new previous member same⟩
  rw [counted, ok_bind, searched, ok_bind]
  refine .guard ?_ fun held => ?_
  · intro missing
    exact ⟨nofun, fun owned => missing (found.mpr owned.held)⟩
  · exact .returns ⟨⟨not_not.mp unmarked, addressed, fun previous member same =>
      new ⟨previous, member, same⟩, found.mp (not_not.mp held)⟩, rfl⟩

/-- The frame list an ownership record describes. -/
structure OwnsFrames (ownership : ValidatedPageTableOwnership) (frames : List OwnedPageTableFrame)
    (memoryMap : List MemoryDescriptor) : Prop where
  count : frames.length = ownership.raw.ownedFrameCount
  owned : ∀ indexed ∈ frames.zipIdx, Owned ownership frames memoryMap indexed
  root : rootsIn ownership frames.zipIdx = 1

/-- The check accepts the frame lists of its record and no others, and none of
its sums or products overflows. -/
theorem validatePageTableFrames_ends (width : ownership.raw.ownedFrameCount < 2 ^ 32) :
    Ends (fun _ => OwnsFrames ownership frames memoryMap)
      (fun reason => reason ≠ .panic ∧ ¬ OwnsFrames ownership frames memoryMap)
      (validatePageTableFrames ownership frames memoryMap) := by
  unfold validatePageTableFrames
  refine .guard (fun differs => ⟨nofun, fun owns => differs owns.count⟩) fun same => ?_
  have count : frames.length = ownership.raw.ownedFrameCount := not_not.mp same
  refine Ends.bind (Ends.foldlM (fun before rootCount =>
    (∀ indexed ∈ before, Owned ownership frames memoryMap indexed) ∧
      rootCount = rootsIn ownership before) ⟨by simp, rfl⟩ ?_) ?_
  · intro before indexed after rootCount split seen
    obtain ⟨owned, rfl⟩ := seen
    have fewer : rootsIn ownership before ≤ before.length :=
      Nat.le_trans List.count_le_length (Nat.le_of_eq (List.length_map _))
    have position : before.length < frames.length := by
      have lengths := congrArg List.length split
      simp only [List.length_zipIdx, List.length_append, List.length_cons] at lengths
      omega
    refine (checkOwnedFrame_ends (by omega)).imp ?_ ?_
    · intro next _ step
      obtain ⟨here, rfl⟩ := step
      refine ⟨?_, by simp [rootsIn]⟩
      intro other member
      rcases List.mem_append.mp member with old | last
      · exact owned other old
      · exact List.mem_singleton.mp last ▸ here
    · intro reason refused
      exact ⟨refused.1, fun owns => refused.2 (owns.owned indexed (by simp [split]))⟩
  · intro rootCount _ seen
    obtain ⟨owned, rfl⟩ := seen
    refine .guard (fun other => ⟨nofun, fun owns => other owns.root⟩) fun one => ?_
    exact .returns ⟨count, owned, not_not.mp one⟩

end

end UnnamedOS.BootProtocol
