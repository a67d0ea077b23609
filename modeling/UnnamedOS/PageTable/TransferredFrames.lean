import UnnamedOS.PageTable.FrameCustody
import UnnamedOS.PageTable.Translation

namespace UnnamedOS.PageTable

open UnnamedOS.Data UnnamedOS.Layout

/-! # Transferring after releases

A release shortens the list of frames and leaves the root field alone, and a
transfer copies both.  The copies agree as long as a frame is left; once the
last one is gone the root still names it. -/

variable {β ε : Type} {capacity tableCapacity entryCapacity removalCapacity : Nat}

/-- A frame the record gives out, through `frames` or `root_frame`. -/
def TransferredPageTableFrames.Names (transferred : TransferredPageTableFrames capacity)
    (frame : PhysicalFrame) : Prop :=
  frame ∈ transferred.frames ∨ transferred.root = some frame

/-- Nothing the record names has been given back, and its root is its first frame. -/
structure TransferredPageTableFrames.Intact (transferred : TransferredPageTableFrames capacity)
    (log : List FrameEvent) : Prop where
  unfreed : ∀ frame, transferred.Names frame → ⟨frame.address, true⟩ ∉ frees log
  root : ∃ first, transferred.frames[0]? = some first ∧ transferred.root = some first

namespace PageTableFrameOwner

/-- Any number of `try_release` calls, whatever each returns. -/
def retry (ops : FrameBackend β ε) :
    Nat → PageTableFrameOwner β capacity → PageTableFrameOwner β capacity
  | 0, owner => owner
  | count + 1, owner => retry ops count (owner.tryRelease ops).2

theorem retry_root (ops : FrameBackend β ε) (count : Nat)
    (owner : PageTableFrameOwner β capacity) : (owner.retry ops count).root = owner.root := by
  induction count generalizing owner with
  | zero => rfl
  | succ count ih => exact (ih _).trans (owner.tryRelease_root ops)

end PageTableFrameOwner

theorem Holder.retry_complete (ops : FrameBackend β ε) (count : Nat)
    (owner : PageTableFrameOwner β capacity) :
    (Holder.complete owner).retry ops count = .complete (owner.retry ops count) := by
  induction count generalizing owner with
  | zero => rfl
  | succ count ih => exact ih (owner.tryRelease ops).2

namespace PageTableFrameOwner

variable {ops : FrameBackend β ε} {start : β}
  {plan : ConstructionPlan tableCapacity entryCapacity removalCapacity}
  {owner : PageTableFrameOwner (β × List FrameEvent) capacity}

theorem allocate_settled (allocated : allocate ops.logged plan (start, []) = .ok owner) :
    owner.Settled := by
  obtain ⟨holder, _, outcome, settled, _⟩ := allocate_tracked ops start plan capacity
  rw [allocated] at outcome
  obtain rfl : .complete owner = holder := Option.some.inj outcome
  exact settled

/-- An allocated owner's history over any number of releases. -/
theorem allocate_retry_tracked (allocated : allocate ops.logged plan (start, []) = .ok owner)
    (retries : Nat) :
    Tracked (owner.retry ops.logged retries).backend.2 owner.addresses
      (owner.retry ops.logged retries).addresses := by
  obtain ⟨holder, _, outcome, settled, _, shape⟩ := allocate_tracked ops start plan capacity
  rw [allocated] at outcome
  obtain rfl : .complete owner = holder := Option.some.inj outcome
  have complete := shape.1
  have opening : Tracked owner.backend.2 owner.addresses owner.addresses :=
    .opening complete.distinct [] (by simpa using complete.allocated) (by simp) complete.quiet
  have later := (Holder.retry_tracked ops retries settled opening).2
  rw [Holder.retry_complete] at later
  exact later

/-- While a frame is left, the first one is still the root. -/
theorem retry_head (allocated : allocate ops.logged plan (start, []) = .ok owner) {retries : Nat}
    {first : PhysicalFrame}
    (left : (owner.retry ops.logged retries).frames[0]? = some first) :
    owner.root = some first := by
  obtain ⟨released, split⟩ := (allocate_retry_tracked allocated retries).isPrefix
  cases kept : (owner.retry ops.logged retries).frames with
  | nil => simp [kept] at left
  | cons head rest =>
      simp only [kept, List.getElem?_cons_zero, Option.some.injEq] at left
      cases taken : owner.frames with
      | nil => simp [addresses, kept, taken] at split
      | cons root others =>
          simp only [addresses, kept, taken, List.map_cons, List.cons_append,
            List.cons.injEq] at split
          rw [(allocate_eq_ok allocated).2.2, taken, ← left, PhysicalFrame.ext split.1]
          rfl

/-- A release returns `Ok` exactly when it leaves no frame. -/
theorem tryRelease_ok_iff {owner : PageTableFrameOwner (β × List FrameEvent) capacity}
    (settled : owner.Settled) :
    (owner.tryRelease ops.logged).1 = .ok () ↔ (owner.tryRelease ops.logged).2.frameCount = 0 := by
  have step := (owner.tryRelease_step ops settled).1
  have counted : (owner.tryRelease ops.logged).2.frameCount =
      (owner.tryRelease ops.logged).2.addresses.length := (List.length_map _).symm
  rw [counted, List.length_eq_zero_iff]
  cases result : (owner.tryRelease ops.logged).1 with
  | ok done => exact iff_of_true rfl (step.finished result)
  | error reason =>
      obtain ⟨_, earlier, address, left, _⟩ := step.refused reason result
      exact iff_of_false (by simp) (by simp [left])

theorem tryRelease_empty {owner : PageTableFrameOwner β capacity} (empty : owner.frameCount = 0) :
    (owner.tryRelease ops).1 = .ok () := by
  have none : owner.frames = [] := List.length_eq_zero_iff.mp empty
  unfold tryRelease
  split
  · rw [none]
    rfl
  · rfl

/-- A frame is left after some releases exactly when there was one and none of
them has returned `Ok`. -/
theorem retry_frameCount {owner : PageTableFrameOwner (β × List FrameEvent) capacity}
    (settled : owner.Settled) (retries : Nat) :
    (owner.retry ops.logged retries).frameCount ≠ 0 ↔ owner.frameCount ≠ 0 ∧
      ∀ earlier < retries,
        ((owner.retry ops.logged earlier).tryRelease ops.logged).1 ≠ .ok () := by
  induction retries generalizing owner with
  | zero => simp [retry]
  | succ retries ih =>
      have next := (owner.tryRelease_step ops settled).2
      have first : (owner.tryRelease ops.logged).2.frameCount ≠ 0 ↔
          (owner.tryRelease ops.logged).1 ≠ .ok () := not_congr (tryRelease_ok_iff settled).symm
      rw [retry, ih next, first]
      constructor
      · rintro ⟨refused, later⟩
        refine ⟨fun empty => refused (tryRelease_empty empty), ?_⟩
        intro earlier below
        cases earlier with
        | zero => exact refused
        | succ earlier => exact later earlier (Nat.lt_of_succ_lt_succ below)
      · rintro ⟨_, all⟩
        refine ⟨all 0 (Nat.succ_pos _), ?_⟩
        intro earlier below
        exact all (earlier + 1) (Nat.succ_lt_succ below)

/-- The transferred record is sound exactly while a frame is left, that is, as
long as no release has returned `Ok`.  The listed frames are unfreed in any
case. -/
theorem transfer_intact_iff (allocated : allocate ops.logged plan (start, []) = .ok owner)
    (retries : Nat) :
    (∀ frame ∈ ((owner.retry ops.logged retries).transfer ops.logged).1.frames,
      ⟨frame.address, true⟩ ∉
        frees ((owner.retry ops.logged retries).transfer ops.logged).2.2) ∧
    (((owner.retry ops.logged retries).transfer ops.logged).1.Intact
        ((owner.retry ops.logged retries).transfer ops.logged).2.2 ↔
      (owner.retry ops.logged retries).frameCount ≠ 0) ∧
    ((owner.retry ops.logged retries).frameCount ≠ 0 ↔ plan.tableCount ≠ 0 ∧
      ∀ earlier < retries,
        ((owner.retry ops.logged earlier).tryRelease ops.logged).1 ≠ .ok ()) := by
  have tracked := allocate_retry_tracked allocated retries
  have unfreed : ∀ frame ∈ (owner.retry ops.logged retries).frames, ⟨frame.address, true⟩ ∉
      frees (owner.retry ops.logged retries).backend.2 := by
    intro frame member freed
    have held := List.mem_map_of_mem (f := PhysicalFrame.address) member
    exact (tracked.freed_iff (tracked.isPrefix.subset held)).mp freed held
  refine ⟨unfreed, ⟨?_, ?_⟩, ?_⟩
  · intro intact
    obtain ⟨first, listed, _⟩ := intact.root
    exact Nat.ne_of_gt (List.length_pos_of_mem (List.mem_of_getElem? listed))
  · intro left
    cases kept : (owner.retry ops.logged retries).frames with
    | nil => exact absurd (congrArg List.length kept) left
    | cons first rest =>
        have listed : (owner.retry ops.logged retries).frames[0]? = some first := by rw [kept]; rfl
        have root : (owner.retry ops.logged retries).root = some first :=
          (retry_root ops.logged retries owner).trans (retry_head allocated listed)
        refine ⟨?_, first, listed, root⟩
        intro frame named
        cases named with
        | inl member => exact unfreed frame member
        | inr isRoot =>
            obtain rfl : first = frame := Option.some.inj (root.symm.trans isRoot)
            exact unfreed first (List.mem_of_getElem? listed)
  · rw [← (allocate_eq_ok allocated).1]
    exact retry_frameCount (allocate_settled allocated) retries

end PageTableFrameOwner

/-- Frames in a row, of which the second is never taken back. -/
def lossyFrames : FrameBackend Nat Unit where
  allocateFrame count := (.ok (0x30_0000 + count * 4096), count + 1)
  zeroFrame count _ := (.ok (), count)
  freeFrame count address := (if address = 0x30_1000 then .error () else .ok (), count)

/-- Two of four frames are given back before the refusal. -/
theorem PageTableFrameOwner.transfer_intact_iff_lossy :
    ∃ (plan : ConstructionPlan 4 4 0) (owner : PageTableFrameOwner (Nat × List FrameEvent) 4),
      ConstructionPlan.build ((MappingPlan.new 1).run [ConstructionPlan.textPage]) .final =
        .ok plan ∧
      allocate lossyFrames.logged plan (0, []) = .ok owner ∧ owner.frameCount = 4 ∧
      (owner.tryRelease lossyFrames.logged).1 = .error ⟨(), 2⟩ ∧
      ((owner.retry lossyFrames.logged 2).transfer lossyFrames.logged).1.Intact
        ((owner.retry lossyFrames.logged 2).transfer lossyFrames.logged).2.2 := by
  obtain ⟨plan, owner, built, allocated, frames, refused, left⟩ : ∃ (plan : ConstructionPlan 4 4 0)
      (owner : PageTableFrameOwner (Nat × List FrameEvent) 4),
      ConstructionPlan.build ((MappingPlan.new 1).run [ConstructionPlan.textPage]) .final =
        .ok plan ∧
      allocate lossyFrames.logged plan (0, []) = .ok owner ∧ owner.frameCount = 4 ∧
      (owner.tryRelease lossyFrames.logged).1 = .error ⟨(), 2⟩ ∧
      (owner.retry lossyFrames.logged 2).frameCount = 2 :=
    ⟨_, _, rfl, rfl, rfl, rfl, rfl⟩
  refine ⟨plan, owner, built, allocated, frames, refused, ?_⟩
  exact (transfer_intact_iff allocated 2).2.1.mpr (by rw [left]; decide)

/-- A backend with one frame that takes it back. -/
def oneFrame : FrameBackend Unit Empty where
  allocateFrame state := (.ok 0x30_0000, state)
  zeroFrame state _ := (.ok (), state)
  freeFrame state _ := (.ok (), state)

/-- One complete release, and the transferred root is a frame the backend has
taken back, while `frames` is empty. -/
theorem PageTableFrameOwner.transfer_freed_root :
    ∃ (plan : ConstructionPlan 1 0 0) (owner : PageTableFrameOwner (Unit × List FrameEvent) 1)
      (root : PhysicalFrame),
      ConstructionPlan.build (MappingPlan.new 0) .final = .ok plan ∧
      allocate oneFrame.logged plan ((), []) = .ok owner ∧
      (owner.tryRelease oneFrame.logged).1 = .ok () ∧
      ((owner.retry oneFrame.logged 1).transfer oneFrame.logged).1.root = some root ∧
      ((owner.retry oneFrame.logged 1).transfer oneFrame.logged).1.frames = [] ∧
      ⟨root.address, true⟩ ∈
        frees ((owner.retry oneFrame.logged 1).transfer oneFrame.logged).2.2 :=
  ⟨_, _, ⟨0x30_0000, by decide, by decide, by decide⟩, rfl, rfl, rfl, rfl, rfl, by decide⟩

end UnnamedOS.PageTable
