import UnnamedOS.Data.Release
import UnnamedOS.PageTable.Plan

namespace UnnamedOS.PageTable

open UnnamedOS.Data UnnamedOS.Layout

/-! # Ownership of page-table frames

`PageTableFrameOwner::allocate` takes one frame per planned table from a
backend and gives everything back when it cannot take them all.  The backend
is any state with three fallible operations. -/

structure FrameBackend (β ε : Type) where
  allocateFrame : β → Except ε Nat × β
  zeroFrame : β → PhysicalFrame → Except ε Unit × β
  freeFrame : β → Nat → Except ε Unit × β

inductive FrameOwnerCause (ε : Type) where
  | allocation (slot : Nat) (source : ε)
  | zeroing (slot : Nat) (source : ε)
  | invalidFrame (slot : Nat) (source : PageTablePlanError)
  | duplicateFrame (slot earlierSlot : Nat)
  | plannedFrameCountExceedsCapacity
deriving DecidableEq, Repr

structure FrameOwnerError (ε : Type) where
  source : ε
  remainingFrames : Nat
deriving DecidableEq, Repr

/-- `frames` is the live prefix of the source's address array. -/
structure IncompleteFrameOwner (β : Type) (capacity : Nat) where
  backend : β
  frames : List Nat

structure FrameOwnerBuildError (β ε : Type) (capacity : Nat) where
  cause : FrameOwnerCause ε
  owner : IncompleteFrameOwner β capacity

/-- How `allocate` ends without an owner. -/
inductive Interrupted (β ε : Type) (capacity : Nat) where
  | failed (error : FrameOwnerBuildError β ε capacity)
  | panicked

/-- `root` is `none` where the source has `PhysicalFrame::EMPTY`, which only a
plan without tables would leave. -/
structure PageTableFrameOwner (β : Type) (capacity : Nat) where
  backend : β
  frames : List PhysicalFrame
  root : Option PhysicalFrame
  owned : Bool

structure TransferredPageTableFrames (capacity : Nat) where
  frames : List PhysicalFrame
  root : Option PhysicalFrame

/-- `FrameAssignments`: the frame of each slot. -/
structure FrameAssignments (capacity : Nat) where
  frames : List PhysicalFrame

variable {β ε : Type} {capacity tableCapacity entryCapacity removalCapacity : Nat}

def FrameAssignments.frame (assignments : FrameAssignments capacity) (slot : Nat) :
    Except PageTablePlanError PhysicalFrame :=
  okOr assignments.frames[slot]? .missingFrameAssignment

/-- The raw entry: the target's address with the flags below it. -/
def PlannedEntry.encodedValue (entry : PlannedEntry) (assignments : FrameAssignments capacity) :
    Except PageTablePlanError Nat := do
  let address ← match entry.target with
    | .physicalFrame frame => .ok frame.address
    | .tableSlot slot => do
        let frame ← assignments.frame slot
        .ok frame.address
  .ok (address ||| entry.flags.bits)

theorem PlannedEntry.encodedValue_eq_ok {entry : PlannedEntry}
    {assignments : FrameAssignments capacity} {value : Nat}
    (encoded : entry.encodedValue assignments = .ok value) :
    ∃ frame : PhysicalFrame, value = frame.address ||| entry.flags.bits := by
  cases target : entry.target with
  | physicalFrame frame =>
      simp only [encodedValue, target, ok_bind, Except.ok.injEq] at encoded
      exact ⟨frame, encoded.symm⟩
  | tableSlot slot =>
      cases found : assignments.frame slot with
      | error reason => simp [encodedValue, target, found] at encoded
      | ok frame =>
          simp only [encodedValue, target, found, ok_bind, Except.ok.injEq] at encoded
          exact ⟨frame, encoded.symm⟩

def TransitionRemoval.expectedValue (removal : TransitionRemoval)
    (assignments : FrameAssignments capacity) : Except PageTablePlanError Nat := do
  let frame ← assignments.frame removal.expectedTarget
  .ok (frame.address ||| removal.expectedFlags.bits)

namespace IncompleteFrameOwner

/-- `push`, or nothing when the array index would be out of range. -/
def push (owner : IncompleteFrameOwner β capacity) (address : Nat) :
    Option (IncompleteFrameOwner β capacity) :=
  if owner.frames.length < capacity then
    some { owner with frames := owner.frames ++ [address] }
  else none

def tryRelease (ops : FrameBackend β ε) (owner : IncompleteFrameOwner β capacity) :
    Except (FrameOwnerError ε) Unit × IncompleteFrameOwner β capacity :=
  match releaseAll ops.freeFrame owner.backend owner.frames.reverse with
  | (result, backend, remaining) =>
      (result.mapError fun source => ⟨source, remaining.length⟩, ⟨backend, remaining.reverse⟩)

def drop (ops : FrameBackend β ε) (owner : IncompleteFrameOwner β capacity) : β :=
  dropAll ops.freeFrame owner.backend owner.frames.reverse

/-- A failure exit of `allocate`: release what can be released and keep the rest. -/
def rollBack (ops : FrameBackend β ε) (owner : IncompleteFrameOwner β capacity)
    (cause : FrameOwnerCause ε) : Interrupted β ε capacity :=
  .failed ⟨cause, (owner.tryRelease ops).2⟩

/-- One iteration of the acquisition loop. -/
def acquire (ops : FrameBackend β ε) (owner : IncompleteFrameOwner β capacity) (slot : Nat) :
    Except (Interrupted β ε capacity) (IncompleteFrameOwner β capacity) :=
  match ops.allocateFrame owner.backend with
  | (.error source, backend) =>
      .error (rollBack ops { owner with backend } (.allocation slot source))
  | (.ok address, backend) =>
      let owner : IncompleteFrameOwner β capacity := { owner with backend }
      match owner.frames.findIdx? (· = address) with
      | some earlier => .error (owner.rollBack ops (.duplicateFrame slot earlier))
      | none =>
          match PhysicalFrame.new address with
          | .error source => do
              let owner ← okOr (owner.push address) .panicked
              .error (owner.rollBack ops (.invalidFrame slot source))
          | .ok frame => do
              let owner ← okOr (owner.push address) .panicked
              match ops.zeroFrame owner.backend frame with
              | (.error source, backend) =>
                  .error (rollBack ops { owner with backend } (.zeroing slot source))
              | (.ok _, backend) => .ok { owner with backend }

end IncompleteFrameOwner

namespace PageTableFrameOwner

def allocate (ops : FrameBackend β ε)
    (plan : ConstructionPlan tableCapacity entryCapacity removalCapacity) (backend : β) :
    Except (Interrupted β ε capacity) (PageTableFrameOwner β capacity) :=
  if plan.tableCount > capacity then
    .error (.failed ⟨.plannedFrameCountExceedsCapacity, ⟨backend, []⟩⟩)
  else do
    let incomplete ← (List.range plan.tableCount).foldlM
      (IncompleteFrameOwner.acquire ops) ⟨backend, []⟩
    let frames ← (incomplete.frames.mapM PhysicalFrame.new).mapError fun _ => .panicked
    .ok { backend := incomplete.backend, frames, root := frames.head?, owned := true }

def frameCount (owner : PageTableFrameOwner β capacity) : Nat := owner.frames.length

def assignments (owner : PageTableFrameOwner β capacity) : FrameAssignments capacity :=
  ⟨owner.frames⟩

/-- The frame operation of the owner's loops. -/
def freeOwned (ops : FrameBackend β ε) (backend : β) (frame : PhysicalFrame) :
    Except ε Unit × β :=
  ops.freeFrame backend frame.address

def tryRelease (ops : FrameBackend β ε) (owner : PageTableFrameOwner β capacity) :
    Except (FrameOwnerError ε) Unit × PageTableFrameOwner β capacity :=
  if owner.owned then
    match releaseAll (freeOwned ops) owner.backend owner.frames.reverse with
    | (result, backend, remaining) =>
        -- The flag falls only past the loop, which an error leaves early.
        (result.mapError fun source => ⟨source, remaining.length⟩,
          { owner with
            backend
            frames := remaining.reverse
            owned := !(result.isOk && remaining.isEmpty) })
  else (.ok (), owner)

def drop (ops : FrameBackend β ε) (owner : PageTableFrameOwner β capacity) : β :=
  if owner.owned then dropAll (freeOwned ops) owner.backend owner.frames.reverse
  else owner.backend

/-- `transfer`: the moved-out owner is dropped with its flag cleared. -/
def transfer (ops : FrameBackend β ε) (owner : PageTableFrameOwner β capacity) :
    TransferredPageTableFrames capacity × β :=
  let moved : PageTableFrameOwner β capacity := { owner with owned := false }
  (⟨moved.frames, moved.root⟩, moved.drop ops)

end PageTableFrameOwner

/-- A release does not touch the root field, not even when it frees the root. -/
theorem PageTableFrameOwner.tryRelease_root (ops : FrameBackend β ε)
    (owner : PageTableFrameOwner β capacity) : (owner.tryRelease ops).2.root = owner.root := by
  unfold tryRelease
  split <;> rfl

theorem mapM_new_eq_ok {addresses : List Nat} {frames : List PhysicalFrame} :
    addresses.mapM PhysicalFrame.new = .ok frames ↔
      frames.map PhysicalFrame.address = addresses := by
  induction addresses generalizing frames with
  | nil => cases frames <;> simp [pure, Except.pure]
  | cons address addresses ih =>
      simp only [List.mapM_cons, bind_eq_ok, PhysicalFrame.new_eq_ok, ih, pure, Except.pure,
        Except.ok.injEq]
      cases frames with
      | nil => simp
      | cons frame frames =>
          simp only [List.map_cons, List.cons.injEq]
          constructor
          · rintro ⟨first, rfl, rest, same, rfl, rfl⟩
            exact ⟨rfl, same⟩
          · rintro ⟨rfl, same⟩
            exact ⟨frame, rfl, frames, same, rfl, rfl⟩

theorem IncompleteFrameOwner.acquire_eq_ok {ops : FrameBackend β ε}
    {owner next : IncompleteFrameOwner β capacity} {slot : Nat}
    (acquired : owner.acquire ops slot = .ok next) :
    ∃ address, next.frames = owner.frames ++ [address] ∧ address ∉ owner.frames := by
  unfold acquire at acquired
  cases allocated : ops.allocateFrame owner.backend with
  | mk result backend =>
      cases result with
      | error source => simp [allocated] at acquired
      | ok address =>
          simp only [allocated] at acquired
          cases found : owner.frames.findIdx? (· = address) with
          | some earlier => simp [found] at acquired
          | none =>
              simp only [found] at acquired
              cases built : PhysicalFrame.new address with
              | error source =>
                  simp only [built, bind_eq_ok, reduceCtorEq, and_false, exists_false] at acquired
              | ok frame =>
                  simp only [built, bind_eq_ok, okOr_eq_ok, push, Option.ite_none_right_eq_some,
                    Option.some.injEq] at acquired
                  obtain ⟨pushed, ⟨_, rfl⟩, acquired⟩ := acquired
                  split at acquired
                  · contradiction
                  · cases acquired
                    refine ⟨address, rfl, ?_⟩
                    intro member
                    simpa using List.findIdx?_eq_none_iff.mp found address member

/-- An owner has one frame per planned table, no two the same. -/
theorem PageTableFrameOwner.allocate_eq_ok {ops : FrameBackend β ε} {backend : β}
    {plan : ConstructionPlan tableCapacity entryCapacity removalCapacity}
    {owner : PageTableFrameOwner β capacity} (allocated : allocate ops plan backend = .ok owner) :
    owner.frames.length = plan.tableCount ∧ owner.frames.Nodup ∧
      owner.root = owner.frames.head? := by
  simp only [allocate, guard_eq_ok, bind_eq_ok, mapError_eq_ok, mapM_new_eq_ok,
    Except.ok.injEq] at allocated
  obtain ⟨_, incomplete, ran, frames, addresses, rfl⟩ := allocated
  have acquired := foldlM_range_invariant
    (fun taken (owner : IncompleteFrameOwner β capacity) =>
      owner.frames.length = taken ∧ owner.frames.Nodup) (by simp) ?_ ran
  · obtain ⟨count, distinct⟩ := acquired
    rw [← addresses] at count distinct
    exact ⟨by simpa using count, List.Nodup.of_map _ distinct, rfl⟩
  · intro taken current next _ acquired stepped
    obtain ⟨address, extended, fresh⟩ := IncompleteFrameOwner.acquire_eq_ok stepped
    rw [extended, ← List.concat_eq_append]
    exact ⟨by simp [acquired.1], acquired.2.concat fresh⟩

end UnnamedOS.PageTable
