import UnnamedOS.Data.Slots
import UnnamedOS.Loader.LoadPlan

namespace UnnamedOS.Loader

open UnnamedOS.Data

/-! # Who owns the kernel's pages

`prepare_targets` allocates the plan's page ranges one by one and fills them.
The owner remembers with a flag per segment what it has to give back. -/

/-- A page allocator, with whatever state and errors it has. -/
structure PageBackend (β ε : Type) where
  allocateAt : β → Nat → Nat → Except ε Unit × β
  free : β → Nat → Nat → Except ε Unit × β

structure SegmentBackend (β ε : Type) extends PageBackend β ε where
  zero : β → LoadItem → Except ε Unit × β
  copy : β → LoadItem → List UInt8 → Except ε Unit × β
  verify : β → LoadItem → List UInt8 → Except ε Unit × β

structure OwnedAllocation where
  pageStart : Nat
  pageCount : Nat
deriving DecidableEq, Repr

def LoadItem.allocation (item : LoadItem) : OwnedAllocation := ⟨item.pageStart, item.pageCount⟩

/-- The arrays `items` and `owned`, up to `len`. -/
structure TargetOwnership (β : Type) where
  backend : β
  slots : List (OwnedAllocation × Bool)

structure ReleaseError (ε : Type) where
  segmentIndex : Nat
  remainingSegments : Nat
  source : ε
deriving DecidableEq, Repr

variable {β ε : Type}

/-- `free` on an allocation as one value. -/
def PageBackend.freeAllocation (ops : PageBackend β ε) (state : β)
    (allocation : OwnedAllocation) : Except ε Unit × β :=
  ops.free state allocation.pageStart allocation.pageCount

namespace TargetOwnership

def new (plan : LoadPlan) (backend : β) : TargetOwnership β where
  backend := backend
  slots := plan.items.map fun item => (item.allocation, false)

def remainingSegments (owner : TargetOwnership β) : Nat :=
  (owner.slots.filter Prod.snd).length

def tryRelease (ops : PageBackend β ε) (owner : TargetOwnership β) :
    Except (ReleaseError ε) Unit × TargetOwnership β :=
  match releaseSlots ops.freeAllocation 0 owner.backend owner.slots with
  | (.ok _, backend, slots) => (.ok (), ⟨backend, slots⟩)
  | (.error (segmentIndex, source), backend, slots) =>
      let owner : TargetOwnership β := ⟨backend, slots⟩
      (.error ⟨segmentIndex, owner.remainingSegments, source⟩, owner)

/-- `Drop`: the state it leaves the backend in. -/
def drop (ops : PageBackend β ε) (owner : TargetOwnership β) : β :=
  dropSlots ops.freeAllocation owner.backend owner.slots

theorem tryRelease_snd (ops : PageBackend β ε) (owner : TargetOwnership β) :
    (owner.tryRelease ops).2 =
      ⟨(releaseSlots ops.freeAllocation 0 owner.backend owner.slots).2.1,
        (releaseSlots ops.freeAllocation 0 owner.backend owner.slots).2.2⟩ := by
  cases ran : releaseSlots ops.freeAllocation 0 owner.backend owner.slots with
  | mk result rest =>
      cases result with
      | ok done => simp only [tryRelease, ran]
      | error refusal => simp only [tryRelease, ran]

end TargetOwnership

/-! ## Preparing the targets -/

inductive LoadWorkKind where
  | allocate
  | zero
  | copy
  | verify
deriving DecidableEq, Repr

structure LoadWorkFailure (β ε : Type) where
  kind : LoadWorkKind
  error : ε
  owner : TargetOwnership β

def LoadWorkFailure.tryRelease (ops : PageBackend β ε) (failure : LoadWorkFailure β ε) :
    Except (ReleaseError ε) Unit × LoadWorkFailure β ε :=
  ((failure.owner.tryRelease ops).1, { failure with owner := (failure.owner.tryRelease ops).2 })

/-- The allocation loop, with the slots already done and the items to do. -/
def allocateTargets (ops : PageBackend β ε) (backend : β)
    (done : List (OwnedAllocation × Bool)) :
    List OwnedAllocation → Except (LoadWorkFailure β ε) (TargetOwnership β)
  | [] => .ok ⟨backend, done⟩
  | item :: rest =>
      match ops.allocateAt backend item.pageStart item.pageCount with
      | (.error error, backend) =>
          .error ⟨.allocate, error, ⟨backend, done ++ (item :: rest).map (·, false)⟩⟩
      | (.ok _, backend) => allocateTargets ops backend (done ++ [(item, true)]) rest

/-- The loops that zero, copy and verify: they differ in the backend's
operation only. -/
def workTargets (kind : LoadWorkKind) (work : β → LoadItem → Except ε Unit × β)
    (owner : TargetOwnership β) :
    List LoadItem → Except (LoadWorkFailure β ε) (TargetOwnership β)
  | [] => .ok owner
  | item :: rest =>
      match work owner.backend item with
      | (.error error, backend) => .error ⟨kind, error, { owner with backend }⟩
      | (.ok _, backend) => workTargets kind work { owner with backend } rest

/-- The value that the caller turns into a `LoadedKernel`, once. -/
structure VerifiedTargets (β : Type) where
  owner : Option (TargetOwnership β)

/-- `prepare_targets`, without the callback that reports the stages. -/
def prepareTargets (ops : SegmentBackend β ε) (plan : LoadPlan) (source : List UInt8)
    (backend : β) : Except (LoadWorkFailure β ε) (VerifiedTargets β) := do
  let owner := TargetOwnership.new plan backend
  let owner ← allocateTargets ops.toPageBackend owner.backend [] (owner.slots.map Prod.fst)
  let owner ← workTargets .zero ops.zero owner plan.items
  let owner ← workTargets .copy (fun state item => ops.copy state item source) owner plan.items
  let owner ← workTargets .verify (fun state item => ops.verify state item source) owner
    plan.items
  .ok ⟨some owner⟩

/-! ## The loaded kernel -/

structure LoadRange where
  start : Nat
  stop : Nat
deriving DecidableEq, Repr

structure SegmentMetadata where
  memoryStart : Nat
  memoryEnd : Nat
  allocationStart : Nat
  allocationEnd : Nat
  pageCount : Nat
  flags : Nat
  fileSize : Nat
  memorySize : Nat
deriving DecidableEq, Repr

def LoadItem.metadata (item : LoadItem) : SegmentMetadata where
  memoryStart := item.targetStart
  memoryEnd := item.targetEnd
  allocationStart := item.pageStart
  allocationEnd := item.pageStart + item.pageLength
  pageCount := item.pageCount
  flags := item.flags
  fileSize := item.fileSize
  memorySize := item.memorySize

/-- The page range a segment's record names. -/
def SegmentMetadata.allocation (segment : SegmentMetadata) : OwnedAllocation :=
  ⟨segment.allocationStart, segment.pageCount⟩

structure LoadedKernel (β : Type) where
  entryPoint : Nat
  loadRange : LoadRange
  segments : List SegmentMetadata
  totalPages : Nat
  entrySegmentIndex : Nat
  owner : TargetOwnership β

namespace LoadedKernel

/-- The index of the last segment that holds the entry point. -/
def entryIndex (entry : Nat) (items : List LoadItem) : Nat :=
  items.zipIdx.foldl (fun found (item, index) =>
    if item.isExecutable = true ∧ entry ≥ item.targetStart ∧ entry < item.targetEnd then index
    else found) 0

def fromVerified (plan : LoadPlan) (owner : TargetOwnership β) : LoadedKernel β where
  entryPoint := plan.entry
  loadRange := {
    start := plan.items.foldl (fun start item => min start item.pageStart) (wordLimit - 1)
    stop := plan.items.foldl (fun stop item => max stop (item.pageStart + item.pageLength)) 0 }
  segments := plan.items.map LoadItem.metadata
  totalPages := (plan.items.map LoadItem.pageCount).sum
  entrySegmentIndex := entryIndex plan.entry plan.items
  owner := owner

def segmentCount (kernel : LoadedKernel β) : Nat := kernel.segments.length

def isReleased (kernel : LoadedKernel β) : Bool := kernel.owner.remainingSegments == 0

def tryRelease (ops : PageBackend β ε) (kernel : LoadedKernel β) :
    Except (ReleaseError ε) Unit × LoadedKernel β :=
  ((kernel.owner.tryRelease ops).1, { kernel with owner := (kernel.owner.tryRelease ops).2 })

end LoadedKernel

def VerifiedTargets.intoLoadedKernel (targets : VerifiedTargets β) (plan : LoadPlan) :
    Option (LoadedKernel β) × VerifiedTargets β :=
  (targets.owner.map (LoadedKernel.fromVerified plan), ⟨none⟩)

end UnnamedOS.Loader
