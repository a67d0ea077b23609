import UnnamedOS.Loader.PreparedBootInfo
import UnnamedOS.Loader.SegmentCustody

namespace UnnamedOS.Loader

open UnnamedOS.Data UnnamedOS.BootProtocol SegmentEvent

/-! # The gate before boot services end

The kernel's owner and the boot data's owner are moved into one state, from
which the record for the time after boot services is copied. -/

inductive ExitPreparationError where
  | kernelReleased
  | bootInformationReleased
  | emptyMemoryMap
  | invalidBootInformation
deriving DecidableEq, Repr

structure KernelOwned (κ : Type) where
  kernel : LoadedKernel κ

/-- Both owners.  The source's options are only emptied by the value's last
use, so they are not modelled. -/
structure ExitReady (κ β : Type) where
  kernel : LoadedKernel κ
  bootInfo : PreparedBootInfo β

/-- What `cross_exit_boundary` passes on, without a stack and page tables. -/
structure TransferredBootState where
  kernelEntry : Nat
  kernelRange : LoadRange
  segments : List SegmentMetadata
  allocations : BootDataAllocations
  framebuffer : FramebufferInfo
  bootInfoAddress : Nat
deriving DecidableEq, Repr

variable {κ β ε δ : Type}

/-- `BootServicesState::with_kernel`. -/
def withKernel (kernel : LoadedKernel κ) : Except ExitPreparationError (KernelOwned κ) :=
  if kernel.isReleased = true ∨ kernel.segmentCount = 0 then .error .kernelReleased
  else .ok ⟨kernel⟩

def KernelOwned.withBootInformation (owned : KernelOwned κ) (bootInfo : PreparedBootInfo β) :
    Except ExitPreparationError (ExitReady κ β) :=
  if bootInfo.isReleased = true then .error .bootInformationReleased
  else if bootInfo.descriptorCount = 0 then .error .emptyMemoryMap
  else if bootInfo.wireSize ≠ bootInfoSize ∨ bootInfo.descriptorStride ≠ memoryDescriptorSize then
    .error .invalidBootInformation
  else .ok ⟨owned.kernel, bootInfo⟩

def ExitReady.crossExitBoundary (ready : ExitReady κ β) : TransferredBootState where
  kernelEntry := ready.kernel.entryPoint
  kernelRange := ready.kernel.loadRange
  segments := ready.kernel.segments
  allocations := ready.bootInfo.allocations
  framebuffer := ready.bootInfo.framebuffer
  bootInfoAddress := ready.bootInfo.bootInfoAddress

/-! ## Runs up to the gate -/

inductive ReleaseCall where
  | kernel
  | bootInfo
deriving DecidableEq, Repr

structure Owners (κ β : Type) where
  kernel : LoadedKernel κ
  bootInfo : PreparedBootInfo β

namespace Owners

variable (kernelOps : PageBackend κ ε) (bootOps : PageBackend β δ)

def release (owners : Owners κ β) : ReleaseCall → Owners κ β
  | .kernel => { owners with kernel := (owners.kernel.tryRelease kernelOps).2 }
  | .bootInfo => { owners with bootInfo := (owners.bootInfo.tryRelease bootOps).2 }

/-- What the backend would answer if the call went through to the end. -/
def answersTo (owners : Owners κ β) : ReleaseCall → List Bool
  | .kernel => answers kernelOps.freeAllocation owners.kernel.owner.backend
      (heldResources owners.kernel.owner.slots).reverse
  | .bootInfo => answers bootOps.freeAllocation owners.bootInfo.backend
      (heldResources owners.bootInfo.slots).reverse

def run (owners : Owners κ β) (calls : List ReleaseCall) : Owners κ β :=
  calls.foldl (release kernelOps bootOps) owners

/-- No release of the run is refused halfway. -/
def Clean : Owners κ β → List ReleaseCall → Prop
  | _, [] => True
  | owners, call :: rest =>
      AllOrNothing (owners.answersTo kernelOps bootOps call) ∧
        Clean (owners.release kernelOps bootOps call) rest

instance decidableClean : ∀ (owners : Owners κ β) (calls : List ReleaseCall),
    Decidable (owners.Clean kernelOps bootOps calls)
  | _, [] => .isTrue trivial
  | owners, call :: rest =>
      have := decidableClean (owners.release kernelOps bootOps call) rest
      inferInstanceAs (Decidable (_ ∧ _))

def exitReady (owners : Owners κ β) : Except ExitPreparationError (ExitReady κ β) := do
  let owned ← withKernel owners.kernel
  owned.withBootInformation owners.bootInfo

end Owners

/-- Everything a run depends on.  The plan that `into_loaded_kernel` is given
need not be the prepared one. -/
structure ExitRun (κ β ε δ : Type) where
  kernelOps : SegmentBackend κ ε
  bootOps : PageBackend β δ
  plan : LoadPlan
  source : List UInt8
  kernelStart : κ
  named : LoadPlan
  bootStart : β
  allocations : BootDataAllocations
  bootInfo : BootInfo
  descriptors : List MemoryDescriptor
  provisionalMap : ProvisionalMapMetadata
  calls : List ReleaseCall

namespace ExitRun

/-- The two owners before any release, over backends that record their calls. -/
def owners (run : ExitRun κ β ε δ) :
    Option (Owners (κ × List SegmentEvent) (β × List SegmentEvent)) := do
  let targets ← (prepareTargets run.kernelOps.logged run.plan run.source
    (run.kernelStart, [])).toOption
  let kernel ← (targets.intoLoadedKernel run.named).1
  let bootInfo ← (PreparedBootInfo.fromValidated (run.bootStart, ([] : List SegmentEvent))
    run.allocations run.bootInfo run.descriptors run.provisionalMap).toOption
  some ⟨kernel, bootInfo⟩

/-- The state behind the gate, when the run gets there. -/
def exit (run : ExitRun κ β ε δ) :
    Option (ExitReady (κ × List SegmentEvent) (β × List SegmentEvent)) := do
  let owners ← run.owners
  ((owners.run run.kernelOps.toPageBackend.logged run.bootOps.logged run.calls).exitReady).toOption

/-- The kernel record is made of the page ranges that were prepared. -/
def NamesPrepared (run : ExitRun κ β ε δ) : Prop :=
  ∀ item ∈ run.named.items, item.allocation ∈ run.plan.items.map LoadItem.allocation

def Clean (run : ExitRun κ β ε δ) : Prop :=
  ∀ owners, run.owners = some owners →
    owners.Clean run.kernelOps.toPageBackend.logged run.bootOps.logged run.calls

end ExitRun

/-- What crosses the boundary is memory the loader still has: every page range
the kernel's record names was allocated and not given back, and the owner of
the boot data has all four allocations. -/
structure ExitReady.Live (ready : ExitReady (κ × List SegmentEvent) (β × List SegmentEvent)) :
    Prop where
  allocated : ∀ segment ∈ ready.kernel.segments,
    segment.allocation ∈ ready.kernel.owner.log.filterMap taken
  unreturned : ∀ segment ∈ ready.kernel.segments,
    ⟨segment.allocation, true⟩ ∉ ready.kernel.owner.log.filterMap returned
  owned : ready.bootInfo.owned = [true, true, true, true]
  transferred : (∀ segment ∈ ready.crossExitBoundary.segments,
      ⟨segment.allocation, true⟩ ∉ ready.kernel.owner.log.filterMap returned) ∧
    ∀ allocation ∈ ready.crossExitBoundary.allocations.ordered,
      ⟨allocation.pages, true⟩ ∉ ready.bootInfo.backend.2.filterMap returned

/-! ## What clean releases keep -/

/-- The slots are empty, or those of `full` are still held and no release was
ever accepted. -/
def Intact (full : List (Nat × OwnedAllocation)) (slots : List (OwnedAllocation × Bool))
    (log : List SegmentEvent) : Prop :=
  heldSlots 0 slots = [] ∨
    heldSlots 0 slots = full ∧ ∀ attempt ∈ log.filterMap returned, attempt.accepted = false

theorem Intact.unreturned {full : List (Nat × OwnedAllocation)}
    {slots : List (OwnedAllocation × Bool)} {log : List SegmentEvent}
    (intact : Intact full slots log) (held : heldSlots 0 slots ≠ [])
    (allocation : OwnedAllocation) : ⟨allocation, true⟩ ∉ log.filterMap returned := by
  intro accepted
  have refused := (intact.resolve_left held).2 _ accepted
  contradiction

theorem Intact.release {full : List (Nat × OwnedAllocation)} (ops : PageBackend β ε)
    {state : β × List SegmentEvent} {slots : List (OwnedAllocation × Bool)}
    (intact : Intact full slots state.2)
    (clean : AllOrNothing
      (answers ops.logged.freeAllocation state (heldResources slots).reverse)) :
    Intact full (releaseSlots ops.logged.freeAllocation 0 state slots).2.2
      (releaseSlots ops.logged.freeAllocation 0 state slots).2.1.2 := by
  rcases intact with none | ⟨all, refused⟩
  · rw [releaseSlots_none none]
    exact .inl none
  · rcases releaseSlots_allOrNothing ops.logged_records state slots clean with
      emptied | ⟨resource, kept, log⟩
    · exact .inl emptied
    · refine .inr ⟨kept.trans all, ?_⟩
      intro attempt made
      rw [log, List.filterMap_append] at made
      rcases List.mem_append.mp made with earlier | last
      · exact refused attempt earlier
      · simp only [List.filterMap_cons, returned_freed, List.filterMap_nil,
          List.mem_singleton] at last
        rw [last]

/-- What every state of a clean run has kept of the preparation. -/
structure Owners.Kept (run : ExitRun κ β ε δ)
    (owners : Owners (κ × List SegmentEvent) (β × List SegmentEvent)) : Prop where
  taken : owners.kernel.owner.log.filterMap taken = run.plan.items.map LoadItem.allocation
  segments : owners.kernel.segments = run.named.items.map LoadItem.metadata
  kernel : ∃ full, Intact full owners.kernel.owner.slots owners.kernel.owner.log
  bootInfo : ∃ full, full.length = 4 ∧
    Intact full owners.bootInfo.slots owners.bootInfo.backend.2

namespace Owners.Kept

variable {run : ExitRun κ β ε δ}
  {owners : Owners (κ × List SegmentEvent) (β × List SegmentEvent)}

theorem of_owners (started : run.owners = some owners) : owners.Kept run := by
  simp only [ExitRun.owners, Option.bind_eq_bind, Option.bind_eq_some_iff, Option.some.injEq,
    toOption_eq_some] at started
  obtain ⟨targets, prepared, kernel, loaded, bootInfo, validated, rfl⟩ := started
  have ends := prepareTargets_ends run.kernelOps run.plan run.source run.kernelStart
  rw [prepared] at ends
  obtain ⟨owner, has, opened⟩ := ends
  simp only [VerifiedTargets.intoLoadedKernel, has, Option.map_some, Option.some.injEq] at loaded
  subst loaded
  obtain ⟨_, rfl⟩ := PreparedBootInfo.fromValidated_eq_ok.mp validated
  refine ⟨?_, rfl, ⟨_, .inr ⟨rfl, ?_⟩⟩, ⟨_, ?_, .inr ⟨rfl, ?_⟩⟩⟩
  · have whole := opened.taken
    rwa [List.take_length] at whole
  · intro attempt made
    change attempt ∈ owner.log.filterMap returned at made
    simp [opened.quiet] at made
  · simp [PreparedBootInfo.slots, BootDataAllocations.ordered, heldSlots]
  · intro attempt made
    simp at made

theorem release (kept : owners.Kept run) {call : ReleaseCall}
    (clean : AllOrNothing
      (owners.answersTo run.kernelOps.toPageBackend.logged run.bootOps.logged call)) :
    (owners.release run.kernelOps.toPageBackend.logged run.bootOps.logged call).Kept run := by
  cases call with
  | kernel =>
      obtain ⟨full, intact⟩ := kept.kernel
      refine ⟨?_, kept.segments, ⟨full, ?_⟩, kept.bootInfo⟩
      · exact (owners.kernel.owner.tryRelease_taken run.kernelOps.toPageBackend).trans kept.taken
      · have after := intact.release run.kernelOps.toPageBackend clean
        simp only [Owners.release, LoadedKernel.tryRelease, TargetOwnership.tryRelease_snd]
        exact after
  | bootInfo =>
      obtain ⟨full, four, intact⟩ := kept.bootInfo
      refine ⟨kept.taken, kept.segments, kept.kernel, full, four, ?_⟩
      have after := intact.release run.bootOps clean
      simp only [Owners.release, PreparedBootInfo.tryRelease_snd, PreparedBootInfo.released_slots]
      exact after

theorem run_of_clean (kept : owners.Kept run) {calls : List ReleaseCall}
    (clean : owners.Clean run.kernelOps.toPageBackend.logged run.bootOps.logged calls) :
    (owners.run run.kernelOps.toPageBackend.logged run.bootOps.logged calls).Kept run := by
  induction calls generalizing owners with
  | nil => exact kept
  | cons call rest ih => exact ih (kept.release clean.1) clean.2

/-- Behind the gate neither owner is empty. -/
theorem exitReady_live (kept : owners.Kept run) (named : run.NamesPrepared)
    {ready : ExitReady (κ × List SegmentEvent) (β × List SegmentEvent)}
    (reached : owners.exitReady = .ok ready) : ready.Live := by
  simp only [Owners.exitReady, withKernel, KernelOwned.withBootInformation, bind_eq_ok,
    guard_eq_ok, Except.ok.injEq] at reached
  obtain ⟨_, ⟨kernelHeld, rfl⟩, bootHeld, _, _, rfl⟩ := reached
  obtain ⟨full, kernel⟩ := kept.kernel
  obtain ⟨fullBoot, four, bootInfo⟩ := kept.bootInfo
  have someSegment : heldSlots 0 owners.kernel.owner.slots ≠ [] := by
    intro none
    apply kernelHeld
    simp [LoadedKernel.isReleased, TargetOwnership.remainingSegments, ← heldSlots_length 0, none]
  have someBootData : heldSlots 0 owners.bootInfo.slots ≠ [] :=
    fun none => bootHeld (owners.bootInfo.isReleased_iff.mpr none)
  exact {
    allocated := by
      intro segment member
      rw [kept.segments] at member
      obtain ⟨item, isNamed, rfl⟩ := List.mem_map.mp member
      rw [kept.taken]
      exact named item isNamed
    unreturned := fun segment _ => kernel.unreturned someSegment segment.allocation
    owned := by
      have all := (bootInfo.resolve_left someBootData).1
      exact PreparedBootInfo.owned_of_held (by rw [all, four])
    transferred := ⟨fun segment _ => kernel.unreturned someSegment segment.allocation,
      fun allocation _ => bootInfo.unreturned someBootData allocation.pages⟩ }

end Owners.Kept

/-- In every run in which no release is refused halfway, and in which the
kernel's record is made of prepared page ranges, only live memory crosses. -/
theorem exit_live (run : ExitRun κ β ε δ) (named : run.NamesPrepared) (clean : run.Clean)
    {ready : ExitReady (κ × List SegmentEvent) (β × List SegmentEvent)}
    (reached : run.exit = some ready) : ready.Live := by
  simp only [ExitRun.exit, Option.bind_eq_bind, Option.bind_eq_some_iff,
    toOption_eq_some] at reached
  obtain ⟨owners, started, gate⟩ := reached
  have kept := (Owners.Kept.of_owners started).run_of_clean (clean owners started)
  exact kept.exitReady_live named gate

/-! ## Two segments and a backend that stops releasing -/

/-- The item of a segment that fills one page. -/
def pageItem (start flags : Nat) : LoadItem where
  sourceOffset := 0
  fileSize := 4096
  memorySize := 4096
  targetStart := start
  targetEnd := start + 4096
  pageStart := start
  pageCount := 1
  flags := flags
  bssStart := start + 4096
  bssLength := 0
  zeroOffset := 0
  zeroLength := 4096
  copyOffset := 0
  paddingStart := start + 4096
  paddingLength := 0

def twoSegments : LoadPlan where
  items := [pageItem 0x20_0000 5, pageItem 0x20_1000 6]
  totalPageBytes := 8192
  entry := 0x20_0000
  bounded := by decide
  nonempty := by decide
  apart := by simp [PagesMeet, pageItem, LoadItem.pageLength]

/-- A backend that accepts as many releases as its state says. -/
def countedBackend : SegmentBackend Nat Unit where
  allocateAt left _ _ := (.ok (), left)
  free left _ _ :=
    match left with
    | 0 => (.error (), 0)
    | more + 1 => (.ok (), more)
  zero left _ := (.ok (), left)
  copy left _ _ := (.ok (), left)
  verify left _ _ := (.ok (), left)

/-- A run in which each backend accepts `budget` releases. -/
def sampleRun (budget : Nat) (calls : List ReleaseCall) : ExitRun Nat Nat Unit Unit where
  kernelOps := countedBackend
  bootOps := countedBackend.toPageBackend
  plan := twoSegments
  source := List.replicate 4096 0
  kernelStart := budget
  named := twoSegments
  bootStart := budget
  allocations := ⟨⟨0x1000, 1⟩, ⟨0x2000, 1⟩, ⟨0x3000, 1⟩, ⟨0x4000, 1⟩⟩
  bootInfo := .new ⟨0x3000, 1, 32, 1, 0, 32, 0⟩ ⟨0x8000_0000, 3072, 32, 24, 32, 1, 0⟩
  descriptors := [⟨memoryKindUsable, 0, 0x10_0000, 1, 0⟩]
  provisionalMap := ⟨48, 48, 1, 7, .provisional⟩
  calls := calls

/-- With all releases refused both owners stay whole, and the gate opens. -/
theorem exit_live_refused : ∃ ready, (sampleRun 0 [.kernel, .bootInfo]).exit = some ready ∧
    ready.Live := by
  have reached : (sampleRun 0 [.kernel, .bootInfo]).exit.isSome = true := by decide +kernel
  have clean : (sampleRun 0 [.kernel, .bootInfo]).owners.all (fun owners =>
      owners.Clean countedBackend.toPageBackend.logged countedBackend.toPageBackend.logged
        [.kernel, .bootInfo]) = true := by decide +kernel
  obtain ⟨ready, gate⟩ := Option.isSome_iff_exists.mp reached
  refine ⟨ready, gate, exit_live _ ?_ ?_ gate⟩
  · intro item member
    exact List.mem_map_of_mem member
  · intro owners started
    exact of_decide_eq_true ((Option.all_eq_true _ _).mp clean owners started)

/-- The gate opens for a kernel that has given back its upper segment: it only
asks whether everything is gone. -/
theorem exit_after_halfRelease :
    (LoadPlan.build 0x20_0000 [⟨0, 4096, 4096, 0x20_0000, 5⟩, ⟨0, 4096, 4096, 0x20_1000, 6⟩]
      ⟨0x1000_0000, 1, 4096⟩).map LoadPlan.items = .ok twoSegments.items ∧
    ∃ ready, (sampleRun 1 [.kernel]).exit = some ready ∧ ∃ segment ∈ ready.kernel.segments,
      ⟨segment.allocation, true⟩ ∈ ready.kernel.owner.log.filterMap returned := by
  refine ⟨by decide +kernel, ?_⟩
  have reached : (sampleRun 1 [.kernel]).exit.any (fun ready =>
      ∃ segment ∈ ready.kernel.segments,
        ⟨segment.allocation, true⟩ ∈ ready.kernel.owner.log.filterMap returned) = true := by
    decide +kernel
  obtain ⟨ready, gate, escaped⟩ := (Option.any_eq_true _ _).mp reached
  exact ⟨ready, gate, of_decide_eq_true escaped⟩

/-- The boot data's owner passes after losing its last allocation. -/
example : (sampleRun 1 [.bootInfo]).exit.any (fun ready =>
    ready.bootInfo.owned = [true, true, true, false]) = true := by
  decide +kernel

end UnnamedOS.Loader
