import UnnamedOS.Loader.BootData
import UnnamedOS.Loader.ExitProtocol

namespace UnnamedOS.Loader

open UnnamedOS.Data UnnamedOS.Layout UnnamedOS.PageTable

/-! # From the loaded kernel to the jump

`prepare_and_exit` takes the kernel's owner and adds the owners of a stack, of
page tables and of the boot data.  An error that is returned drops whatever
there is by then, the newest owner first. -/

/-- The features of the two injected failures, each of which includes
`kernel-handoff-test`. -/
structure TestFeatures where
  pageTableAllocationFailure : Bool
  cpuReadinessFailure : Bool
deriving DecidableEq, Repr

/-- The same owner, over another state of its backend. -/
def PageTableFrameOwner.rebase {β γ : Type} {capacity : Nat}
    (owner : PageTableFrameOwner β capacity) (backend : γ) : PageTableFrameOwner γ capacity :=
  ⟨backend, owner.frames, owner.root, owner.owned⟩

/-- Calls that only move an owner need no machine; where they refuse it, the
machine drops it. -/
def idleFrames : FrameBackend Nat UefiPageTableError where
  allocateFrame attempts := (.error .firmware, attempts)
  zeroFrame attempts _ := (.ok (), attempts)
  freeFrame attempts _ := (.ok (), attempts)

def idlePages : PageBackend Unit BufferError where
  allocateAt _ _ _ := (.error .allocate, ())
  free _ _ _ := (.ok (), ())

section

variable {φ ε : Type} (firmware : Firmware φ) (features : TestFeatures)

abbrev pageTableFrames : FrameBackend (Machine φ × Nat) UefiPageTableError :=
  uefiPageTableBackend firmware features.pageTableAllocationFailure

/-! ## Owners on the machine -/

def LoadedKernel.dropOn (kernel : LoadedKernel Unit) (machine : Machine φ) : Machine φ :=
  dropSlots (uefiTargetPages firmware).freeAllocation machine kernel.owner.slots

def BootstrapStack.dropOn (stack : BootstrapStack Unit) (machine : Machine φ) : Machine φ :=
  BootstrapStack.drop (uefiBootBackend firmware) { stack with backend := machine }

def dropTables (owner : PageTableFrameOwner Nat pageTableFrameCapacity) (machine : Machine φ) :
    Machine φ :=
  ((PageTableFrameOwner.rebase owner (machine, owner.backend)).drop
    (pageTableFrames firmware features)).1

/-- `try_release().is_ok() && is_released()`. -/
def LoadedKernel.releaseOn (kernel : LoadedKernel Unit) :
    Program (Machine φ) ε (Bool × LoadedKernel Unit) :=
  .call fun machine =>
    let (result, owner) :=
      TargetOwnership.tryRelease (uefiTargetPages firmware) ⟨machine, kernel.owner.slots⟩
    let kernel := { kernel with owner := ⟨(), owner.slots⟩ }
    ((result.isOk && kernel.isReleased, kernel), owner.backend)

def BootstrapStack.releaseOn (stack : BootstrapStack Unit) :
    Program (Machine φ) ε (Bool × BootstrapStack Unit) :=
  .call fun machine =>
    let (result, owner) :=
      BootstrapStack.tryRelease (uefiBootBackend firmware) { stack with backend := machine }
    ((result.isOk && owner.isReleased, { owner with backend := () }), owner.backend)

def releaseTables (owner : PageTableFrameOwner Nat pageTableFrameCapacity) :
    Program (Machine φ) ε (Bool × PageTableFrameOwner Nat pageTableFrameCapacity) :=
  .call fun machine =>
    let (result, released) :=
      (PageTableFrameOwner.rebase owner (machine, owner.backend)).tryRelease
        (pageTableFrames firmware features)
    ((result.isOk && released.frameCount == 0,
      PageTableFrameOwner.rebase released released.backend.2), released.backend.1)

/-! ## The stack -/

/-- `from_initialized` on the machine. -/
def ownStack (allocation : PageAllocation) (forbidden : List StackRange) :
    Program (Machine φ) BootStop (BootstrapStack Unit) := fun machine =>
  match BootstrapStack.fromInitialized (uefiBootBackend firmware) machine allocation forbidden with
  | .error (_, machine) => (.error (.returned .alloc), machine)
  | .ok stack => (.ok { stack with backend := () }, stack.backend)

def allocateBootstrapStack (loaded : LoadedKernel Unit) :
    Program (Machine φ) BootStop (BootstrapStack Unit) := do
  let reply ← ask firmware
    (.allocatePages (.maxAddress (bootstrapIdentityLimit - 1)) bootstrapStackPages)
  let pointer ← orReturn reply.toOption .alloc
  writeMemory fun memory => fill memory pointer.val bootstrapStackSize 0
  writeMemory fun memory => store memory pointer.val (leBytes 8 bootstrapStackCanary)
  -- The forbidden ranges are collected in an array of that many.
  if loaded.segments.length > maxLoadItems then panicked
  else
    ownStack firmware ⟨pointer.val, bootstrapStackPages⟩ (loaded.segments.map fun segment =>
      ⟨segment.allocationStart, segment.allocationEnd⟩)

/-! ## The page tables -/

/-- A failure comes with the owner of the frames it could not give back. -/
def allocateTables (planned : PlannedPageTables) :
    Program (Machine φ) (Stop PageTableLoadError) (AllocatedPageTables Nat) := fun machine =>
  match planned.allocate (pageTableFrames firmware features) (machine, 0) with
  | .ok tables =>
      (.ok ⟨tables.plan, PageTableFrameOwner.rebase tables.owner tables.owner.backend.2⟩,
        tables.owner.backend.1)
  | .error .panicked => panicked machine
  | .error (.failed error) =>
      let machine := error.owner.backend.1
      let machine :=
        if features.pageTableAllocationFailure = true ∧ error.owner.frames.length = 0 then
          machine.say ["UNOS:P1J:ROLLBACK_COMPLETE"]
        else machine
      let owner : IncompleteFrameOwner (Machine φ × Nat) pageTableFrameCapacity :=
        { error.owner with backend := (machine, error.owner.backend.2) }
      (.error (.returned .allocate), (owner.drop (pageTableFrames firmware features)).1)

def materializeTables (tables : AllocatedPageTables Nat) :
    Program (Machine φ) (Stop PageTableLoadError) (MaterializedPageTables Nat) := fun machine =>
  match tables.materialize uefiPageTableMemory idleFrames machine with
  | .ok (materialized, machine) => (.ok materialized, machine)
  | .error (_, machine, _) =>
      (.error (.returned .materialize), dropTables firmware features tables.owner machine)

def verifyTables (tables : MaterializedPageTables Nat) :
    Program (Machine φ) (Stop PageTableLoadError) (VerifiedInactivePageTables Nat) := fun machine =>
  match tables.verify uefiPageTableMemory machine idleFrames with
  | .ok verified => (.ok verified, machine)
  | .error (.stuck, _) => panicked machine
  | .error (.refused _, _) =>
      (.error (.returned .verify), dropTables firmware features tables.owner machine)

def constructInactive (loaded : LoadedKernel Unit) (stack : BootstrapStack Unit) :
    Program (Machine φ) (Stop PageTableLoadError) (VerifiedInactivePageTables Nat) := do
  let trampolinePage := roundDown loaded.entryPoint uefiPageSize
  let planned ← orReturn
    (PlannedPageTables.forTransition trampolinePage stack.bottom).toOption .plan
  writeLine "UNOS:P1J:PLAN_ACCEPTED"
  let allocated ← allocateTables firmware features planned
  writeLine "UNOS:P1J:FRAMES_ALLOCATED"
  let materialized ← materializeTables firmware features allocated
  writeLine "UNOS:P1J:HIERARCHY_MATERIALIZED"
  let verified ← verifyTables firmware features materialized
  writeLine "UNOS:P1J:HIERARCHY_VERIFIED"
  pure verified

/-! ## The processor -/

/-- The injected failure hides a required capability. -/
def policyCpu (cpu : RawCpuSnapshot) : RawCpuSnapshot :=
  if features.cpuReadinessFailure = true then
    { cpu with
      extendedFeatureEdx := cpu.extendedFeatureEdx &&& ((2 ^ 32 - 1) ^^^ (1 <<< 20))
      leaves := by
        obtain ⟨basic, extended, first, second, third, width⟩ := cpu.leaves
        exact ⟨basic, extended, first, second, Nat.lt_of_le_of_lt Nat.and_le_left third, width⟩ }
  else cpu

/-- A processor that does not qualify; under the injected failure everything is
released in view of the harness. -/
def refuseCpu {α : Type} (loaded : LoadedKernel Unit) (stack : BootstrapStack Unit)
    (tables : VerifiedInactivePageTables Nat) : Program (Machine φ) BootStop α := do
  if features.cpuReadinessFailure = true then do
    let released ← releaseTables firmware features tables.owner
    let unstacked ← stack.releaseOn firmware
    let unloaded ← loaded.releaseOn firmware
    if released.1 = true ∧ unstacked.1 = true ∧ unloaded.1 = true then
      writeLine "UNOS:P1J:CPU_ROLLBACK_COMPLETE"
    .change fun machine => unloaded.2.dropOn firmware (unstacked.2.dropOn firmware
      (dropTables firmware features released.2 machine))
    .stop (.returned .cpuPolicy)
  else
    unwinding (fun machine => loaded.dropOn firmware (stack.dropOn firmware
      (dropTables firmware features tables.owner machine))) (.stop (.returned .cpuPolicy))

def checkCr3 (readiness : ActivationReadiness) : Program (Machine φ) BootStop Unit := do
  let cr3 ← .look fun machine => machine.hardware.cpu.cr3
  orReturn (readiness.stability.verify cr3).toOption .cr3Stability

/-- The readiness of a qualified processor for these tables. -/
def classifyReadiness (validated : ValidatedCpuSnapshot) (loaded : LoadedKernel Unit)
    (stack : BootstrapStack Unit) (tables : VerifiedInactivePageTables Nat) :
    Program (Machine φ) BootStop ActivationReadiness := do
  writeLine "UNOS:P1J:CPU_CAPABILITIES_VALIDATED"
  let trampolineEnd ← orReturn
    (checkedAdd (roundDown loaded.entryPoint uefiPageSize) uefiPageSize) .cpuPolicy
  let readiness ← orReturn (do
    let root ← tables.owner.root
    (validated.classifyForHierarchy tables.frames root (max trampolineEnd stack.top)).toOption)
    .cpuPolicy
  writeLine "UNOS:P1J:ACTIVATION_REQUIREMENTS_CLASSIFIED"
  checkCr3 readiness
  writeLine "UNOS:P1J:HIERARCHY_CPU_COMPATIBLE"
  pure readiness

/-! ## The whole -/

/-- The tables, bound to the processor. -/
def activateTables (validated : ValidatedCpuSnapshot) (loaded : LoadedKernel Unit)
    (stack : BootstrapStack Unit) (tables : VerifiedInactivePageTables Nat) :
    Program (Machine φ) BootStop (ActivationPreparedPageTables Nat) := do
  let readiness ← classifyReadiness validated loaded stack tables
  orReturn (tables.prepareActivation idleFrames readiness).toOption .cpuPolicy

/-- The tables, bound to the provisional map as well. -/
def confirmTables (activation : ActivationPreparedPageTables Nat)
    (proof : Option PageTableReservationProof) :
    Program (Machine φ) BootStop (ActivationFinalMapReservedPageTables Nat) := do
  let proof ← orReturn proof .reservation
  let reserved ← orReturn (activation.confirmFinalMapReservation idleFrames proof).toOption
    (.pageTable .reserve)
  checkCr3 reserved.readiness
  pure reserved

/-- Boot data and tables, while the kernel and the stack are held. -/
def prepareResources (validated : ValidatedCpuSnapshot) (loaded : LoadedKernel Unit)
    (stack : BootstrapStack Unit) (tables : VerifiedInactivePageTables Nat) :
    Program (Machine φ) BootStop
      (PreparedBootInfo Unit × ActivationFinalMapReservedPageTables Nat) := do
  let activation ← unwinding (dropTables firmware features tables.owner)
    (activateTables validated loaded stack tables)
  let prepared ← unwinding (dropTables firmware features tables.owner)
    (prepare firmware true loaded (some stack.allocation) activation.frames)
  let reserved ← unwinding
    (fun machine => prepared.1.dropOn firmware (dropTables firmware features tables.owner machine))
    (confirmTables activation prepared.2)
  pure (prepared.1, reserved)

/-- All owners in one state.  Each method drops its arguments before the owners
that its caller still has. -/
def collectOwners (loaded : LoadedKernel Unit) (prepared : PreparedBootInfo Unit)
    (stack : BootstrapStack Unit) (tables : ActivationFinalMapReservedPageTables Nat) :
    Program (Machine φ) BootStop (PageTableHandoffReady Unit Unit Unit Nat) := do
  let owned ← unwinding
    (fun machine => stack.dropOn firmware (dropTables firmware features tables.hierarchy.owner
      (prepared.dropOn firmware (loaded.dropOn firmware machine))))
    (orReturn (withKernel loaded).toOption .bootInfo)
  let exit ← unwinding
    (fun machine => stack.dropOn firmware (dropTables firmware features tables.hierarchy.owner
      (loaded.dropOn firmware (prepared.dropOn firmware machine))))
    (orReturn (owned.withBootInformation prepared).toOption .bootInfo)
  unwinding
    (fun machine => prepared.dropOn firmware (loaded.dropOn firmware
      (stack.dropOn firmware (dropTables firmware features tables.hierarchy.owner machine))))
    (orReturn (exit.withBootstrapStackAndPageTables idlePages idlePages idlePages idleFrames stack
      tables).toOption .bootInfo)

def PageTableHandoffReady.dropOn (ready : PageTableHandoffReady Unit Unit Unit Nat)
    (machine : Machine φ) : Machine φ :=
  dropTables firmware features ready.pageTables.hierarchy.owner (ready.stack.dropOn firmware
    (ready.exit.bootInfo.dropOn firmware (ready.exit.kernel.dropOn firmware machine)))

def prepareAndExit (loaded : LoadedKernel Unit) :
    Program (Machine φ) BootStop (CapturedMapMeta × KernelArguments) := do
  let stack ← unwinding (loaded.dropOn firmware) (allocateBootstrapStack firmware loaded)
  let cpu ← .look fun machine => machine.hardware.cpu
  writeLine "UNOS:P1J:CPU_STATE_CAPTURED"
  let tables ← unwinding (fun machine => loaded.dropOn firmware (stack.dropOn firmware machine))
    (returning .pageTable (constructInactive firmware features loaded stack))
  match (policyCpu features cpu).validate with
  | .error _ => refuseCpu firmware features loaded stack tables
  | .ok validated => do
      let resources ← unwinding
        (fun machine => loaded.dropOn firmware (stack.dropOn firmware machine))
        (prepareResources firmware features validated loaded stack tables)
      let ready ← collectOwners firmware features loaded resources.1 stack resources.2
      unwinding (ready.dropOn firmware features) (leaveBootServices firmware idleFrames ready)

end

end UnnamedOS.Loader
