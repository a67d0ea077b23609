import UnnamedOS.Loader.Activation
import UnnamedOS.Loader.BootstrapStack
import UnnamedOS.Loader.ExitState

namespace UnnamedOS.Loader

open UnnamedOS.Data UnnamedOS.PageTable

/-! # The states before the boundary

Each state holds more owners than the one before it.  A method consumes its
arguments: where it returns an error, all of them are dropped.  Crossing the
boundary instead takes every owner out of the state and disarms it. -/

/-- The whole record that crosses. -/
structure TransferredHandoff extends TransferredBootState where
  bootstrapStack : Option TransferredBootstrapStack
  pageTables : Option TransferredActivationPreparedPageTables

/-- `HandoffReady`; as in `ExitReady` the options are not modelled. -/
structure HandoffReady (κ β σ : Type) where
  exit : ExitReady κ β
  stack : BootstrapStack σ

structure PageTableHandoffReady (κ β σ φ : Type) where
  exit : ExitReady κ β
  stack : BootstrapStack σ
  pageTables : ActivationFinalMapReservedPageTables φ

variable {κ β σ φ ε₁ ε₂ ε₃ ε₄ : Type} (kernelOps : PageBackend κ ε₁) (bootOps : PageBackend β ε₂)
  (stackOps : PageBackend σ ε₃) (frameOps : FrameBackend φ ε₄)

/-! ## Dropping a state -/

def LoadedKernel.drop (kernel : LoadedKernel κ) : κ := kernel.owner.drop kernelOps

def ActivationFinalMapReservedPageTables.drop
    (tables : ActivationFinalMapReservedPageTables φ) : φ :=
  tables.hierarchy.owner.drop frameOps

def ExitReady.drop (ready : ExitReady κ β) : κ × β :=
  (ready.kernel.drop kernelOps, ready.bootInfo.drop bootOps)

def HandoffReady.drop (ready : HandoffReady κ β σ) : (κ × β) × σ :=
  (ready.exit.drop kernelOps bootOps, ready.stack.drop stackOps)

def PageTableHandoffReady.drop (ready : PageTableHandoffReady κ β σ φ) : (κ × β) × σ × φ :=
  (ready.exit.drop kernelOps bootOps, ready.stack.drop stackOps, ready.pageTables.drop frameOps)

/-! ## The transitions -/

/-- `with_kernel`, with the drop of the kernel it refuses. -/
def withKernelOrDrop (kernel : LoadedKernel κ) :
    Except (ExitPreparationError × κ) (KernelOwned κ) :=
  (withKernel kernel).mapError fun error => (error, kernel.drop kernelOps)

/-- `with_boot_information`; a refusal drops the boot data and the kernel. -/
def KernelOwned.withBootInformationOrDrop (owned : KernelOwned κ)
    (bootInfo : PreparedBootInfo β) : Except (ExitPreparationError × κ × β) (ExitReady κ β) :=
  (owned.withBootInformation bootInfo).mapError fun error =>
    (error, owned.kernel.drop kernelOps, bootInfo.drop bootOps)

namespace ExitReady

def withBootstrapStack (ready : ExitReady κ β) (stack : BootstrapStack σ) :
    Except (ExitPreparationError × (κ × β) × σ) (HandoffReady κ β σ) :=
  if stack.isReleased then
    .error (.bootInformationReleased, ready.drop kernelOps bootOps, stack.drop stackOps)
  else .ok ⟨ready, stack⟩

def withBootstrapStackAndPageTables (ready : ExitReady κ β) (stack : BootstrapStack σ)
    (pageTables : ActivationFinalMapReservedPageTables φ) :
    Except (ExitPreparationError × (κ × β) × σ × φ) (PageTableHandoffReady κ β σ φ) :=
  if stack.isReleased ∨ pageTables.frameCount = 0 ∨
      pageTables.frameCount ≠ pageTables.plannedTableCount then
    .error (.bootInformationReleased, ready.drop kernelOps bootOps, stack.drop stackOps,
      pageTables.drop frameOps)
  else .ok ⟨ready, stack, pageTables⟩

theorem withBootstrapStackAndPageTables_eq_ok {ready : ExitReady κ β} {stack : BootstrapStack σ}
    {pageTables : ActivationFinalMapReservedPageTables φ}
    {result : PageTableHandoffReady κ β σ φ} :
    ready.withBootstrapStackAndPageTables kernelOps bootOps stackOps frameOps stack pageTables =
        .ok result ↔
      stack.isReleased = false ∧ pageTables.frameCount ≠ 0 ∧
        pageTables.frameCount = pageTables.plannedTableCount ∧
        result = ⟨ready, stack, pageTables⟩ := by
  simp only [withBootstrapStackAndPageTables, guard_eq_ok, not_or, not_not, Bool.not_eq_true,
    Except.ok.injEq, and_assoc, eq_comm (a := result)]

/-! ## Crossing

The results are the record the callback is given and the backends as the
callback finds them. -/

def crossExitBoundaryWithResources (ready : ExitReady κ β)
    (bootstrapStack : Option TransferredBootstrapStack)
    (pageTables : Option TransferredActivationPreparedPageTables) :
    TransferredHandoff × κ × β :=
  let kernel : ManuallyDrop (LoadedKernel κ) := ⟨ready.kernel⟩
  let bootInfo : ManuallyDrop (PreparedBootInfo β) := ⟨ready.bootInfo⟩
  let state : ExitReady κ β := ⟨kernel.owner, bootInfo.owner⟩
  ({ state.crossExitBoundary with bootstrapStack, pageTables },
    kernel.drop fun owner => owner.owner.backend, bootInfo.drop PreparedBootInfo.backend)

end ExitReady

def HandoffReady.crossExitBoundary (ready : HandoffReady κ β σ) :
    TransferredHandoff × (κ × β) × σ :=
  let (stack, stackBackend) := ready.stack.transfer
  let (record, backends) := ready.exit.crossExitBoundaryWithResources (some stack) none
  (record, backends, stackBackend)

def PageTableHandoffReady.crossExitBoundary (ready : PageTableHandoffReady κ β σ φ) :
    TransferredHandoff × (κ × β) × σ × φ :=
  let (stack, stackBackend) := ready.stack.transfer
  let (pageTables, frameBackend) := ready.pageTables.transfer frameOps
  let (record, backends) :=
    ready.exit.crossExitBoundaryWithResources (some stack) (some pageTables)
  (record, backends, stackBackend, frameBackend)

end UnnamedOS.Loader
