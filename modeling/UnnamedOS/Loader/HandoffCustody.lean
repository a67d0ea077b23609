import UnnamedOS.Loader.Handoff
import UnnamedOS.PageTable.FrameCustody

namespace UnnamedOS.Loader

open UnnamedOS.Data UnnamedOS.PageTable

/-! # Who frees what before the boundary

The owners run over backends that write their calls down.  What a drop must
free is what the flags still claim, each once, and nothing else. -/

variable {κ β σ φ ε₁ ε₂ ε₃ ε₄ : Type}

/-! ## The four owners -/

section

/-- The kernel's pages have been freed: one call for each segment still owned. -/
def LoadedKernel.Freed (kernel : LoadedKernel (κ × List SegmentEvent))
    (after : κ × List SegmentEvent) : Prop :=
  FreedEach .freed kernel.owner.log (heldResources kernel.owner.slots).reverse after.2

def PreparedBootInfo.Freed (bootInfo : PreparedBootInfo (β × List SegmentEvent))
    (after : β × List SegmentEvent) : Prop :=
  FreedEach .freed bootInfo.backend.2 (heldResources bootInfo.slots).reverse after.2

def BootstrapStack.Freed (stack : BootstrapStack (σ × List SegmentEvent))
    (after : σ × List SegmentEvent) : Prop :=
  FreedEach .freed stack.backend.2 (if stack.owned then [stack.allocation.pages] else []) after.2

def ActivationFinalMapReservedPageTables.Freed
    (tables : ActivationFinalMapReservedPageTables (φ × List FrameEvent))
    (after : φ × List FrameEvent) : Prop :=
  FreedEach .freed tables.hierarchy.owner.backend.2
    (if tables.hierarchy.owner.owned then tables.hierarchy.owner.addresses.reverse else []) after.2

theorem dropSlots_freedEach (ops : PageBackend β ε₁) (state : β × List SegmentEvent)
    (slots : List (OwnedAllocation × Bool)) :
    FreedEach SegmentEvent.freed state.2 (heldResources slots).reverse
      (dropSlots ops.logged.freeAllocation state slots).2 := by
  rw [dropSlots_eq 0]
  exact dropAll_freedEach ops.logged_records state (heldResources slots).reverse

theorem LoadedKernel.drop_freed (ops : PageBackend κ ε₁)
    (kernel : LoadedKernel (κ × List SegmentEvent)) : kernel.Freed (kernel.drop ops.logged) :=
  dropSlots_freedEach ops kernel.owner.backend kernel.owner.slots

theorem PreparedBootInfo.drop_freed (ops : PageBackend β ε₂)
    (bootInfo : PreparedBootInfo (β × List SegmentEvent)) :
    bootInfo.Freed (bootInfo.drop ops.logged) :=
  dropSlots_freedEach ops bootInfo.backend bootInfo.slots

theorem BootstrapStack.drop_freed (ops : PageBackend σ ε₃)
    (stack : BootstrapStack (σ × List SegmentEvent)) : stack.Freed (stack.drop ops.logged) := by
  unfold Freed drop
  cases stack.owned with
  | true => exact free_freedEach ops.logged_records stack.backend stack.allocation.pages
  | false => exact .none _ _

theorem ActivationFinalMapReservedPageTables.drop_freed (ops : FrameBackend φ ε₄)
    (tables : ActivationFinalMapReservedPageTables (φ × List FrameEvent)) :
    tables.Freed (tables.drop ops.logged) := by
  unfold Freed drop
  cases owned : tables.hierarchy.owner.owned with
  | true =>
      rw [PageTableFrameOwner.drop_owned _ _ owned]
      exact dropAll_freedEach ops.logged_records tables.hierarchy.owner.backend _
  | false =>
      rw [PageTableFrameOwner.drop, owned]
      exact .none _ _

end

/-! ## The three states -/

section

variable (kernelOps : PageBackend κ ε₁) (bootOps : PageBackend β ε₂)
  (stackOps : PageBackend σ ε₃) (frameOps : FrameBackend φ ε₄)

structure ExitReady.Freed (ready : ExitReady (κ × List SegmentEvent) (β × List SegmentEvent))
    (after : (κ × List SegmentEvent) × (β × List SegmentEvent)) : Prop where
  kernel : ready.kernel.Freed after.1
  bootInfo : ready.bootInfo.Freed after.2

structure HandoffReady.Freed
    (ready : HandoffReady (κ × List SegmentEvent) (β × List SegmentEvent)
      (σ × List SegmentEvent))
    (after : ((κ × List SegmentEvent) × (β × List SegmentEvent)) × (σ × List SegmentEvent)) :
    Prop where
  exit : ready.exit.Freed after.1
  stack : ready.stack.Freed after.2

structure PageTableHandoffReady.Freed
    (ready : PageTableHandoffReady (κ × List SegmentEvent) (β × List SegmentEvent)
      (σ × List SegmentEvent) (φ × List FrameEvent))
    (after : ((κ × List SegmentEvent) × (β × List SegmentEvent)) × (σ × List SegmentEvent) ×
      (φ × List FrameEvent)) : Prop where
  exit : ready.exit.Freed after.1
  stack : ready.stack.Freed after.2.1
  pageTables : ready.pageTables.Freed after.2.2

theorem ExitReady.drop_freed
    (ready : ExitReady (κ × List SegmentEvent) (β × List SegmentEvent)) :
    ready.Freed (ready.drop kernelOps.logged bootOps.logged) :=
  ⟨ready.kernel.drop_freed kernelOps, ready.bootInfo.drop_freed bootOps⟩

theorem HandoffReady.drop_freed
    (ready : HandoffReady (κ × List SegmentEvent) (β × List SegmentEvent)
      (σ × List SegmentEvent)) :
    ready.Freed (ready.drop kernelOps.logged bootOps.logged stackOps.logged) :=
  ⟨ready.exit.drop_freed kernelOps bootOps, ready.stack.drop_freed stackOps⟩

theorem PageTableHandoffReady.drop_freed
    (ready : PageTableHandoffReady (κ × List SegmentEvent) (β × List SegmentEvent)
      (σ × List SegmentEvent) (φ × List FrameEvent)) :
    ready.Freed
      (ready.drop kernelOps.logged bootOps.logged stackOps.logged frameOps.logged) :=
  ⟨ready.exit.drop_freed kernelOps bootOps, ready.stack.drop_freed stackOps,
    ready.pageTables.drop_freed frameOps⟩

end

/-! ## What crosses -/

/-- The record has the kernel's and the boot data's own values. -/
structure CarriesExit (ready : ExitReady κ β) (record : TransferredHandoff) : Prop where
  entry : record.kernelEntry = ready.kernel.entryPoint
  range : record.kernelRange = ready.kernel.loadRange
  segments : record.segments = ready.kernel.segments
  allocations : record.allocations = ready.bootInfo.allocations
  framebuffer : record.framebuffer = ready.bootInfo.framebuffer
  address : record.bootInfoAddress = ready.bootInfo.bootInfoAddress

def CarriesStack (stack : BootstrapStack σ) (record : TransferredHandoff) : Prop :=
  ∃ transferred, record.bootstrapStack = some transferred ∧
    transferred.bottom = stack.allocation.pageStart ∧
    transferred.top = stack.allocation.pageStart + stack.allocation.pageCount * 4096

def CarriesTables (tables : ActivationFinalMapReservedPageTables φ)
    (record : TransferredHandoff) : Prop :=
  ∃ transferred, record.pageTables = some transferred ∧
    transferred.hierarchy.frames.frames = tables.hierarchy.owner.frames ∧
    transferred.hierarchy.frames.root = tables.hierarchy.owner.root ∧
    transferred.readiness = tables.readiness

theorem carriesExit_cross (ready : ExitReady κ β)
    (bootstrapStack : Option TransferredBootstrapStack)
    (pageTables : Option TransferredActivationPreparedPageTables) :
    CarriesExit ready (ready.crossExitBoundaryWithResources bootstrapStack pageTables).1 :=
  ⟨rfl, rfl, rfl, rfl, rfl, rfl⟩

theorem BootstrapStack.transfer_bounds (stack : BootstrapStack σ) :
    stack.transfer.2 = stack.backend ∧ stack.transfer.1.bottom = stack.allocation.pageStart ∧
      stack.transfer.1.top =
        stack.allocation.pageStart + stack.allocation.pageCount * 4096 := by
  refine ⟨rfl, rfl, ?_⟩
  rw [stack.size]
  rfl

/-- The cleared flag keeps the moved owner's drop from freeing anything. -/
theorem ActivationFinalMapReservedPageTables.transfer_frames (ops : FrameBackend φ ε₄)
    (tables : ActivationFinalMapReservedPageTables φ) :
    (tables.transfer ops).2 = tables.hierarchy.owner.backend ∧
      (tables.transfer ops).1.hierarchy.frames.frames = tables.hierarchy.owner.frames ∧
      (tables.transfer ops).1.hierarchy.frames.root = tables.hierarchy.owner.root ∧
      (tables.transfer ops).1.readiness = tables.readiness :=
  ⟨rfl, rfl, rfl, rfl⟩

/-- A dropped state frees what it still owns, a refused transition frees what
it consumed, and a crossing frees nothing and passes everything on. -/
theorem handoff_custody (kernelOps : PageBackend κ ε₁) (bootOps : PageBackend β ε₂)
    (stackOps : PageBackend σ ε₃) (frameOps : FrameBackend φ ε₄)
    (exit : ExitReady (κ × List SegmentEvent) (β × List SegmentEvent))
    (stack : BootstrapStack (σ × List SegmentEvent))
    (tables : ActivationFinalMapReservedPageTables (φ × List FrameEvent)) :
    -- Drops before the boundary.
    (exit.Freed (exit.drop kernelOps.logged bootOps.logged) ∧
      (⟨exit, stack⟩ : HandoffReady _ _ _).Freed
        ((⟨exit, stack⟩ : HandoffReady _ _ _).drop kernelOps.logged bootOps.logged
          stackOps.logged) ∧
      (⟨exit, stack, tables⟩ : PageTableHandoffReady _ _ _ _).Freed
        ((⟨exit, stack, tables⟩ : PageTableHandoffReady _ _ _ _).drop kernelOps.logged
          bootOps.logged stackOps.logged frameOps.logged)) ∧
    -- Transitions that return an error.
    ((∀ error after,
      withKernelOrDrop kernelOps.logged exit.kernel = .error (error, after) →
        exit.kernel.Freed after) ∧
      (∀ error after, (⟨exit.kernel⟩ : KernelOwned _).withBootInformationOrDrop kernelOps.logged
        bootOps.logged exit.bootInfo = .error (error, after) → exit.Freed after) ∧
      (∀ error after, exit.withBootstrapStack kernelOps.logged bootOps.logged stackOps.logged
        stack = .error (error, after) → (⟨exit, stack⟩ : HandoffReady _ _ _).Freed after) ∧
      ∀ error after, exit.withBootstrapStackAndPageTables kernelOps.logged bootOps.logged
        stackOps.logged frameOps.logged stack tables = .error (error, after) →
          (⟨exit, stack, tables⟩ : PageTableHandoffReady _ _ _ _).Freed after) ∧
    -- Crossings: every backend is as it was.
    (∃ record, exit.crossExitBoundaryWithResources none none =
        (record, exit.kernel.owner.backend, exit.bootInfo.backend) ∧
      CarriesExit exit record ∧ record.bootstrapStack = none ∧ record.pageTables = none) ∧
    (∃ record, (⟨exit, stack⟩ : HandoffReady _ _ _).crossExitBoundary =
        (record, (exit.kernel.owner.backend, exit.bootInfo.backend), stack.backend) ∧
      CarriesExit exit record ∧ CarriesStack stack record ∧ record.pageTables = none) ∧
    ∃ record, (⟨exit, stack, tables⟩ : PageTableHandoffReady _ _ _ _).crossExitBoundary
        frameOps.logged = (record, (exit.kernel.owner.backend, exit.bootInfo.backend),
          stack.backend, tables.hierarchy.owner.backend) ∧
      CarriesExit exit record ∧ CarriesStack stack record ∧ CarriesTables tables record := by
  refine ⟨⟨exit.drop_freed kernelOps bootOps, HandoffReady.drop_freed kernelOps bootOps stackOps _,
    PageTableHandoffReady.drop_freed kernelOps bootOps stackOps frameOps _⟩,
    ⟨?_, ?_, ?_, ?_⟩, ?_, ?_, ?_⟩
  · intro error after refused
    obtain ⟨_, _, same⟩ := mapError_eq_error.mp refused
    cases same
    exact exit.kernel.drop_freed kernelOps
  · intro error after refused
    obtain ⟨_, _, same⟩ := mapError_eq_error.mp refused
    cases same
    exact exit.drop_freed kernelOps bootOps
  · intro error after refused
    unfold ExitReady.withBootstrapStack at refused
    split at refused
    · cases refused
      exact HandoffReady.drop_freed kernelOps bootOps stackOps _
    · contradiction
  · intro error after refused
    unfold ExitReady.withBootstrapStackAndPageTables at refused
    split at refused
    · cases refused
      exact PageTableHandoffReady.drop_freed kernelOps bootOps stackOps frameOps _
    · contradiction
  · exact ⟨_, rfl, carriesExit_cross exit none none, rfl, rfl⟩
  · exact ⟨_, rfl, carriesExit_cross exit _ none, ⟨_, rfl, stack.transfer_bounds.2⟩, rfl⟩
  · exact ⟨_, rfl, carriesExit_cross exit _ _, ⟨_, rfl, stack.transfer_bounds.2⟩,
      ⟨_, rfl, (tables.transfer_frames frameOps.logged).2⟩⟩

end UnnamedOS.Loader
