import UnnamedOS.Loader.PageTableReservations
import UnnamedOS.Loader.Verification
import UnnamedOS.PageTable.CpuReadiness

namespace UnnamedOS.Loader

open UnnamedOS.Data UnnamedOS.Layout UnnamedOS.PageTable

/-! # From verified tables to transferred ones

A verified hierarchy is bound to a processor's readiness, then to the final
memory map's reservations, and then leaves its owner.  Every step consumes the
hierarchy, so a refusal drops the owner. -/

/-- `root_frame().address()`, with the empty frame's zero. -/
def rootAddress {β : Type} {capacity : Nat} (owner : PageTableFrameOwner β capacity) : Nat :=
  (owner.root.map PhysicalFrame.address).getD 0

structure FinalMapReservedPageTables (β : Type) where
  plannedTableCount : Nat
  owner : PageTableFrameOwner β pageTableFrameCapacity

structure ActivationPreparedPageTables (β : Type) where
  hierarchy : VerifiedInactivePageTables β
  readiness : ActivationReadiness

structure ActivationFinalMapReservedPageTables (β : Type) where
  hierarchy : FinalMapReservedPageTables β
  readiness : ActivationReadiness

structure TransferredInactivePageTables where
  frames : TransferredPageTableFrames pageTableFrameCapacity

structure TransferredActivationPreparedPageTables where
  hierarchy : TransferredInactivePageTables
  readiness : ActivationReadiness

variable {β ε : Type}

namespace VerifiedInactivePageTables

def frames (tables : VerifiedInactivePageTables β) : List PhysicalFrame := tables.owner.frames

def tryRelease (ops : FrameBackend β ε) (tables : VerifiedInactivePageTables β) :
    Except (FrameOwnerError ε) Unit × VerifiedInactivePageTables β :=
  ((tables.owner.tryRelease ops).1, { tables with owner := (tables.owner.tryRelease ops).2 })

def prepareActivation (ops : FrameBackend β ε) (tables : VerifiedInactivePageTables β)
    (readiness : ActivationReadiness) :
    Except (PageTableReservationError × β) (ActivationPreparedPageTables β) :=
  if ¬ readiness.transitionPermitted ∨ readiness.proposedRoot ≠ rootAddress tables.owner then
    .error (.incompleteCoverage frameSlotRoot, tables.owner.drop ops)
  else .ok ⟨tables, readiness⟩

def confirmFinalMapReservation (ops : FrameBackend β ε) (tables : VerifiedInactivePageTables β)
    (proof : PageTableReservationProof) :
    Except (PageTableReservationError × β) (FinalMapReservedPageTables β) :=
  if proof.frameCount ≠ tables.owner.frameCount ∨ proof.rootFrame ≠ rootAddress tables.owner ∨
      proof.fingerprint ≠ frameFingerprint tables.owner.frames then
    .error (.incompleteCoverage frameSlotRoot, tables.owner.drop ops)
  else .ok ⟨tables.plannedTableCount, tables.owner⟩

theorem prepareActivation_eq_ok {ops : FrameBackend β ε} {tables : VerifiedInactivePageTables β}
    {readiness : ActivationReadiness} {prepared : ActivationPreparedPageTables β} :
    tables.prepareActivation ops readiness = .ok prepared ↔
      readiness.transitionPermitted = true ∧ readiness.proposedRoot = rootAddress tables.owner ∧
        prepared = ⟨tables, readiness⟩ := by
  simp only [prepareActivation, guard_eq_ok, not_or, not_not, Except.ok.injEq, and_assoc,
    eq_comm (a := prepared)]

end VerifiedInactivePageTables

namespace ActivationPreparedPageTables

def frames (tables : ActivationPreparedPageTables β) : List PhysicalFrame :=
  tables.hierarchy.frames

def confirmFinalMapReservation (ops : FrameBackend β ε) (tables : ActivationPreparedPageTables β)
    (proof : PageTableReservationProof) :
    Except (PageTableReservationError × β) (ActivationFinalMapReservedPageTables β) := do
  let hierarchy ← tables.hierarchy.confirmFinalMapReservation ops proof
  .ok ⟨hierarchy, tables.readiness⟩

/-- The proof has to be about the owner's own frames; it leaves them alone. -/
theorem confirmFinalMapReservation_eq_ok {ops : FrameBackend β ε}
    {tables : ActivationPreparedPageTables β} {proof : PageTableReservationProof}
    {reserved : ActivationFinalMapReservedPageTables β} :
    tables.confirmFinalMapReservation ops proof = .ok reserved ↔
      proof.frameCount = tables.hierarchy.owner.frameCount ∧
      proof.rootFrame = rootAddress tables.hierarchy.owner ∧
      proof.fingerprint = frameFingerprint tables.hierarchy.owner.frames ∧
      reserved = ⟨⟨tables.hierarchy.plannedTableCount, tables.hierarchy.owner⟩,
        tables.readiness⟩ := by
  simp only [confirmFinalMapReservation, VerifiedInactivePageTables.confirmFinalMapReservation,
    bind_eq_ok, guard_eq_ok, not_or, not_not, Except.ok.injEq, and_assoc, exists_and_left,
    exists_eq_left', eq_comm (a := reserved)]

end ActivationPreparedPageTables

def FinalMapReservedPageTables.transfer (ops : FrameBackend β ε)
    (tables : FinalMapReservedPageTables β) : TransferredInactivePageTables × β :=
  let (frames, backend) := tables.owner.transfer ops
  (⟨frames⟩, backend)

namespace ActivationFinalMapReservedPageTables

def frameCount (tables : ActivationFinalMapReservedPageTables β) : Nat :=
  tables.hierarchy.owner.frameCount

def plannedTableCount (tables : ActivationFinalMapReservedPageTables β) : Nat :=
  tables.hierarchy.plannedTableCount

def transfer (ops : FrameBackend β ε) (tables : ActivationFinalMapReservedPageTables β) :
    TransferredActivationPreparedPageTables × β :=
  let (hierarchy, backend) := tables.hierarchy.transfer ops
  (⟨hierarchy, tables.readiness⟩, backend)

end ActivationFinalMapReservedPageTables

end UnnamedOS.Loader
