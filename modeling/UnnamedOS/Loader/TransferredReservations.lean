import UnnamedOS.Loader.Handoff
import UnnamedOS.Loader.ReservationEvidence

namespace UnnamedOS.Loader

open UnnamedOS.Data UnnamedOS.BootProtocol UnnamedOS.MemoryMap UnnamedOS.PageTable

/-! # The reservations once more, without the owners

After boot services the list is built a second time, from the record that
crossed the boundary. -/

namespace TransferredActivationPreparedPageTables

def frames (tables : TransferredActivationPreparedPageTables) : List PhysicalFrame :=
  tables.hierarchy.frames.frames

def frameCount (tables : TransferredActivationPreparedPageTables) : Nat := tables.frames.length

/-- `root_frame().address()`, with the empty frame's zero. -/
def rootFrame (tables : TransferredActivationPreparedPageTables) : Nat :=
  (tables.hierarchy.frames.root.map PhysicalFrame.address).getD 0

end TransferredActivationPreparedPageTables

def stackReservation (stack : TransferredBootstrapStack) : Reservation where
  physicalStart := stack.bottom
  pageCount := bootstrapStackPages
  kind := memoryKindBootstrapStack
  source := .bootstrapStack

/-- `append_page_table_reservations(..)?` on a list that is dropped on an error. -/
def appendOrFail {ε : Type} (frames : List PhysicalFrame)
    (convert : PageTableReservationError → ε) (list : ReservationList) :
    Except ε ReservationList :=
  match appendPageTableReservations frames list with
  | (.error reason, _) => .error (convert reason)
  | (.ok _, next) => .ok next

def reservationsForTransferred (transferred : TransferredHandoff)
    (stack : Option TransferredBootstrapStack) : Except MapBuildError ReservationList := do
  let allocations := transferred.allocations
  let framebuffer := transferred.framebuffer
  let segments ← (transferred.segments.map segmentReservation).foldlM pushOrFail .new
  let buffers ← allocations.reservations.foldlM pushOrFail segments
  let display ← framebufferReservation framebuffer.physicalAddress framebuffer.byteLength
  let screen ← pushOrFail buffers display
  let stacked ← match stack with
    | none => .ok screen
    | some stack => pushOrFail screen (stackReservation stack)
  match transferred.pageTables with
  | none => .ok stacked
  | some pageTables => appendOrFail pageTables.frames (fun _ => .reservationCapacity) stacked

/-- `finish()?`. -/
def finishOrFail (list : ReservationList) : Option ReservationList :=
  match list.finish with
  | (.error _, _) => none
  | (.ok _, finished) => some finished

theorem appendOrFail_eq_ok {ε : Type} {frames : List PhysicalFrame}
    {convert : PageTableReservationError → ε} {list next : ReservationList} :
    appendOrFail frames convert list = .ok next ↔
      appendPageTableReservations frames list = (.ok (), next) := by
  unfold appendOrFail
  split
  · rename_i reason after appended
    simp [appended]
  · rename_i after appended
    simp [appended]

theorem finishOrFail_eq_some {list finished : ReservationList} :
    finishOrFail list = some finished ↔ list.finish = (.ok (), finished) := by
  unfold finishOrFail
  split
  · rename_i reason after done
    simp [done]
  · rename_i after done
    simp [done]

section

variable {κ β σ φ ε : Type}

/-- Behind the boundary the same list is built as before it, from the same
owners; an error of the last step is reported as another one. -/
theorem reservationsForTransferred_cross (frameOps : FrameBackend φ ε)
    (ready : PageTableHandoffReady κ β σ φ) :
    let transferred := (ready.crossExitBoundary frameOps).1
    let bootInfo := ready.exit.bootInfo
    reservationsForTransferred transferred transferred.bootstrapStack =
      (do
        let reservations ← reservationsFor ready.exit.kernel bootInfo.allocations
          bootInfo.framebuffer.physicalAddress bootInfo.framebuffer.byteLength
          (some ready.stack.allocation)
        appendOrFail ready.pageTables.hierarchy.owner.frames (fun _ => .reservationCapacity)
          reservations) := by
  have sameStack : stackReservation ready.stack.transfer.1 =
      allocationReservation ready.stack.allocation .bootstrapStack memoryKindBootstrapStack := by
    rw [allocationReservation, ready.stack.size]
    rfl
  intro transferred bootInfo
  rw [reservationsForTransferred, reservationsFor]
  simp only [bind_assoc, ← sameStack]
  rfl

end

end UnnamedOS.Loader
