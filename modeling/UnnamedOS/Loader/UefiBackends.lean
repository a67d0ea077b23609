import UnnamedOS.Loader.PageTables
import UnnamedOS.Loader.PostExit
import UnnamedOS.Loader.TargetMemory

namespace UnnamedOS.Loader

open UnnamedOS.Data UnnamedOS.PageTable

/-! # The backends over the machine

The owners take their pages from a backend.  Here the backends ask the firmware
and write to the machine's memory; those of the source are values without
fields, except for a counter of page-table frames. -/

inductive BufferError where
  | allocate
  | free
  | range
deriving DecidableEq, Repr

inductive BackendError where
  | firmware
  | free
  | addressMismatch
  | range
  | memory (error : MemoryError)
deriving DecidableEq, Repr

inductive UefiPageTableError where
  | firmware
  | range
  | injectedAllocation
deriving DecidableEq, Repr

section

variable {φ ε : Type} (firmware : Firmware φ)

/-- `boot::free_pages`, behind the check that the address is not null. -/
def freePages (refused range : ε) (machine : Machine φ) (start pages : Nat) :
    Except ε Unit × Machine φ :=
  if start = 0 then (.error range, machine)
  else
    let (reply, machine) := machine.asked firmware (.freePages start pages)
    (reply.mapError fun _ => refused, machine)

def uefiBootBackend : PageBackend (Machine φ) BufferError where
  allocateAt machine start pages :=
    match machine.asked firmware (.allocatePages (.address start) pages) with
    | (.error _, machine) => (.error .allocate, machine)
    | (.ok pointer, machine) =>
        (if pointer.val = start then .ok () else .error .allocate, machine)
  free := freePages firmware .free .range

/-- A wrong address is given back at once. -/
def uefiTargetPages : PageBackend (Machine φ) BackendError where
  allocateAt machine start pages :=
    match machine.asked firmware (.allocatePages (.address start) pages) with
    | (.error _, machine) => (.error .firmware, machine)
    | (.ok pointer, machine) =>
        if pointer.val ≠ start then
          match freePages firmware BackendError.free .range machine pointer.val pages with
          | (.error reason, machine) => (.error reason, machine)
          | (.ok _, machine) => (.error .addressMismatch, machine)
        else (.ok (), machine)
  free := freePages firmware .free .range

/-- The source of a copy is a slice, so it is read when it is used. -/
def uefiTargetBackend (source : Machine φ → List UInt8) :
    SegmentBackend (Machine φ) BackendError where
  toPageBackend := uefiTargetPages firmware
  zero machine item :=
    (.ok (), machine.withMemory (fill machine.hardware.memory item.pageStart item.pageLength 0))
  copy machine item _ :=
    match copyTarget item (source machine)
        (window machine.hardware.memory item.pageStart item.pageLength) with
    | .error reason => (.error (.memory reason), machine)
    | .ok target =>
        (.ok (), machine.withMemory (store machine.hardware.memory item.pageStart target))
  verify machine item _ :=
    ((verifyTarget item (source machine)
      (window machine.hardware.memory item.pageStart item.pageLength)).mapError .memory, machine)

/-- With the counter of the frames handed out; the feature
`page-table-allocation-failure-test` refuses the third. -/
def uefiPageTableBackend (failureTest : Bool) :
    FrameBackend (Machine φ × Nat) UefiPageTableError where
  allocateFrame state :=
    if failureTest = true ∧ state.2 = 2 then (.error .injectedAllocation, state)
    else
      match state.1.asked firmware (.allocatePages .anyPages 1) with
      | (.error _, machine) => (.error .firmware, machine, state.2)
      | (.ok pointer, machine) => (.ok pointer.val, machine, state.2 + 1)
  zeroFrame state frame :=
    if frame.address = 0 then (.error .range, state)
    else (.ok (), state.1.withMemory (fill state.1.hardware.memory frame.address 4096 0), state.2)
  freeFrame state address :=
    match freePages firmware UefiPageTableError.firmware .range state.1 address 1 with
    | (result, machine) => (result, machine, state.2)

end

/-! ## Page tables in memory -/

section

variable {φ : Type}

def entryPointer (frame : PhysicalFrame) (index : TableIndex) : Except UefiPageTableError Nat := do
  let offset ← okOr (checkedMul index.value 8) .range
  let stop ← okOr (checkedAdd offset 8) .range
  if stop > 4096 then .error .range
  else do
    let address ← okOr (checkedAdd frame.address offset) .range
    if address = 0 then .error .range else .ok address

/-- An entry is a `u64`; a number beyond that is none and is refused. -/
def uefiPageTableMemory : PageTableMemory (Machine φ) UefiPageTableError where
  writeEntry machine frame index value :=
    match entryPointer frame index with
    | .error reason => (.error reason, machine)
    | .ok address =>
        if value < wordLimit then
          (.ok (), machine.withMemory (store machine.hardware.memory address (leBytes 8 value)))
        else (.error .range, machine)
  readEntry machine frame index := do
    let address ← entryPointer frame index
    .ok (loadWord machine.hardware.memory address)

end

end UnnamedOS.Loader
