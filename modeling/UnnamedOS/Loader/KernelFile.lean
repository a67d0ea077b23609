import UnnamedOS.KernelImage.BootImages
import UnnamedOS.Loader.ExactRead
import UnnamedOS.Loader.UefiBackends

namespace UnnamedOS.Loader

open UnnamedOS.Data

/-! # The kernel's file

`load_and_validate` measures the file, takes pages for it, reads it and checks
what it has read.  The pages are a lease: it is given up by one release, and by
the drop of a kernel that was never released. -/

def kernelPath : String := "\\EFI\\UNNAMEDOS\\KERNEL.ELF"
def maxKernelBytes : Nat := 16 * 1024 * 1024

/-- `RegularFile::END_OF_FILE`. -/
def endOfFile : Nat := wordLimit - 1

inductive SizeError where
  | empty
  | tooLarge
  | addressSpaceOverflow
  | pageCountOverflow
deriving DecidableEq, Repr

def checkedKernelSize (size : Nat) : Except SizeError Nat :=
  if size = 0 then .error .empty
  else if size > maxKernelBytes then .error .tooLarge
  else okOr (toWord size) .addressSpaceOverflow

def pagesForBytes (bytes : Nat) : Except SizeError Nat :=
  if bytes = 0 then .error .empty
  else do
    let bytes ← okOr (toWord bytes) .addressSpaceOverflow
    let rounded ← okOr (checkedAdd bytes (uefiPageSize - 1)) .pageCountOverflow
    okOr (toWord (rounded / uefiPageSize)) .pageCountOverflow

theorem pagesForBytes_eq_ok {bytes pages : Nat} (counted : pagesForBytes bytes = .ok pages) :
    bytes < wordLimit := by
  simp only [pagesForBytes, guard_eq_ok, bind_eq_ok, okOr_eq_ok, toWord_eq_some] at counted
  obtain ⟨_, _, ⟨bounded, _⟩, _⟩ := counted
  exact bounded

/-! ## Measuring -/

/-- The trait, over whatever the file's state is. -/
structure PositionedFile (σ ε : Type) where
  seekToEnd : Program σ ε Unit
  position : Program σ ε Nat
  rewind : Program σ ε Unit

inductive MeasureError (ε : Type) where
  | seek (error : ε)
  | position (error : ε)
  | rewind (error : ε)
  | size (error : SizeError)
deriving DecidableEq, Repr

def measureAndRewind {σ ε : Type} (file : PositionedFile σ ε) :
    Program σ (MeasureError ε) Nat := do
  file.seekToEnd.mapStop .seek
  let length ← file.position.mapStop .position
  file.rewind.mapStop .rewind
  match checkedKernelSize length with
  | .error error => .stop (.size error)
  | .ok size => pure size

/-! ## The lease of the pages -/

inductive LeaseError where
  | notOwned
deriving DecidableEq, Repr

structure PageLeaseState where
  owned : Bool
deriving DecidableEq, Repr

def PageLeaseState.acquired : PageLeaseState := ⟨true⟩

def PageLeaseState.beginRelease (lease : PageLeaseState) : Except LeaseError PageLeaseState :=
  if lease.owned = false then .error .notOwned else .ok ⟨false⟩

def acquireWith {α ε : Type} (allocate : Except ε α) : Except ε (α × PageLeaseState) :=
  allocate.map fun allocation => (allocation, .acquired)

def finalizeWithRelease {α ε : Type} (operation : Except ε α) (release : Except ε Unit) :
    Except ε α := do
  release
  operation

/-- `LoadError` of the file's module. -/
inductive KernelLoadError where
  | open
  | size
  | alloc
  | read
  | shortRead
  | elf
  | free
deriving DecidableEq, Repr

def KernelLoadError.marker : KernelLoadError → String
  | .open => "UNOS:P1D:FAIL:OPEN"
  | .size => "UNOS:P1D:FAIL:SIZE"
  | .alloc => "UNOS:P1D:FAIL:ALLOC"
  | .read => "UNOS:P1D:FAIL:READ"
  | .shortRead => "UNOS:P1D:FAIL:SHORT_READ"
  | .elf => "UNOS:P1D:FAIL:ELF"
  | .free => "UNOS:P1D:FAIL:FREE"

/-- The pointer is only taken out of its option by `release` and `drop`, which
are the last to see it. -/
structure ScratchPages where
  pointer : NonNull
  pageCount : Nat
  byteLen : Nat
  lease : PageLeaseState
  bounded : byteLen < wordLimit

section

variable {φ ε : Type} (firmware : Firmware φ)

namespace ScratchPages

def allocate (byteLen : Nat) : Program (Machine φ) (Stop KernelLoadError) ScratchPages :=
  match counted : pagesForBytes byteLen with
  | .error _ => .stop (.returned .size)
  | .ok pageCount => do
      let reply ← ask firmware (.allocatePages .anyPages pageCount)
      let (pointer, lease) ← orReturn (acquireWith reply).toOption .alloc
      writeMemory fun memory => fill memory pointer.val byteLen 0
      pure ⟨pointer, pageCount, byteLen, lease, pagesForBytes_eq_ok counted⟩

def bytes (scratch : ScratchPages) (machine : Machine φ) : Bytes where
  data := window machine.hardware.memory scratch.pointer.val scratch.byteLen
  bounded := by
    rw [length_window]
    exact scratch.bounded

/-- A lease that is over is not given back again, here or in the drop. -/
def release (scratch : ScratchPages) :
    Program (Machine φ) ε (Except KernelLoadError Unit) :=
  match scratch.lease.beginRelease with
  | .error _ => pure (.error .free)
  | .ok _ => .call fun machine =>
      freePages firmware KernelLoadError.free .free machine scratch.pointer.val scratch.pageCount

def drop (scratch : ScratchPages) (machine : Machine φ) : Machine φ :=
  match scratch.lease.beginRelease with
  | .error _ => machine
  | .ok _ =>
      (freePages firmware KernelLoadError.free .free machine scratch.pointer.val
        scratch.pageCount).2

end ScratchPages

structure ValidatedKernel where
  entry : Nat
  loadSegmentCount : Nat
  scratch : ScratchPages

def ValidatedKernel.sourceAllocation (kernel : ValidatedKernel) : SourceAllocation where
  pageStart := kernel.scratch.pointer.val
  pageCount := kernel.scratch.pageCount
  fileLength := kernel.scratch.byteLen

/-! ## Reading -/

/-- A request whose answer may be an error. -/
def attemptRequest {α : Type} (request : Request) (result : request.Reply → Except ε α) :
    Program (Machine φ) ε α := do
  let reply ← ask firmware request
  match result reply with
  | .error error => .stop error
  | .ok value => pure value

def uefiFile : PositionedFile (Machine φ) Status where
  seekToEnd := attemptRequest firmware (.setPosition endOfFile) id
  position := attemptRequest firmware .getPosition id
  rewind := attemptRequest firmware (.setPosition 0) id

/-- What is read goes to the front of the slice, and no further. -/
def uefiReader : ByteReader (Machine φ) Status where
  read machine slice :=
    let (reply, machine) := machine.asked firmware (.readFile slice.length)
    (reply.1, reply.2.take slice.length ++ slice.drop reply.2.length, machine)
  sized machine slice := by
    simp only [List.length_append, List.length_take, List.length_drop]
    omega

/-- The reads into the pages.  The slice is exclusive while it is lent out. -/
def readPages (scratch : ScratchPages) :
    Program (Machine φ) ε (Except (ReadStop Status) Unit) :=
  .call fun machine =>
    let (outcome, buffer, machine) := readExactAndCheckEof (uefiReader firmware) scratch.byteLen
      (scratch.bytes machine).data machine
    (outcome, machine.withMemory
      (store machine.hardware.memory scratch.pointer.val buffer))

/-- The errors of the read; a read as long as the buffer is never cut off. -/
def checkRead (outcome : Except (ReadStop Status) Unit) :
    Program (Machine φ) (Stop KernelLoadError) Unit :=
  match outcome with
  | .ok _ => pure ()
  | .error (.failed (.source _)) => .stop (.returned .read)
  | .error (.failed .shortRead) => .stop (.returned .shortRead)
  | .error (.failed .extraData) => .stop (.returned .size)
  | .error .panicked => panicked
  | .error .cutOff => panicked

def readAndValidate (scratch : ScratchPages) :
    Program (Machine φ) (Stop KernelLoadError) (Nat × Nat) := do
  let outcome ← readPages firmware scratch
  checkRead outcome
  writeLine "UNOS:P1D:KERNEL_READ"
  let bytes ← .look scratch.bytes
  match KernelImage.validateBootstrapImage bytes with
  | .error .panic => panicked
  | .error (.rejected _) => .stop (.returned .elf)
  | .ok image => do
      writeLine "UNOS:P1D:KERNEL_VALID"
      pure (image.raw.header.entry, image.loadCount)

def openKernel : Program (Machine φ) (Stop KernelLoadError) Unit := do
  let fileSystem ← ask firmware .getImageFileSystem
  orReturn fileSystem.toOption .open
  let root ← ask firmware .openVolume
  orReturn root.toOption .open
  let handle ← ask firmware (.openFile kernelPath)
  orReturn handle.toOption .open
  let type ← ask firmware .intoType
  let type ← orReturn type.toOption .open
  if type = .dir then .stop (.returned .open) else writeLine "UNOS:P1D:KERNEL_OPEN"

def loadAndValidate : Program (Machine φ) (Stop KernelLoadError) ValidatedKernel := do
  openKernel firmware
  let byteLen ← (measureAndRewind (uefiFile firmware)).mapStop fun _ => .returned .size
  let pages ← ScratchPages.allocate firmware byteLen
  let outcome ← (readAndValidate firmware pages).attempt
  match outcome with
  | .ok metadata => pure ⟨metadata.1, metadata.2, pages⟩
  | .error .failed => .stop .failed
  | .error (.returned error) => do
      let released ← pages.release firmware
      match finalizeWithRelease (.error error) released with
      | .error error => .stop (.returned error)
      | .ok kernel => pure kernel

end

end UnnamedOS.Loader
