import UnnamedOS.Loader.Machine
import UnnamedOS.Loader.TransferredReservations
import UnnamedOS.MemoryMap.NormalForm

namespace UnnamedOS.Loader

open UnnamedOS.Data UnnamedOS.BootProtocol UnnamedOS.MemoryMap UnnamedOS.PageTable

/-! # After boot services

`finalize_post_exit` builds the kernel's view of the machine from the final
map: in the scratch buffer, then in the converted map, then in the page of the
wire block.  There is nobody left to return an error to, so every failure is a
line on the serial port and the end of the run.  This is the build with the
feature `kernel-handoff-test`. -/

inductive PageTableLoadError where
  | plan
  | allocate
  | materialize
  | verify
  | reserve
deriving DecidableEq, Repr

inductive BootInfoLoadError where
  | gop
  | alloc
  | map
  | convert
  | reservation
  | framebuffer
  | bootInfo
  | pageTable (error : PageTableLoadError)
  | cpuPolicy
  | cr3Stability
deriving DecidableEq, Repr

abbrev BootStop : Type := Stop BootInfoLoadError

structure FinalMapMetadata where
  mapSize : Nat
  descriptorStride : Nat
  descriptorVersion : Nat
  mapKey : Nat
deriving DecidableEq, Repr

inductive PostExitError where
  | invalidBootInformation
  | invalidDescriptors
  | wrongBootInformationAddress
  | invalidPageTableReservation
deriving DecidableEq, Repr

structure PostExitState where
  transferred : TransferredHandoff
  bootInfo : BootInfo
  finalMap : FinalMapMetadata

namespace PostExitState

def fromFinalMap (transferred : TransferredHandoff) (bootInfo : BootInfo)
    (descriptors : List MemoryDescriptor) (finalMap : FinalMapMetadata) :
    Except PostExitError PostExitState :=
  if bootInfo.validate.isOk = false ∨
      toWord descriptors.length ≠ some bootInfo.memoryMap.descriptorCount ∨
      bootInfo.memoryMap.descriptorStride ≠ memoryDescriptorSize then
    .error .invalidBootInformation
  else if ∃ descriptor ∈ descriptors, descriptor.validate.isOk = false then
    .error .invalidDescriptors
  else if transferred.bootInfoAddress ≠ transferred.allocations.bootInfo.pageStart ∨
      bootInfo.memoryMap.physicalAddress ≠ transferred.allocations.convertedMap.pageStart then
    .error .wrongBootInformationAddress
  else if transferred.pageTables.any fun pageTables =>
      !(verifyPageTableReservations pageTables.frames descriptors).isOk then
    .error .invalidPageTableReservation
  else .ok ⟨transferred, bootInfo, finalMap⟩

def descriptorCount (state : PostExitState) : Nat := state.bootInfo.memoryMap.descriptorCount

def pageTableRootFrame (state : PostExitState) : Option Nat :=
  state.transferred.pageTables.map TransferredActivationPreparedPageTables.rootFrame

def pageTableFrameCount (state : PostExitState) : Nat :=
  (state.transferred.pageTables.map TransferredActivationPreparedPageTables.frameCount).getD 0

def activationReadiness (state : PostExitState) : Option ActivationReadiness :=
  state.transferred.pageTables.map TransferredActivationPreparedPageTables.readiness

end PostExitState

/-- `usize::try_from(page_count.checked_mul(4096)?)`. -/
def allocationByteLength (allocation : PageAllocation) : Option Nat :=
  checkedMul allocation.pageCount 4096

/-- Both conversion buffers hold `CONVERTED_DESCRIPTOR_CAPACITY` descriptors. -/
def checkBuffers (allocations : BootDataAllocations) : Option Unit := do
  let scratchLength ← allocationByteLength allocations.conversionScratch
  let convertedLength ← allocationByteLength allocations.convertedMap
  if scratchLength / memoryDescriptorSize < convertedDescriptorCapacity ∨
      convertedLength / memoryDescriptorSize < convertedDescriptorCapacity then
    none
  else some ()

/-- The two buffers as the conversion leaves them, and the length of the map. -/
structure FinalDescriptors where
  scratch : List MemoryDescriptor
  converted : List MemoryDescriptor
  count : Nat

def FinalDescriptors.live (final : FinalDescriptors) : List MemoryDescriptor :=
  final.converted.take final.count

/-- From the raw map to the converted one; every failure is the same to the
caller. -/
def finalDescriptors (transferred : TransferredHandoff) (finalMap : CapturedMapMeta)
    (raw : List UInt8) (scratch : List MemoryDescriptor) : Option FinalDescriptors := do
  let mapped ← convertRawMap mapUefiMemoryKindPostExit raw finalMap
  let (normalizedCount, scratch) ←
    (normalizeMappedMemoryMap (mapped ++ scratch.drop mapped.length) mapped.length).toOption
  let reservations ←
    (reservationsForTransferred transferred transferred.bootstrapStack).toOption
  let finished ← finishOrFail reservations
  let (count, converted) ←
    (applyReservations (scratch.take normalizedCount) finished
      convertedDescriptorCapacity).toOption
  if reservationEvidence true (converted.take count) = false then none
  else some ⟨scratch, converted, count⟩

variable {φ α : Type}

def postExitFailure (marker : String) : Program (Machine φ) BootStop α := failWith marker

/-- A value, or the failure that its absence is reported as. -/
def orFail (value : Option α) (marker : String) : Program (Machine φ) BootStop α :=
  match value with
  | some found => pure found
  | none => postExitFailure marker

/-- An aligned `u64` in memory. -/
def loadWord (memory : Nat → UInt8) (address : Nat) : Nat := leValue (window memory address 8)

/-- What the loader leaves in the registers for the kernel. -/
structure KernelArguments where
  entry : Nat
  bootInfo : Nat
  stackBottom : Nat
  stackTop : Nat
deriving DecidableEq, Repr

def validateHandoffArguments (entry bootInfo bottom top : Nat) :
    Except BootstrapStackError Unit :=
  if entry = 0 ∨ bootInfo = 0 ∨ ¬ bootInfo % 8 = 0 then .error .misaligned
  else do
    let range ← validateBootstrapStack bottom bootstrapStackPages
    if range.stop ≠ top ∨ ¬ top % 16 = 0 then .error .wrongSize else .ok ()

def jumpToKernel (arguments : KernelArguments) : Program (Machine φ) BootStop KernelArguments := do
  orFail (validateHandoffArguments arguments.entry arguments.bootInfo arguments.stackBottom
    arguments.stackTop).toOption "UNOS:P1I:FAIL:HANDOFF"
  writeLine "UNOS:P1I:HANDOFF_READY"
  pure arguments

/-- The map, in both buffers and in memory. -/
def convertFinalMap (transferred : TransferredHandoff) (finalMap : CapturedMapMeta)
    (rawStart rawLength : Nat) : Program (Machine φ) BootStop FinalDescriptors := do
  let allocations := transferred.allocations
  orFail (checkBuffers allocations) "UNOS:P1H:FAIL:FINAL_MAP"
  let memory ← readMemory
  let scratch := MemoryDescriptor.record.loadAll memory allocations.conversionScratch.pageStart
    convertedDescriptorCapacity
  let final ← orFail
    (finalDescriptors transferred finalMap (window memory rawStart rawLength) scratch)
    "UNOS:P1H:FAIL:FINAL_MAP"
  writeMemory fun memory => MemoryDescriptor.record.saveAll memory
    allocations.conversionScratch.pageStart final.scratch
  writeMemory fun memory => MemoryDescriptor.record.saveAll memory
    allocations.convertedMap.pageStart final.converted
  writeLine "UNOS:P1H:FINAL_MAP_CONVERTED"
  pure final

/-- The page tables, once the map is known to reserve all of their frames. -/
def confirmPageTables (transferred : TransferredHandoff) (descriptors : List MemoryDescriptor) :
    Program (Machine φ) BootStop TransferredActivationPreparedPageTables := do
  let pageTables ← orFail transferred.pageTables "UNOS:P1J:FAIL:RESERVATION"
  let _ ← orFail (verifyPageTableReservations pageTables.frames descriptors).toOption
    "UNOS:P1J:FAIL:RESERVATION"
  writeLine "UNOS:P1J:FINAL_MAP_RESERVED"
  pure pageTables

/-- The wire block goes to its page before the last state is built from it. -/
def publishBootInfo (transferred : TransferredHandoff) (finalMap : CapturedMapMeta)
    (descriptors : List MemoryDescriptor) : Program (Machine φ) BootStop PostExitState := do
  let descriptorVersion ← orFail
    (if finalMap.descriptorVersion < 2 ^ 16 then some finalMap.descriptorVersion else none)
    "UNOS:P1H:FAIL:BOOTINFO"
  let bootInfo ← orFail
    (buildBootInfo transferred.allocations.convertedMap.pageStart descriptors descriptorVersion
      transferred.framebuffer).toOption
    "UNOS:P1H:FAIL:BOOTINFO"
  writeMemory fun memory => BootInfo.record.save memory transferred.bootInfoAddress bootInfo
  orFail (PostExitState.fromFinalMap transferred bootInfo descriptors {
      mapSize := finalMap.mapSize
      descriptorStride := finalMap.descriptorStride
      descriptorVersion := finalMap.descriptorVersion
      mapKey := finalMap.mapKey }).toOption
    "UNOS:P1H:FAIL:BOOTINFO"

/-- The last checks before the stack is switched. -/
def checkPostExit (postExit : PostExitState) (pageTableRoot pageTableCount : Nat) :
    Program (Machine φ) BootStop Unit := do
  let readiness ← orFail postExit.activationReadiness "UNOS:P1J:FAIL:CPU_POLICY"
  let cr3 ← .look fun machine => machine.hardware.cpu.cr3
  orFail (readiness.stability.verify cr3).toOption "UNOS:P1J:FAIL:CR3_STABILITY"
  writeLine "UNOS:P1J:CR3_UNCHANGED"
  if postExit.descriptorCount = 0 ∨ postExit.transferred.bootInfoAddress = 0 ∨
      postExit.transferred.kernelEntry = 0 ∨
      ¬ (postExit.pageTableRootFrame = some pageTableRoot ∧
        postExit.pageTableFrameCount = pageTableCount) then
    postExitFailure "UNOS:P1H:FAIL:BOOTINFO"
  else do
    writeLine "UNOS:P1H:BOOTINFO_FINAL"
    writeLine "UNOS:P1J:ACTIVATION_PREPARED_INACTIVE"
    writeLine "UNOS:P1H:OWNERSHIP_TRANSFERRED"
    writeLine "UNOS:P1J:OWNERSHIP_TRANSFERRED"
    writeLine "UNOS:P1H:PASS"

def finalizePostExit (transferred : TransferredHandoff) (finalMap : CapturedMapMeta)
    (rawStart rawLength : Nat) : Program (Machine φ) BootStop KernelArguments := do
  let final ← convertFinalMap transferred finalMap rawStart rawLength
  let pageTables ← confirmPageTables transferred final.live
  let postExit ← publishBootInfo transferred finalMap final.live
  checkPostExit postExit pageTables.rootFrame pageTables.frameCount
  let stack ← orFail transferred.bootstrapStack "UNOS:P1I:FAIL:STACK"
  let memory ← readMemory
  if loadWord memory stack.canaryAddress ≠ stack.canaryValue then
    postExitFailure "UNOS:P1I:FAIL:STACK"
  else
    jumpToKernel {
      entry := postExit.transferred.kernelEntry
      bootInfo := postExit.transferred.bootInfoAddress
      stackBottom := stack.bottom
      stackTop := stack.top }

/-! ## How the stages run -/

section

variable {machine : Machine φ} {marker : String}

theorem postExitFailure_run :
    (postExitFailure marker : Program (Machine φ) BootStop α) machine =
      (.error .failed, machine.say [marker]) := rfl

theorem orFail_some {value : α} :
    (orFail (some value) marker : Program (Machine φ) BootStop α) machine =
      (.ok value, machine) := rfl

theorem orFail_ok {ε : Type} {run : Except ε α} {value : α} (ran : run = .ok value) :
    (orFail run.toOption marker : Program (Machine φ) BootStop α) machine = (.ok value, machine) := by
  rw [ran]
  rfl

theorem writeMemory_run {update : (Nat → UInt8) → Nat → UInt8} :
    (writeMemory update : Program (Machine φ) BootStop Unit) machine =
      (.ok (), machine.withMemory (update machine.hardware.memory)) := rfl

theorem readMemory_run :
    (readMemory : Program (Machine φ) BootStop _) machine =
      (.ok machine.hardware.memory, machine) := rfl

end

/-- The run has stopped after these lines, whatever it wrote before. -/
def FailsWith (machine : Machine φ) (texts : List String)
    (outcome : Except BootStop α × Machine φ) : Prop :=
  ∃ memory, outcome = (.error .failed, (machine.withMemory memory).say texts)

theorem FailsWith.bind {β : Type} {machine : Machine φ} {texts : List String}
    {first : Program (Machine φ) BootStop α} {next : α → Program (Machine φ) BootStop β}
    (fails : FailsWith machine texts (first machine)) :
    FailsWith machine texts ((first >>= next) machine) := by
  obtain ⟨memory, ran⟩ := fails
  exact ⟨memory, Program.bind_of_error ran⟩

theorem FailsWith.later {machine : Machine φ} {memory : Nat → UInt8} {texts later : List String}
    {outcome : Except BootStop α × Machine φ}
    (fails : FailsWith ((machine.withMemory memory).say texts) later outcome) :
    FailsWith machine (texts ++ later) outcome := by
  obtain ⟨written, rfl⟩ := fails
  exact ⟨written, by rw [say_withMemory, say_say, withMemory_withMemory]⟩

theorem orFail_cases (value : Option α) (marker : String) (machine : Machine φ) :
    FailsWith machine [marker] ((orFail value marker : Program _ _ α) machine) ∨
      ∃ found, value = some found ∧
        (orFail value marker : Program _ _ α) machine = (.ok found, machine) := by
  cases value with
  | none => exact .inl ⟨machine.hardware.memory, rfl⟩
  | some found => exact .inr ⟨found, rfl, rfl⟩

end UnnamedOS.Loader
