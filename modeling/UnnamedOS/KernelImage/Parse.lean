import UnnamedOS.Data.Bytes
import UnnamedOS.Data.Fallible

namespace UnnamedOS.KernelImage

open UnnamedOS.Data

/-! # The ELF64 validator

An operation the source leaves unchecked (an index, an addition, a
subtraction) is modelled with the outcome `panic`, apart from the rejections
the validator reports. -/

@[simp] def elfHeaderSize : Nat := 64
@[simp] def programHeaderSize : Nat := 56
@[simp] def sectionHeaderSize : Nat := 64
@[simp] def maxProgramHeaders : Nat := 128
@[simp] def ptLoad : Nat := 1
@[simp] def ptDynamic : Nat := 2
@[simp] def ptInterp : Nat := 3
@[simp] def ptTls : Nat := 7
@[simp] def pfExecute : Nat := 1
@[simp] def pfWrite : Nat := 2
@[simp] def shtSymtab : Nat := 2
@[simp] def shtRela : Nat := 4
@[simp] def shtRel : Nat := 9
@[simp] def shtDynsym : Nat := 11
@[simp] def elf64SymbolSize : Nat := 24

inductive ValidationError where
  | headerTooSmall
  | badMagic
  | unsupportedClass
  | unsupportedEndianness
  | unsupportedIdentVersion
  | unsupportedOsAbi
  | unsupportedObjectType
  | unsupportedMachine
  | unsupportedElfVersion
  | invalidHeaderSize
  | invalidProgramHeaderSize
  | tooManyProgramHeaders
  | programHeaderTableOverflow
  | programHeaderTableOutsideFile
  | invalidSectionHeaderSize
  | sectionHeaderTableOverflow
  | sectionHeaderTableOutsideFile
  | runtimeRelocations
  | interpreterSegment
  | dynamicSegment
  | tlsSegment
  | noLoadSegments
  | zeroLengthLoadSegment
  | fileSizeExceedsMemorySize
  | segmentFileRangeOverflow
  | segmentOutsideFile
  | segmentMemoryRangeOverflow
  | invalidAlignment
  | invalidOffsetAddressCongruence
  | writableExecutableSegment
  | nonCanonicalAddress
  | physicalVirtualAddressMismatch
  | overlappingLoadSegments
  | overlappingVirtualLoadSegments
  | entryOutsideExecutableSegment
  | invalidPageSize
  | invalidSymbolTable
  | undefinedRuntimeSymbol
deriving DecidableEq, Repr

/-- How a run can end without a value. -/
inductive Failure where
  | panic
  | rejected (error : ValidationError)
deriving DecidableEq, Repr

abbrev Checked (α : Type) := Except Failure α

/-- `.ok_or(error)?`. -/
abbrev require {α : Type} (value : Option α) (error : ValidationError) : Checked α :=
  okOr value (.rejected error)

/-- An operation that panics where it has no value. -/
abbrev unchecked {α : Type} (value : Option α) : Checked α := okOr value .panic

abbrev reject {α : Type} (error : ValidationError) : Checked α := .error (.rejected error)

/-! ## Headers -/

structure RawHeader where
  fileClass : Nat
  endianness : Nat
  identVersion : Nat
  osAbi : Nat
  objectType : Nat
  machine : Nat
  elfVersion : Nat
  entry : Nat
  programHeaderOffset : Nat
  sectionHeaderOffset : Nat
  headerSize : Nat
  programHeaderSize : Nat
  programHeaderCount : Nat
  sectionHeaderSize : Nat
  sectionHeaderCount : Nat
deriving DecidableEq, Repr

structure RawProgramHeader where
  segmentType : Nat
  flags : Nat
  fileOffset : Nat
  virtualAddress : Nat
  physicalAddress : Nat
  fileSize : Nat
  memorySize : Nat
  alignment : Nat
deriving DecidableEq, Repr

structure RawImage where
  bytes : Bytes
  header : RawHeader

def readU16 : Bytes → Nat → Option Nat := Bytes.read 2
def readU32 : Bytes → Nat → Option Nat := Bytes.read 4
def readU64 : Bytes → Nat → Option Nat := Bytes.read 8

/-- `bytes[index]`. -/
def indexByte (bytes : Bytes) (index : Nat) : Checked Nat :=
  unchecked (Bytes.read 1 bytes index)

def RawImage.parse (bytes : Bytes) : Checked RawImage :=
  if bytes.length < elfHeaderSize then reject .headerTooSmall
  else do
    let fileClass ← indexByte bytes 4
    let endianness ← indexByte bytes 5
    let identVersion ← indexByte bytes 6
    let osAbi ← indexByte bytes 7
    let objectType ← require (readU16 bytes 16) .headerTooSmall
    let machine ← require (readU16 bytes 18) .headerTooSmall
    let elfVersion ← require (readU32 bytes 20) .headerTooSmall
    let entry ← require (readU64 bytes 24) .headerTooSmall
    let programHeaderOffset ← require (readU64 bytes 32) .headerTooSmall
    let sectionHeaderOffset ← require (readU64 bytes 40) .headerTooSmall
    let headerSize ← require (readU16 bytes 52) .headerTooSmall
    let programHeaderSize ← require (readU16 bytes 54) .headerTooSmall
    let programHeaderCount ← require (readU16 bytes 56) .headerTooSmall
    let sectionHeaderSize ← require (readU16 bytes 58) .headerTooSmall
    let sectionHeaderCount ← require (readU16 bytes 60) .headerTooSmall
    .ok {
      bytes
      header := {
        fileClass, endianness, identVersion, osAbi, objectType, machine, elfVersion, entry,
        programHeaderOffset, sectionHeaderOffset, headerSize, programHeaderSize,
        programHeaderCount, sectionHeaderSize, sectionHeaderCount } }

/-- The `_at` readers convert a `u64` offset to `usize`, which is the identity
on 64 bits. -/
def parseProgramHeader (bytes : Bytes) (offset : Nat) : Option RawProgramHeader := do
  let segmentType ← readU32 bytes offset
  let flags ← readU32 bytes (← checkedAdd offset 4)
  let fileOffset ← readU64 bytes (← checkedAdd offset 8)
  let virtualAddress ← readU64 bytes (← checkedAdd offset 16)
  let physicalAddress ← readU64 bytes (← checkedAdd offset 24)
  let fileSize ← readU64 bytes (← checkedAdd offset 32)
  let memorySize ← readU64 bytes (← checkedAdd offset 40)
  let alignment ← readU64 bytes (← checkedAdd offset 48)
  some {
    segmentType, flags, fileOffset, virtualAddress, physicalAddress, fileSize, memorySize,
    alignment }

def RawImage.programHeader (raw : RawImage) (index : Nat) : Option RawProgramHeader :=
  if index ≥ raw.header.programHeaderCount then none
  else do
    let relative ← checkedMul index raw.header.programHeaderSize
    let offset ← checkedAdd raw.header.programHeaderOffset relative
    parseProgramHeader raw.bytes offset

/-! ## Checks -/

def isCanonical (address : Nat) : Prop :=
  address ≤ 0x0000_7fff_ffff_ffff ∨ address ≥ 0xffff_8000_0000_0000

instance (address : Nat) : Decidable (isCanonical address) := inferInstanceAs (Decidable (_ ∨ _))

/-- `u64::is_power_of_two`. -/
def isPowerOfTwo (value : Nat) : Prop := value ≠ 0 ∧ 2 ^ Nat.log2 value = value

instance (value : Nat) : Decidable (isPowerOfTwo value) := inferInstanceAs (Decidable (_ ∧ _))

def rangesOverlap (aStart aEnd bStart bEnd : Nat) : Prop := aStart < bEnd ∧ bStart < aEnd

instance (aStart aEnd bStart bEnd : Nat) : Decidable (rangesOverlap aStart aEnd bStart bEnd) :=
  inferInstanceAs (Decidable (_ ∧ _))

def elfMagic : List UInt8 := [0x7f, 0x45, 0x4c, 0x46]

def validateMagic (bytes : Bytes) : Checked Unit :=
  if bytes.length < 4 then reject .headerTooSmall
  else do
    let start ← unchecked (bytes.get 0 4)
    if start.toList ≠ elfMagic then reject .badMagic else .ok ()

def validateHeader (header : RawHeader) : Checked Unit :=
  if header.fileClass ≠ 2 then reject .unsupportedClass
  else if header.endianness ≠ 1 then reject .unsupportedEndianness
  else if header.identVersion ≠ 1 then reject .unsupportedIdentVersion
  else if header.osAbi ≠ 0 then reject .unsupportedOsAbi
  else if header.objectType ≠ 2 then reject .unsupportedObjectType
  else if header.machine ≠ 62 then reject .unsupportedMachine
  else if header.elfVersion ≠ 1 then reject .unsupportedElfVersion
  else if header.headerSize ≠ elfHeaderSize then reject .invalidHeaderSize
  else if header.programHeaderSize ≠ programHeaderSize then reject .invalidProgramHeaderSize
  else if header.programHeaderCount > maxProgramHeaders then reject .tooManyProgramHeaders
  else .ok ()

def validateProgramTable (raw : RawImage) : Checked Unit := do
  let tableSize ← require
    (checkedMul raw.header.programHeaderSize raw.header.programHeaderCount)
    .programHeaderTableOverflow
  let tableEnd ← require (checkedAdd raw.header.programHeaderOffset tableSize)
    .programHeaderTableOverflow
  if tableEnd > raw.bytes.length then reject .programHeaderTableOutsideFile else .ok ()

def validateSymbol (bytes : Bytes) (fileOffset entrySize index : Nat) : Checked Unit := do
  let relative ← require (checkedMul index entrySize) .sectionHeaderTableOverflow
  let symbol ← require (checkedAdd fileOffset relative) .sectionHeaderTableOverflow
  let position ← unchecked (checkedAdd symbol 6)
  let sectionIndex ← require (readU16 bytes position) .sectionHeaderTableOutsideFile
  if sectionIndex = 0 then reject .undefinedRuntimeSymbol else .ok ()

def validateSymbolTable (bytes : Bytes) (sectionOffset sectionSize : Nat) : Checked Unit := do
  let offsetPosition ← unchecked (checkedAdd sectionOffset 24)
  let fileOffset ← require (readU64 bytes offsetPosition) .sectionHeaderTableOutsideFile
  let sizePosition ← unchecked (checkedAdd sectionOffset 56)
  let entrySize ← require (readU64 bytes sizePosition) .sectionHeaderTableOutsideFile
  if entrySize ≠ elf64SymbolSize ∨ ¬ sectionSize % entrySize = 0 then reject .invalidSymbolTable
  else do
    let stop ← require (checkedAdd fileOffset sectionSize) .sectionHeaderTableOverflow
    if stop > bytes.length then reject .sectionHeaderTableOutsideFile
    else
      let count := sectionSize / entrySize
      checkAll (validateSymbol bytes fileOffset entrySize) (List.range' 1 (count - 1))

def validateSection (raw : RawImage) (index : Nat) : Checked Unit := do
  let relative ← require (checkedMul index raw.header.sectionHeaderSize) .sectionHeaderTableOverflow
  let offset ← require (checkedAdd raw.header.sectionHeaderOffset relative)
    .sectionHeaderTableOverflow
  let typePosition ← unchecked (checkedAdd offset 4)
  let sectionType ← require (readU32 raw.bytes typePosition) .sectionHeaderTableOutsideFile
  let sizePosition ← unchecked (checkedAdd offset 32)
  let sectionSize ← require (readU64 raw.bytes sizePosition) .sectionHeaderTableOutsideFile
  if (sectionType = shtRel ∨ sectionType = shtRela) ∧ sectionSize ≠ 0 then
    reject .runtimeRelocations
  else if sectionType = shtSymtab ∨ sectionType = shtDynsym then
    validateSymbolTable raw.bytes offset sectionSize
  else .ok ()

def validateSectionTable (raw : RawImage) : Checked Unit :=
  if raw.header.sectionHeaderCount = 0 then .ok ()
  else if raw.header.sectionHeaderSize ≠ sectionHeaderSize then reject .invalidSectionHeaderSize
  else do
    let tableSize ← require
      (checkedMul raw.header.sectionHeaderSize raw.header.sectionHeaderCount)
      .sectionHeaderTableOverflow
    let tableEnd ← require (checkedAdd raw.header.sectionHeaderOffset tableSize)
      .sectionHeaderTableOverflow
    if tableEnd > raw.bytes.length then reject .sectionHeaderTableOutsideFile
    else checkAll (validateSection raw) (List.range raw.header.sectionHeaderCount)

/-- The ends of the segment's physical and virtual ranges. -/
def validateLoadSegment (bytes : Bytes) (program : RawProgramHeader) : Checked (Nat × Nat) :=
  if program.memorySize = 0 then reject .zeroLengthLoadSegment
  else if program.fileSize > program.memorySize then reject .fileSizeExceedsMemorySize
  else do
    let fileEnd ← require (checkedAdd program.fileOffset program.fileSize)
      .segmentFileRangeOverflow
    if fileEnd > bytes.length then reject .segmentOutsideFile
    else do
      let memoryEnd ← require (checkedAdd program.physicalAddress program.memorySize)
        .segmentMemoryRangeOverflow
      let virtualEnd ← require (checkedAdd program.virtualAddress program.memorySize)
        .segmentMemoryRangeOverflow
      if ¬ isCanonical program.virtualAddress then reject .nonCanonicalAddress
      else do
        let last ← unchecked (checkedSub virtualEnd 1)
        if ¬ isCanonical last then reject .nonCanonicalAddress
        else if program.alignment > 1 ∧ ¬ isPowerOfTwo program.alignment then
          reject .invalidAlignment
        else if program.alignment > 1 ∧
            program.fileOffset % program.alignment ≠
              program.virtualAddress % program.alignment then
          reject .invalidOffsetAddressCongruence
        else if program.flags &&& (pfWrite ||| pfExecute) = pfWrite ||| pfExecute then
          reject .writableExecutableSegment
        else .ok (memoryEnd, virtualEnd)

/-! ## The parser -/

structure ValidatedImage where
  raw : RawImage
  loadCount : Nat
  loadStart : Nat
  loadEnd : Nat
  virtualLoadStart : Nat
  virtualLoadEnd : Nat

/-- The mutable locals of the loop over the program headers. -/
structure LoadScan where
  loadCount : Nat := 0
  loadStart : Nat := wordLimit - 1
  loadEnd : Nat := 0
  virtualLoadStart : Nat := wordLimit - 1
  virtualLoadEnd : Nat := 0
  entryIsExecutable : Bool := false

/-- One round of the inner loop: a load segment against an earlier header. -/
def checkPrevious (raw : RawImage) (program : RawProgramHeader) (physicalEnd virtualEnd : Nat)
    (previousIndex : Nat) : Checked Unit := do
  let previous ← require (raw.programHeader previousIndex) .programHeaderTableOutsideFile
  if previous.segmentType ≠ ptLoad then .ok ()
  else do
    let previousPhysicalEnd ← require
      (checkedAdd previous.physicalAddress previous.memorySize) .segmentMemoryRangeOverflow
    if rangesOverlap previous.physicalAddress previousPhysicalEnd program.physicalAddress
        physicalEnd then
      reject .overlappingLoadSegments
    else do
      let previousVirtualEnd ← require
        (checkedAdd previous.virtualAddress previous.memorySize) .segmentMemoryRangeOverflow
      if rangesOverlap previous.virtualAddress previousVirtualEnd program.virtualAddress
          virtualEnd then
        reject .overlappingVirtualLoadSegments
      else .ok ()

/-- The `PT_LOAD` arm. -/
def scanLoad (raw : RawImage) (scan : LoadScan) (index : Nat) (program : RawProgramHeader) :
    Checked LoadScan := do
  let (physicalEnd, virtualEnd) ← validateLoadSegment raw.bytes program
  checkAll (checkPrevious raw program physicalEnd virtualEnd) (List.range index)
  -- `load_count` is a `u16`.
  let loadCount ← unchecked (if scan.loadCount + 1 < 2 ^ 16 then some (scan.loadCount + 1) else none)
  .ok {
    loadCount
    loadStart := min scan.loadStart program.physicalAddress
    loadEnd := max scan.loadEnd physicalEnd
    virtualLoadStart := min scan.virtualLoadStart program.virtualAddress
    virtualLoadEnd := max scan.virtualLoadEnd virtualEnd
    entryIsExecutable := scan.entryIsExecutable ||
      decide (program.flags &&& pfExecute ≠ 0 ∧ raw.header.entry ≥ program.virtualAddress ∧
        raw.header.entry < virtualEnd) }

def scanProgram (raw : RawImage) (scan : LoadScan) (index : Nat) : Checked LoadScan := do
  let program ← require (raw.programHeader index) .programHeaderTableOutsideFile
  if program.segmentType = ptInterp then reject .interpreterSegment
  else if program.segmentType = ptDynamic then reject .dynamicSegment
  else if program.segmentType = ptTls then reject .tlsSegment
  else if program.segmentType = ptLoad then scanLoad raw scan index program
  else .ok scan

def ValidatedImage.parse (bytes : Bytes) : Checked ValidatedImage := do
  validateMagic bytes
  let raw ← RawImage.parse bytes
  validateHeader raw.header
  validateProgramTable raw
  validateSectionTable raw
  let scan ← (List.range raw.header.programHeaderCount).foldlM (scanProgram raw) {}
  if scan.loadCount = 0 then reject .noLoadSegments
  else if ¬ isCanonical raw.header.entry ∨ scan.entryIsExecutable = false then
    reject .entryOutsideExecutableSegment
  else .ok {
    raw
    loadCount := scan.loadCount
    loadStart := scan.loadStart
    loadEnd := scan.loadEnd
    virtualLoadStart := scan.virtualLoadStart
    virtualLoadEnd := scan.virtualLoadEnd }

/-! ## The load segments of an image -/

structure LoadSegment where
  fileOffset : Nat
  fileSize : Nat
  memorySize : Nat
  physicalAddress : Nat
  virtualAddress : Nat
  alignment : Nat
  flags : Nat
deriving DecidableEq, Repr

def RawProgramHeader.loadSegment (raw : RawProgramHeader) : LoadSegment where
  fileOffset := raw.fileOffset
  fileSize := raw.fileSize
  memorySize := raw.memorySize
  physicalAddress := raw.physicalAddress
  virtualAddress := raw.virtualAddress
  alignment := raw.alignment
  flags := raw.flags

/-- What the iterator yields from the given header indices on: it ends for
good at a header it cannot read. -/
def segmentsFrom (raw : RawImage) : List Nat → List LoadSegment
  | [] => []
  | index :: rest =>
      match raw.programHeader index with
      | none => []
      | some program =>
          if program.segmentType = ptLoad then program.loadSegment :: segmentsFrom raw rest
          else segmentsFrom raw rest

def ValidatedImage.loadSegments (image : ValidatedImage) : List LoadSegment :=
  segmentsFrom image.raw (List.range image.raw.header.programHeaderCount)

end UnnamedOS.KernelImage
