import UnnamedOS.Data.Validator
import UnnamedOS.KernelImage.Parse

namespace UnnamedOS.KernelImage

open UnnamedOS.Data

/-! # Which images are accepted

The conditions are stated on the words of the file, without the order in which
the validator looks at them. -/

/-- The file header as the file has it. -/
def headerOf (bytes : Bytes) : RawHeader where
  fileClass := bytes.word 1 4
  endianness := bytes.word 1 5
  identVersion := bytes.word 1 6
  osAbi := bytes.word 1 7
  objectType := bytes.word 2 16
  machine := bytes.word 2 18
  elfVersion := bytes.word 4 20
  entry := bytes.word 8 24
  programHeaderOffset := bytes.word 8 32
  sectionHeaderOffset := bytes.word 8 40
  headerSize := bytes.word 2 52
  programHeaderSize := bytes.word 2 54
  programHeaderCount := bytes.word 2 56
  sectionHeaderSize := bytes.word 2 58
  sectionHeaderCount := bytes.word 2 60

/-- The program header at a file offset. -/
def programAt (bytes : Bytes) (offset : Nat) : RawProgramHeader where
  segmentType := bytes.word 4 offset
  flags := bytes.word 4 (offset + 4)
  fileOffset := bytes.word 8 (offset + 8)
  virtualAddress := bytes.word 8 (offset + 16)
  physicalAddress := bytes.word 8 (offset + 24)
  fileSize := bytes.word 8 (offset + 32)
  memorySize := bytes.word 8 (offset + 40)
  alignment := bytes.word 8 (offset + 48)

/-- ELF64, little-endian, version 1, OSABI 0, `ET_EXEC`, `EM_X86_64`, and
headers of the expected sizes. -/
structure HeaderAcceptable (header : RawHeader) : Prop where
  fileClass : header.fileClass = 2
  endianness : header.endianness = 1
  identVersion : header.identVersion = 1
  osAbi : header.osAbi = 0
  objectType : header.objectType = 2
  machine : header.machine = 62
  elfVersion : header.elfVersion = 1
  headerSize : header.headerSize = 64
  programHeaderSize : header.programHeaderSize = 56
  programHeaderCount : header.programHeaderCount ≤ 128

/-- A symbol table in the file, with no undefined symbol after the first. -/
structure SymbolsAcceptable (bytes : Bytes) (fileOffset entrySize size : Nat) : Prop where
  entrySize : entrySize = 24
  whole : size % 24 = 0
  inFile : fileOffset + size ≤ bytes.length
  defined : ∀ index, 1 ≤ index → index < size / 24 →
    bytes.word 2 (fileOffset + 24 * index + 6) ≠ 0

/-- The section header at a file offset: no relocations, and symbol tables in
order. -/
structure SectionAcceptable (bytes : Bytes) (offset : Nat) : Prop where
  relocations : bytes.word 4 (offset + 4) = shtRel ∨ bytes.word 4 (offset + 4) = shtRela →
    bytes.word 8 (offset + 32) = 0
  symbols : bytes.word 4 (offset + 4) = shtSymtab ∨ bytes.word 4 (offset + 4) = shtDynsym →
    SymbolsAcceptable bytes (bytes.word 8 (offset + 24)) (bytes.word 8 (offset + 56))
      (bytes.word 8 (offset + 32))

structure LoadAcceptable (bytes : Bytes) (program : RawProgramHeader) : Prop where
  nonempty : 0 < program.memorySize
  fileFits : program.fileSize ≤ program.memorySize
  inFile : program.fileOffset + program.fileSize ≤ bytes.length
  physicalFits : program.physicalAddress + program.memorySize < wordLimit
  virtualFits : program.virtualAddress + program.memorySize < wordLimit
  firstCanonical : isCanonical program.virtualAddress
  lastCanonical : isCanonical (program.virtualAddress + program.memorySize - 1)
  aligned : program.alignment ≤ 1 ∨ (∃ exponent, program.alignment = 2 ^ exponent) ∧
    program.fileOffset % program.alignment = program.virtualAddress % program.alignment
  notWritableExecutable : ¬ (program.flags.testBit 1 ∧ program.flags.testBit 0)

/-- Neither the physical nor the virtual ranges of two segments meet. -/
structure Apart (left right : RawProgramHeader) : Prop where
  physical : left.physicalAddress + left.memorySize ≤ right.physicalAddress ∨
    right.physicalAddress + right.memorySize ≤ left.physicalAddress
  virtual : left.virtualAddress + left.memorySize ≤ right.virtualAddress ∨
    right.virtualAddress + right.memorySize ≤ left.virtualAddress

/-- The program headers as a family over the indices. -/
def programOf (bytes : Bytes) (index : Nat) : RawProgramHeader :=
  programAt bytes ((headerOf bytes).programHeaderOffset + index * 56)

def IsLoad (bytes : Bytes) (index : Nat) : Prop :=
  index < (headerOf bytes).programHeaderCount ∧ (programOf bytes index).segmentType = ptLoad

structure Acceptable (bytes : Bytes) : Prop where
  long : 64 ≤ bytes.length
  magic : bytes.data.take 4 = elfMagic
  header : HeaderAcceptable (headerOf bytes)
  programTable : (headerOf bytes).programHeaderOffset +
    56 * (headerOf bytes).programHeaderCount ≤ bytes.length
  sections : (headerOf bytes).sectionHeaderCount = 0 ∨
    (headerOf bytes).sectionHeaderSize = 64 ∧
    (headerOf bytes).sectionHeaderOffset + 64 * (headerOf bytes).sectionHeaderCount ≤
      bytes.length ∧
    ∀ index < (headerOf bytes).sectionHeaderCount,
      SectionAcceptable bytes ((headerOf bytes).sectionHeaderOffset + index * 64)
  noRuntimeLinking : ∀ index < (headerOf bytes).programHeaderCount,
    (programOf bytes index).segmentType ≠ ptInterp ∧
    (programOf bytes index).segmentType ≠ ptDynamic ∧
    (programOf bytes index).segmentType ≠ ptTls
  someLoad : ∃ index, IsLoad bytes index
  loads : ∀ index, IsLoad bytes index → LoadAcceptable bytes (programOf bytes index)
  apart : ∀ first second, first < second → IsLoad bytes first → IsLoad bytes second →
    Apart (programOf bytes first) (programOf bytes second)
  entryCanonical : isCanonical (headerOf bytes).entry
  entryExecutable : ∃ index, IsLoad bytes index ∧ (programOf bytes index).flags.testBit 0 ∧
    (programOf bytes index).virtualAddress ≤ (headerOf bytes).entry ∧
    (headerOf bytes).entry <
      (programOf bytes index).virtualAddress + (programOf bytes index).memorySize

/-! ## Reads that cannot fail -/

section

variable {bytes : Bytes}

theorem indexByte_inside {index : Nat} (inside : index < bytes.length) :
    indexByte bytes index = .ok (bytes.word 1 index) := by
  rw [indexByte, unchecked, Bytes.read_inside inside, okOr_some]

theorem require_inside {width offset : Nat} (error : ValidationError)
    (inside : offset + width ≤ bytes.length) :
    require (Bytes.read width bytes offset) error = .ok (bytes.word width offset) := by
  rw [require, Bytes.read_inside inside, okOr_some]

theorem parse_long (long : 64 ≤ bytes.length) :
    RawImage.parse bytes = .ok ⟨bytes, headerOf bytes⟩ := by
  have notShort : ¬ bytes.length < elfHeaderSize := Nat.not_lt_of_le long
  rw [RawImage.parse, if_neg notShort]
  simp only [readU16, readU32, readU64, ok_bind,
    indexByte_inside (show 4 < bytes.length by omega),
    indexByte_inside (show 5 < bytes.length by omega),
    indexByte_inside (show 6 < bytes.length by omega),
    indexByte_inside (show 7 < bytes.length by omega),
    require_inside _ (show 16 + 2 ≤ bytes.length by omega),
    require_inside _ (show 18 + 2 ≤ bytes.length by omega),
    require_inside _ (show 20 + 4 ≤ bytes.length by omega),
    require_inside _ (show 24 + 8 ≤ bytes.length by omega),
    require_inside _ (show 32 + 8 ≤ bytes.length by omega),
    require_inside _ (show 40 + 8 ≤ bytes.length by omega),
    require_inside _ (show 52 + 2 ≤ bytes.length by omega),
    require_inside _ (show 54 + 2 ≤ bytes.length by omega),
    require_inside _ (show 56 + 2 ≤ bytes.length by omega),
    require_inside _ (show 58 + 2 ≤ bytes.length by omega),
    require_inside _ (show 60 + 2 ≤ bytes.length by omega)]
  rfl

end

end UnnamedOS.KernelImage
