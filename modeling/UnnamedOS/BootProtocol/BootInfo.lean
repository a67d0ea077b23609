import UnnamedOS.Data.Fallible
import UnnamedOS.Data.Spans
import UnnamedOS.Data.Word

namespace UnnamedOS.BootProtocol

open UnnamedOS.Data

/-! # The loader-to-kernel wire block

Raw records of fixed-width integers and the checks both sides run on them.
Fields are naturals; wherever a check adds or multiplies, it does so on 64
bits. -/

/-- ASCII `UNOSBOOT` as a little-endian word. -/
@[simp] def abiMagic : Nat := 0x544f_4f42_534f_4e55
@[simp] def abiMajor : Nat := 1
@[simp] def abiMinor : Nat := 0
@[simp] def bootInfoHeaderSize : Nat := 32
@[simp] def bootInfoSize : Nat := 128
@[simp] def memoryDescriptorSize : Nat := 32
@[simp] def memoryDescriptorAlignment : Nat := 8
@[simp] def memoryPageSize : Nat := 4096
@[simp] def pixelFormatRgbx8888 : Nat := 1
@[simp] def pixelFormatBgrx8888 : Nat := 2
@[simp] def bytesPerPixel : Nat := 4

@[simp] def memoryKindUsable : Nat := 1
@[simp] def memoryKindReserved : Nat := 2
@[simp] def memoryKindAcpiReclaim : Nat := 3
@[simp] def memoryKindRuntime : Nat := 4
@[simp] def memoryKindKernelImage : Nat := 5
@[simp] def memoryKindBootInfo : Nat := 6
@[simp] def memoryKindBootMemoryMap : Nat := 7
@[simp] def memoryKindLoader : Nat := 8
@[simp] def memoryKindFramebuffer : Nat := 9
@[simp] def memoryKindUnusable : Nat := 10
@[simp] def memoryKindPersistent : Nat := 11
@[simp] def memoryKindBootstrapStack : Nat := 12
@[simp] def memoryKindPageTable : Nat := 13

structure BootInfoHeader where
  magic : Nat
  abiMajor : Nat
  abiMinor : Nat
  headerSize : Nat
  reserved0 : Nat
  totalSize : Nat
  reserved1 : Nat
  flags : Nat
deriving DecidableEq, Repr

structure MemoryMapInfo where
  physicalAddress : Nat
  descriptorCount : Nat
  descriptorStride : Nat
  descriptorVersion : Nat
  reserved0 : Nat
  byteLength : Nat
  reserved1 : Nat
deriving DecidableEq, Repr

structure MemoryDescriptor where
  kind : Nat
  reserved0 : Nat
  physicalStart : Nat
  pageCount : Nat
  attributes : Nat
deriving DecidableEq, Repr

structure FramebufferInfo where
  physicalAddress : Nat
  byteLength : Nat
  width : Nat
  height : Nat
  pixelsPerScanline : Nat
  pixelFormat : Nat
  reserved0 : Nat
deriving DecidableEq, Repr

structure BootInfo where
  header : BootInfoHeader
  memoryMap : MemoryMapInfo
  framebuffer : FramebufferInfo
  reserved0 : Nat
  reserved1 : Nat
deriving DecidableEq, Repr

inductive ReservedField where
  | header0
  | header1
  | memoryMap0
  | memoryMap1
  | memoryDescriptor0
  | framebuffer0
  | bootInfo0
  | bootInfo1
deriving DecidableEq, Repr

inductive ValidationError where
  | badMagic
  | unsupportedMajorVersion
  | invalidHeaderSize
  | invalidTotalSize
  | unsupportedFlags
  | reservedNotZero (field : ReservedField)
  | invalidMemoryMapAddress
  | invalidDescriptorCount
  | invalidDescriptorStride
  | memoryMapSizeOverflow
  | memoryMapLengthMismatch
  | memoryMapRangeOverflow
  | invalidMemoryDescriptorRange
  | memoryDescriptorSizeOverflow
  | memoryDescriptorRangeOverflow
  | invalidFramebufferAddress
  | invalidFramebufferLength
  | invalidFramebufferDimensions
  | invalidFramebufferStride
  | unknownPixelFormat
  | framebufferSizeOverflow
  | framebufferTooSmall
  | framebufferRangeOverflow
deriving DecidableEq, Repr

structure ValidatedMemoryDescriptor where
  raw : MemoryDescriptor
  byteLength : Nat
deriving DecidableEq

def MemoryDescriptor.validate (descriptor : MemoryDescriptor) :
    Except ValidationError ValidatedMemoryDescriptor :=
  if descriptor.reserved0 ≠ 0 then .error (.reservedNotZero .memoryDescriptor0)
  else if descriptor.pageCount = 0 ∨ ¬ descriptor.physicalStart % memoryPageSize = 0 then
    .error .invalidMemoryDescriptorRange
  else do
    let byteLength ←
      okOr (checkedMul descriptor.pageCount memoryPageSize) .memoryDescriptorSizeOverflow
    let _ ← okOr (checkedAdd descriptor.physicalStart byteLength) .memoryDescriptorRangeOverflow
    .ok ⟨descriptor, byteLength⟩

def validateHeader (header : BootInfoHeader) : Except ValidationError Unit :=
  if header.magic ≠ abiMagic then .error .badMagic
  else if header.abiMajor ≠ abiMajor then .error .unsupportedMajorVersion
  else if header.headerSize ≠ bootInfoHeaderSize then .error .invalidHeaderSize
  else if ¬ (if header.abiMinor = abiMinor then header.totalSize = bootInfoSize
      else header.totalSize ≥ bootInfoSize) then .error .invalidTotalSize
  else if header.reserved0 ≠ 0 then .error (.reservedNotZero .header0)
  else if header.reserved1 ≠ 0 then .error (.reservedNotZero .header1)
  else if header.flags ≠ 0 then .error .unsupportedFlags
  else .ok ()

def validateMemoryMap (memoryMap : MemoryMapInfo) : Except ValidationError Nat :=
  if memoryMap.physicalAddress = 0 then .error .invalidMemoryMapAddress
  else if memoryMap.descriptorCount = 0 then .error .invalidDescriptorCount
  else if memoryMap.descriptorStride < memoryDescriptorSize ∨
      ¬ memoryMap.descriptorStride % memoryDescriptorAlignment = 0 then
    .error .invalidDescriptorStride
  else if memoryMap.reserved0 ≠ 0 then .error (.reservedNotZero .memoryMap0)
  else if memoryMap.reserved1 ≠ 0 then .error (.reservedNotZero .memoryMap1)
  else do
    let byteLength ←
      okOr (checkedMul memoryMap.descriptorCount memoryMap.descriptorStride) .memoryMapSizeOverflow
    if byteLength ≠ memoryMap.byteLength then .error .memoryMapLengthMismatch
    else do
      let _ ← okOr (checkedAdd memoryMap.physicalAddress byteLength) .memoryMapRangeOverflow
      .ok byteLength

theorem validateMemoryMap_eq_ok {memoryMap : MemoryMapInfo} {byteLength : Nat} :
    validateMemoryMap memoryMap = .ok byteLength ↔
      memoryMap.physicalAddress ≠ 0 ∧ memoryMap.descriptorCount ≠ 0 ∧
      (memoryDescriptorSize ≤ memoryMap.descriptorStride ∧
        memoryMap.descriptorStride % memoryDescriptorAlignment = 0) ∧
      memoryMap.reserved0 = 0 ∧ memoryMap.reserved1 = 0 ∧
      memoryMap.descriptorCount * memoryMap.descriptorStride = byteLength ∧
      memoryMap.byteLength = byteLength ∧ memoryMap.physicalAddress + byteLength < wordLimit := by
  simp only [validateMemoryMap, guard_eq_ok, bind_eq_ok, okOr_eq_ok, checkedMul_eq_some,
    checkedAdd_eq_some, Except.ok.injEq]
  constructor
  · rintro ⟨address, count, stride, reserved0, reserved1, _, ⟨_, rfl⟩, same, _, ⟨bound, _⟩, rfl⟩
    exact ⟨address, count, by omega, by omega, by omega, rfl, by omega, bound⟩
  · rintro ⟨address, count, stride, reserved0, reserved1, rfl, same, bound⟩
    exact ⟨address, count, by omega, by omega, by omega, _, ⟨by omega, rfl⟩, by omega, _,
      ⟨bound, rfl⟩, rfl⟩

/-- `pixels_per_scanline * height * 4` on 64 bits. -/
def framebufferBytes (pixelsPerScanline height : Nat) : Option Nat := do
  let pixels ← checkedMul pixelsPerScanline height
  checkedMul pixels bytesPerPixel

def validateFramebuffer (framebuffer : FramebufferInfo) : Except ValidationError Nat :=
  if framebuffer.physicalAddress = 0 then .error .invalidFramebufferAddress
  else if framebuffer.byteLength = 0 then .error .invalidFramebufferLength
  else if framebuffer.width = 0 ∨ framebuffer.height = 0 then .error .invalidFramebufferDimensions
  else if framebuffer.pixelsPerScanline < framebuffer.width then .error .invalidFramebufferStride
  else if ¬ (framebuffer.pixelFormat = pixelFormatRgbx8888 ∨
      framebuffer.pixelFormat = pixelFormatBgrx8888) then .error .unknownPixelFormat
  else if framebuffer.reserved0 ≠ 0 then .error (.reservedNotZero .framebuffer0)
  else do
    let requiredBytes ←
      okOr (framebufferBytes framebuffer.pixelsPerScanline framebuffer.height)
        .framebufferSizeOverflow
    if framebuffer.byteLength < requiredBytes then .error .framebufferTooSmall
    else do
      let _ ← okOr (checkedAdd framebuffer.physicalAddress framebuffer.byteLength)
        .framebufferRangeOverflow
      .ok requiredBytes

structure ValidatedBootInfo where
  raw : BootInfo
  memoryMapByteLength : Nat
  framebufferRequiredBytes : Nat
deriving DecidableEq

namespace BootInfo

def new (memoryMap : MemoryMapInfo) (framebuffer : FramebufferInfo) : BootInfo where
  header := {
    magic := abiMagic
    abiMajor := abiMajor
    abiMinor := abiMinor
    headerSize := bootInfoHeaderSize
    reserved0 := 0
    totalSize := bootInfoSize
    reserved1 := 0
    flags := 0 }
  memoryMap := memoryMap
  framebuffer := framebuffer
  reserved0 := 0
  reserved1 := 0

def validate (info : BootInfo) : Except ValidationError ValidatedBootInfo := do
  validateHeader info.header
  let memoryMapByteLength ← validateMemoryMap info.memoryMap
  let framebufferRequiredBytes ← validateFramebuffer info.framebuffer
  if info.reserved0 ≠ 0 then .error (.reservedNotZero .bootInfo0)
  else if info.reserved1 ≠ 0 then .error (.reservedNotZero .bootInfo1)
  else .ok ⟨info, memoryMapByteLength, framebufferRequiredBytes⟩

end BootInfo

theorem validate_memoryMap {bootInfo : BootInfo} {validated : ValidatedBootInfo}
    (accepted : bootInfo.validate = .ok validated) :
    ∃ byteLength, validateMemoryMap bootInfo.memoryMap = .ok byteLength := by
  obtain ⟨_, _, accepted⟩ := bind_eq_ok.mp accepted
  obtain ⟨byteLength, shape, _⟩ := bind_eq_ok.mp accepted
  exact ⟨byteLength, shape⟩

namespace MemoryDescriptor

/-- One past the last byte of the descriptor's pages. -/
def stop (descriptor : MemoryDescriptor) : Nat :=
  descriptor.physicalStart + descriptor.pageCount * memoryPageSize

/-- The address lies in one of the descriptor's pages. -/
abbrev Contains (descriptor : MemoryDescriptor) (address : Nat) : Prop :=
  Covers physicalStart stop descriptor address

/-- What `validate` has checked. -/
structure Valid (descriptor : MemoryDescriptor) : Prop where
  reserved : descriptor.reserved0 = 0
  nonempty : 0 < descriptor.pageCount
  aligned : descriptor.physicalStart % memoryPageSize = 0
  bounded : descriptor.stop < wordLimit

theorem validate_iff {descriptor : MemoryDescriptor} :
    (∃ validated, descriptor.validate = .ok validated) ↔ descriptor.Valid := by
  simp only [validate, guard_eq_ok, bind_eq_ok, okOr_eq_ok, checkedMul_eq_some, checkedAdd_eq_some,
    Except.ok.injEq]
  constructor
  · rintro ⟨_, reserved, range, _, ⟨_, rfl⟩, _, ⟨bound, _⟩, _⟩
    exact ⟨by omega, by omega, by omega, bound⟩
  · rintro ⟨reserved, nonempty, aligned, bounded⟩
    simp only [stop] at bounded
    refine ⟨_, by omega, by omega, _, ⟨by omega, rfl⟩, _, ⟨bounded, rfl⟩, rfl⟩

theorem Valid.start_lt_stop {descriptor : MemoryDescriptor} (valid : descriptor.Valid) :
    descriptor.physicalStart < descriptor.stop := by
  have nonempty := valid.nonempty
  simp only [stop, memoryPageSize]
  omega

theorem Valid.stop_aligned {descriptor : MemoryDescriptor} (valid : descriptor.Valid) :
    descriptor.stop % memoryPageSize = 0 := by
  have aligned := valid.aligned
  simp only [stop, memoryPageSize] at aligned ⊢
  omega

end MemoryDescriptor

/-! ## Lists of descriptors -/

/-- The loop with which the loader and the kernel each validate a slice of
descriptors, under an error of their own. -/
def validateDescriptors {ε : Type} (reason : ε) (descriptors : List MemoryDescriptor) :
    Except ε Unit :=
  checkAll (fun descriptor => do
    let _ ← descriptor.validate.mapError fun _ => reason
    .ok ()) descriptors

theorem validateDescriptors_eq_ok {ε : Type} {reason : ε} {descriptors : List MemoryDescriptor}
    {result : Unit} :
    validateDescriptors reason descriptors = .ok result ↔
      ∀ descriptor ∈ descriptors, descriptor.Valid := by
  cases result
  simp only [validateDescriptors, checkAll_eq_ok, bind_eq_ok, mapError_eq_ok, and_true,
    MemoryDescriptor.validate_iff]

/-- The address lies in some descriptor of the map. -/
abbrev InMap (map : List MemoryDescriptor) (address : Nat) : Prop :=
  Covered MemoryDescriptor.physicalStart MemoryDescriptor.stop map address

abbrev InOrder (map : List MemoryDescriptor) : Prop :=
  Ordered MemoryDescriptor.physicalStart MemoryDescriptor.stop map

/-- Some `USABLE` descriptor of the map holds the address. -/
def Usable (map : List MemoryDescriptor) (address : Nat) : Prop :=
  ∃ descriptor ∈ map, descriptor.Contains address ∧ descriptor.kind = memoryKindUsable

/-- Some descriptor of another kind holds the address. -/
def NonUsable (map : List MemoryDescriptor) (address : Nat) : Prop :=
  ∃ descriptor ∈ map, descriptor.Contains address ∧ descriptor.kind ≠ memoryKindUsable

theorem NonUsable.inMap {map : List MemoryDescriptor} {address : Nat}
    (held : NonUsable map address) : InMap map address := by
  obtain ⟨descriptor, member, contains, _⟩ := held
  exact ⟨descriptor, member, contains⟩

end UnnamedOS.BootProtocol
