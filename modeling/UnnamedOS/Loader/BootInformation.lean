import UnnamedOS.BootProtocol.BootInfo

namespace UnnamedOS.Loader

open UnnamedOS.Data UnnamedOS.BootProtocol

/-! # What the loader puts in the wire block

The framebuffer is converted from the firmware's description, the map's shape
is computed from the finished descriptors, and the block is validated with the
protocol's own check before it is handed out. -/

inductive GopPixelFormat where
  | rgb
  | bgr
  | bitmask (red green blue reserved : Nat)
  | bltOnly
deriving DecidableEq, Repr

structure GopFramebuffer where
  physicalAddress : Nat
  byteLength : Nat
  width : Nat
  height : Nat
  pixelsPerScanline : Nat
  pixelFormat : GopPixelFormat
deriving DecidableEq, Repr

inductive FramebufferError where
  | bltOnly
  | unsupportedBitmask
  | invalidAddress
  | invalidDimensions
  | invalidStride
  | sizeOverflow
  | tooSmall
  | rangeOverflow
deriving DecidableEq, Repr

/-- The `match` of `convert_framebuffer` on the firmware's pixel format. -/
def GopPixelFormat.wireFormat : GopPixelFormat → Except FramebufferError Nat
  | .rgb => .ok pixelFormatRgbx8888
  | .bgr => .ok pixelFormatBgrx8888
  | .bitmask red green blue reserved =>
      if red = 0x0000_00ff ∧ green = 0x0000_ff00 ∧ blue = 0x00ff_0000 ∧ reserved = 0xff00_0000 then
        .ok pixelFormatRgbx8888
      else if red = 0x00ff_0000 ∧ green = 0x0000_ff00 ∧ blue = 0x0000_00ff ∧
          reserved = 0xff00_0000 then
        .ok pixelFormatBgrx8888
      else .error .unsupportedBitmask
  | .bltOnly => .error .bltOnly

def convertFramebuffer (gop : GopFramebuffer) : Except FramebufferError FramebufferInfo :=
  if gop.physicalAddress = 0 ∨ gop.byteLength = 0 then .error .invalidAddress
  else if gop.width = 0 ∨ gop.height = 0 then .error .invalidDimensions
  else if gop.pixelsPerScanline < gop.width then .error .invalidStride
  else do
    let format ← gop.pixelFormat.wireFormat
    let required ← okOr (framebufferBytes gop.pixelsPerScanline gop.height) .sizeOverflow
    if gop.byteLength < required then .error .tooSmall
    else do
      let _ ← okOr (checkedAdd gop.physicalAddress gop.byteLength) .rangeOverflow
      .ok {
        physicalAddress := gop.physicalAddress
        byteLength := gop.byteLength
        width := gop.width
        height := gop.height
        pixelsPerScanline := gop.pixelsPerScanline
        pixelFormat := format
        reserved0 := 0 }

inductive BootInfoBuildError where
  | countOverflow
  | lengthOverflow
  | descriptorInvalid
  | bootInfoInvalid
deriving DecidableEq, Repr

/-- The map record of `build_boot_info`. -/
def memoryMapInfo (descriptorAddress count descriptorVersion byteLength : Nat) :
    MemoryMapInfo where
  physicalAddress := descriptorAddress
  descriptorCount := count
  descriptorStride := memoryDescriptorSize
  descriptorVersion := descriptorVersion
  reserved0 := 0
  byteLength := byteLength
  reserved1 := 0

def buildBootInfo (descriptorAddress : Nat) (descriptors : List MemoryDescriptor)
    (descriptorVersion : Nat) (framebuffer : FramebufferInfo) :
    Except BootInfoBuildError BootInfo := do
  validateDescriptors .descriptorInvalid descriptors
  let count ← okOr (toWord descriptors.length) .countOverflow
  let byteLength ← okOr (checkedMul count memoryDescriptorSize) .lengthOverflow
  let bootInfo := BootInfo.new (memoryMapInfo descriptorAddress count descriptorVersion byteLength)
    framebuffer
  let _ ← bootInfo.validate.mapError fun _ => .bootInfoInvalid
  .ok bootInfo

/-! ## The converted parts pass the protocol's checks -/

theorem wireFormat_known {format : GopPixelFormat} {wire : Nat}
    (converted : format.wireFormat = .ok wire) :
    wire = pixelFormatRgbx8888 ∨ wire = pixelFormatBgrx8888 := by
  cases format with
  | rgb => exact .inl (Except.ok.inj converted).symm
  | bgr => exact .inr (Except.ok.inj converted).symm
  | bitmask red green blue reserved =>
      simp only [GopPixelFormat.wireFormat] at converted
      split at converted
      · exact .inl (Except.ok.inj converted).symm
      · split at converted
        · exact .inr (Except.ok.inj converted).symm
        · contradiction
  | bltOnly => contradiction

theorem convertFramebuffer_validates {gop : GopFramebuffer} {framebuffer : FramebufferInfo}
    (converted : convertFramebuffer gop = .ok framebuffer) :
    ∃ requiredBytes, validateFramebuffer framebuffer = .ok requiredBytes := by
  simp only [convertFramebuffer, guard_eq_ok, bind_eq_ok, Except.ok.injEq] at converted
  obtain ⟨address, dimensions, stride, format, known, required, sized, enough, stop, bounded, rfl⟩ :=
    converted
  refine ⟨required, ?_⟩
  simp only [validateFramebuffer, guard_eq_ok, bind_eq_ok]
  exact ⟨by tauto, by tauto, dimensions, stride, not_not.mpr (wireFormat_known known), by simp,
    required, by simpa using sized, enough, stop, by simpa using bounded, rfl⟩

theorem memoryMapInfo_validates {descriptorAddress count : Nat} (descriptorVersion : Nat)
    (address : descriptorAddress ≠ 0) (nonempty : 0 < count)
    (bounded : descriptorAddress + memoryDescriptorSize * count < wordLimit) :
    validateMemoryMap (memoryMapInfo descriptorAddress count descriptorVersion
      (count * memoryDescriptorSize)) = .ok (count * memoryDescriptorSize) := by
  have stride : memoryDescriptorSize ≤ memoryDescriptorSize ∧
      memoryDescriptorSize % memoryDescriptorAlignment = 0 := by decide
  rw [Nat.mul_comm] at bounded
  exact validateMemoryMap_eq_ok.mpr
    ⟨address, Nat.ne_of_gt nonempty, stride, rfl, rfl, rfl, rfl, bounded⟩

theorem buildBootInfo_succeeds {descriptorAddress : Nat} {descriptors : List MemoryDescriptor}
    (descriptorVersion : Nat) {framebuffer : FramebufferInfo} {requiredBytes : Nat}
    (valid : ∀ descriptor ∈ descriptors, descriptor.Valid)
    (address : descriptorAddress ≠ 0) (nonempty : 0 < descriptors.length)
    (bounded : descriptorAddress + memoryDescriptorSize * descriptors.length < wordLimit)
    (display : validateFramebuffer framebuffer = .ok requiredBytes) :
    ∃ info, buildBootInfo descriptorAddress descriptors descriptorVersion framebuffer = .ok info ∧
      info.memoryMap = memoryMapInfo descriptorAddress descriptors.length descriptorVersion
        (descriptors.length * memoryDescriptorSize) ∧
      ∃ validated, info.validate = .ok validated := by
  have mapInfo := memoryMapInfo_validates descriptorVersion address nonempty bounded
  have validated : ∃ validated, (BootInfo.new (memoryMapInfo descriptorAddress descriptors.length
      descriptorVersion (descriptors.length * memoryDescriptorSize)) framebuffer).validate =
        .ok validated := by
    simp only [BootInfo.validate, BootInfo.new, mapInfo, display]
    exact ⟨_, rfl⟩
  obtain ⟨result, accepted⟩ := validated
  refine ⟨_, ?_, rfl, result, accepted⟩
  simp only [memoryDescriptorSize] at bounded
  simp only [buildBootInfo, bind_eq_ok, okOr_eq_ok, mapError_eq_ok, toWord_eq_some,
    checkedMul_eq_some, validateDescriptors_eq_ok]
  exact ⟨(), valid, _, ⟨by omega, rfl⟩, _, ⟨by simp only [memoryDescriptorSize]; omega, rfl⟩,
    result, accepted, rfl⟩

end UnnamedOS.Loader
