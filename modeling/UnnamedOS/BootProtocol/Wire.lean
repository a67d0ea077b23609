import UnnamedOS.BootProtocol.BootInfo
import UnnamedOS.Data.Record

namespace UnnamedOS.BootProtocol

open UnnamedOS.Data

/-! # The wire records in memory

The `repr(C)` layouts of the protocol's types: every field stands at a multiple
of its width, so there is no padding. -/

namespace MemoryDescriptor

def record : Record MemoryDescriptor where
  widths := [4, 4, 8, 8, 8]
  fields descriptor := [descriptor.kind, descriptor.reserved0, descriptor.physicalStart,
    descriptor.pageCount, descriptor.attributes]
  build
    | [kind, reserved0, physicalStart, pageCount, attributes] =>
        ⟨kind, reserved0, physicalStart, pageCount, attributes⟩
    | _ => ⟨0, 0, 0, 0, 0⟩
  sized _ := rfl
  rebuilt _ := rfl

theorem fits_iff {descriptor : MemoryDescriptor} :
    record.Fits descriptor ↔ descriptor.kind < 2 ^ 32 ∧ descriptor.reserved0 < 2 ^ 32 ∧
      descriptor.physicalStart < wordLimit ∧ descriptor.pageCount < wordLimit ∧
      descriptor.attributes < wordLimit := by
  simp [Record.Fits, FitFields, record, wordLimit]

/-- The other two fields of a valid descriptor are within their widths. -/
theorem Valid.fits {descriptor : MemoryDescriptor} (valid : descriptor.Valid)
    (kind : descriptor.kind < 2 ^ 32) (attributes : descriptor.attributes < wordLimit) :
    record.Fits descriptor := by
  have reserved := valid.reserved
  have bounded := valid.bounded
  simp only [stop, memoryPageSize] at bounded
  exact fits_iff.mpr ⟨kind, by omega, by omega, by omega, attributes⟩

end MemoryDescriptor

namespace FramebufferInfo

/-- The fields are the machine integers of the source's type. -/
structure Fits (framebuffer : FramebufferInfo) : Prop where
  physicalAddress : framebuffer.physicalAddress < wordLimit
  byteLength : framebuffer.byteLength < wordLimit
  width : framebuffer.width < 2 ^ 32
  height : framebuffer.height < 2 ^ 32
  pixelsPerScanline : framebuffer.pixelsPerScanline < 2 ^ 32
  pixelFormat : framebuffer.pixelFormat < 2 ^ 32
  reserved0 : framebuffer.reserved0 < wordLimit

end FramebufferInfo

namespace BootInfo

def record : Record BootInfo where
  widths := [8, 2, 2, 2, 2, 4, 4, 8] ++ [8, 8, 4, 2, 2, 8, 8] ++ [8, 8, 4, 4, 4, 4, 8] ++ [8, 8]
  fields info :=
    [info.header.magic, info.header.abiMajor, info.header.abiMinor, info.header.headerSize,
      info.header.reserved0, info.header.totalSize, info.header.reserved1, info.header.flags] ++
    [info.memoryMap.physicalAddress, info.memoryMap.descriptorCount,
      info.memoryMap.descriptorStride, info.memoryMap.descriptorVersion, info.memoryMap.reserved0,
      info.memoryMap.byteLength, info.memoryMap.reserved1] ++
    [info.framebuffer.physicalAddress, info.framebuffer.byteLength, info.framebuffer.width,
      info.framebuffer.height, info.framebuffer.pixelsPerScanline, info.framebuffer.pixelFormat,
      info.framebuffer.reserved0] ++
    [info.reserved0, info.reserved1]
  build
    | [magic, abiMajor, abiMinor, headerSize, header0, totalSize, header1, flags,
        mapAddress, descriptorCount, descriptorStride, descriptorVersion, map0, byteLength, map1,
        screenAddress, screenLength, width, height, pixelsPerScanline, pixelFormat, screen0,
        reserved0, reserved1] =>
        ⟨⟨magic, abiMajor, abiMinor, headerSize, header0, totalSize, header1, flags⟩,
          ⟨mapAddress, descriptorCount, descriptorStride, descriptorVersion, map0, byteLength,
            map1⟩,
          ⟨screenAddress, screenLength, width, height, pixelsPerScanline, pixelFormat, screen0⟩,
          reserved0, reserved1⟩
    | _ => ⟨⟨0, 0, 0, 0, 0, 0, 0, 0⟩, ⟨0, 0, 0, 0, 0, 0, 0⟩, ⟨0, 0, 0, 0, 0, 0, 0⟩, 0, 0⟩
  sized _ := rfl
  rebuilt _ := rfl

end BootInfo

end UnnamedOS.BootProtocol
