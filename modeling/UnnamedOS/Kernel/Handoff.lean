import UnnamedOS.Kernel.BootState
import UnnamedOS.Loader.BootInformation
import UnnamedOS.MemoryMap.Overlay

namespace UnnamedOS.Kernel

open UnnamedOS.Data UnnamedOS.BootProtocol UnnamedOS.Loader UnnamedOS.MemoryMap

/-! # The kernel accepts what the loader emits

The two sides check the map in crates of their own.  The overlay's result is
ordered and names every reserved byte with its reservation's kind, which is
what the kernel's cursor needs to get through. -/

/-- A byte of a reservation that has to be in the map is in a descriptor of
its kind, and in no other. -/
theorem OverlayOf.nonUsable {base map : List MemoryDescriptor} {reservations : List Reservation}
    (overlay : OverlayOf base reservations map)
    (kinds : ∀ reservation ∈ reservations, reservation.kind ≠ memoryKindUsable)
    {reservation : Reservation} (member : reservation ∈ reservations)
    (mapped : reservation.source ≠ .framebuffer) {address : Nat}
    (contains : reservation.Contains address) :
    NonUsable map address ∧ ¬ Usable map address := by
  have named : ∀ descriptor ∈ map, descriptor.Contains address →
      descriptor.kind ≠ memoryKindUsable := by
    intro descriptor inMap holds
    rw [(overlay.reserved descriptor inMap reservation member address holds contains).1]
    exact kinds reservation member
  obtain ⟨descriptor, inMap, holds⟩ := overlay.complete reservation member mapped address contains
  constructor
  · exact ⟨descriptor, inMap, holds, named descriptor inMap holds⟩
  · intro holds
    obtain ⟨other, otherInMap, otherHolds, usable⟩ := holds
    exact named other otherInMap otherHolds usable

/-- Over any base map, normalized or not, and with any descriptor version: once
the overlay has succeeded the loader's wire block is built, and the kernel
accepts it for all ranges inside the reserved pages. -/
theorem validateBootState_accepts_loader {base output : List MemoryDescriptor}
    {list finished : ReservationList} {gop : GopFramebuffer} {framebuffer : FramebufferInfo}
    {capacity len descriptorAddress descriptorVersion : Nat}
    {ranges : List PhysicalRange}
    (done : list.finish = (.ok (), finished))
    (kinds : ∀ reservation ∈ finished.items, reservation.kind ≠ memoryKindUsable)
    (overlaid : applyReservations base finished capacity = .ok (len, output))
    (converted : convertFramebuffer gop = .ok framebuffer)
    (address : descriptorAddress ≠ 0)
    (bounded : descriptorAddress + 32 * len < 2 ^ 64) (nonempty : 0 < len)
    (proper : ∀ range ∈ ranges, range.start < range.stop)
    (reserved : ∀ range ∈ ranges, ∀ byte, range.Contains byte →
      ∃ reservation ∈ finished.items, reservation.source ≠ .framebuffer ∧
        reservation.Contains byte) :
    ∃ info, buildBootInfo descriptorAddress (output.take len) descriptorVersion framebuffer =
        .ok info ∧
      validateBootState info (output.take len) ranges = .ok () ∧
      ∀ range ∈ ranges, coveredNonUsable range (output.take len) = .ok true := by
  have overlay := applyReservations_overlayOf done overlaid
  have length := applyReservations_length overlaid
  have valid : ∀ descriptor ∈ output.take len, descriptor.Valid := fun descriptor member =>
    MemoryDescriptor.validate_iff.mp (overlay.valid descriptor member)
  have covered : ∀ range ∈ ranges, coveredNonUsable range (output.take len) = .ok true := by
    intro range member
    apply coveredFrom_of_nonUsable valid
    intro byte low high
    obtain ⟨reservation, listed, mapped, contains⟩ := reserved range member byte ⟨low, high⟩
    exact OverlayOf.nonUsable overlay kinds listed mapped contains
  obtain ⟨requiredBytes, display⟩ := convertFramebuffer_validates converted
  obtain ⟨info, built, mapInfo, wire⟩ := buildBootInfo_succeeds descriptorVersion valid address
    (length.symm ▸ nonempty) (length.symm ▸ bounded) display
  refine ⟨info, built, ?_, covered⟩
  rw [length] at mapInfo
  apply validateBootState_eq_ok.mpr
  constructor
  · exact wire
  · rw [mapInfo]
    rfl
  · rw [mapInfo, length]
    rfl
  · rw [length]
    simp only [memoryDescriptorSize, wordLimit]
    omega
  · rw [mapInfo, length]
    rfl
  · exact valid
  · intro range member
    exact ⟨proper range member, covered range member⟩

/-- A 32 by 24 screen. -/
def sampleGop : GopFramebuffer := ⟨0x8000_0000, 3072, 32, 24, 32, .bgr⟩

/-- The sample kernel image spans two descriptors of the finished map. -/
theorem validateBootState_accepts_loader_sample :
    ∃ info, buildBootInfo 0x3000 ((filled 8 sampleMap).take 6) 1
        ⟨0x8000_0000, 3072, 32, 24, 32, pixelFormatBgrx8888, 0⟩ = .ok info ∧
      validateBootState info ((filled 8 sampleMap).take 6) [⟨0x4010, 0x5ff0⟩] = .ok () ∧
      ∀ range ∈ [PhysicalRange.mk 0x4010 0x5ff0],
        coveredNonUsable range ((filled 8 sampleMap).take 6) = .ok true := by
  have done : sampleReservations.finish = (.ok (), sampleReservations.finish.2) := by rfl
  have overlaid : applyReservations sampleBase sampleReservations.finish.2 8 =
      .ok (6, filled 8 sampleMap) := by decide
  have converted : convertFramebuffer sampleGop =
      .ok ⟨0x8000_0000, 3072, 32, 24, 32, pixelFormatBgrx8888, 0⟩ := by decide
  apply validateBootState_accepts_loader done (by decide) overlaid converted (by decide) (by decide)
    (by decide) (by decide)
  intro range member byte inside
  refine ⟨⟨0x4000, 2, memoryKindKernelImage, .kernelImage⟩, by decide, by decide, ?_⟩
  rw [List.mem_singleton.mp member] at inside
  obtain ⟨low, high⟩ := inside
  simp only [Reservation.Contains, Covers, Reservation.stop, memoryPageSize] at low high ⊢
  omega

end UnnamedOS.Kernel
