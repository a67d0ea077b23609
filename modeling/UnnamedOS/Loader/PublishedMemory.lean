import UnnamedOS.Loader.Finalization

namespace UnnamedOS.Loader

open UnnamedOS.Data UnnamedOS.BootProtocol UnnamedOS.MemoryMap UnnamedOS.PageTable

/-! # The memory the kernel finds

The buffers and the page of the wire block are reserved apart from each other
and from everything else the loader owns, so each write stays what it was. -/

theorem checkBuffers_eq_some {allocations : BootDataAllocations}
    (checked : checkBuffers allocations = some ()) :
    convertedDescriptorCapacity * memoryDescriptorSize ≤
        allocations.conversionScratch.pageCount * 4096 ∧
      convertedDescriptorCapacity * memoryDescriptorSize ≤
        allocations.convertedMap.pageCount * 4096 := by
  obtain ⟨scratch, scratchBytes, checked⟩ := Option.bind_eq_some_iff.mp checked
  obtain ⟨converted, convertedBytes, checked⟩ := Option.bind_eq_some_iff.mp checked
  obtain ⟨_, rfl⟩ := checkedMul_eq_some.mp scratchBytes
  obtain ⟨_, rfl⟩ := checkedMul_eq_some.mp convertedBytes
  obtain ⟨enough, _⟩ := Option.ite_none_left_eq_some.mp checked
  simp only [convertedDescriptorCapacity, memoryDescriptorSize] at enough ⊢
  omega

theorem buildBootInfo_eq_ok {descriptorAddress descriptorVersion : Nat}
    {descriptors : List MemoryDescriptor} {framebuffer : FramebufferInfo} {bootInfo : BootInfo}
    (built : buildBootInfo descriptorAddress descriptors descriptorVersion framebuffer =
      .ok bootInfo) :
    bootInfo = BootInfo.new (memoryMapInfo descriptorAddress descriptors.length descriptorVersion
        (descriptors.length * memoryDescriptorSize)) framebuffer ∧
      ∃ validated, bootInfo.validate = .ok validated := by
  simp only [buildBootInfo, bind_eq_ok, okOr_eq_ok, mapError_eq_ok, toWord_eq_some,
    checkedMul_eq_some, Except.ok.injEq] at built
  obtain ⟨_, _, count, ⟨_, rfl⟩, bytes, ⟨_, rfl⟩, validated, accepted, rfl⟩ := built
  exact ⟨rfl, validated, accepted⟩

/-- A block that passed its check is within the widths of its fields, as far as
the two arguments of its constructor are. -/
theorem buildBootInfo_fits {descriptorAddress descriptorVersion : Nat}
    {descriptors : List MemoryDescriptor} {framebuffer : FramebufferInfo} {bootInfo : BootInfo}
    (built : buildBootInfo descriptorAddress descriptors descriptorVersion framebuffer =
      .ok bootInfo)
    (version : descriptorVersion < 2 ^ 16) (screen : framebuffer.Fits) :
    BootInfo.record.Fits bootInfo := by
  obtain ⟨rfl, validated, accepted⟩ := buildBootInfo_eq_ok built
  obtain ⟨byteLength, shape⟩ := validate_memoryMap accepted
  obtain ⟨_, _, _, _, _, bytes, _, bounded⟩ := validateMemoryMap_eq_ok.mp shape
  simp only [BootInfo.new, memoryMapInfo, memoryDescriptorSize] at bytes bounded
  obtain ⟨address, length, width, height, stride, format, reserved⟩ := screen
  simp only [wordLimit] at bounded address length reserved
  have addressFits : descriptorAddress < 2 ^ 64 := by omega
  have countFits : descriptors.length < 2 ^ 64 := by omega
  have bytesFit : descriptors.length * 32 < 2 ^ 64 := by omega
  simp [Record.Fits, FitFields, BootInfo.record, BootInfo.new, memoryMapInfo, abiMagic, abiMajor,
    abiMinor, bootInfoHeaderSize]
  omega

section

variable {φ : Type} {transferred : TransferredHandoff} {stack : TransferredBootstrapStack}
  {tables : TransferredActivationPreparedPageTables} {frames : List PhysicalFrame}
  {mapped base : List MemoryDescriptor} {items : List Reservation} {final : FinalDescriptors}
  {finalMap : CapturedMapMeta} {machine : Machine φ} {bootInfo : BootInfo}

/-- The kernel reads the block that the loader built. -/
theorem load_publishedMemory
    (finalized : Finalized transferred stack tables finalMap machine final bootInfo)
    (screen : transferred.framebuffer.Fits) (memory : Nat → UInt8) :
    BootInfo.record.load (publishedMemory transferred memory final bootInfo)
      transferred.bootInfoAddress = bootInfo :=
  Record.load_save (buildBootInfo_fits finalized.built finalized.version screen)

/-- The kernel reads the descriptors that the loader wrote. -/
theorem loadAll_publishedMemory
    (map : FinalMapOf transferred stack frames mapped base items final)
    (finalized : Finalized transferred stack tables finalMap machine final bootInfo)
    (memory : Nat → UInt8) :
    MemoryDescriptor.record.loadAll (publishedMemory transferred memory final bootInfo)
      transferred.allocations.convertedMap.pageStart final.count = final.live := by
  have room := (checkBuffers_eq_some finalized.buffers).2
  have apart := map.claims.apart map.claims.converted map.claims.bootInfo
    (by simp [allocationReservation])
  have page := (map.claims.wellFormed _ map.claims.bootInfo).spec.1
  have bounded := map.bounded
  have sizes : MemoryDescriptor.record.size = 32 ∧ BootInfo.record.size = 128 := ⟨rfl, rfl⟩
  simp only [Reservation.stop, allocationReservation, memoryPageSize, convertedDescriptorCapacity,
    memoryDescriptorSize] at room apart page bounded
  rw [publishedMemory, Record.save, Record.loadAll_store, savedBuffers,
    Record.loadAll_saveAll (by rw [map.convertedLength]; exact map.bounded)]
  · rfl
  · intro descriptor member
    exact map.fits member
  · rw [Record.length_encode, finalized.address, sizes.1, sizes.2]
    omega

/-- Outside the two buffers and the wire block's page nothing is written. -/
theorem publishedMemory_outside
    (map : FinalMapOf transferred stack frames mapped base items final)
    (finalized : Finalized transferred stack tables finalMap machine final bootInfo)
    {reservation : Reservation} (listed : reservation ∈ items)
    (scratch : reservation.source ≠ .conversionScratch)
    (converted : reservation.source ≠ .convertedMemoryMap)
    (wire : reservation.source ≠ .bootInfo) {address : Nat}
    (contains : reservation.Contains address) (memory : Nat → UInt8) :
    publishedMemory transferred memory final bootInfo address = memory address := by
  obtain ⟨scratchRoom, convertedRoom⟩ := checkBuffers_eq_some finalized.buffers
  have fromScratch := map.claims.apart listed map.claims.scratch scratch
  have fromConverted := map.claims.apart listed map.claims.converted converted
  have fromWire := map.claims.apart listed map.claims.bootInfo wire
  have page := (map.claims.wellFormed _ map.claims.bootInfo).spec.1
  have sizes : MemoryDescriptor.record.size = 32 ∧ BootInfo.record.size = 128 := ⟨rfl, rfl⟩
  obtain ⟨low, high⟩ := contains
  simp only [Reservation.stop, allocationReservation, memoryPageSize, convertedDescriptorCapacity,
    memoryDescriptorSize] at scratchRoom convertedRoom fromScratch fromConverted fromWire page high
  rw [publishedMemory, Record.save, store_outside, savedBuffers, Record.saveAll, store_outside,
    Record.saveAll, store_outside]
  · rw [Record.length_flatMap_encode, map.scratchLength, sizes.1, convertedDescriptorCapacity]
    omega
  · rw [Record.length_flatMap_encode, map.convertedLength, sizes.1, convertedDescriptorCapacity]
    omega
  · rw [Record.length_encode, finalized.address, sizes.2]
    omega

/-- How a machine on which the kernel is started came from the one on which
boot services ended. -/
structure Started (transferred : TransferredHandoff) (stack : TransferredBootstrapStack)
    (tables : TransferredActivationPreparedPageTables) (mapped : List MemoryDescriptor)
    (finalMap : CapturedMapMeta) (arguments : KernelArguments) (after machine : Machine φ)
    (base : List MemoryDescriptor) (items : List Reservation) (final : FinalDescriptors)
    (bootInfo : BootInfo) : Prop where
  map : FinalMapOf transferred stack tables.frames mapped base items final
  finalized : Finalized transferred stack tables finalMap machine final bootInfo
  arguments : arguments =
    ⟨transferred.kernelEntry, transferred.bootInfoAddress, stack.bottom, stack.top⟩
  after : after = (machine.withMemory (publishedMemory transferred machine.hardware.memory final
    bootInfo)).say finalizeLines

/-- The map as the kernel finds it behind the address of the wire block. -/
def publishedMap (memory : Nat → UInt8) (bootInfoAddress : Nat) : List MemoryDescriptor :=
  let bootInfo := BootInfo.record.load memory bootInfoAddress
  MemoryDescriptor.record.loadAll memory bootInfo.memoryMap.physicalAddress
    bootInfo.memoryMap.descriptorCount

theorem Started.publishedMap_eq {arguments : KernelArguments} {after : Machine φ}
    (started : Started transferred stack tables mapped finalMap arguments after machine base items
      final bootInfo) (screen : transferred.framebuffer.Fits) :
    publishedMap after.hardware.memory arguments.bootInfo = final.live := by
  obtain ⟨map, finalized, rfl, rfl⟩ := started
  have described : bootInfo.memoryMap = memoryMapInfo
      transferred.allocations.convertedMap.pageStart final.live.length
      finalMap.descriptorVersion (final.live.length * memoryDescriptorSize) :=
    congrArg BootInfo.memoryMap (buildBootInfo_eq_ok finalized.built).1
  have loaded := loadAll_publishedMemory map finalized machine.hardware.memory
  rw [← map.liveLength] at loaded
  have block := load_publishedMemory finalized screen machine.hardware.memory
  simp only [publishedMap, say_hardware, withMemory_memory, block, described]
  exact loaded

end

end UnnamedOS.Loader
