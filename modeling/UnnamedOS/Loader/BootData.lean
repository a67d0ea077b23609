import UnnamedOS.Loader.UefiBackends

namespace UnnamedOS.Loader

open UnnamedOS.Data UnnamedOS.BootProtocol UnnamedOS.MemoryMap UnnamedOS.PageTable

/-! # Preparing the boot data

`prepare` takes four buffers from the firmware, fills them with a provisional
map and the wire block, and makes them an owner's.  Until then they belong to
`PendingBuffers`, which gives them back when an error is returned past it. -/

def rawMapPages : Nat := rawMemoryMapMaxBytes / 4096
def convertedMapPages : Nat := convertedDescriptorCapacity * 32 / 4096
def bootInfoPages : Nat := 1

/-- The filled front of the array of four. -/
structure PendingBuffers where
  allocations : List PageAllocation

namespace PendingBuffers

variable {φ : Type} (firmware : Firmware φ)

def slots (pending : PendingBuffers) : List (OwnedAllocation × Bool) :=
  pending.allocations.map fun allocation => (allocation.pages, true)

/-- `Drop`: a release that stops at a refusal, and then one that does not. -/
def drop (pending : PendingBuffers) (machine : Machine φ) : Machine φ :=
  match releaseSlots (uefiBootBackend firmware).freeAllocation 0 machine pending.slots with
  | (.ok _, machine, _) => machine
  | (.error _, machine, left) => dropSlots (uefiBootBackend firmware).freeAllocation machine left

def allocateNext (pending : PendingBuffers) (pages : Nat) :
    Program (Machine φ) (Stop BufferError) PendingBuffers := do
  let reply ← ask firmware (.allocatePages .anyPages pages)
  let pointer ← orReturn reply.toOption .allocate
  writeMemory fun memory => fill memory pointer.val (pages * 4096) 0
  pure ⟨pending.allocations ++ [⟨pointer.val, pages⟩]⟩

def allocate : Program (Machine φ) (Stop BufferError) PendingBuffers :=
  [rawMapPages, convertedMapPages, convertedMapPages, bootInfoPages].foldlM
    (fun pending pages => unwinding (pending.drop firmware) (allocateNext firmware pending pages))
    ⟨[]⟩

def bootAllocations (pending : PendingBuffers) : Option BootDataAllocations :=
  match pending.allocations with
  | [rawMap, conversionScratch, convertedMap, bootInfo] =>
      some ⟨rawMap, conversionScratch, convertedMap, bootInfo⟩
  | _ => none

end PendingBuffers

/-- The mode's pixel format, for the conversion. -/
def GraphicsMode.gopPixelFormat (mode : GraphicsMode) : Option GopPixelFormat :=
  match mode.pixelFormat with
  | .rgb => some .rgb
  | .bgr => some .bgr
  | .bltOnly => none
  | .bitmask masks => masks.map fun mask => .bitmask mask.1 mask.2.1 mask.2.2.1 mask.2.2.2

/-- The mode's framebuffer as the wire block has it; every failure is the same
to the caller. -/
def describeFramebuffer (mode : GraphicsMode) : Option FramebufferInfo := do
  let pixelFormat ← mode.gopPixelFormat
  if mode.width < 2 ^ 32 ∧ mode.height < 2 ^ 32 ∧ mode.stride < 2 ^ 32 then
    (convertFramebuffer {
      physicalAddress := mode.frameBufferStart
      byteLength := mode.frameBufferSize
      width := mode.width
      height := mode.height
      pixelsPerScanline := mode.stride
      pixelFormat }).toOption
  else none

/-- The finished list of reservations, while the owners are still there. -/
def provisionalReservations {κ : Type} (loaded : LoadedKernel κ) (allocations : BootDataAllocations)
    (framebuffer : FramebufferInfo) (stack : Option PageAllocation) (frames : List PhysicalFrame) :
    Option ReservationList := do
  let reservations ← (reservationsFor loaded allocations framebuffer.physicalAddress
    framebuffer.byteLength stack).toOption
  let reservations ← if frames = [] then some reservations
    else (appendOrFail frames id reservations).toOption
  finishOrFail reservations

/-- From the raw map to the converted one. -/
def provisionalDescriptors (reservations : ReservationList) (captured : CapturedMapMeta)
    (raw : List UInt8) (scratch : List MemoryDescriptor) :
    Except BootInfoLoadError FinalDescriptors := do
  let mapped ← okOr (convertRawMap mapUefiMemoryKind raw captured) .convert
  let (normalizedCount, scratch) ←
    (normalizeMappedMemoryMap (mapped ++ scratch.drop mapped.length) mapped.length).mapError
      fun _ => .convert
  let (count, converted) ←
    (applyReservations (scratch.take normalizedCount) reservations
      convertedDescriptorCapacity).mapError fun _ => .reservation
  .ok ⟨scratch, converted, count⟩

/-- What `prepare` knows when the buffers are full. -/
structure StagedBootInfo where
  allocations : BootDataAllocations
  captured : CapturedMapMeta
  count : Nat
  bootInfo : BootInfo
  proof : Option PageTableReservationProof

section

variable {φ κ : Type} (firmware : Firmware φ)

def captureProvisional (allocations : BootDataAllocations) :
    Program (Machine φ) BootStop CapturedMapMeta := do
  let rawLength ← orReturn (allocationByteLength allocations.rawMap) .alloc
  let captured ← (captureMemoryMap firmware allocations.rawMap.pageStart rawLength).attempt
  let captured ← orReturn captured.toOption .map
  writeLine "UNOS:P1G:MAP_CAPTURED"
  pure captured

def convertProvisional (allocations : BootDataAllocations) (reservations : ReservationList)
    (captured : CapturedMapMeta) : Program (Machine φ) BootStop FinalDescriptors := do
  let rawLength ← orReturn (allocationByteLength allocations.rawMap) .alloc
  let memory ← readMemory
  match provisionalDescriptors reservations captured
      (window memory allocations.rawMap.pageStart rawLength)
      (MemoryDescriptor.record.loadAll memory allocations.conversionScratch.pageStart
        convertedDescriptorCapacity) with
  | .error error => .stop (.returned error)
  | .ok final => do
      writeMemory fun memory => MemoryDescriptor.record.saveAll memory
        allocations.conversionScratch.pageStart final.scratch
      writeMemory fun memory => MemoryDescriptor.record.saveAll memory
        allocations.convertedMap.pageStart final.converted
      writeLine "UNOS:P1G:MAP_CONVERTED"
      pure final

/-- The page tables are looked for when there are any. -/
def proveReservations (handoffTest : Bool) (frames : List PhysicalFrame)
    (descriptors : List MemoryDescriptor) :
    Program (Machine φ) BootStop (Option PageTableReservationProof) := do
  orReturn (if reservationEvidence handoffTest descriptors = true then some () else none)
    .reservation
  let proof ← if frames = [] then pure none
    else do
      let proof ← orReturn (verifyPageTableReservations frames descriptors).toOption .reservation
      pure (some proof)
  writeLine "UNOS:P1G:RESERVATIONS_VALID"
  pure proof

def writeBootInfo (allocations : BootDataAllocations) (captured : CapturedMapMeta)
    (descriptors : List MemoryDescriptor) (framebuffer : FramebufferInfo) :
    Program (Machine φ) BootStop BootInfo := do
  let descriptorVersion ← orReturn
    (if captured.descriptorVersion < 2 ^ 16 then some captured.descriptorVersion else none)
    .bootInfo
  let bootInfo ← orReturn (buildBootInfo allocations.convertedMap.pageStart descriptors
    descriptorVersion framebuffer).toOption .bootInfo
  let _ ← orReturn bootInfo.validate.toOption .bootInfo
  writeMemory fun memory => BootInfo.record.save memory allocations.bootInfo.pageStart bootInfo
  writeLine "UNOS:P1G:BOOTINFO_VALID"
  pure bootInfo

/-- The part of `prepare` during which the buffers are pending. -/
def stageBootInfo (handoffTest : Bool) (loaded : LoadedKernel κ) (stack : Option PageAllocation)
    (frames : List PhysicalFrame) (pending : PendingBuffers) :
    Program (Machine φ) BootStop StagedBootInfo := do
  let mode ← ask firmware .openGraphicsOutput
  let mode ← orReturn mode.toOption .gop
  let framebuffer ← orReturn (describeFramebuffer mode) .framebuffer
  writeLine "UNOS:P1G:GOP_READY"
  let allocations ← orReturn pending.bootAllocations .alloc
  let reservations ← orReturn
    (provisionalReservations loaded allocations framebuffer stack frames) .reservation
  writeLine "UNOS:P1G:BUFFERS_READY"
  let captured ← captureProvisional firmware allocations
  let final ← convertProvisional allocations reservations captured
  let proof ← proveReservations handoffTest frames final.live
  let bootInfo ← writeBootInfo allocations captured final.live framebuffer
  pure ⟨allocations, captured, final.count, bootInfo, proof⟩

/-- The owner of the buffers, on the machine. -/
def PreparedBootInfo.dropOn (prepared : PreparedBootInfo Unit) (machine : Machine φ) : Machine φ :=
  dropSlots (uefiBootBackend firmware).freeAllocation machine prepared.slots

/-- The last checks of `prepare`, on the owner. -/
def checkPrepared (prepared : PreparedBootInfo Unit) : Program (Machine φ) BootStop Unit :=
  if prepared.descriptorCount = 0 ∨ prepared.descriptorStride ≠ memoryDescriptorSize ∨
      prepared.wireSize ≠ bootInfoSize ∨ prepared.isReleased = true then
    .stop (.returned .bootInfo)
  else pure ()

/-- Between the pending buffers and the new owner nobody would give them back. -/
def prepare (handoffTest : Bool) (loaded : LoadedKernel κ) (stack : Option PageAllocation)
    (frames : List PhysicalFrame) :
    Program (Machine φ) BootStop (PreparedBootInfo Unit × Option PageTableReservationProof) := do
  let pending ← returning (fun _ => .alloc) (PendingBuffers.allocate firmware)
  let staged ← unwinding (pending.drop firmware)
    (stageBootInfo firmware handoffTest loaded stack frames pending)
  let memory ← readMemory
  let descriptors := MemoryDescriptor.record.loadAll memory
    staged.allocations.convertedMap.pageStart staged.count
  let prepared ← orReturn (PreparedBootInfo.fromValidated () staged.allocations staged.bootInfo
    descriptors {
      mapSize := staged.captured.mapSize
      descriptorStride := staged.captured.descriptorStride
      descriptorVersion := staged.captured.descriptorVersion
      mapKey := staged.captured.mapKey
      status := .provisional }).toOption .bootInfo
  unwinding (prepared.dropOn firmware) (checkPrepared prepared)
  writeLine "UNOS:P1G:OWNERSHIP_READY"
  pure (prepared, staged.proof)

end

end UnnamedOS.Loader
