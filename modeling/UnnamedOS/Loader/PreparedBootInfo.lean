import UnnamedOS.Loader.TargetOwnership
import UnnamedOS.MemoryMap.Normalize

namespace UnnamedOS.Loader

open UnnamedOS.Data UnnamedOS.BootProtocol UnnamedOS.MemoryMap

/-! # Who owns the boot data

Four allocations hold the map and the wire block.  Their owner is built once
the block is known to describe the map, and releases them as `TargetOwnership`
releases the kernel's. -/

structure PageAllocation where
  pageStart : Nat
  pageCount : Nat
deriving DecidableEq, Repr

/-- The arguments with which the backend is called. -/
def PageAllocation.pages (allocation : PageAllocation) : OwnedAllocation :=
  ⟨allocation.pageStart, allocation.pageCount⟩

structure BootDataAllocations where
  rawMap : PageAllocation
  conversionScratch : PageAllocation
  convertedMap : PageAllocation
  bootInfo : PageAllocation
deriving DecidableEq, Repr

/-- The array that `from_validated` makes of them. -/
def BootDataAllocations.ordered (allocations : BootDataAllocations) : List PageAllocation :=
  [allocations.rawMap, allocations.conversionScratch, allocations.convertedMap,
    allocations.bootInfo]

inductive MapKeyStatus where
  | provisional
deriving DecidableEq, Repr

structure ProvisionalMapMetadata where
  mapSize : Nat
  descriptorStride : Nat
  descriptorVersion : Nat
  mapKey : Nat
  status : MapKeyStatus
deriving DecidableEq, Repr

structure BootInfoReleaseError (ε : Type) where
  allocationIndex : Nat
  remainingAllocations : Nat
  source : ε
deriving DecidableEq, Repr

inductive PreparedBootInfoError where
  | invalidBootInfo
  | invalidAllocation
  | mapOutsideAllocation
deriving DecidableEq, Repr

structure PreparedBootInfo (β : Type) where
  backend : β
  allocations : BootDataAllocations
  owned : List Bool
  bootInfo : BootInfo
  bootInfoAddress : Nat
  provisionalMap : ProvisionalMapMetadata
  four : owned.length = 4

namespace PreparedBootInfo

variable {β ε : Type}

def fromValidated (backend : β) (allocations : BootDataAllocations) (bootInfo : BootInfo)
    (descriptors : List MemoryDescriptor) (provisionalMap : ProvisionalMapMetadata) :
    Except PreparedBootInfoError (PreparedBootInfo β) := do
  let _ ← bootInfo.validate.mapError fun _ => .invalidBootInfo
  if toWord descriptors.length ≠ some bootInfo.memoryMap.descriptorCount ∨
      ∃ descriptor ∈ descriptors, descriptor.validate.isOk = false then
    .error .invalidBootInfo
  else do
    checkAll (fun allocation => (validateRange allocation.pageStart allocation.pageCount).mapError
      fun _ => .invalidAllocation) allocations.ordered
    let convertedEnd ← (rangeEnd allocations.convertedMap.pageStart
      allocations.convertedMap.pageCount).mapError fun _ => .invalidAllocation
    let mapEnd ← okOr (checkedAdd bootInfo.memoryMap.physicalAddress
      bootInfo.memoryMap.byteLength) .mapOutsideAllocation
    if bootInfo.memoryMap.physicalAddress < allocations.convertedMap.pageStart ∨
        mapEnd > convertedEnd then
      .error .mapOutsideAllocation
    else .ok {
      backend
      allocations
      owned := [true, true, true, true]
      bootInfo
      bootInfoAddress := allocations.bootInfo.pageStart
      provisionalMap
      four := rfl }

def wireSize (_ : PreparedBootInfo β) : Nat := bootInfoSize

def descriptorCount (prepared : PreparedBootInfo β) : Nat :=
  prepared.bootInfo.memoryMap.descriptorCount

def descriptorStride (prepared : PreparedBootInfo β) : Nat :=
  prepared.bootInfo.memoryMap.descriptorStride

def framebuffer (prepared : PreparedBootInfo β) : FramebufferInfo := prepared.bootInfo.framebuffer

/-- The arrays `allocations` and `owned` side by side. -/
def slots (prepared : PreparedBootInfo β) : List (OwnedAllocation × Bool) :=
  (prepared.allocations.ordered.map PageAllocation.pages).zip prepared.owned

def remainingAllocationCount (prepared : PreparedBootInfo β) : Nat :=
  (prepared.owned.filter id).length

def isReleased (prepared : PreparedBootInfo β) : Bool := prepared.remainingAllocationCount == 0

/-- The owner with the flags and the backend that a release leaves. -/
def released (ops : PageBackend β ε) (prepared : PreparedBootInfo β) : PreparedBootInfo β :=
  { prepared with
    backend := (releaseSlots ops.freeAllocation 0 prepared.backend prepared.slots).2.1
    owned := (releaseSlots ops.freeAllocation 0 prepared.backend prepared.slots).2.2.map Prod.snd
    four := by
      have same := congrArg List.length
        (releaseSlots_fst ops.freeAllocation 0 prepared.backend prepared.slots)
      simpa [slots, BootDataAllocations.ordered, prepared.four] using same }

def tryRelease (ops : PageBackend β ε) (prepared : PreparedBootInfo β) :
    Except (BootInfoReleaseError ε) Unit × PreparedBootInfo β :=
  match (releaseSlots ops.freeAllocation 0 prepared.backend prepared.slots).1 with
  | .ok _ => (.ok (), prepared.released ops)
  | .error (allocationIndex, source) =>
      (.error ⟨allocationIndex, (prepared.released ops).remainingAllocationCount, source⟩,
        prepared.released ops)

/-- `Drop`: the state it leaves the backend in. -/
def drop (ops : PageBackend β ε) (prepared : PreparedBootInfo β) : β :=
  dropSlots ops.freeAllocation prepared.backend prepared.slots

theorem tryRelease_snd (ops : PageBackend β ε) (prepared : PreparedBootInfo β) :
    (prepared.tryRelease ops).2 = prepared.released ops := by
  cases ran : (releaseSlots ops.freeAllocation 0 prepared.backend prepared.slots).1 with
  | ok done => simp only [tryRelease, ran]
  | error refusal => simp only [tryRelease, ran]

theorem slots_fst (prepared : PreparedBootInfo β) :
    prepared.slots.map Prod.fst = prepared.allocations.ordered.map PageAllocation.pages := by
  refine List.map_fst_zip ?_
  simp [prepared.four, BootDataAllocations.ordered]

theorem slots_snd (prepared : PreparedBootInfo β) :
    prepared.slots.map Prod.snd = prepared.owned := by
  refine List.map_snd_zip ?_
  simp [prepared.four, BootDataAllocations.ordered]

theorem released_slots (ops : PageBackend β ε) (prepared : PreparedBootInfo β) :
    (prepared.released ops).slots =
      (releaseSlots ops.freeAllocation 0 prepared.backend prepared.slots).2.2 := by
  have same := releaseSlots_fst ops.freeAllocation 0 prepared.backend prepared.slots
  rw [slots_fst] at same
  exact (List.zip_of_prod same rfl).symm

theorem remainingAllocationCount_eq (prepared : PreparedBootInfo β) :
    prepared.remainingAllocationCount = (heldSlots 0 prepared.slots).length := by
  rw [heldSlots_length, remainingAllocationCount, ← slots_snd, List.filter_map, List.length_map]
  rfl

/-- What the gate asks, in terms of the slots. -/
theorem isReleased_iff (prepared : PreparedBootInfo β) :
    prepared.isReleased = true ↔ heldSlots 0 prepared.slots = [] := by
  rw [isReleased, remainingAllocationCount_eq, beq_iff_eq, List.length_eq_zero_iff]

theorem owned_of_held {prepared : PreparedBootInfo β}
    (held : (heldSlots 0 prepared.slots).length = 4) :
    prepared.owned = [true, true, true, true] := by
  rw [← remainingAllocationCount_eq, remainingAllocationCount, ← prepared.four,
    List.length_filter_eq_length_iff] at held
  exact List.eq_replicate_iff.mpr ⟨prepared.four, held⟩

/-- What `from_validated` asks of its arguments. -/
structure Admissible (allocations : BootDataAllocations) (bootInfo : BootInfo)
    (descriptors : List MemoryDescriptor) : Prop where
  block : ∃ validated, bootInfo.validate = .ok validated
  counted : descriptors.length = bootInfo.memoryMap.descriptorCount
  valid : ∀ descriptor ∈ descriptors, descriptor.Valid
  ranges : ∀ allocation ∈ allocations.ordered,
    validateRange allocation.pageStart allocation.pageCount = .ok ()
  /-- The map stands in the pages that were allocated for it. -/
  low : allocations.convertedMap.pageStart ≤ bootInfo.memoryMap.physicalAddress
  high : bootInfo.memoryMap.physicalAddress + bootInfo.memoryMap.byteLength ≤
    allocations.convertedMap.pageStart + allocations.convertedMap.pageCount * memoryPageSize

/-- A valid block counts no more descriptors than a word can. -/
theorem descriptorCount_lt {info : BootInfo} {validated : ValidatedBootInfo}
    (accepted : info.validate = .ok validated) : info.memoryMap.descriptorCount < wordLimit := by
  obtain ⟨byteLength, shape⟩ := validate_memoryMap accepted
  obtain ⟨_, _, ⟨wide, _⟩, _, _, bytes, _, bounded⟩ := validateMemoryMap_eq_ok.mp shape
  have positive : 0 < info.memoryMap.descriptorStride := Nat.lt_of_lt_of_le (by decide) wide
  have small := Nat.le_mul_of_pos_right info.memoryMap.descriptorCount positive
  omega

theorem all_valid_iff {descriptors : List MemoryDescriptor} :
    (¬ ∃ descriptor ∈ descriptors, descriptor.validate.isOk = false) ↔
      ∀ descriptor ∈ descriptors, descriptor.Valid := by
  have each (descriptor : MemoryDescriptor) :
      ¬ descriptor.validate.isOk = false ↔ descriptor.Valid := by
    rw [← MemoryDescriptor.validate_iff]
    cases descriptor.validate <;> simp [Except.isOk, Except.toBool]
  simp only [not_exists, not_and, each]

theorem fromValidated_eq_ok {backend : β} {allocations : BootDataAllocations} {bootInfo : BootInfo}
    {descriptors : List MemoryDescriptor} {provisionalMap : ProvisionalMapMetadata}
    {prepared : PreparedBootInfo β} :
    fromValidated backend allocations bootInfo descriptors provisionalMap = .ok prepared ↔
      Admissible allocations bootInfo descriptors ∧ prepared = {
        backend
        allocations
        owned := [true, true, true, true]
        bootInfo
        bootInfoAddress := allocations.bootInfo.pageStart
        provisionalMap
        four := rfl } := by
  simp only [fromValidated, bind_eq_ok, guard_eq_ok, okOr_eq_ok, mapError_eq_ok, rangeEnd_eq_ok,
    checkedAdd_eq_some, Except.ok.injEq, not_or, all_valid_iff, ne_eq, not_not, toWord_eq_some,
    not_lt]
  constructor
  · rintro ⟨validated, wire, ⟨⟨_, counted⟩, valid⟩, _, ranges, _, ⟨rfl, _⟩, _, ⟨_, rfl⟩, ⟨low, high⟩,
      rfl⟩
    refine ⟨⟨⟨validated, wire⟩, counted, valid, ?_, low, high⟩, rfl⟩
    intro allocation member
    exact mapError_eq_ok.mp (checkAll_eq_ok.mp ranges allocation member)
  · rintro ⟨⟨⟨validated, wire⟩, counted, valid, ranges, low, high⟩, rfl⟩
    obtain ⟨_, _, inside⟩ := validateRange_eq_ok.mp
      (ranges allocations.convertedMap (by simp [BootDataAllocations.ordered]))
    have count := descriptorCount_lt wire
    refine ⟨validated, wire, ⟨⟨by omega, counted⟩, valid⟩, (), checkAll_eq_ok.mpr ?_, _,
      ⟨rfl, inside⟩, _, ⟨by omega, rfl⟩, ⟨low, high⟩, rfl⟩
    intro allocation member
    exact mapError_eq_ok.mpr (ranges allocation member)

end PreparedBootInfo

end UnnamedOS.Loader
