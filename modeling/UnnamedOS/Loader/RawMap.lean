import UnnamedOS.BootProtocol.Wire
import UnnamedOS.MemoryMap.Normalize

namespace UnnamedOS.Loader

open UnnamedOS.Data UnnamedOS.BootProtocol UnnamedOS.MemoryMap

/-! # The firmware's memory map

The firmware writes its descriptors at a stride of its own choice, which is at
least the size of the record the loader knows. -/

def rawMemoryMapMaxBytes : Nat := 256 * 1024
def rawMemoryMapRetryLimit : Nat := 3
def convertedDescriptorCapacity : Nat := 2048

/-- `size_of::<UefiMemoryDescriptor>()`. -/
def uefiDescriptorSize : Nat := 40
def uefiDescriptorAlignment : Nat := 8

structure UefiMemoryDescriptor where
  ty : Nat
  physStart : Nat
  virtStart : Nat
  pageCount : Nat
  att : Nat
deriving DecidableEq, Repr

/-- The type is followed by four bytes of padding. -/
def UefiMemoryDescriptor.record : Record UefiMemoryDescriptor where
  widths := [4, 4, 8, 8, 8, 8]
  fields descriptor := [descriptor.ty, 0, descriptor.physStart, descriptor.virtStart,
    descriptor.pageCount, descriptor.att]
  build
    | [ty, _, physStart, virtStart, pageCount, att] => ⟨ty, physStart, virtStart, pageCount, att⟩
    | _ => ⟨0, 0, 0, 0, 0⟩
  sized _ := rfl
  rebuilt _ := rfl

theorem UefiMemoryDescriptor.size_record :
    UefiMemoryDescriptor.record.size = uefiDescriptorSize := rfl

/-- What `capture_memory_map` returns has passed its checks. -/
structure CapturedMapMeta where
  mapSize : Nat
  descriptorStride : Nat
  descriptorVersion : Nat
  mapKey : Nat
  wide : uefiDescriptorSize ≤ descriptorStride
  nonempty : mapSize ≠ 0
  whole : mapSize % descriptorStride = 0

namespace CapturedMapMeta

def rawCount (captured : CapturedMapMeta) : Nat := captured.mapSize / captured.descriptorStride

theorem rawCount_mul (captured : CapturedMapMeta) :
    captured.rawCount * captured.descriptorStride = captured.mapSize :=
  Nat.div_mul_cancel (Nat.dvd_of_mod_eq_zero captured.whole)

/-- The first half of the count's check always passes. -/
theorem rawCount_pos (captured : CapturedMapMeta) : 0 < captured.rawCount := by
  refine Nat.pos_of_ne_zero ?_
  intro none
  have covered := captured.rawCount_mul
  rw [none, Nat.zero_mul] at covered
  exact captured.nonempty covered.symm

end CapturedMapMeta

/-- The source reads through a pointer to the record, and so relies on a page
aligned buffer and on a stride that keeps every record aligned. -/
def readRawDescriptor (buffer : List UInt8) (index stride : Nat) : Option UefiMemoryDescriptor :=
  if stride < uefiDescriptorSize then none
  else do
    let offset ← checkedMul index stride
    let stop ← checkedAdd offset uefiDescriptorSize
    if stop > buffer.length then none
    else some (UefiMemoryDescriptor.record.decode ((buffer.drop offset).take uefiDescriptorSize))

/-- The descriptor that the conversion loops write for a raw one. -/
def mappedDescriptor (kindOf : Nat → Nat) (descriptor : UefiMemoryDescriptor) :
    MemoryDescriptor where
  kind := kindOf descriptor.ty
  reserved0 := 0
  physicalStart := descriptor.physStart
  pageCount := descriptor.pageCount
  attributes := descriptor.att

/-- The count's check and the conversion loop, which `prepare` runs with
`map_uefi_memory_kind` and `finalize_post_exit` with its post-exit variant. -/
def convertRawMap (kindOf : Nat → Nat) (raw : List UInt8) (captured : CapturedMapMeta) :
    Option (List MemoryDescriptor) :=
  if captured.rawCount = 0 ∨ captured.rawCount > convertedDescriptorCapacity then none
  else (List.range captured.rawCount).mapM fun index =>
    (readRawDescriptor raw index captured.descriptorStride).map (mappedDescriptor kindOf)

/-! ## What the loop reads -/

/-- The record at a multiple of the stride. -/
def rawDescriptorAt (raw : List UInt8) (stride index : Nat) : UefiMemoryDescriptor :=
  UefiMemoryDescriptor.record.decode ((raw.drop (index * stride)).take uefiDescriptorSize)

section

variable {raw : List UInt8} {captured : CapturedMapMeta} {kindOf : Nat → Nat}

theorem readRawDescriptor_inside (inside : captured.mapSize ≤ raw.length)
    (bounded : raw.length < wordLimit) {index : Nat} (below : index < captured.rawCount) :
    readRawDescriptor raw index captured.descriptorStride =
      some (rawDescriptorAt raw captured.descriptorStride index) := by
  have wide := captured.wide
  have covered := captured.rawCount_mul
  have next : (index + 1) * captured.descriptorStride ≤ captured.mapSize := by
    rw [← covered]
    exact Nat.mul_le_mul_right _ below
  rw [Nat.succ_mul] at next
  have offset : checkedMul index captured.descriptorStride =
      some (index * captured.descriptorStride) := checkedMul_eq_some.mpr ⟨by omega, rfl⟩
  have stop : checkedAdd (index * captured.descriptorStride) uefiDescriptorSize =
      some (index * captured.descriptorStride + uefiDescriptorSize) :=
    checkedAdd_eq_some.mpr ⟨by omega, rfl⟩
  simp only [readRawDescriptor, if_neg (Nat.not_lt.mpr wide), offset, stop,
    Option.bind_eq_bind, Option.bind_some]
  exact if_neg (by omega)

/-- Of what the firmware reported inside the buffer, every descriptor is read;
only a map of too many is refused. -/
theorem convertRawMap_inside (inside : captured.mapSize ≤ raw.length)
    (bounded : raw.length < wordLimit) :
    convertRawMap kindOf raw captured =
      if captured.rawCount ≤ convertedDescriptorCapacity then
        some ((List.range captured.rawCount).map fun index =>
          mappedDescriptor kindOf (rawDescriptorAt raw captured.descriptorStride index))
      else none := by
  have counted := captured.rawCount_pos
  by_cases room : captured.rawCount ≤ convertedDescriptorCapacity
  · rw [convertRawMap, if_neg (by omega), if_pos room]
    refine mapM_eq_some_map ?_
    intro index member
    rw [readRawDescriptor_inside inside bounded (List.mem_range.mp member), Option.map_some]
  · rw [convertRawMap, if_pos (by omega), if_neg room]

end

/-! ## The firmware's side -/

/-- A map as the firmware lays it out: each record, then what fills its stride. -/
def rawMapBytes (entries : List (UefiMemoryDescriptor × List UInt8)) : List UInt8 :=
  entries.flatMap fun entry => UefiMemoryDescriptor.record.encode entry.1 ++ entry.2

section

variable {entries : List (UefiMemoryDescriptor × List UInt8)} {stride : Nat} {rest : List UInt8}

theorem length_rawMapEntry {entry : UefiMemoryDescriptor × List UInt8}
    (filled : uefiDescriptorSize + entry.2.length = stride) :
    (UefiMemoryDescriptor.record.encode entry.1 ++ entry.2).length = stride := by
  rw [List.length_append, Record.length_encode, UefiMemoryDescriptor.size_record, filled]

theorem rawDescriptorAt_rawMapBytes
    (filled : ∀ entry ∈ entries, uefiDescriptorSize + entry.2.length = stride)
    (fits : ∀ entry ∈ entries, UefiMemoryDescriptor.record.Fits entry.1) {index : Nat}
    (below : index < entries.length) :
    rawDescriptorAt (rawMapBytes entries ++ rest) stride index =
      (entries.get ⟨index, below⟩).1 := by
  have sized : ∀ entry ∈ entries,
      (UefiMemoryDescriptor.record.encode entry.1 ++ entry.2).length = stride :=
    fun entry member => length_rawMapEntry (filled entry member)
  have member := List.get_mem entries ⟨index, below⟩
  have wide := filled _ member
  have inside : index * stride + stride ≤ (rawMapBytes entries).length := by
    rw [rawMapBytes, length_flatMap_sized sized, ← Nat.succ_mul]
    exact Nat.mul_le_mul_right _ below
  have whole : ((rawMapBytes entries ++ rest).drop (index * stride)).take stride =
      UefiMemoryDescriptor.record.encode (entries.get ⟨index, below⟩).1 ++
        (entries.get ⟨index, below⟩).2 := by
    rw [List.drop_append_of_le_length (by omega), List.take_append_of_le_length]
    · exact take_drop_flatMap sized below
    · rw [List.length_drop]
      omega
  have front : uefiDescriptorSize = min uefiDescriptorSize stride := by omega
  rw [rawDescriptorAt, front, ← List.take_take, whole, ← UefiMemoryDescriptor.size_record,
    List.take_left' (UefiMemoryDescriptor.record.length_encode _),
    Record.decode_encode (fits _ member)]

/-- Whatever stands behind each record and behind the map, the loop gives back
the firmware's own descriptors in their order. -/
theorem convertRawMap_rawMapBytes {captured : CapturedMapMeta} (kindOf : Nat → Nat)
    (filled : ∀ entry ∈ entries, uefiDescriptorSize + entry.2.length = captured.descriptorStride)
    (fits : ∀ entry ∈ entries, UefiMemoryDescriptor.record.Fits entry.1)
    (reported : captured.mapSize = (rawMapBytes entries).length)
    (room : entries.length ≤ convertedDescriptorCapacity)
    (bounded : (rawMapBytes entries ++ rest).length < wordLimit) :
    convertRawMap kindOf (rawMapBytes entries ++ rest) captured =
      some (entries.map fun entry => mappedDescriptor kindOf entry.1) := by
  have sized : ∀ entry ∈ entries, (UefiMemoryDescriptor.record.encode entry.1 ++ entry.2).length =
      captured.descriptorStride := fun entry member => length_rawMapEntry (filled entry member)
  have counted : captured.rawCount = entries.length := by
    have wide := captured.wide
    rw [CapturedMapMeta.rawCount, reported, rawMapBytes, length_flatMap_sized sized]
    exact Nat.mul_div_cancel _ (Nat.lt_of_lt_of_le (by decide) wide)
  rw [convertRawMap_inside (by simp [reported]) bounded, counted, if_pos room, Option.some.injEq]
  refine List.ext_getElem (by simp) ?_
  intro index left right
  have below : index < entries.length := by simpa using right
  simp only [List.getElem_map, List.getElem_range]
  rw [rawDescriptorAt_rawMapBytes filled fits below]
  rfl

end

end UnnamedOS.Loader
