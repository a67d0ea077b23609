import Mathlib.Algebra.GroupWithZero.Nat
import UnnamedOS.Data.Bytes
import UnnamedOS.Data.Memory

namespace UnnamedOS.Data

/-! # Records in memory

A `repr(C)` record of integers is a row of little-endian fields.  Its bytes
give the record back when every field is within its width, and any bytes are
those of some record. -/

/-- The fields one after the other, each in its width. -/
def packFields : List Nat → List Nat → List UInt8
  | width :: widths, field :: fields => leBytes width field ++ packFields widths fields
  | _, _ => []

def splitFields : List Nat → List UInt8 → List Nat
  | [], _ => []
  | width :: widths, bytes =>
      leValue (bytes.take width) :: splitFields widths (bytes.drop width)

/-- Each field is within its width. -/
def FitFields (widths fields : List Nat) : Prop :=
  ∀ field ∈ widths.zip fields, field.2 < 256 ^ field.1

instance (widths fields : List Nat) : Decidable (FitFields widths fields) :=
  inferInstanceAs (Decidable (∀ field ∈ widths.zip fields, field.2 < 256 ^ field.1))

theorem leValue_lt (bytes : List UInt8) : leValue bytes < 256 ^ bytes.length := by
  induction bytes with
  | nil => simp [leValue]
  | cons byte bytes ih =>
      have bound := byte.toNat_lt
      simp only [leValue, List.length_cons, Nat.pow_succ]
      omega

theorem leValue_take_lt (bytes : List UInt8) (width : Nat) :
    leValue (bytes.take width) < 256 ^ width := by
  refine Nat.lt_of_lt_of_le (leValue_lt _) (Nat.pow_le_pow_right (by decide) ?_)
  rw [List.length_take]
  exact Nat.min_le_left _ _

theorem length_packFields {widths fields : List Nat} (sized : fields.length = widths.length) :
    (packFields widths fields).length = widths.sum := by
  induction widths generalizing fields with
  | nil => simp [packFields]
  | cons width widths ih =>
      cases fields with
      | nil => contradiction
      | cons field fields =>
          rw [packFields, List.length_append, length_leBytes, List.sum_cons,
            ih (Nat.succ.inj sized)]

theorem splitFields_packFields {widths fields : List Nat} (sized : fields.length = widths.length)
    (fit : FitFields widths fields) : splitFields widths (packFields widths fields) = fields := by
  induction widths generalizing fields with
  | nil => exact (List.eq_nil_of_length_eq_zero sized).symm
  | cons width widths ih =>
      cases fields with
      | nil => contradiction
      | cons field fields =>
          obtain ⟨first, rest⟩ := List.forall_mem_cons.mp fit
          have whole : (leBytes width field).length = width := length_leBytes width field
          rw [packFields, splitFields, List.take_left' whole, List.drop_left' whole,
            leValue_leBytes first, ih (Nat.succ.inj sized) rest]

theorem length_flatMap_sized {ι τ : Type} {items : List ι} {piece : ι → List τ} {width : Nat}
    (sized : ∀ item ∈ items, (piece item).length = width) :
    (items.flatMap piece).length = items.length * width := by
  induction items with
  | nil => simp
  | cons first rest ih =>
      rw [List.flatMap_cons, List.length_append, sized first List.mem_cons_self,
        ih fun item member => sized item (List.mem_cons_of_mem first member), List.length_cons,
        Nat.succ_mul, Nat.add_comm]

/-- In a row of pieces of one width, each stands at its multiple of the width. -/
theorem take_drop_flatMap {ι τ : Type} {items : List ι} {piece : ι → List τ} {width index : Nat}
    (sized : ∀ item ∈ items, (piece item).length = width) (below : index < items.length) :
    ((items.flatMap piece).drop (index * width)).take width = piece (items.get ⟨index, below⟩) := by
  induction items generalizing index with
  | nil => contradiction
  | cons first rest ih =>
      have whole := sized first List.mem_cons_self
      rw [List.flatMap_cons]
      cases index with
      | zero =>
          rw [Nat.zero_mul, List.drop_zero]
          exact List.take_left' whole
      | succ index =>
          rw [Nat.succ_mul, Nat.add_comm, ← whole, List.drop_length_add_append, whole]
          exact ih (fun item member => sized item (List.mem_cons_of_mem first member))
            (Nat.lt_of_succ_lt_succ below)

/-- A type whose values are rows of fields.  `build` is only used on as many
fields as there are widths. -/
structure Record (α : Type) where
  widths : List Nat
  fields : α → List Nat
  build : List Nat → α
  sized : ∀ value, (fields value).length = widths.length
  rebuilt : ∀ value, build (fields value) = value

namespace Record

variable {α : Type} (record : Record α)

def size : Nat := record.widths.sum

def encode (value : α) : List UInt8 := packFields record.widths (record.fields value)

def decode (bytes : List UInt8) : α := record.build (splitFields record.widths bytes)

def Fits (value : α) : Prop := FitFields record.widths (record.fields value)

instance (value : α) : Decidable (record.Fits value) :=
  inferInstanceAs (Decidable (FitFields record.widths (record.fields value)))

@[simp] theorem length_encode (value : α) : (record.encode value).length = record.size :=
  length_packFields (record.sized value)

variable {record}

theorem decode_encode {value : α} (fits : record.Fits value) :
    record.decode (record.encode value) = value := by
  rw [decode, encode, splitFields_packFields (record.sized value) fits, record.rebuilt]

/-! ## Through a memory -/

variable (record)

def load (memory : Nat → UInt8) (address : Nat) : α :=
  record.decode (window memory address record.size)

def save (memory : Nat → UInt8) (address : Nat) (value : α) : Nat → UInt8 :=
  store memory address (record.encode value)

/-- A slice of records. -/
def loadAll (memory : Nat → UInt8) (address count : Nat) : List α :=
  (List.range count).map fun index => record.load memory (address + index * record.size)

def saveAll (memory : Nat → UInt8) (address : Nat) (values : List α) : Nat → UInt8 :=
  store memory address (values.flatMap record.encode)

variable {record} {memory : Nat → UInt8} {address other count : Nat} {cells : List UInt8}
  {value : α} {values : List α}

@[simp] theorem length_loadAll : (record.loadAll memory address count).length = count := by
  simp [loadAll]

theorem length_flatMap_encode (values : List α) :
    (values.flatMap record.encode).length = values.length * record.size :=
  length_flatMap_sized fun value _ => record.length_encode value

theorem load_save (fits : record.Fits value) :
    record.load (record.save memory address value) address = value := by
  rw [load, save, window_store (record.length_encode value), decode_encode fits]

/-- A store that keeps away from a record leaves it as it was. -/
theorem load_store (apart : address + record.size ≤ other ∨ other + cells.length ≤ address) :
    record.load (store memory other cells) address = record.load memory address := by
  rw [load, load, window_store_apart apart]

theorem loadAll_store
    (apart : address + count * record.size ≤ other ∨ other + cells.length ≤ address) :
    record.loadAll (store memory other cells) address count =
      record.loadAll memory address count := by
  refine List.map_congr_left ?_
  intro index member
  have below : index + 1 ≤ count := List.mem_range.mp member
  have inside : index * record.size + record.size ≤ count * record.size := by
    rw [← Nat.succ_mul]
    exact Nat.mul_le_mul_right _ below
  exact load_store (by omega)

/-- What is read back from a stored slice. -/
theorem loadAll_saveAll (short : count ≤ values.length)
    (fits : ∀ value ∈ values.take count, record.Fits value) :
    record.loadAll (record.saveAll memory address values) address count = values.take count := by
  refine List.ext_getElem (by simp [short]) ?_
  intro index left right
  have below : index < count := by simpa using left
  have listed : index < values.length := Nat.lt_of_lt_of_le below short
  have inside : index * record.size + record.size ≤ (values.flatMap record.encode).length := by
    rw [length_flatMap_encode, ← Nat.succ_mul]
    exact Nat.mul_le_mul_right _ listed
  have member : values.get ⟨index, listed⟩ ∈ values.take count := by
    rw [List.mem_take_iff_getElem]
    exact ⟨index, by omega, rfl⟩
  simp only [loadAll, List.getElem_map, List.getElem_range, List.getElem_take, load, saveAll]
  rw [window_store_inside inside,
    take_drop_flatMap (fun value _ => record.length_encode value) listed,
    decode_encode (fits _ member)]
  rfl

end Record

end UnnamedOS.Data
