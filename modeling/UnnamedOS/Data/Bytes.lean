import UnnamedOS.Data.Word

namespace UnnamedOS.Data

/-! # Byte slices

A slice of bytes whose length is a machine word, with bounds-checked
little-endian reads.  `word` is the value a read returns when it succeeds. -/

structure Bytes where
  data : List UInt8
  bounded : data.length < wordLimit

/-- The value of a little-endian string of bytes. -/
def leValue : List UInt8 → Nat
  | [] => 0
  | byte :: bytes => byte.toNat + 256 * leValue bytes

/-- The `width` low bytes of a number, lowest first. -/
def leBytes : Nat → Nat → List UInt8
  | 0, _ => []
  | width + 1, value => UInt8.ofNat value :: leBytes width (value / 256)

@[simp] theorem length_leBytes (width value : Nat) : (leBytes width value).length = width := by
  induction width generalizing value with
  | zero => rfl
  | succ width ih => exact congrArg (· + 1) (ih (value / 256))

theorem leValue_leBytes {width value : Nat} (bounded : value < 256 ^ width) :
    leValue (leBytes width value) = value := by
  induction width generalizing value with
  | zero =>
      rw [Nat.pow_zero, Nat.lt_one_iff] at bounded
      exact bounded.symm
  | succ width ih =>
      have rest : value / 256 < 256 ^ width := by
        rw [Nat.pow_succ] at bounded
        exact Nat.div_lt_of_lt_mul (by rwa [Nat.mul_comm])
      simp only [leBytes, leValue, ih rest, UInt8.toNat_ofNat']
      omega

theorem leBytes_inj {width left right : Nat} (leftBound : left < 256 ^ width)
    (rightBound : right < 256 ^ width) (same : leBytes width left = leBytes width right) :
    left = right := by
  rw [← leValue_leBytes leftBound, same, leValue_leBytes rightBound]

/-- The same string with its highest byte first. -/
def beValue (bytes : List UInt8) : Nat := leValue bytes.reverse

def beBytes (width value : Nat) : List UInt8 := (leBytes width value).reverse

@[simp] theorem length_beBytes (width value : Nat) : (beBytes width value).length = width := by
  rw [beBytes, List.length_reverse, length_leBytes]

namespace Bytes

def length (bytes : Bytes) : Nat := bytes.data.length

/-- `bytes.get(start..start + width)`: a slice of exactly `width` bytes, so that
the constant indices the readers use are in range by its type. -/
def get (bytes : Bytes) (start width : Nat) : Option (Vector UInt8 width) :=
  if inside : start + width ≤ bytes.length then
    some ⟨((bytes.data.drop start).take width).toArray, by
      simp only [length] at inside
      simp only [List.size_toArray, List.length_take, List.length_drop]
      omega⟩
  else none

/-- `bytes[start..stop]`, which panics where this has no value. -/
def slice (bytes : Bytes) (start stop : Nat) : Option Bytes :=
  if start ≤ stop ∧ stop ≤ bytes.length then
    some ⟨(bytes.data.drop start).take (stop - start), by
      have bounded := bytes.bounded
      simp only [List.length_take, List.length_drop]
      omega⟩
  else none

/-- A checked read of `width` bytes. -/
def read (width : Nat) (bytes : Bytes) (offset : Nat) : Option Nat := do
  let _ ← checkedAdd offset width
  let value ← bytes.get offset width
  some (leValue value.toList)

def word (bytes : Bytes) (width offset : Nat) : Nat :=
  leValue ((bytes.data.drop offset).take width)

theorem read_eq_some {bytes : Bytes} {width offset value : Nat} :
    read width bytes offset = some value ↔
      offset + width ≤ bytes.length ∧ bytes.word width offset = value := by
  have bounded : bytes.length < wordLimit := bytes.bounded
  by_cases inside : offset + width ≤ bytes.length
  · have exists' : checkedAdd offset width = some (offset + width) :=
      checkedAdd_eq_some.mpr ⟨by omega, rfl⟩
    simp [read, get, word, exists', inside]
  · have absent : bytes.get offset width = none := by simp [get, inside]
    simp [read, absent, inside]

theorem read_inside {bytes : Bytes} {width offset : Nat}
    (inside : offset + width ≤ bytes.length) :
    read width bytes offset = some (bytes.word width offset) :=
  read_eq_some.mpr ⟨inside, rfl⟩

theorem slice_eq_some {bytes : Bytes} {start stop : Nat} (forward : start ≤ stop)
    (inside : stop ≤ bytes.length) :
    ∃ piece, bytes.slice start stop = some piece ∧
      piece.data = (bytes.data.drop start).take (stop - start) :=
  ⟨_, if_pos ⟨forward, inside⟩, rfl⟩

end Bytes

end UnnamedOS.Data
