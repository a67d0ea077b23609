import Mathlib.Data.Nat.Bitwise

namespace UnnamedOS.Data

/-! Unsigned machine words as naturals.  A `u64` quantity is a natural number;
an operation the program checks is partial and stops at the word's width, so
a sum or a product that exists is the mathematical one. -/

def wordLimit : Nat := 2 ^ 64

/-- `u64::checked_add`. -/
def checkedAdd (left right : Nat) : Option Nat :=
  if left + right < wordLimit then some (left + right) else none

/-- `u64::checked_sub`. -/
def checkedSub (left right : Nat) : Option Nat :=
  if right ≤ left then some (left - right) else none

/-- `u64::checked_mul`. -/
def checkedMul (left right : Nat) : Option Nat :=
  if left * right < wordLimit then some (left * right) else none

/-- `u64::try_from`. -/
def toWord (value : Nat) : Option Nat := if value < wordLimit then some value else none

@[simp] theorem toWord_eq_some {value word : Nat} :
    toWord value = some word ↔ value < wordLimit ∧ value = word := by
  simp [toWord]

@[simp] theorem checkedAdd_eq_some {left right sum : Nat} :
    checkedAdd left right = some sum ↔ left + right < wordLimit ∧ left + right = sum := by
  simp [checkedAdd]

@[simp] theorem checkedSub_eq_some {left right difference : Nat} :
    checkedSub left right = some difference ↔ right ≤ left ∧ left - right = difference := by
  simp [checkedSub]

@[simp] theorem checkedMul_eq_some {left right product : Nat} :
    checkedMul left right = some product ↔ left * right < wordLimit ∧ left * right = product := by
  simp [checkedMul]

/-- Clearing the low bits of a word with a mask. -/
theorem and_shifted_mask {value bits shift : Nat} (word : value < 2 ^ (bits + shift)) :
    value &&& (2 ^ bits - 1) <<< shift = value / 2 ^ shift * 2 ^ shift := by
  have high : (value &&& (2 ^ bits - 1) <<< shift) / 2 ^ shift = value / 2 ^ shift := by
    rw [← Nat.shiftRight_eq_div_pow, Nat.shiftRight_and_distrib, Nat.shiftLeft_shiftRight,
      Nat.and_two_pow_sub_one_eq_mod, Nat.shiftRight_eq_div_pow]
    refine Nat.mod_eq_of_lt (Nat.div_lt_of_lt_mul ?_)
    rwa [← Nat.pow_add, Nat.add_comm]
  have low : (value &&& (2 ^ bits - 1) <<< shift) % 2 ^ shift = 0 := by
    rw [Nat.and_mod_two_pow, Nat.shiftLeft_eq, Nat.mul_mod_left, Nat.and_zero]
  rw [← high]
  exact (Nat.div_mul_cancel (Nat.dvd_of_mod_eq_zero low)).symm

/-- A word with no bit outside a mask. -/
theorem and_eq_self_of_outside {value mask : Nat} (word : value < wordLimit)
    (clear : value &&& ((wordLimit - 1) ^^^ mask) = 0) : value &&& mask = value := by
  refine Nat.eq_of_testBit_eq ?_
  intro bit
  have outside := congrArg (Nat.testBit · bit) clear
  simp only [Nat.testBit_and, Nat.testBit_xor, wordLimit, Nat.testBit_two_pow_sub_one,
    Nat.zero_testBit] at outside ⊢
  by_cases inside : bit < 64
  · cases set : value.testBit bit with
    | false => rfl
    | true => simpa [inside, set] using outside
  · have above : value.testBit bit = false :=
      Nat.testBit_lt_two_pow (Nat.lt_of_lt_of_le word (Nat.pow_le_pow_right (by decide) (by omega)))
    rw [above, Bool.false_and]

/-- A multiple of a power of two and a number below it share no bit. -/
theorem or_eq_add {high low shift : Nat} (aligned : high % 2 ^ shift = 0)
    (below : low < 2 ^ shift) : high ||| low = high + low := by
  obtain ⟨count, rfl⟩ := Nat.dvd_of_mod_eq_zero aligned
  exact (Nat.two_pow_add_eq_or_of_lt below count).symm

end UnnamedOS.Data
