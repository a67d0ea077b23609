import Mathlib.Data.Nat.Bitwise

namespace UnnamedOS.X86

/-! # The four-level translation walk

What the processor does with a hierarchy of page tables in memory: at each
level it takes nine bits of the address as an index, reads that entry of the
current table, stops if the entry is not present, and follows the frame the
entry names.  Rights accumulate on the way. -/

@[simp] def presentBit : Nat := 1 <<< 0
@[simp] def writableBit : Nat := 1 <<< 1
@[simp] def noExecuteBit : Nat := 1 <<< 63
@[simp] def frameMask : Nat := 0x000f_ffff_ffff_f000

inductive Translation where
  | notPresent
  | unreadable
  | mapped (physical : Nat) (writable noExecute : Bool)
deriving DecidableEq, Repr

/-- The bits of the address each level consumes. -/
def levelShifts : List Nat := [39, 30, 21, 12]

/-- The walk from a table frame on, over memory given as `read frame index`. -/
def walk (read : Nat → Nat → Option Nat) (address : Nat) :
    List Nat → Nat → Bool → Bool → Translation
  | [], frame, writable, noExecute => .mapped (frame + address % 4096) writable noExecute
  | shift :: shifts, frame, writable, noExecute =>
      match read frame (address / 2 ^ shift % 512) with
      | none => .unreadable
      | some entry =>
          if entry &&& presentBit = 0 then .notPresent
          else walk read address shifts (entry &&& frameMask)
            (writable && entry &&& writableBit != 0) (noExecute || entry &&& noExecuteBit != 0)

def pageWalk (read : Nat → Nat → Option Nat) (root address : Nat) : Translation :=
  walk read address levelShifts root true false

/-! ## Entries assembled from a frame and flags -/

section

variable {frame flags mask : Nat}

theorem aligned_and_low (aligned : frame % 4096 = 0) (low : mask < 4096) : frame &&& mask = 0 := by
  refine Nat.eq_of_testBit_eq ?_
  intro bit
  rw [Nat.testBit_and, Nat.zero_testBit]
  by_cases inside : bit < 12
  · have clear : frame.testBit bit = false := by
      have residue := Nat.testBit_mod_two_pow frame 12 bit
      rw [show frame % 2 ^ 12 = 0 from aligned, Nat.zero_testBit, decide_eq_true inside,
        Bool.true_and] at residue
      exact residue.symm
    rw [clear, Bool.false_and]
  · have beyond : 12 ≤ bit := Nat.le_of_not_lt inside
    have power : 2 ^ 12 ≤ 2 ^ bit := Nat.pow_le_pow_right (by decide) beyond
    have bound : mask < 2 ^ bit := Nat.lt_of_lt_of_le low power
    rw [Nat.testBit_lt_two_pow bound, Bool.and_false]

theorem bounded_and_noExecute (bound : frame < 2 ^ 52) : frame &&& noExecuteBit = 0 := by
  have above : frame < 2 ^ 63 := by omega
  have power : noExecuteBit = 2 ^ 63 := by decide
  rw [power, Nat.and_two_pow, Nat.testBit_lt_two_pow above]
  rfl

theorem bounded_and_frameMask (aligned : frame % 4096 = 0) (bound : frame < 2 ^ 52) :
    frame &&& frameMask = frame := by
  have shifted : frame = (frame / 2 ^ 12) <<< 12 := by
    rw [Nat.shiftLeft_eq]
    omega
  have mask : frameMask = (2 ^ 40 - 1) <<< 12 := by decide
  have small : frame / 2 ^ 12 % 2 ^ 40 = frame / 2 ^ 12 := by omega
  rw [mask]
  conv_lhs => rw [shifted]
  rw [← Nat.shiftLeft_and_distrib, Nat.and_two_pow_sub_one_eq_mod, small]
  exact shifted.symm

/-- The frame bits of an assembled entry are the frame. -/
theorem entry_frame (aligned : frame % 4096 = 0) (bound : frame < 2 ^ 52)
    (apart : flags &&& frameMask = 0) : (frame ||| flags) &&& frameMask = frame := by
  rw [Nat.and_or_distrib_right, bounded_and_frameMask aligned bound, apart, Nat.or_zero]

/-- A low flag of an assembled entry is the flag. -/
theorem entry_low (aligned : frame % 4096 = 0) (low : mask < 4096) :
    (frame ||| flags) &&& mask = flags &&& mask := by
  rw [Nat.and_or_distrib_right, aligned_and_low aligned low, Nat.zero_or]

theorem entry_noExecute (bound : frame < 2 ^ 52) :
    (frame ||| flags) &&& noExecuteBit = flags &&& noExecuteBit := by
  rw [Nat.and_or_distrib_right, bounded_and_noExecute bound, Nat.zero_or]

end

/-! ## Steps of the walk -/

section

variable {read : Nat → Nat → Option Nat} {address shift frame entry next flags : Nat}
  {shifts : List Nat} {writable noExecute : Bool}

theorem walk_absent (found : read frame (address / 2 ^ shift % 512) = some entry)
    (absent : entry &&& presentBit = 0) :
    walk read address (shift :: shifts) frame writable noExecute = .notPresent := by
  simp only [walk, found, if_pos absent]

/-- A present entry assembled from a frame leads to that frame. -/
theorem walk_present (found : read frame (address / 2 ^ shift % 512) = some (next ||| flags))
    (aligned : next % 4096 = 0) (bound : next < 2 ^ 52) (apart : flags &&& frameMask = 0)
    (present : flags &&& presentBit ≠ 0) :
    walk read address (shift :: shifts) frame writable noExecute =
      walk read address shifts next (writable && flags &&& writableBit != 0)
        (noExecute || flags &&& noExecuteBit != 0) := by
  have low (mask : Nat) (small : mask < 4096) :
      (next ||| flags) &&& mask = flags &&& mask := entry_low aligned small
  simp only [walk, found]
  rw [low presentBit (by decide), if_neg present, entry_frame aligned bound apart,
    low writableBit (by decide), entry_noExecute bound]

end

end UnnamedOS.X86
