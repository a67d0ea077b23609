import Mathlib.Data.Nat.Prime.Infinite
import Mathlib.Data.Nat.Nth
import UnnamedOS.Data.Bytes

namespace UnnamedOS.Data.SecureHash

/-! # The secure hash on bytes

SHA-256 in the terms of its standard: six functions on words, a message schedule
given by a recurrence, sixty-four rounds on eight registers, and a padding that
completes the message to whole blocks.  The constants are the leading fraction
bits of square and cube roots of the first primes. -/

/-! ## Functions on words -/

def rotr (count word : UInt32) : UInt32 := word >>> count ||| word <<< (32 - count)

def shr (count word : UInt32) : UInt32 := word >>> count

def ch (x y z : UInt32) : UInt32 := (x &&& y) ^^^ (~~~x &&& z)

def maj (x y z : UInt32) : UInt32 := (x &&& y) ^^^ (x &&& z) ^^^ (y &&& z)

def sumZero (x : UInt32) : UInt32 := rotr 2 x ^^^ rotr 13 x ^^^ rotr 22 x

def sumOne (x : UInt32) : UInt32 := rotr 6 x ^^^ rotr 11 x ^^^ rotr 25 x

def sigmaZero (x : UInt32) : UInt32 := rotr 7 x ^^^ rotr 18 x ^^^ shr 3 x

def sigmaOne (x : UInt32) : UInt32 := rotr 17 x ^^^ rotr 19 x ^^^ shr 10 x

/-! ## Constants -/

/-- The whole part of a root. -/
def root (degree number : Nat) : Nat := Nat.findGreatest (fun base => base ^ degree ≤ number) number

/-- The first thirty-two bits of the fraction of a root. -/
def rootFraction (degree number : Nat) : UInt32 :=
  UInt32.ofNat (root degree (number * 2 ^ (32 * degree)))

/-- The primes, counted from zero. -/
noncomputable def prime (index : Nat) : Nat := Nat.nth Nat.Prime index

noncomputable def constant (index : Nat) : UInt32 := rootFraction 3 (prime index)

/-! ## Compression -/

structure Registers where
  a : UInt32
  b : UInt32
  c : UInt32
  d : UInt32
  e : UInt32
  f : UInt32
  g : UInt32
  h : UInt32
deriving DecidableEq

namespace Registers

def ofFn (word : Fin 8 → UInt32) : Registers :=
  ⟨word 0, word 1, word 2, word 3, word 4, word 5, word 6, word 7⟩

def add (left right : Registers) : Registers :=
  ⟨left.a + right.a, left.b + right.b, left.c + right.c, left.d + right.d,
    left.e + right.e, left.f + right.f, left.g + right.g, left.h + right.h⟩

def words (registers : Registers) : List UInt32 :=
  [registers.a, registers.b, registers.c, registers.d,
    registers.e, registers.f, registers.g, registers.h]

end Registers

noncomputable def initial : Registers := .ofFn fun index => rootFraction 2 (prime index)

def messageWord (block : List UInt8) (index : Nat) : UInt32 :=
  UInt32.ofNat (beValue ((block.drop (4 * index)).take 4))

def schedule (block : List UInt8) (index : Nat) : UInt32 :=
  if index < 16 then messageWord block index
  else sigmaOne (schedule block (index - 2)) + schedule block (index - 7) +
    sigmaZero (schedule block (index - 15)) + schedule block (index - 16)

def round (constant word : UInt32) (registers : Registers) : Registers :=
  let first := registers.h + sumOne registers.e + ch registers.e registers.f registers.g +
    constant + word
  let second := sumZero registers.a + maj registers.a registers.b registers.c
  ⟨first + second, registers.a, registers.b, registers.c, registers.d + first,
    registers.e, registers.f, registers.g⟩

noncomputable def rounds (block : List UInt8) (registers : Registers) : Nat → Registers
  | 0 => registers
  | count + 1 => round (constant count) (schedule block count) (rounds block registers count)

noncomputable def compression (registers : Registers) (block : List UInt8) : Registers :=
  registers.add (rounds block registers 64)

/-! ## The whole message -/

theorem exists_zeroCount (length : Nat) : ∃ count, (length + 1 + count + 8) % 64 = 0 :=
  ⟨119 - length % 64, by omega⟩

/-- The least number of zero bytes that leaves room for the length and nothing else. -/
def zeroCount (length : Nat) : Nat := Nat.find (exists_zeroCount length)

def padding (length : Nat) : List UInt8 :=
  0x80 :: (List.replicate (zeroCount length) 0 ++ beBytes 8 (8 * length))

def blocks (message : List UInt8) : List (List UInt8) :=
  (List.range (message.length / 64)).map fun index => (message.drop (64 * index)).take 64

noncomputable def sha256 (message : List UInt8) : List UInt8 :=
  ((blocks (message ++ padding message.length)).foldl compression initial).words.flatMap
    fun word => beBytes 4 word.toNat

/-! ## Laws -/

theorem schedule_input (block : List UInt8) {index : Nat} (input : index < 16) :
    schedule block index = messageWord block index := by
  rw [schedule, if_pos input]

theorem schedule_recurrence (block : List UInt8) {index : Nat} (later : 16 ≤ index) :
    schedule block index = sigmaOne (schedule block (index - 2)) + schedule block (index - 7) +
      sigmaZero (schedule block (index - 15)) + schedule block (index - 16) := by
  rw [schedule, if_neg (Nat.not_lt.mpr later)]

theorem root_eq {degree number base : Nat} (positive : degree ≠ 0) (lower : base ^ degree ≤ number)
    (upper : number < (base + 1) ^ degree) : root degree number = base := by
  refine Nat.findGreatest_eq_iff.mpr ⟨?_, fun _ => lower, ?_⟩
  · exact Nat.le_trans (Nat.le_self_pow positive base) lower
  · intro other above _ reached
    have high := Nat.pow_le_pow_left above degree
    exact absurd (Nat.lt_of_lt_of_le upper high) (Nat.not_lt.mpr reached)

/-- A fraction is known by the whole part that stands before it. -/
theorem rootFraction_eq {degree number whole : Nat} {fraction : UInt32} (positive : degree ≠ 0)
    (lower : (whole * 2 ^ 32 + fraction.toNat) ^ degree ≤ number * 2 ^ (32 * degree))
    (upper : number * 2 ^ (32 * degree) < (whole * 2 ^ 32 + fraction.toNat + 1) ^ degree) :
    rootFraction degree number = fraction := by
  rw [rootFraction, root_eq positive lower upper]
  refine UInt32.toNat_inj.mp ?_
  have bounded := fraction.toNat_lt
  rw [UInt32.toNat_ofNat']
  omega

/-- Division by every number below `limit`. -/
def trialDivision (limit number : Nat) : Bool :=
  decide (2 ≤ number) && (List.range limit).all fun divisor =>
    decide (divisor < 2) || decide (number < divisor * divisor) || number % divisor != 0

theorem trialDivision_iff {limit number : Nat} (small : number < limit * limit) :
    trialDivision limit number = true ↔ number.Prime := by
  simp only [trialDivision, Bool.and_eq_true, decide_eq_true_eq, List.all_eq_true, List.mem_range,
    Bool.or_eq_true, bne_iff_ne, ne_eq, ← Nat.dvd_iff_mod_eq_zero, Nat.prime_def_le_sqrt,
    Nat.le_sqrt]
  refine and_congr_right fun _ => ⟨?_, ?_⟩
  · intro tried divisor two square
    have below : divisor < limit := Nat.mul_self_lt_mul_self_iff.mp (Nat.lt_of_le_of_lt square small)
    rcases tried divisor below with (one | beyond) | other
    · omega
    · omega
    · exact other
  · intro none divisor _
    by_cases two : divisor < 2
    · exact .inl (.inl two)
    · by_cases square : number < divisor * divisor
      · exact .inl (.inr square)
      · exact .inr (none divisor (Nat.le_of_not_lt two) (Nat.le_of_not_lt square))

/-- A search below a bound finds the primes in the order they are counted in. -/
theorem filter_trialDivision {limit bound : Nat} (small : bound ≤ limit * limit) :
    (List.range bound).filter (trialDivision limit) =
      (List.range (Nat.count Nat.Prime bound)).map prime := by
  induction bound with
  | zero => rfl
  | succ bound ih =>
      have tested := trialDivision_iff (Nat.lt_of_succ_le small)
      rw [List.range_succ, List.filter_append, ih (Nat.le_of_succ_le small), Nat.count_succ]
      by_cases isPrime : bound.Prime
      · have last : prime (Nat.count Nat.Prime bound) = bound := Nat.nth_count isPrime
        simp [tested.mpr isPrime, isPrime, List.range_succ, last]
      · simp [mt tested.mp isPrime, isPrime]

/-- Both cases of the padding: the length goes into the last block of the
message or into one of its own. -/
theorem zeroCount_eq {length count : Nat} (completes : (length + 1 + count + 8) % 64 = 0)
    (less : count < 64) : zeroCount length = count := by
  refine (Nat.find_eq_iff _).mpr ⟨completes, ?_⟩
  intro other below reached
  omega

theorem blocks_append {front back : List UInt8} (whole : front.length % 64 = 0) :
    blocks (front ++ back) = blocks front ++ blocks back := by
  have count : (front ++ back).length / 64 = front.length / 64 + back.length / 64 := by
    rw [List.length_append]
    omega
  rw [blocks, count, List.range_add, List.map_append, List.map_map, blocks, blocks]
  refine congrArg₂ _ (List.map_congr_left ?_) (List.map_congr_left ?_)
  · intro index member
    have below := List.mem_range.mp member
    rw [List.drop_append_of_le_length (by omega), List.take_append_of_le_length]
    rw [List.length_drop]
    omega
  · intro index _
    have position : 64 * (front.length / 64 + index) = front.length + 64 * index := by omega
    simp only [Function.comp_apply, position, List.drop_length_add_append]

theorem blocks_single {block : List UInt8} (length : block.length = 64) :
    blocks block = [block] := by
  rw [blocks, length]
  simp [List.take_of_length_le (Nat.le_of_eq length)]

/-- What is appended to a message changes nothing before its last full block. -/
theorem blocks_append_drop (message more : List UInt8) :
    blocks (message ++ more) =
      blocks message ++ blocks (message.drop (message.length / 64 * 64) ++ more) := by
  have front : (message.take (message.length / 64 * 64)).length = message.length / 64 * 64 := by
    rw [List.length_take]
    omega
  have whole : (message.take (message.length / 64 * 64)).length % 64 = 0 := by
    rw [front, Nat.mul_mod_left]
  have rest : blocks (message.drop (message.length / 64 * 64)) = [] := by
    have short : (message.drop (message.length / 64 * 64)).length / 64 = 0 := by
      rw [List.length_drop]
      omega
    rw [blocks, short]
    rfl
  have full : blocks message = blocks (message.take (message.length / 64 * 64)) := by
    have split := @blocks_append _ (message.drop (message.length / 64 * 64)) whole
    rwa [List.take_append_drop, rest, List.append_nil] at split
  rw [full, ← blocks_append whole, ← List.append_assoc, List.take_append_drop]

end UnnamedOS.Data.SecureHash
