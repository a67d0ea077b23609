import UnnamedOS.Data.SecureHash
import UnnamedOS.Xtask.Sha256

namespace UnnamedOS.Xtask.Sha256

open UnnamedOS.Data

/-! # The digest is the secure hash

The tables are the fractions of the roots, the loops of `compress` fill the
schedule and take the rounds of the standard, and the tail buffer holds what
the padding puts behind the last full block. -/

/-! ## Words and constants -/

theorem rotateRight_eq (word : UInt32) {count : Nat} (positive : 0 < count) (less : count < 32) :
    rotateRight word count = SecureHash.rotr (UInt32.ofNat count) word := by
  have left : (4294967296 - count % 4294967296) % 32 = 32 - count % 32 := by omega
  refine UInt32.toBitVec_inj.mp ?_
  simp [rotateRight, SecureHash.rotr, BitVec.rotateRight_def, left]

theorem sigmaZero_eq (word : UInt32) :
    rotateRight word 7 ^^^ rotateRight word 18 ^^^ word >>> 3 = SecureHash.sigmaZero word := by
  rw [rotateRight_eq word (by decide) (by decide), rotateRight_eq word (by decide) (by decide)]
  rfl

theorem sigmaOne_eq (word : UInt32) :
    rotateRight word 17 ^^^ rotateRight word 19 ^^^ word >>> 10 = SecureHash.sigmaOne word := by
  rw [rotateRight_eq word (by decide) (by decide), rotateRight_eq word (by decide) (by decide)]
  rfl

theorem sumZero_eq (word : UInt32) :
    rotateRight word 2 ^^^ rotateRight word 13 ^^^ rotateRight word 22 =
      SecureHash.sumZero word := by
  rw [rotateRight_eq word (by decide) (by decide), rotateRight_eq word (by decide) (by decide),
    rotateRight_eq word (by decide) (by decide)]
  rfl

theorem sumOne_eq (word : UInt32) :
    rotateRight word 6 ^^^ rotateRight word 11 ^^^ rotateRight word 25 =
      SecureHash.sumOne word := by
  rw [rotateRight_eq word (by decide) (by decide), rotateRight_eq word (by decide) (by decide),
    rotateRight_eq word (by decide) (by decide)]
  rfl

/-- The primes that the tables belong to. -/
def tablePrimes : Vector Nat 64 :=
  #v[
    2, 3, 5, 7, 11, 13, 17, 19, 23, 29, 31, 37, 41, 43, 47, 53,
    59, 61, 67, 71, 73, 79, 83, 89, 97, 101, 103, 107, 109, 113, 127, 131,
    137, 139, 149, 151, 157, 163, 167, 173, 179, 181, 191, 193, 197, 199, 211, 223,
    227, 229, 233, 239, 241, 251, 257, 263, 269, 271, 277, 281, 283, 293, 307, 311]

theorem tablePrimes_eq (index : Fin 64) : SecureHash.prime index = tablePrimes.get index := by
  have found : (List.range 312).filter (SecureHash.trialDivision 18) = tablePrimes.toList := by
    decide +kernel
  rw [SecureHash.filter_trialDivision (by decide)] at found
  have count := congrArg List.length found
  have position := congrArg (·[index.val]?) found
  simp only [List.length_map, List.length_range, Vector.length_toList] at count
  have entry : SecureHash.prime index = tablePrimes.toArray[index] := by
    simpa [count] using position
  exact entry

/-- The word is the fraction of the root of the number. -/
def IsFraction (degree number : Nat) (word : UInt32) : Prop :=
  ∃ whole < 7, (whole * 2 ^ 32 + word.toNat) ^ degree ≤ number * 2 ^ (32 * degree) ∧
    number * 2 ^ (32 * degree) < (whole * 2 ^ 32 + word.toNat + 1) ^ degree

instance (degree number : Nat) (word : UInt32) : Decidable (IsFraction degree number word) :=
  inferInstanceAs (Decidable (∃ whole < 7, _ ∧ _))

theorem IsFraction.eq {degree : Nat} {index : Fin 64} {word : UInt32} (positive : degree ≠ 0)
    (fraction : IsFraction degree (tablePrimes.get index) word) :
    SecureHash.rootFraction degree (SecureHash.prime index) = word := by
  obtain ⟨whole, _, lower, upper⟩ := fraction
  rw [tablePrimes_eq]
  exact SecureHash.rootFraction_eq positive lower upper

theorem roundConstants_eq (index : Fin 64) :
    SecureHash.constant index = roundConstants.get index := by
  have table : ∀ index : Fin 64, IsFraction 3 (tablePrimes.get index) (roundConstants.get index) := by
    decide +kernel
  exact (table index).eq (by decide)

/-- The registers as the array that `compress` updates. -/
def stateOf (registers : SecureHash.Registers) : Vector UInt32 8 :=
  #v[registers.a, registers.b, registers.c, registers.d,
    registers.e, registers.f, registers.g, registers.h]

theorem initialState_eq : stateOf SecureHash.initial = initialState := by
  have table : ∀ index : Fin 8,
      IsFraction 2 (tablePrimes.get (index.castLE (by decide))) (initialState.get index) := by
    decide +kernel
  have words : (fun index : Fin 8 => SecureHash.rootFraction 2 (SecureHash.prime index)) =
      initialState.get := by
    funext index
    have word := (table index).eq (by decide)
    rwa [Fin.val_castLE] at word
  rw [SecureHash.initial, words]
  rfl

/-! ## The schedule -/

section

variable {block : Vector UInt8 64}

/-- The words of the schedule that have been filled in so far. -/
def Scheduled (block : Vector UInt8 64) (count : Nat) (schedule : Vector UInt32 64) : Prop :=
  ∀ (index : Nat) (inside : index < 64), index < count →
    schedule[index] = SecureHash.schedule block.toList index

theorem Scheduled.set {count : Nat} {schedule : Vector UInt32 64} {word : UInt32}
    (filled : Scheduled block count schedule) (room : count < 64)
    (next : word = SecureHash.schedule block.toList count) :
    Scheduled block (count + 1) (schedule.set count word) := by
  intro index inside below
  rw [Vector.getElem_set]
  split
  · rename_i same
    rw [next, same]
  · exact filled index inside (by omega)

theorem messageWord_eq (block : Vector UInt8 64) (index : Fin 16) :
    SecureHash.messageWord block.toList index = UInt32.ofNat (beValue
      [block[index.val * 4], block[index.val * 4 + 1], block[index.val * 4 + 2],
        block[index.val * 4 + 3]]) := by
  have bound := index.isLt
  have length : block.toList.length = 64 := block.length_toList
  have word : (block.toList.drop (4 * index)).take 4 =
      [block[index.val * 4], block[index.val * 4 + 1], block[index.val * 4 + 2],
        block[index.val * 4 + 3]] := by
    rw [Nat.mul_comm, List.drop_eq_getElem_cons (by omega), List.drop_eq_getElem_cons (by omega),
      List.drop_eq_getElem_cons (by omega), List.drop_eq_getElem_cons (by omega)]
    simp
  rw [SecureHash.messageWord, word]

theorem loadWord_scheduled (start : Vector UInt32 64) :
    Scheduled block 16 ((List.finRange 16).foldl (loadWord block) start) := by
  refine foldl_finRange_invariant (Scheduled block) ?_ ?_
  · intro index _ below
    exact absurd below (Nat.not_lt_zero index)
  · intro index current filled
    refine filled.set (by omega) ?_
    rw [SecureHash.schedule_input _ index.isLt, messageWord_eq]

theorem extendSchedule_scheduled {start : Vector UInt32 64} (loaded : Scheduled block 16 start) :
    Scheduled block 64 ((List.finRange 48).foldl extendSchedule start) := by
  refine foldl_finRange_invariant (fun done => Scheduled block (done + 16)) loaded ?_
  intro above current filled
  have bound := above.isLt
  rw [Nat.add_right_comm]
  refine filled.set (by omega) ?_
  rw [SecureHash.schedule_recurrence _ (by omega), ← filled _ (by omega) (by omega),
    ← filled _ (by omega) (by omega), ← filled _ (by omega) (by omega),
    ← filled _ (by omega) (by omega)]
  simp only [sigmaZero_eq, sigmaOne_eq]
  -- The source adds the four words in another order.
  ac_rfl

end

/-! ## The rounds -/

def Working.registers (working : Working) : SecureHash.Registers :=
  ⟨working.a, working.b, working.c, working.d, working.e, working.f, working.g, working.h⟩

theorem mixRound_registers {block : Vector UInt8 64} {schedule : Vector UInt32 64}
    (filled : Scheduled block 64 schedule) (working : Working) (index : Fin 64) :
    (mixRound schedule working index).registers = SecureHash.round (SecureHash.constant index)
      (SecureHash.schedule block.toList index) working.registers := by
  have word : schedule.get index = SecureHash.schedule block.toList index :=
    filled index index.isLt index.isLt
  simp only [mixRound, Working.registers, SecureHash.round, sumZero_eq, sumOne_eq, word,
    roundConstants_eq]
  rfl

theorem mixRound_rounds {block : Vector UInt8 64} {schedule : Vector UInt32 64}
    (filled : Scheduled block 64 schedule) (start : Working) :
    ((List.finRange 64).foldl (mixRound schedule) start).registers =
      SecureHash.rounds block.toList start.registers 64 := by
  refine foldl_finRange_invariant (fun done (working : Working) =>
    working.registers = SecureHash.rounds block.toList start.registers done) rfl ?_
  intro index current same
  rw [mixRound_registers filled, same, SecureHash.rounds]

theorem zipWith_stateOf (left right : SecureHash.Registers) :
    (stateOf left).zipWith (· + ·) (stateOf right) = stateOf (left.add right) := by
  refine Vector.toArray_inj.mp ?_
  simp [stateOf, SecureHash.Registers.add]

theorem compress_eq (registers : SecureHash.Registers) (block : Vector UInt8 64) :
    compress (stateOf registers) block =
      stateOf (SecureHash.compression registers block.toList) := by
  have filled := extendSchedule_scheduled (@loadWord_scheduled block (Vector.replicate 64 0))
  have rounds := mixRound_rounds filled ⟨registers.a, registers.b, registers.c, registers.d,
    registers.e, registers.f, registers.g, registers.h⟩
  rw [SecureHash.compression, ← zipWith_stateOf]
  exact congrArg (fun result => (stateOf registers).zipWith (· + ·) (stateOf result)) rounds

/-! ## The message -/

theorem compressAt_eq {bytes : List UInt8} {start : Nat} (registers : SecureHash.Registers)
    (inside : start + 64 ≤ bytes.length) :
    compressAt bytes (stateOf registers) start =
      .ok (stateOf (SecureHash.compression registers ((bytes.drop start).take 64))) := by
  simp only [compressAt, blockAt, dif_pos inside, okOr_some, ok_bind, compress_eq]
  rfl

/-- A loop of `compress` over consecutive blocks. -/
theorem compressAt_blocks {bytes : List UInt8} {count : Nat} (registers : SecureHash.Registers)
    (inside : count * 64 ≤ bytes.length) :
    (List.range count).foldlM (fun state index => compressAt bytes state (index * 64))
        (stateOf registers) =
      .ok (stateOf (((List.range count).map fun index => (bytes.drop (64 * index)).take 64).foldl
        SecureHash.compression registers)) := by
  induction count with
  | zero => rfl
  | succ count ih =>
      rw [List.range_succ, List.foldlM_append, ih (by omega), List.map_append, List.foldl_append]
      simp only [ok_bind, List.foldlM_cons, List.foldlM_nil]
      rw [compressAt_eq _ (by omega), Nat.mul_comm count]
      rfl

/-- What the padding puts behind the last full block. -/
def paddedTail (bytes : List UInt8) : List UInt8 :=
  bytes.drop (bytes.length / 64 * 64) ++ SecureHash.padding bytes.length

theorem length_remainder (bytes : List UInt8) :
    (bytes.drop (bytes.length / 64 * 64)).length = bytes.length % 64 := by
  rw [List.length_drop]
  omega

theorem zeroCount_remainder (bytes : List UInt8) :
    SecureHash.zeroCount bytes.length =
      paddedLength (bytes.drop (bytes.length / 64 * 64)) - 9 - bytes.length % 64 := by
  rw [paddedLength, length_remainder]
  refine SecureHash.zeroCount_eq ?_ ?_
  · split <;> omega
  · split <;> omega

theorem length_paddedTail (bytes : List UInt8) :
    (paddedTail bytes).length = paddedLength (bytes.drop (bytes.length / 64 * 64)) := by
  simp only [paddedTail, SecureHash.padding, List.length_append, List.length_cons,
    List.length_replicate, length_beBytes, length_remainder, zeroCount_remainder]
  rw [paddedLength, length_remainder]
  split <;> omega

theorem assembleTail_eq {bytes : List UInt8} (short : bytes.length < 2 ^ 61) :
    assembleTail bytes.length (bytes.drop (bytes.length / 64 * 64)) =
      .ok (paddedTail bytes ++
        List.replicate (128 - paddedLength (bytes.drop (bytes.length / 64 * 64))) 0) := by
  have zeros := zeroCount_remainder bytes
  have length := length_remainder bytes
  have padded : bytes.length % 64 + 9 ≤ paddedLength (bytes.drop (bytes.length / 64 * 64)) ∧
      paddedLength (bytes.drop (bytes.length / 64 * 64)) ≤ 128 := by
    rw [paddedLength, length]
    split <;> omega
  rw [paddedTail]
  -- From here on only the length of the remainder matters.
  generalize bytes.drop (bytes.length / 64 * 64) = remainder at *
  have bits : bytes.length * 8 % 2 ^ 64 = 8 * bytes.length := by omega
  have first : overwrite (List.replicate 128 0) 0 remainder =
      some (remainder ++ List.replicate (128 - remainder.length) 0) :=
    @overwrite_run [] remainder 0 128 0 _ 0 rfl (by omega)
  have second : overwrite (remainder ++ List.replicate (128 - remainder.length) 0)
      remainder.length [0x80] =
      some (remainder ++ [0x80] ++ List.replicate (127 - remainder.length) 0) :=
    @overwrite_run remainder [0x80] _ _ 0 _ 0 rfl (by rw [List.length_singleton]; omega)
  have third : overwrite (remainder ++ [0x80] ++ List.replicate (127 - remainder.length) 0)
      (paddedLength remainder - 8) (beBytes 8 (8 * bytes.length)) =
      some (remainder ++ [0x80] ++ (List.replicate (SecureHash.zeroCount bytes.length) 0 ++
        beBytes 8 (8 * bytes.length)) ++ List.replicate (128 - paddedLength remainder) 0) := by
    refine overwrite_run ?_ ?_
    · rw [List.length_append, List.length_singleton]
      omega
    · rw [length_beBytes]
      omega
  simp only [assembleTail, first, second, third, bits, okOr_some, ok_bind, SecureHash.padding]
  simp

/-- The last loop appends the words, over a buffer of zeros. -/
theorem writeWord_words {words : List UInt32} {written : List UInt8} {index : Nat}
    (position : written.length = index * 4) :
    (words.zipIdx index).foldlM writeWord (written ++ List.replicate (words.length * 4) 0) =
      .ok (written ++ words.flatMap fun word => beBytes 4 word.toNat) := by
  induction words generalizing written index with
  | nil => simp [pure, Except.pure]
  | cons word words ih =>
      have put : overwrite (written ++ List.replicate ((word :: words).length * 4) 0) (index * 4)
          (beBytes 4 word.toNat) =
          some (written ++ beBytes 4 word.toNat ++ List.replicate (words.length * 4) 0) := by
        refine @overwrite_run written _ _ _ 0 _ 0 position.symm ?_
        rw [length_beBytes, List.length_cons]
        omega
      have moved : (written ++ beBytes 4 word.toNat).length = (index + 1) * 4 := by
        rw [List.length_append, length_beBytes]
        omega
      rw [List.zipIdx_cons, List.foldlM_cons, writeWord, put, okOr_some, ok_bind, ih moved,
        List.flatMap_cons, List.append_assoc]

theorem writeWord_state (registers : SecureHash.Registers) :
    (stateOf registers).toList.zipIdx.foldlM writeWord (List.replicate 32 0) =
      .ok (registers.words.flatMap fun word => beBytes 4 word.toNat) :=
  @writeWord_words registers.words [] 0 rfl

/-- The buffer gives the blocks that the padding completes. -/
theorem compressTail_eq (registers : SecureHash.Registers) (bytes : List UInt8) :
    compressTail (bytes.drop (bytes.length / 64 * 64)) (paddedTail bytes ++
        List.replicate (128 - paddedLength (bytes.drop (bytes.length / 64 * 64))) 0)
        (stateOf registers) =
      .ok (stateOf ((SecureHash.blocks (paddedTail bytes)).foldl SecureHash.compression
        registers)) := by
  have length := length_paddedTail bytes
  unfold compressTail
  by_cases single : (bytes.drop (bytes.length / 64 * 64)).length < 56
  · have padded : paddedLength (bytes.drop (bytes.length / 64 * 64)) = 64 := if_pos single
    rw [padded] at length ⊢
    have inside : 0 + 64 ≤ (paddedTail bytes ++ List.replicate (128 - 64) 0).length := by
      rw [List.length_append]
      omega
    rw [compressAt_eq registers inside, SecureHash.blocks_single length, ok_bind, if_neg (by decide),
      List.drop_zero, List.take_append_of_le_length (Nat.le_of_eq length.symm),
      List.take_of_length_le (Nat.le_of_eq length)]
    rfl
  · have padded : paddedLength (bytes.drop (bytes.length / 64 * 64)) = 128 := if_neg single
    rw [padded] at length ⊢
    have blocks : SecureHash.blocks (paddedTail bytes) =
        [((paddedTail bytes).drop 0).take 64, ((paddedTail bytes).drop 64).take 64] := by
      rw [SecureHash.blocks, length]
      rfl
    rw [Nat.sub_self, List.replicate_zero, List.append_nil, compressAt_eq registers (by omega),
      ok_bind, if_pos rfl, compressAt_eq _ (by omega), blocks]
    rfl

/-- For every input below the limit of the standard, `digest` returns the
secure hash of it. -/
theorem digest_eq_sha256 (bytes : List UInt8) (short : bytes.length < 2 ^ 61) :
    digest bytes = .ok (SecureHash.sha256 bytes) := by
  have remainder : sliceFrom bytes (bytes.length / 64 * 64) =
      some (bytes.drop (bytes.length / 64 * 64)) := if_pos (by omega)
  have full := compressAt_blocks SecureHash.initial (Nat.div_mul_le_self bytes.length 64)
  rw [SecureHash.sha256, SecureHash.blocks_append_drop, List.foldl_append]
  simp only [digest, ← initialState_eq, full, ok_bind, remainder, okOr_some, assembleTail_eq short,
    compressTail_eq, writeWord_state]
  rfl

/-- One byte more than a single block of padding has room for. -/
theorem digest_eq_sha256_of_56_bytes :
    digest (List.replicate 56 0x61) = .ok (SecureHash.sha256 (List.replicate 56 0x61)) :=
  digest_eq_sha256 (List.replicate 56 0x61) (by decide)

end UnnamedOS.Xtask.Sha256
