import UnnamedOS.Data.Fallible
import UnnamedOS.Data.Output

namespace UnnamedOS.Xtask.Sha256

open UnnamedOS.Data

/-! # The digest of the build tool

`digest` runs `compress` over the full blocks of its input and then over a
tail of one or two blocks that it assembles in a buffer of 128 bytes. -/

def initialState : Vector UInt32 8 :=
  #v[0x6a09e667, 0xbb67ae85, 0x3c6ef372, 0xa54ff53a, 0x510e527f, 0x9b05688c, 0x1f83d9ab, 0x5be0cd19]

def roundConstants : Vector UInt32 64 :=
  #v[
    0x428a2f98, 0x71374491, 0xb5c0fbcf, 0xe9b5dba5, 0x3956c25b, 0x59f111f1, 0x923f82a4, 0xab1c5ed5,
    0xd807aa98, 0x12835b01, 0x243185be, 0x550c7dc3, 0x72be5d74, 0x80deb1fe, 0x9bdc06a7, 0xc19bf174,
    0xe49b69c1, 0xefbe4786, 0x0fc19dc6, 0x240ca1cc, 0x2de92c6f, 0x4a7484aa, 0x5cb0a9dc, 0x76f988da,
    0x983e5152, 0xa831c66d, 0xb00327c8, 0xbf597fc7, 0xc6e00bf3, 0xd5a79147, 0x06ca6351, 0x14292967,
    0x27b70a85, 0x2e1b2138, 0x4d2c6dfc, 0x53380d13, 0x650a7354, 0x766a0abb, 0x81c2c92e, 0x92722c85,
    0xa2bfe8a1, 0xa81a664b, 0xc24b8b70, 0xc76c51a3, 0xd192e819, 0xd6990624, 0xf40e3585, 0x106aa070,
    0x19a4c116, 0x1e376c08, 0x2748774c, 0x34b0bcb5, 0x391c0cb3, 0x4ed8aa4a, 0x5b9cca4f, 0x682e6ff3,
    0x748f82ee, 0x78a5636f, 0x84c87814, 0x8cc70208, 0x90befffa, 0xa4506ceb, 0xbef9a3f7, 0xc67178f2]

/-- `u32::rotate_right`. -/
def rotateRight (word : UInt32) (count : Nat) : UInt32 := ⟨word.toBitVec.rotateRight count⟩

/-! ## One block -/

/-- The body of the first loop of `compress`, for `index` below 16. -/
def loadWord (block : Vector UInt8 64) (schedule : Vector UInt32 64) (index : Fin 16) :
    Vector UInt32 64 :=
  have bound := index.isLt
  schedule.set index.val (UInt32.ofNat (beValue
    [block[index.val * 4], block[index.val * 4 + 1], block[index.val * 4 + 2],
      block[index.val * 4 + 3]]))

/-- The body of the second loop, for `index` from 16 on. -/
def extendSchedule (schedule : Vector UInt32 64) (above : Fin 48) : Vector UInt32 64 :=
  have bound := above.isLt
  let s0 := rotateRight schedule[above.val + 16 - 15] 7 ^^^
    rotateRight schedule[above.val + 16 - 15] 18 ^^^ (schedule[above.val + 16 - 15] >>> 3)
  let s1 := rotateRight schedule[above.val + 16 - 2] 17 ^^^
    rotateRight schedule[above.val + 16 - 2] 19 ^^^ (schedule[above.val + 16 - 2] >>> 10)
  schedule.set (above.val + 16)
    (schedule[above.val + 16 - 16] + s0 + schedule[above.val + 16 - 7] + s1)

/-- The eight variables of the last loop. -/
structure Working where
  a : UInt32
  b : UInt32
  c : UInt32
  d : UInt32
  e : UInt32
  f : UInt32
  g : UInt32
  h : UInt32

def mixRound (schedule : Vector UInt32 64) (working : Working) (index : Fin 64) : Working :=
  let choice := (working.e &&& working.f) ^^^ (~~~working.e &&& working.g)
  let majority := (working.a &&& working.b) ^^^ (working.a &&& working.c) ^^^
    (working.b &&& working.c)
  let sum0 := rotateRight working.a 2 ^^^ rotateRight working.a 13 ^^^ rotateRight working.a 22
  let sum1 := rotateRight working.e 6 ^^^ rotateRight working.e 11 ^^^ rotateRight working.e 25
  let temporary1 := working.h + sum1 + choice + roundConstants.get index + schedule.get index
  let temporary2 := sum0 + majority
  { h := working.g
    g := working.f
    f := working.e
    e := working.d + temporary1
    d := working.c
    c := working.b
    b := working.a
    a := temporary1 + temporary2 }

def compress (state : Vector UInt32 8) (block : Vector UInt8 64) : Vector UInt32 8 :=
  let schedule := (List.finRange 16).foldl (loadWord block) (Vector.replicate 64 0)
  let schedule := (List.finRange 48).foldl extendSchedule schedule
  let working := (List.finRange 64).foldl (mixRound schedule)
    ⟨state[0], state[1], state[2], state[3], state[4], state[5], state[6], state[7]⟩
  state.zipWith (· + ·) #v[working.a, working.b, working.c, working.d,
    working.e, working.f, working.g, working.h]

/-! ## The message -/

/-- An access outside of a slice. -/
inductive Panic where
  | outOfRange
deriving DecidableEq, Repr

/-- `bytes[start..start + 64]`. -/
def blockAt (bytes : List UInt8) (start : Nat) : Option (Vector UInt8 64) :=
  if inside : start + 64 ≤ bytes.length then
    some ⟨((bytes.drop start).take 64).toArray, by
      rw [List.size_toArray, List.length_take, List.length_drop]
      omega⟩
  else none

/-- `bytes[start..]`. -/
def sliceFrom (bytes : List UInt8) (start : Nat) : Option (List UInt8) :=
  if start ≤ bytes.length then some (bytes.drop start) else none

def compressAt (bytes : List UInt8) (state : Vector UInt32 8) (start : Nat) :
    Except Panic (Vector UInt32 8) := do
  let block ← okOr (blockAt bytes start) .outOfRange
  .ok (compress state block)

def paddedLength (remainder : List UInt8) : Nat := if remainder.length < 56 then 64 else 128

/-- The buffer behind the last full block; `bit_length` is a product on 64 bits. -/
def assembleTail (length : Nat) (remainder : List UInt8) : Except Panic (List UInt8) := do
  let tail ← okOr (overwrite (List.replicate 128 0) 0 remainder) .outOfRange
  let tail ← okOr (overwrite tail remainder.length [0x80]) .outOfRange
  let bitLength := length * 8 % 2 ^ 64
  okOr (overwrite tail (paddedLength remainder - 8) (beBytes 8 bitLength)) .outOfRange

/-- The tail is one block or two. -/
def compressTail (remainder tail : List UInt8) (state : Vector UInt32 8) :
    Except Panic (Vector UInt32 8) := do
  let state ← compressAt tail state 0
  if paddedLength remainder = 128 then compressAt tail state 64 else .ok state

def writeWord (output : List UInt8) (word : UInt32 × Nat) : Except Panic (List UInt8) :=
  okOr (overwrite output (word.2 * 4) (beBytes 4 word.1.toNat)) .outOfRange

def digest (bytes : List UInt8) : Except Panic (List UInt8) := do
  let fullBlocks := bytes.length / 64
  let state ← (List.range fullBlocks).foldlM
    (fun state blockIndex => compressAt bytes state (blockIndex * 64)) initialState
  let remainder ← okOr (sliceFrom bytes (fullBlocks * 64)) .outOfRange
  let tail ← assembleTail bytes.length remainder
  let state ← compressTail remainder tail state
  state.toList.zipIdx.foldlM writeWord (List.replicate 32 0)

end UnnamedOS.Xtask.Sha256
