import UnnamedOS.Data.Bytes

namespace UnnamedOS.Data

/-! # Output written in place

A slice is overwritten piece by piece, and the ranges that were written are
kept beside it.  A record is written as fields at fixed offsets of its own
area; what stands before the area and behind it is not touched. -/

/-- The bytes with `data` in the place of those from `offset` on. -/
def splice (bytes : List UInt8) (offset : Nat) (data : List UInt8) : List UInt8 :=
  bytes.take offset ++ data ++ bytes.drop (offset + data.length)

section

variable {bytes front back data : List UInt8} {offset : Nat}

theorem length_splice (inside : offset + data.length ≤ bytes.length) :
    (splice bytes offset data).length = bytes.length := by
  simp only [splice, List.length_append, List.length_take, List.length_drop]
  omega

theorem splice_append_left :
    splice (front ++ bytes) (front.length + offset) data = front ++ splice bytes offset data := by
  simp only [splice, List.take_append, List.drop_append, Nat.add_assoc, Nat.add_sub_cancel_left]
  rw [List.take_of_length_le (by omega), List.drop_of_length_le (by omega), List.nil_append,
    List.append_assoc, List.append_assoc, List.append_assoc]

theorem splice_append_right (inside : offset + data.length ≤ bytes.length) :
    splice (bytes ++ back) offset data = splice bytes offset data ++ back := by
  simp only [splice]
  rw [List.take_append_of_le_length (by omega), List.drop_append_of_le_length inside,
    List.append_assoc, List.append_assoc, List.append_assoc]

end

/-- A copy over a part of a buffer, which panics where this has no value. -/
def overwrite (bytes : List UInt8) (offset : Nat) (data : List UInt8) : Option (List UInt8) :=
  if offset + data.length ≤ bytes.length then some (splice bytes offset data) else none

/-- A copy into a run of equal bytes leaves a run on either side. -/
theorem overwrite_run {front data : List UInt8} {start count offset behind : Nat} {byte : UInt8}
    (position : start = front.length + offset) (split : count = offset + data.length + behind) :
    overwrite (front ++ List.replicate count byte) start data =
      some (front ++ (List.replicate offset byte ++ data) ++ List.replicate behind byte) := by
  have fits : front.length + offset + data.length ≤ (front ++ List.replicate count byte).length := by
    rw [List.length_append, List.length_replicate]
    omega
  rw [position, overwrite, if_pos fits, splice_append_left, splice, List.take_replicate,
    List.drop_replicate, split, Nat.min_eq_left (by omega), Nat.add_sub_cancel_left,
    List.append_assoc, List.append_assoc, List.append_assoc]

/-- A slice under construction; `written` are the ranges of the writes so far. -/
structure Output where
  bytes : List UInt8
  written : List (Nat × Nat)

namespace Output

/-- A copy into the slice, with its range noted. -/
def put (output : Output) (offset : Nat) (data : List UInt8) : Option Output := do
  let bytes ← overwrite output.bytes offset data
  some { bytes, written := output.written ++ [(offset, offset + data.length)] }

/-- The fields of a record, written one after the other. -/
def putFields (output : Output) (offset : Nat) (fields : List (Nat × List UInt8)) : Option Output :=
  fields.foldlM (fun output field => output.put (offset + field.1) field.2) output

/-- Every write so far has ended at `limit` or before. -/
def Within (output : Output) (limit : Nat) : Prop :=
  ∀ range ∈ output.written, range.2 ≤ limit

/-- From one output to the next, with `limit` as the end of all writes. -/
structure Advances (output next : Output) (bytes : List UInt8) (limit : Nat) : Prop where
  bytes : next.bytes = bytes
  within : output.Within limit → next.Within limit

variable {output : Output} {front area back : List UInt8} {offset limit : Nat} {data : List UInt8}

/-- A write inside an area changes the area alone. -/
theorem put_area (laid : output.bytes = front ++ area ++ back)
    (inside : offset + data.length ≤ area.length) (below : front.length + area.length ≤ limit) :
    ∃ next, output.put (front.length + offset) data = some next ∧
      Advances output next (front ++ splice area offset data ++ back) limit := by
  have fits : front.length + offset + data.length ≤ output.bytes.length := by
    simp only [laid, List.length_append]
    omega
  have copied : overwrite output.bytes (front.length + offset) data =
      some (splice output.bytes (front.length + offset) data) := if_pos fits
  refine ⟨_, by rw [put, copied]; rfl, ?_, ?_⟩
  · rw [laid, List.append_assoc, splice_append_left, splice_append_right inside,
      List.append_assoc]
  · intro within range member
    rcases List.mem_append.mp member with old | new
    · exact within range old
    · rw [List.mem_singleton.mp new]
      omega

end Output

/-- An area with its fields filled in. -/
def patch (area : List UInt8) (fields : List (Nat × List UInt8)) : List UInt8 :=
  fields.foldl (fun area field => splice area field.1 field.2) area

/-- The fields stay inside an area of the size. -/
def FieldsFit (size : Nat) (fields : List (Nat × List UInt8)) : Prop :=
  ∀ field ∈ fields, field.1 + field.2.length ≤ size

theorem length_patch {area : List UInt8} {fields : List (Nat × List UInt8)}
    (fit : FieldsFit area.length fields) : (patch area fields).length = area.length := by
  induction fields generalizing area with
  | nil => rfl
  | cons field fields ih =>
      have first := length_splice (fit field List.mem_cons_self)
      have rest : FieldsFit (splice area field.1 field.2).length fields := by
        rw [first]
        exact fun other member => fit other (List.mem_cons_of_mem field member)
      exact (ih rest).trans first

theorem Output.putFields_area {output : Output} {front area back : List UInt8} {limit : Nat}
    {fields : List (Nat × List UInt8)} (laid : output.bytes = front ++ area ++ back)
    (fit : FieldsFit area.length fields) (below : front.length + area.length ≤ limit) :
    ∃ next, output.putFields front.length fields = some next ∧
      Advances output next (front ++ patch area fields ++ back) limit := by
  induction fields generalizing output area with
  | nil => exact ⟨output, rfl, laid, id⟩
  | cons field fields ih =>
      have inside := fit field List.mem_cons_self
      have same := length_splice inside
      obtain ⟨middle, put, stands, kept⟩ := put_area laid inside below
      obtain ⟨next, rest, filled, within⟩ := ih stands
        (by rw [same]; exact fun other member => fit other (List.mem_cons_of_mem field member))
        (by rw [same]; exact below)
      refine ⟨next, ?_, filled, fun before => within (kept before)⟩
      simp only [putFields, List.foldlM_cons, put]
      exact rest

theorem patch_append (area : List UInt8) (fields more : List (Nat × List UInt8)) :
    patch area (fields ++ more) = patch (patch area fields) more :=
  List.foldl_append

/-- A write over the whole area. -/
theorem splice_whole {area data : List UInt8} (same : data.length = area.length) :
    splice area 0 data = data := by
  rw [splice, List.take_zero, List.nil_append, Nat.zero_add,
    List.drop_of_length_le (Nat.le_of_eq same.symm), List.append_nil]

theorem Output.Advances.trans {first second third : Output} {bytes more : List UInt8} {limit : Nat}
    (before : Advances first second bytes limit) (after : Advances second third more limit) :
    Advances first third more limit :=
  ⟨after.bytes, fun within => after.within (before.within within)⟩

/-! ## Strings of equal records -/

/-- Lists of the same length are told apart by records of one size. -/
theorem flatMap_inj {α : Type} {encode : α → List UInt8} {size : Nat} {left right : List α}
    (sized : ∀ record, (encode record).length = size) (count : left.length = right.length)
    (inj : ∀ first ∈ left, ∀ second ∈ right, encode first = encode second → first = second)
    (same : left.flatMap encode = right.flatMap encode) : left = right := by
  induction left generalizing right with
  | nil => exact (List.length_eq_zero_iff.mp count.symm).symm
  | cons first left ih =>
      cases right with
      | nil => contradiction
      | cons second right =>
          rw [List.flatMap_cons, List.flatMap_cons] at same
          obtain ⟨head, tail⟩ := List.append_inj same ((sized first).trans (sized second).symm)
          rw [inj first List.mem_cons_self second List.mem_cons_self head]
          refine congrArg (second :: ·) (ih (Nat.succ.inj count) ?_ tail)
          intro one member other otherMember
          exact inj one (List.mem_cons_of_mem _ member) other (List.mem_cons_of_mem _ otherMember)

theorem length_flatMap_of_sized {α : Type} {encode : α → List UInt8} {size : Nat}
    (sized : ∀ record, (encode record).length = size) (records : List α) :
    (records.flatMap encode).length = records.length * size := by
  induction records with
  | nil => simp
  | cons record records ih =>
      rw [List.flatMap_cons, List.length_append, sized, ih, List.length_cons, Nat.add_mul,
        Nat.one_mul, Nat.add_comm]

/-- A section of equal records, in front of whatever follows it. -/
theorem flatMap_append_inj {α : Type} {encode : α → List UInt8} {size : Nat} {left right : List α}
    {rest more : List UInt8} (sized : ∀ record, (encode record).length = size)
    (count : left.length = right.length)
    (inj : ∀ first ∈ left, ∀ second ∈ right, encode first = encode second → first = second)
    (same : left.flatMap encode ++ rest = right.flatMap encode ++ more) :
    left = right ∧ rest = more := by
  obtain ⟨records, behind⟩ := List.append_inj same
    (by rw [length_flatMap_of_sized sized, length_flatMap_of_sized sized, count])
  exact ⟨flatMap_inj sized count inj records, behind⟩

end UnnamedOS.Data
