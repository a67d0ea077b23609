import Mathlib.Data.List.Infix

namespace UnnamedOS.Data

/-! # Text in lines -/

variable {α : Type} [DecidableEq α]

/-- The text cut behind each `mark`; only the last piece can be without one. -/
def splitInclusive (mark : α) : List α → List (List α)
  | [] => []
  | head :: rest =>
      if head = mark then [head] :: splitInclusive mark rest
      else
        match splitInclusive mark rest with
        | [] => [[head]]
        | piece :: pieces => (head :: piece) :: pieces

variable {mark : α} {line : List α}

theorem splitInclusive_cons_ne {head : α} {rest piece : List α} {pieces : List (List α)}
    (plain : head ≠ mark) (split : splitInclusive mark rest = piece :: pieces) :
    splitInclusive mark (head :: rest) = (head :: piece) :: pieces := by
  rw [splitInclusive, if_neg plain, split]

/-- A mark ends a piece, whatever stands before it. -/
theorem splitInclusive_append_mark (line rest : List α) :
    ∃ piece pieces, splitInclusive mark (line ++ [mark]) = piece :: pieces ∧
      splitInclusive mark (line ++ mark :: rest) = piece :: pieces ++ splitInclusive mark rest := by
  induction line with
  | nil => exact ⟨[mark], [], by simp [splitInclusive], by simp [splitInclusive]⟩
  | cons head line inner =>
      obtain ⟨piece, pieces, alone, followed⟩ := inner
      by_cases marked : head = mark
      · refine ⟨[head], piece :: pieces, ?_, ?_⟩
        · rw [List.cons_append, splitInclusive, if_pos marked, alone]
        · rw [List.cons_append, splitInclusive, if_pos marked, followed]
          rfl
      · exact ⟨head :: piece, pieces, splitInclusive_cons_ne marked alone,
          splitInclusive_cons_ne marked followed⟩

theorem splitInclusive_line (unmarked : mark ∉ line) :
    splitInclusive mark (line ++ [mark]) = [line ++ [mark]] := by
  induction line with
  | nil => simp [splitInclusive]
  | cons head line inner =>
      rw [List.mem_cons, not_or] at unmarked
      exact splitInclusive_cons_ne (Ne.symm unmarked.1) (inner unmarked.2)

/-- Whole lines are cut before what follows them. -/
theorem splitInclusive_lines (lines : List (List α)) (rest : List α) :
    splitInclusive mark (lines.flatMap (fun line => line ++ [mark]) ++ rest) =
      splitInclusive mark (lines.flatMap fun line => line ++ [mark]) ++
        splitInclusive mark rest := by
  induction lines with
  | nil => rfl
  | cons line lines inner =>
      obtain ⟨piece, pieces, alone, followed⟩ := @splitInclusive_append_mark _ _ mark line
        (lines.flatMap (fun line => line ++ [mark]) ++ rest)
      obtain ⟨other, others, again, short⟩ := @splitInclusive_append_mark _ _ mark line
        (lines.flatMap fun line => line ++ [mark])
      rw [alone] at again
      cases again
      simp only [List.flatMap_cons, List.append_assoc, List.cons_append, List.nil_append]
      rw [followed, short, inner, List.append_assoc]

/-- Lines without a mark are the pieces. -/
theorem splitInclusive_flatMap {lines : List (List α)} (unmarked : ∀ line ∈ lines, mark ∉ line) :
    splitInclusive mark (lines.flatMap fun line => line ++ [mark]) =
      lines.map fun line => line ++ [mark] := by
  induction lines with
  | nil => rfl
  | cons line lines inner =>
      rw [List.forall_mem_cons] at unmarked
      have first := @splitInclusive_lines _ _ mark [line]
        (lines.flatMap fun line => line ++ [mark])
      rw [List.flatMap_singleton, splitInclusive_line unmarked.1, inner unmarked.2] at first
      exact first

omit [DecidableEq α] in
/-- A pattern without the mark stands on one side of it. -/
theorem infix_or_infix_of_append {pattern first rest : List α} (unmarked : mark ∉ pattern)
    (found : pattern <:+: first ++ mark :: rest) : pattern <:+: first ∨ pattern <:+: rest := by
  obtain ⟨before, after, whole⟩ := found
  rcases List.append_eq_append_iff.mp whole with ⟨middle, front, _⟩ | ⟨middle, front, back⟩
  · exact .inl ⟨before, middle, front.symm⟩
  · cases middle with
    | nil => exact .inl ⟨before, [], by simpa using front⟩
    | cons head middle =>
        obtain ⟨rfl, rfl⟩ := List.cons.inj back
        rcases List.append_eq_append_iff.mp front with ⟨part, _, inside⟩ | ⟨part, _, inside⟩
        · exact absurd (inside ▸ List.mem_append_right part List.mem_cons_self) unmarked
        · cases part with
          | nil => exact absurd ((List.nil_append pattern ▸ inside) ▸ List.mem_cons_self) unmarked
          | cons _ part =>
              obtain ⟨_, rfl⟩ := List.cons.inj inside
              exact .inr ⟨part, after, rfl⟩

omit [DecidableEq α] in
/-- A pattern in a text is in one of its lines. -/
theorem infix_of_lines {pattern : List α} {lines : List (List α)} (unmarked : mark ∉ pattern)
    (found : pattern <:+: lines.flatMap fun line => line ++ [mark]) (nonempty : pattern ≠ []) :
    ∃ line ∈ lines, pattern <:+: line := by
  induction lines with
  | nil => exact absurd (List.infix_nil.mp found) nonempty
  | cons line lines inner =>
      rw [List.flatMap_cons, List.append_assoc, List.singleton_append] at found
      rcases infix_or_infix_of_append unmarked found with here | later
      · exact ⟨line, List.mem_cons_self, here⟩
      · obtain ⟨other, member, there⟩ := inner later
        exact ⟨other, List.mem_cons_of_mem line member, there⟩

end UnnamedOS.Data
