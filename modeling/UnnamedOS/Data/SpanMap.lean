import Mathlib.Algebra.GroupWithZero.Nat
import UnnamedOS.Data.Spans

namespace UnnamedOS.Data

/-! # Coloured spans

A list of spans with a colour each denotes a relation between points and
colours.  `Paints` compares a list that grows at its end with the picture it
should denote, up to the point reached so far. -/

section

variable {α κ : Type} (lower upper : α → Nat) (color : α → κ)

/-- Some span of that colour covers the point. -/
def Colored (spans : List α) (point : Nat) (value : κ) : Prop :=
  ∃ span ∈ spans, Covers lower upper span point ∧ color span = value

/-- The ordered spans end by `reached`, and below it they have the colours of
`picture`. -/
structure Paints (picture : Nat → Option κ) (reached : Nat) (spans : List α) : Prop where
  ordered : Ordered lower upper spans
  within : ∀ span ∈ spans, upper span ≤ reached
  agrees : ∀ point < reached, ∀ value,
    Colored lower upper color spans point value ↔ picture point = some value

end

variable {α κ : Type} {lower upper : α → Nat} {color : α → κ} {spans : List α} {span : α}
  {point reached next : Nat} {picture : Nat → Option κ} {value : κ}

theorem colored_append_singleton :
    Colored lower upper color (spans ++ [span]) point value ↔
      Colored lower upper color spans point value ∨
        Covers lower upper span point ∧ color span = value := by
  simp [Colored, or_and_right, exists_or]

theorem not_colored_of_ge (within : ∀ span ∈ spans, upper span ≤ reached)
    (beyond : reached ≤ point) : ¬ Colored lower upper color spans point value := by
  rintro ⟨span, member, ⟨_, high⟩, _⟩
  have bound := within span member
  omega

theorem colored_perm {others : List α} (same : spans.Perm others) :
    Colored lower upper color spans point value ↔ Colored lower upper color others point value := by
  simp only [Colored, same.mem_iff]

/-! ## Joining touching spans -/

section

variable {left right joined : α} {before rest : List α}

/-- Two touching spans of one colour denote what their join denotes. -/
theorem colored_join (starts : lower joined = lower left) (stops : upper joined = upper right)
    (touches : upper left = lower right) (leftProper : lower left ≤ upper left)
    (rightProper : lower right ≤ upper right) (leftColor : color left = color joined)
    (rightColor : color right = color joined) :
    Colored lower upper color (before ++ joined :: rest) point value ↔
      Colored lower upper color (before ++ left :: right :: rest) point value := by
  have covers : Covers lower upper joined point ↔
      Covers lower upper left point ∨ Covers lower upper right point := by
    simp only [Covers, starts, stops]
    omega
  simp only [Colored, List.mem_append, List.mem_cons, or_and_right, exists_or, exists_eq_left,
    leftColor, rightColor, covers, or_assoc]

theorem Ordered.join (ordered : Ordered lower upper (before ++ left :: right :: rest))
    (starts : lower joined = lower left) (stops : upper joined = upper right) :
    Ordered lower upper (before ++ joined :: rest) := by
  obtain ⟨earlier, later, across⟩ := List.pairwise_append.mp ordered
  obtain ⟨_, rightLater⟩ := List.pairwise_cons.mp later
  obtain ⟨afterRight, restOrdered⟩ := List.pairwise_cons.mp rightLater
  refine List.pairwise_append.mpr ⟨earlier, List.pairwise_cons.mpr ⟨?_, restOrdered⟩, ?_⟩
  · intro span member
    rw [stops]
    exact afterRight span member
  · intro span member next nextMember
    rcases List.mem_cons.mp nextMember with rfl | inRest
    · rw [starts]
      exact across span member left (by simp)
    · exact across span member next (by simp [inRest])

end

/-! ## Painting -/

theorem Paints.empty : Paints lower upper color picture 0 [] where
  ordered := .nil
  within := by simp
  agrees := by simp

/-- Nothing is to be painted up to `next`. -/
theorem Paints.skip (paints : Paints lower upper color picture reached spans)
    (forward : reached ≤ next)
    (blank : ∀ point, reached ≤ point → point < next → picture point = none) :
    Paints lower upper color picture next spans where
  ordered := paints.ordered
  within := fun span member => Nat.le_trans (paints.within span member) forward
  agrees := by
    intro point before value
    by_cases old : point < reached
    · exact paints.agrees point old value
    · rw [blank point (by omega) before]
      simp only [reduceCtorEq, iff_false]
      exact not_colored_of_ge paints.within (by omega)

/-- The next span starts where the painting stands. -/
theorem Paints.append (paints : Paints lower upper color picture reached spans)
    (starts : lower span = reached) (forward : lower span ≤ upper span)
    (plain : ∀ point, Covers lower upper span point → picture point = some (color span)) :
    Paints lower upper color picture (upper span) (spans ++ [span]) where
  ordered := by
    refine List.pairwise_append.mpr ⟨paints.ordered, List.pairwise_singleton _ _, ?_⟩
    intro earlier member other single
    rw [List.mem_singleton.mp single, starts]
    exact paints.within earlier member
  within := by
    intro earlier member
    rcases List.mem_append.mp member with member | member
    · have bound := paints.within earlier member
      omega
    · exact Nat.le_of_eq (congrArg upper (List.mem_singleton.mp member))
  agrees := by
    intro point bound value
    rw [colored_append_singleton]
    by_cases old : point < reached
    · have outside : ¬ Covers lower upper span point := fun covers => by
        have low := covers.1
        omega
      rw [paints.agrees point old value]
      simp [outside]
    · have covers : Covers lower upper span point := ⟨by omega, bound⟩
      have absent : ¬ Colored lower upper color spans point value :=
        not_colored_of_ge paints.within (Nat.le_of_not_lt old)
      rw [plain point covers]
      simp [absent, covers]

/-- The last span is replaced by a longer one of its colour. -/
theorem Paints.extend {last longer : α}
    (paints : Paints lower upper color picture reached (spans ++ [last]))
    (starts : lower longer = lower last) (keeps : color longer = color last)
    (proper : lower last ≤ upper last) (touches : upper last = reached)
    (forward : reached ≤ upper longer)
    (plain : ∀ point, reached ≤ point → point < upper longer →
      picture point = some (color last)) :
    Paints lower upper color picture (upper longer) (spans ++ [longer]) := by
  obtain ⟨before, _, apart⟩ := List.pairwise_append.mp paints.ordered
  have earlierWithin : ∀ span ∈ spans, upper span ≤ reached := fun span member =>
    paints.within span (by simp [member])
  refine ⟨?_, ?_, ?_⟩
  · refine List.pairwise_append.mpr ⟨before, List.pairwise_singleton _ _, ?_⟩
    intro earlier member other single
    rw [List.mem_singleton.mp single, starts]
    exact apart earlier member last (by simp)
  · intro span member
    rcases List.mem_append.mp member with member | member
    · exact Nat.le_trans (earlierWithin span member) forward
    · exact Nat.le_of_eq (congrArg upper (List.mem_singleton.mp member))
  · intro point bound value
    rw [colored_append_singleton, keeps]
    by_cases old : point < reached
    · have same : Covers lower upper longer point ↔ Covers lower upper last point := by
        simp only [Covers, starts, touches]
        omega
      rw [← paints.agrees point old value, colored_append_singleton, same]
    · have covers : Covers lower upper longer point := ⟨by omega, bound⟩
      have absent : ¬ Colored lower upper color spans point value :=
        not_colored_of_ge earlierWithin (Nat.le_of_not_lt old)
      rw [plain point (by omega) bound]
      simp [absent, covers]

/-! ## How much of a range is covered -/

/-- The points of `[low, high)` that the spans cover, counted span by span. -/
def overlapTotal (lower upper : α → Nat) (low high : Nat) (spans : List α) : Nat :=
  (spans.map fun span => min (upper span) high - max (lower span) low).sum

/-- Ordered spans share no point, so the count is that of the covered points. -/
theorem Ordered.overlapTotal_eq_card {low high : Nat} (ordered : Ordered lower upper spans) :
    overlapTotal lower upper low high spans =
      ((Finset.Ico low high).filter (Covered lower upper spans)).card := by
  induction spans with
  | nil =>
      have none : (Finset.Ico low high).filter (Covered lower upper ([] : List α)) = ∅ := by
        simp [Covered]
      rw [none]
      rfl
  | cons first rest ih =>
      obtain ⟨before, restOrdered⟩ := List.pairwise_cons.mp ordered
      have split : (Finset.Ico low high).filter (Covered lower upper (first :: rest)) =
          Finset.Ico (max (lower first) low) (min (upper first) high) ∪
            (Finset.Ico low high).filter (Covered lower upper rest) := by
        ext point
        simp only [Finset.mem_filter, Finset.mem_union, Finset.mem_Ico, covered_cons]
        by_cases later : Covered lower upper rest point
        · simp only [later, or_true, and_true, Covers]
          omega
        · simp only [later, or_false, and_false, Covers]
          omega
      have disjoint : Disjoint (Finset.Ico (max (lower first) low) (min (upper first) high))
          ((Finset.Ico low high).filter (Covered lower upper rest)) := by
        refine Finset.disjoint_left.mpr ?_
        intro point inFirst inRest
        obtain ⟨_, span, member, covers⟩ := Finset.mem_filter.mp inRest
        have following := before span member
        simp only [Finset.mem_Ico, Covers] at inFirst covers
        omega
      rw [split, Finset.card_union_of_disjoint disjoint, Nat.card_Ico, ← ih restOrdered]
      rfl

theorem Ordered.overlapTotal_le {low high : Nat} (ordered : Ordered lower upper spans) :
    overlapTotal lower upper low high spans ≤ high - low := by
  rw [ordered.overlapTotal_eq_card, ← Nat.card_Ico]
  exact Finset.card_filter_le _ _

/-- The overlaps make up the range exactly if none of its points is left out. -/
theorem Ordered.overlapTotal_eq_iff {low high : Nat} (ordered : Ordered lower upper spans) :
    overlapTotal lower upper low high spans = high - low ↔
      ∀ point, low ≤ point → point < high → Covered lower upper spans point := by
  rw [ordered.overlapTotal_eq_card, ← Nat.card_Ico, Finset.card_filter_eq_iff]
  simp only [Finset.mem_Ico, and_imp]

end UnnamedOS.Data
