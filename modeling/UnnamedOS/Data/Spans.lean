import Mathlib.Algebra.GroupWithZero.Nat
import Mathlib.Data.List.InsertIdx
import Mathlib.Order.Interval.Finset.Nat

namespace UnnamedOS.Data

/-! # Ordered lists of half-open spans

Any type whose values occupy `[lower, upper)` of a line.  A list is ordered
when each span ends before the later ones start; then at most one of its
spans covers a point, and a first-match search finds that one. -/

section

variable {α : Type} (lower upper : α → Nat)

def Covers (span : α) (point : Nat) : Prop := lower span ≤ point ∧ point < upper span

instance (span : α) (point : Nat) : Decidable (Covers lower upper span point) :=
  inferInstanceAs (Decidable (_ ∧ _))

/-- Some span of the list covers the point. -/
def Covered (spans : List α) (point : Nat) : Prop := ∃ span ∈ spans, Covers lower upper span point

instance (spans : List α) : DecidablePred (Covered lower upper spans) := fun point =>
  inferInstanceAs (Decidable (∃ span ∈ spans, Covers lower upper span point))

def Ordered (spans : List α) : Prop := spans.Pairwise fun left right => upper left ≤ lower right

instance (spans : List α) : Decidable (Ordered lower upper spans) :=
  inferInstanceAs (Decidable (spans.Pairwise _))

/-- The spans have no point in common. -/
def Apart (left right : α) : Prop := upper left ≤ lower right ∨ upper right ≤ lower left

instance : DecidableRel (Apart lower upper) := fun left right =>
  inferInstanceAs (Decidable (upper left ≤ lower right ∨ upper right ≤ lower left))

end

variable {α : Type} {lower upper : α → Nat} {spans : List α} {span other : α} {point : Nat}

theorem covered_cons {first : α} {rest : List α} :
    Covered lower upper (first :: rest) point ↔
      Covers lower upper first point ∨ Covered lower upper rest point := by
  simp [Covered]

theorem Apart.symm (apart : Apart lower upper span other) : Apart lower upper other span :=
  Or.symm apart

theorem Ordered.apart (ordered : Ordered lower upper spans) : spans.Pairwise (Apart lower upper) :=
  List.Pairwise.imp Or.inl ordered

/-- At most one of the spans covers a point. -/
theorem unique_of_apart (apart : spans.Pairwise (Apart lower upper))
    (member : span ∈ spans) (covers : Covers lower upper span point)
    (otherMember : other ∈ spans) (otherCovers : Covers lower upper other point) :
    span = other := by
  have symmetric : Std.Symm (Apart lower upper) := ⟨fun _ _ => Apart.symm⟩
  by_contra different
  have separate := apart.forall member otherMember different
  obtain ⟨lowerBound, upperBound⟩ := covers
  obtain ⟨otherLower, otherUpper⟩ := otherCovers
  cases separate with
  | inl before => omega
  | inr after => omega

/-- Where the spans are apart the first match is the only match. -/
theorem find?_eq_some_of_apart (apart : spans.Pairwise (Apart lower upper))
    (member : span ∈ spans) (covers : Covers lower upper span point) :
    spans.find? (fun candidate => Covers lower upper candidate point) = some span := by
  cases found : spans.find? (fun candidate => Covers lower upper candidate point) with
  | none =>
      have absent := List.find?_eq_none.mp found span member
      simp [covers] at absent
  | some candidate =>
      have candidateCovers : Covers lower upper candidate point := by
        simpa using List.find?_some found
      rw [unique_of_apart apart member covers (List.mem_of_find?_eq_some found) candidateCovers]

theorem Ordered.unique (ordered : Ordered lower upper spans)
    (member : span ∈ spans) (covers : Covers lower upper span point)
    (otherMember : other ∈ spans) (otherCovers : Covers lower upper other point) :
    span = other :=
  unique_of_apart ordered.apart member covers otherMember otherCovers

theorem Ordered.find?_eq_some (ordered : Ordered lower upper spans)
    (member : span ∈ spans) (covers : Covers lower upper span point) :
    spans.find? (fun candidate => Covers lower upper candidate point) = some span :=
  find?_eq_some_of_apart ordered.apart member covers

/-- Every later span starts past the one at the split. -/
theorem Ordered.following {before after : List α}
    (ordered : Ordered lower upper (before ++ span :: after)) :
    ∀ later ∈ after, upper span ≤ lower later :=
  (List.pairwise_cons.mp (List.pairwise_append.mp ordered).2.1).1

/-- Sorted by their lower ends, spans that are apart are ordered. -/
theorem ordered_of_apart (sorted : spans.Pairwise fun left right => lower left ≤ lower right)
    (nonempty : ∀ span ∈ spans, lower span < upper span)
    (apart : spans.Pairwise (Apart lower upper)) : Ordered lower upper spans := by
  refine List.Pairwise.imp_of_mem ?_ (sorted.and apart)
  intro left right leftMember rightMember related
  obtain ⟨earlier, disjoint⟩ := related
  cases disjoint with
  | inl before => exact before
  | inr after =>
      have proper := nonempty right rightMember
      omega

/-- Insertion in front of the first span that does not start earlier. -/
def insertOrdered (lower : α → Nat) (spans : List α) (span : α) : List α :=
  spans.insertIdx (spans.takeWhile fun existing => lower existing < lower span).length span

@[simp] theorem insertOrdered_nil : insertOrdered lower [] span = [span] := rfl

theorem insertOrdered_cons {first : α} :
    insertOrdered lower (first :: spans) span =
      if lower first < lower span then first :: insertOrdered lower spans span
      else span :: first :: spans := by
  unfold insertOrdered
  split
  · rename_i earlier
    rw [List.takeWhile_cons_of_pos (by simpa using earlier), List.length_cons,
      List.insertIdx_succ_cons]
  · rename_i later
    rw [List.takeWhile_cons_of_neg (by simpa using later)]
    rfl

theorem mem_insertOrdered : other ∈ insertOrdered lower spans span ↔ other = span ∨ other ∈ spans := by
  induction spans with
  | nil => simp
  | cons first rest ih =>
      rw [insertOrdered_cons]
      split
      · rw [List.mem_cons, ih, List.mem_cons]
        tauto
      · rw [List.mem_cons]

theorem length_insertOrdered : (insertOrdered lower spans span).length = spans.length + 1 := by
  induction spans with
  | nil => rfl
  | cons first rest ih =>
      rw [insertOrdered_cons]
      split
      · rw [List.length_cons, ih, List.length_cons]
      · rfl

/-- Any symmetric relation between the old spans and the new one extends a
pairwise list relation over the insertion, in whatever position it lands. -/
theorem pairwise_insertOrdered {related : α → α → Prop}
    (symmetric : ∀ left right, related left right → related right left)
    (pairwise : spans.Pairwise related) (joins : ∀ existing ∈ spans, related existing span) :
    (insertOrdered lower spans span).Pairwise related := by
  induction spans with
  | nil => simp
  | cons first rest ih =>
      obtain ⟨before, restPairwise⟩ := List.pairwise_cons.mp pairwise
      rw [insertOrdered_cons]
      split
      · refine List.pairwise_cons.mpr ⟨?_, ih restPairwise fun existing member =>
          joins existing (List.mem_cons_of_mem _ member)⟩
        intro candidate member
        rcases mem_insertOrdered.mp member with rfl | member
        · exact joins first (by simp)
        · exact before candidate member
      · refine List.pairwise_cons.mpr ⟨?_, pairwise⟩
        intro candidate member
        exact symmetric _ _ (joins candidate member)

/-- A nonempty span that meets none of an ordered list's spans keeps the list
ordered. -/
theorem Ordered.insert (ordered : Ordered lower upper spans)
    (spanNonempty : lower span < upper span)
    (nonempty : ∀ existing ∈ spans, lower existing < upper existing)
    (apart : ∀ existing ∈ spans, ¬ (lower existing < upper span ∧ lower span < upper existing)) :
    Ordered lower upper (insertOrdered lower spans span) := by
  induction spans with
  | nil => simp [Ordered]
  | cons first rest ih =>
      obtain ⟨before, restOrdered⟩ := List.pairwise_cons.mp ordered
      have firstApart := apart first (by simp)
      have firstNonempty := nonempty first (by simp)
      rw [insertOrdered_cons]
      split
      · rename_i earlier
        refine List.pairwise_cons.mpr ⟨?_, ih restOrdered
          (fun existing member => nonempty existing (List.mem_cons_of_mem _ member))
          (fun existing member => apart existing (List.mem_cons_of_mem _ member))⟩
        intro candidate member
        rcases mem_insertOrdered.mp member with rfl | member
        · omega
        · exact before candidate member
      · rename_i later
        refine List.pairwise_cons.mpr ⟨?_, ordered⟩
        intro candidate member
        rcases List.mem_cons.mp member with rfl | member
        · omega
        · have following := before candidate member
          omega

/-! ## Total length -/

/-- Spans that are apart cover as many points as their lengths add up to. -/
theorem exists_covered_points (apart : spans.Pairwise (Apart lower upper)) :
    ∃ points : Finset Nat, points.card = (spans.map fun span => upper span - lower span).sum ∧
      ∀ point ∈ points, Covered lower upper spans point := by
  induction spans with
  | nil => exact ⟨∅, rfl, by simp⟩
  | cons first rest ih =>
      obtain ⟨clear, restApart⟩ := List.pairwise_cons.mp apart
      obtain ⟨points, counted, covered⟩ := ih restApart
      have disjoint : Disjoint (Finset.Ico (lower first) (upper first)) points := by
        refine Finset.disjoint_left.mpr ?_
        intro point inFirst inRest
        obtain ⟨span, member, covers⟩ := covered point inRest
        have separate := clear span member
        simp only [Finset.mem_Ico, Covers, Apart] at inFirst covers separate
        omega
      refine ⟨Finset.Ico (lower first) (upper first) ∪ points, ?_, ?_⟩
      · rw [Finset.card_union_of_disjoint disjoint, Nat.card_Ico, counted, List.map_cons,
          List.sum_cons]
      · intro point member
        rcases Finset.mem_union.mp member with inFirst | inRest
        · exact ⟨first, by simp, Finset.mem_Ico.mp inFirst⟩
        · obtain ⟨span, spanMember, covers⟩ := covered point inRest
          exact ⟨span, List.mem_cons_of_mem _ spanMember, covers⟩

/-- Spans that are apart inside a window are together no longer than it. -/
theorem sum_lengths_le {start stop : Nat} (apart : spans.Pairwise (Apart lower upper))
    (inside : ∀ span ∈ spans, start ≤ lower span ∧ upper span ≤ stop) :
    (spans.map fun span => upper span - lower span).sum ≤ stop - start := by
  obtain ⟨points, counted, covered⟩ := exists_covered_points apart
  have within : points ⊆ Finset.Ico start stop := by
    intro point member
    obtain ⟨span, spanMember, covers⟩ := covered point member
    obtain ⟨lowest, highest⟩ := inside span spanMember
    exact Finset.mem_Ico.mpr ⟨Nat.le_trans lowest covers.1, Nat.lt_of_lt_of_le covers.2 highest⟩
  rw [← counted, ← Nat.card_Ico]
  exact Finset.card_le_card within

/-! ## The hull -/

/-- Folding `min` over values that do not exceed the start finds the least. -/
theorem isLeast_foldl_min {β : Type} [LinearOrder β] (value : α → β) {start : β}
    (nonempty : spans ≠ []) (below : ∀ span ∈ spans, value span ≤ start) :
    IsLeast {bound | ∃ span ∈ spans, value span = bound}
      (spans.foldl (fun least span => min least (value span)) start) := by
  have general (rest : List α) (first : β) :
      IsLeast (insert first {bound | ∃ span ∈ rest, value span = bound})
        (rest.foldl (fun least span => min least (value span)) first) := by
    induction rest generalizing first with
    | nil => simp
    | cons span rest ih =>
        obtain ⟨attained, least⟩ := ih (min first (value span))
        have leastMin := least (Set.mem_insert _ _)
        constructor
        · cases attained with
          | inl same =>
              rw [List.foldl_cons, same]
              cases min_choice first (value span) with
              | inl kept => exact .inl kept
              | inr taken => exact .inr ⟨span, List.mem_cons_self, taken.symm⟩
          | inr later =>
              obtain ⟨other, member, same⟩ := later
              exact .inr ⟨other, List.mem_cons_of_mem span member, same⟩
        · intro bound listed
          cases listed with
          | inl same =>
              rw [same]
              exact le_trans leastMin (min_le_left _ _)
          | inr listed =>
              obtain ⟨other, member, rfl⟩ := listed
              cases List.mem_cons.mp member with
              | inl same =>
                  rw [same]
                  exact le_trans leastMin (min_le_right _ _)
              | inr member => exact least (.inr ⟨other, member, rfl⟩)
  obtain ⟨attained, least⟩ := general spans start
  refine ⟨?_, fun bound listed => least (.inr listed)⟩
  cases attained with
  | inr listed => exact listed
  | inl same =>
      obtain ⟨span, member⟩ := List.exists_mem_of_ne_nil spans nonempty
      exact ⟨span, member, le_antisymm ((below span member).trans_eq same.symm)
        (least (.inr ⟨span, member, rfl⟩))⟩

/-- The same for `max`, in the dual order. -/
theorem isGreatest_foldl_max {β : Type} [LinearOrder β] (value : α → β) {start : β}
    (nonempty : spans ≠ []) (above : ∀ span ∈ spans, start ≤ value span) :
    IsGreatest {bound | ∃ span ∈ spans, value span = bound}
      (spans.foldl (fun greatest span => max greatest (value span)) start) :=
  @isLeast_foldl_min α spans βᵒᵈ _ value start nonempty above

end UnnamedOS.Data
