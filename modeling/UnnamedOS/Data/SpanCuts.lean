import UnnamedOS.Data.SpanMap

namespace UnnamedOS.Data

/-! # Where a painting is cut

Two touching spans of one colour denote what one span would.  A painting is
cut at marked points when a span starts at each of them, and spans of one
colour touch nowhere else: the colours and the marks then determine where
every span starts and stops. -/

section

variable {α κ : Type} (lower upper : α → Nat) (color : α → κ)

/-- Up to `reached` a span starts at every marked point, and where a span
continues the colour of the one before it there is a mark. -/
structure Cut (marked : Nat → Prop) (reached : Nat) (spans : List α) : Prop where
  begun : ∀ point < reached, marked point → ∃ span ∈ spans, lower span = point
  seams : ∀ left ∈ spans, ∀ right ∈ spans, upper left = lower right →
    color left = color right → marked (lower right)

end

variable {α κ : Type} {lower upper : α → Nat} {color : α → κ} {marked : Nat → Prop}
  {spans : List α} {span : α} {point reached next low high : Nat} {picture : Nat → Option κ}
  {value : κ}

/-- Among ordered spans the one that ends where they all end is the last. -/
theorem Ordered.getLast?_eq_some (ordered : Ordered lower upper spans)
    (proper : ∀ span ∈ spans, lower span < upper span)
    (within : ∀ span ∈ spans, upper span ≤ reached) (member : span ∈ spans)
    (ends : upper span = reached) : spans.getLast? = some span := by
  obtain ⟨before, after, rfl⟩ := List.append_of_mem member
  cases after with
  | nil => simp
  | cons later rest =>
      have starts := ordered.following later (by simp)
      have forward := proper later (by simp)
      have bound := within later (by simp)
      omega

/-- What covers the point where a span stops starts there. -/
theorem Ordered.lower_eq_upper {other : α} (ordered : Ordered lower upper spans)
    (member : span ∈ spans) (forward : lower span < upper span) (otherMember : other ∈ spans)
    (covers : Covers lower upper other (upper span)) : lower other = upper span := by
  obtain ⟨otherLow, otherHigh⟩ := covers
  by_contra early
  have spanCovers : Covers lower upper span (upper span - 1) := ⟨by omega, by omega⟩
  have otherCovers : Covers lower upper other (upper span - 1) := ⟨by omega, by omega⟩
  rw [ordered.unique otherMember otherCovers member spanCovers] at otherHigh
  omega

theorem Ordered.length_le (ordered : Ordered lower upper spans)
    (proper : ∀ span ∈ spans, lower span < upper span) {points : List Nat}
    (starts : ∀ span ∈ spans, lower span ∈ points) : spans.length ≤ points.length := by
  have distinct : (spans.map lower).Nodup := by
    refine List.pairwise_map.mpr (List.Pairwise.imp_of_mem ?_ ordered)
    intro left right leftMember _ before same
    have forward := proper left leftMember
    omega
  have subset : spans.map lower ⊆ points := by
    intro start member
    obtain ⟨span, spanMember, rfl⟩ := List.mem_map.mp member
    exact starts span spanMember
  simpa using (List.subperm_of_subset distinct subset).length_le

/-! ## Painting with cuts -/

theorem Cut.empty : Cut lower upper color marked 0 [] where
  begun := by simp
  seams := by simp

theorem Cut.skip (cut : Cut lower upper color marked reached spans)
    (unmarked : ∀ point, reached ≤ point → point < next → ¬ marked point) :
    Cut lower upper color marked next spans where
  begun := by
    intro point before mark
    by_cases old : point < reached
    · exact cut.begun point old mark
    · exact absurd mark (unmarked point (Nat.le_of_not_lt old) before)
  seams := cut.seams

/-- A span may be appended unless it should have been joined to the last one. -/
theorem Cut.append (cut : Cut lower upper color marked reached spans)
    (paints : Paints lower upper color picture reached spans)
    (proper : ∀ span ∈ spans, lower span < upper span) (forward : lower span < upper span)
    (starts : lower span = reached)
    (unmarked : ∀ point, lower span < point → point < upper span → ¬ marked point)
    (seam : ∀ last, spans.getLast? = some last → upper last = lower span →
      color last = color span → marked (lower span)) :
    Cut lower upper color marked (upper span) (spans ++ [span]) where
  begun := by
    intro point before mark
    by_cases old : point < reached
    · obtain ⟨earlier, member, same⟩ := cut.begun point old mark
      exact ⟨earlier, by simp [member], same⟩
    · by_cases first : point = lower span
      · exact ⟨span, by simp, first.symm⟩
      · exact absurd mark (unmarked point (by omega) before)
  seams := by
    intro left leftMember right rightMember touches same
    rcases List.mem_append.mp rightMember with rightMember | single
    · have rightForward := proper right rightMember
      have rightWithin := paints.within right rightMember
      rcases List.mem_append.mp leftMember with leftMember | single
      · exact cut.seams left leftMember right rightMember touches same
      · rw [List.mem_singleton.mp single] at touches
        omega
    · rw [List.mem_singleton.mp single] at touches same ⊢
      rcases List.mem_append.mp leftMember with leftMember | single
      · exact seam left (paints.ordered.getLast?_eq_some proper paints.within leftMember
          (touches.trans starts)) touches same
      · rw [List.mem_singleton.mp single] at touches
        omega

/-- The last span is replaced by a longer one of its colour. -/
theorem Cut.extend {last longer : α} (cut : Cut lower upper color marked reached (spans ++ [last]))
    (paints : Paints lower upper color picture reached (spans ++ [last]))
    (proper : ∀ span ∈ spans ++ [last], lower span < upper span)
    (starts : lower longer = lower last) (keeps : color longer = color last)
    (forward : reached ≤ upper longer)
    (unmarked : ∀ point, reached ≤ point → point < upper longer → ¬ marked point) :
    Cut lower upper color marked (upper longer) (spans ++ [longer]) where
  begun := by
    intro point before mark
    by_cases old : point < reached
    · obtain ⟨earlier, member, same⟩ := cut.begun point old mark
      rcases List.mem_append.mp member with member | single
      · exact ⟨earlier, by simp [member], same⟩
      · rw [List.mem_singleton.mp single] at same
        exact ⟨longer, by simp, starts.trans same⟩
    · exact absurd mark (unmarked point (Nat.le_of_not_lt old) before)
  seams := by
    intro left leftMember right rightMember touches same
    have lastForward := proper last (by simp)
    have lastWithin := paints.within last (by simp)
    rcases List.mem_append.mp leftMember with leftMember | single
    · have leftOld : left ∈ spans ++ [last] := by simp [leftMember]
      rcases List.mem_append.mp rightMember with rightMember | single
      · exact cut.seams left leftOld right (by simp [rightMember]) touches same
      · rw [List.mem_singleton.mp single, starts] at touches ⊢
        rw [List.mem_singleton.mp single, keeps] at same
        exact cut.seams left leftOld last (by simp) touches same
    · rw [List.mem_singleton.mp single] at touches
      rcases List.mem_append.mp rightMember with rightMember | single
      · have rightForward := proper right (by simp [rightMember])
        have rightWithin := paints.within right (by simp [rightMember])
        omega
      · rw [List.mem_singleton.mp single, starts] at touches
        omega

/-! ## Reading a cut painting -/

/-- A span that continues the colour in front of it starts at a mark. -/
theorem Cut.marked_of_continues (cut : Cut lower upper color marked reached spans)
    (paints : Paints lower upper color picture reached spans)
    (proper : ∀ span ∈ spans, lower span < upper span) (member : span ∈ spans)
    (after : lower span = point + 1) (continues : picture point = some (color span)) :
    marked (lower span) := by
  have forward := proper span member
  have within := paints.within span member
  obtain ⟨left, leftMember, covers, same⟩ :=
    (paints.agrees point (by omega) (color span)).mpr continues
  obtain ⟨leftLow, leftHigh⟩ := covers
  have stops : upper left ≤ lower span := by
    by_contra past
    -- Both would cover the first point of `span`.
    have shared : left = span :=
      paints.ordered.unique leftMember ⟨by omega, by omega⟩ member ⟨Nat.le_refl _, forward⟩
    rw [shared] at leftLow
    omega
  exact cut.seams left leftMember span member (by omega) same

/-- The span that starts at a mark runs through the colour there as far as the
next mark. -/
theorem Cut.exists_span (cut : Cut lower upper color marked reached spans)
    (paints : Paints lower upper color picture reached spans)
    (proper : ∀ span ∈ spans, lower span < upper span) (mark : marked low) (nonempty : low < high)
    (bound : high ≤ reached) (plain : ∀ point, low ≤ point → point < high → picture point = some value)
    (unmarked : ∀ point, low < point → point < high → ¬ marked point) :
    ∃ span ∈ spans, lower span = low ∧ color span = value ∧ high ≤ upper span := by
  obtain ⟨span, member, starts⟩ := cut.begun low (by omega) mark
  have forward := proper span member
  have colored : picture low = some (color span) :=
    (paints.agrees low (by omega) _).mp ⟨span, member, ⟨by omega, by omega⟩, rfl⟩
  have same : color span = value := by
    rw [plain low (Nat.le_refl _) nonempty] at colored
    exact (Option.some.inj colored).symm
  refine ⟨span, member, starts, same, ?_⟩
  by_contra short
  -- The span behind it would continue its colour without a mark.
  have colorBehind := plain (upper span) (by omega) (by omega)
  obtain ⟨behind, behindMember, covers, behindColor⟩ :=
    (paints.agrees (upper span) (by omega) value).mpr colorBehind
  have touches := paints.ordered.lower_eq_upper member forward behindMember covers
  have seam := cut.seams span member behind behindMember touches.symm
    (same.trans behindColor.symm)
  exact unmarked (lower behind) (by omega) (by omega) seam

/-- It stops there unless the colour goes on without a mark. -/
theorem Cut.upper_eq_iff (cut : Cut lower upper color marked reached spans)
    (paints : Paints lower upper color picture reached spans)
    (proper : ∀ span ∈ spans, lower span < upper span) (member : span ∈ spans)
    (before : lower span < high) (reaches : high ≤ upper span) (bound : high < reached) :
    upper span = high ↔ ¬ (picture high = some (color span) ∧ ¬ marked high) := by
  constructor
  · intro stops continues
    obtain ⟨colored, unmarked⟩ := continues
    subst stops
    obtain ⟨behind, behindMember, covers, behindColor⟩ :=
      (paints.agrees (upper span) bound (color span)).mpr colored
    have touches := paints.ordered.lower_eq_upper member before behindMember covers
    apply unmarked
    rw [← touches]
    exact cut.seams span member behind behindMember touches.symm behindColor.symm
  · intro stopped
    by_contra longer
    have covers : Covers lower upper span high := ⟨by omega, by omega⟩
    apply stopped
    refine ⟨(paints.agrees high bound _).mp ⟨span, member, covers, rfl⟩, ?_⟩
    intro mark
    -- A span starts at the mark, and `span` would be that one.
    obtain ⟨other, otherMember, starts⟩ := cut.begun high bound mark
    have otherForward := proper other otherMember
    have shared : span = other :=
      paints.ordered.unique member covers otherMember ⟨by omega, by omega⟩
    rw [shared] at before
    omega

end UnnamedOS.Data
