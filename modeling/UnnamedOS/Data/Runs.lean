import Mathlib.Data.List.Pairwise

namespace UnnamedOS.Data

/-! # Maximal runs

Points that stand one stride apart form a run.  Spans that list each point
once and leave a gap between any two of them are the maximal runs of those
points, and each maximal run is one of the spans. -/

/-- `length` points from `start` on are present, and neither neighbour is. -/
structure MaximalRun (present : Nat → Prop) (stride start length : Nat) : Prop where
  nonempty : 0 < length
  filled : ∀ index < length, present (start + index * stride)
  closed : ¬ present (start + length * stride)
  opened : ∀ point, point + stride = start → ¬ present point

section

variable {ι : Type} {start length : ι → Nat} {stride : Nat} {spans : List ι} {present : Nat → Prop}

/-- Between two spans there is more than the end of the first. -/
def Gapped (start length : ι → Nat) (stride : Nat) (left right : ι) : Prop :=
  start left + length left * stride < start right

/-- Of two spans that lie apart one is wholly below the other. -/
theorem eq_or_gapped (gaps : spans.Pairwise (Gapped start length stride)) {left right : ι}
    (first : left ∈ spans) (second : right ∈ spans) :
    left = right ∨ Gapped start length stride left right ∨
      Gapped start length stride right left := by
  have either : spans.Pairwise fun left right => left = right ∨
      Gapped start length stride left right ∨ Gapped start length stride right left :=
    gaps.imp fun gap => .inr (.inl gap)
  have symmetric : Std.Symm fun left right => left = right ∨
      Gapped start length stride left right ∨ Gapped start length stride right left :=
    ⟨fun _ _ => Or.imp Eq.symm Or.symm⟩
  exact either.forall_of_forall (fun _ _ => .inl rfl) first second

/-- The spans' points are the ones present. -/
def Lists (start length : ι → Nat) (stride : Nat) (spans : List ι) (present : Nat → Prop) : Prop :=
  ∀ point, present point ↔ ∃ span ∈ spans, ∃ index < length span, start span + index * stride = point

theorem Lists.maximalRun (lists : Lists start length stride spans present)
    (positive : 0 < stride) (gaps : spans.Pairwise (Gapped start length stride)) {span : ι}
    (member : span ∈ spans) (nonempty : 0 < length span) :
    MaximalRun present stride (start span) (length span) where
  nonempty := nonempty
  filled index below := (lists _).mpr ⟨span, member, index, below, rfl⟩
  closed := by
    intro after
    obtain ⟨other, listed, index, below, same⟩ := (lists _).mp after
    have inside : (index + 1) * stride ≤ length other * stride := Nat.mul_le_mul_right _ below
    rw [Nat.add_mul, Nat.one_mul] at inside
    rcases eq_or_gapped gaps member listed with rfl | above | under
    · have shorter : index * stride < length span * stride := Nat.mul_lt_mul_of_pos_right below positive
      omega
    · simp only [Gapped] at above
      omega
    · simp only [Gapped] at under
      omega
  opened := by
    intro point follows before
    obtain ⟨other, listed, index, below, same⟩ := (lists _).mp before
    have inside : (index + 1) * stride ≤ length other * stride := Nat.mul_le_mul_right _ below
    rw [Nat.add_mul, Nat.one_mul] at inside
    rcases eq_or_gapped gaps member listed with rfl | above | under
    · omega
    · simp only [Gapped] at above
      omega
    · simp only [Gapped] at under
      omega

/-- Every maximal run of the listed points is a span. -/
theorem Lists.exists_span (lists : Lists start length stride spans present)
    (positive : 0 < stride) (gaps : spans.Pairwise (Gapped start length stride))
    {first count : Nat} (run : MaximalRun present stride first count) :
    ∃ span ∈ spans, start span = first ∧ length span = count := by
  have present := run.filled 0 run.nonempty
  obtain ⟨span, member, index, below, same⟩ := (lists _).mp present
  rw [Nat.zero_mul, Nat.add_zero] at same
  have maximal := lists.maximalRun positive gaps member (by omega)
  -- A point of the span before the run's first would be its neighbour.
  have start : start span = first := by
    cases index with
    | zero => simpa using same
    | succ index =>
        rw [Nat.add_mul, Nat.one_mul, ← Nat.add_assoc] at same
        exact absurd (maximal.filled index (by omega)) (run.opened _ same)
  refine ⟨span, member, start, ?_⟩
  rcases Nat.lt_trichotomy (length span) count with shorter | equal | longer
  · have next := run.filled _ shorter
    rw [← start] at next
    exact absurd next maximal.closed
  · exact equal
  · have next := maximal.filled _ longer
    rw [start] at next
    exact absurd next run.closed

end

end UnnamedOS.Data
