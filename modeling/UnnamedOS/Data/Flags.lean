import UnnamedOS.Data.Fallible

namespace UnnamedOS.Data

/-! # Flags that are only ever raised

An algorithm that notes what it has seen keeps one flag per object.  `Raises
seen before after` says that a step has raised the flags of `seen` and left the
others alone. -/

def Raised (flags : List Bool) (position : Nat) : Prop := flags[position]? = some true

structure Raises (seen : Nat → Prop) (before after : List Bool) : Prop where
  length : after.length = before.length
  raised : ∀ position, Raised after position ↔ Raised before position ∨ seen position

namespace Raises

variable {seen others : Nat → Prop} {before middle after : List Bool}

theorem congr (raises : Raises seen before after)
    (same : ∀ position, seen position ↔ others position) : Raises others before after where
  length := raises.length
  raised position := by rw [raises.raised, same]

theorem refl (flags : List Bool) (nothing : ∀ position, ¬ seen position) :
    Raises seen flags flags where
  length := rfl
  raised position := by simp [nothing position]

theorem set {flags : List Bool} {raised : Nat} (inside : raised < flags.length) :
    Raises (· = raised) flags (flags.set raised true) where
  length := List.length_set
  raised position := by
    unfold Raised
    by_cases here : raised = position
    · subst here
      simp [List.getElem?_set_self inside]
    · rw [List.getElem?_set_ne here]
      simp [Ne.symm here]

theorem trans (first : Raises seen before middle) (second : Raises others middle after) :
    Raises (fun position => seen position ∨ others position) before after where
  length := second.length.trans first.length
  raised position := by rw [second.raised, first.raised, or_assoc]

end Raises

/-- A loop raises what its iterations raise. -/
theorem foldlM_raises {ε α : Type} {step : List Bool → α → Except ε (List Bool)}
    {seen : α → Nat → Prop} {items : List α} {before after : List Bool}
    (each : ∀ item ∈ items, ∀ current next, current.length = before.length →
      step current item = .ok next → Raises (seen item) current next)
    (ran : items.foldlM step before = .ok after) :
    Raises (fun position => ∃ item ∈ items, seen item position) before after := by
  refine foldlM_invariant (fun done current =>
    Raises (fun position => ∃ item ∈ done, seen item position) before current) ?_ ?_ ran
  · exact .refl before (by simp)
  · intro done item rest current next split raises stepped
    have member : item ∈ items := by simp [split]
    refine (raises.trans (each item member current next raises.length stepped)).congr ?_
    intro position
    simp [or_and_right, exists_or]

end UnnamedOS.Data
