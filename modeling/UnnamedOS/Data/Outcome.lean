import Mathlib.Data.List.Basic

namespace UnnamedOS.Data

/-! # How a fallible run ends

`Ends good bad run` says both things that can be said of a run at once: a
value it returns is `good`, and a reason it stops for is `bad`.  A rule for
each shape of code carries the two to the whole run. -/

variable {ε α β σ : Type}

inductive Ends (good : α → Prop) (bad : ε → Prop) : Except ε α → Prop where
  | returns {value : α} (holds : good value) : Ends good bad (.ok value)
  | stops {reason : ε} (holds : bad reason) : Ends good bad (.error reason)

namespace Ends

variable {good better : α → Prop} {bad worse : ε → Prop} {run : Except ε α}
  {next : α → Except ε β} {result : β → Prop}

theorem intro (values : ∀ value, run = .ok value → good value)
    (reasons : ∀ reason, run = .error reason → bad reason) : Ends good bad run := by
  cases run with
  | error reason => exact .stops (reasons reason rfl)
  | ok value => exact .returns (values value rfl)

theorem of_ok (ends : Ends good bad run) {value : α} (ran : run = .ok value) : good value := by
  subst ran
  cases ends with
  | returns holds => exact holds

theorem of_error (ends : Ends good bad run) {reason : ε} (ran : run = .error reason) :
    bad reason := by
  subst ran
  cases ends with
  | stops holds => exact holds

/-- A run without a bad reason to stop returns a good value. -/
theorem succeeds (ends : Ends good bad run) (none : ∀ reason, ¬ bad reason) :
    ∃ value, run = .ok value ∧ good value := by
  cases ends with
  | returns holds => exact ⟨_, rfl, holds⟩
  | stops holds => exact absurd holds (none _)

/-- Both parts may be weakened, the first also by what the run returned. -/
theorem imp (ends : Ends good bad run) (values : ∀ value, run = .ok value → good value → better value)
    (reasons : ∀ reason, bad reason → worse reason) : Ends better worse run := by
  cases ends with
  | returns holds => exact .returns (values _ rfl holds)
  | stops holds => exact .stops (reasons _ holds)

theorem bind (first : Ends good bad run)
    (second : ∀ value, run = .ok value → good value → Ends result bad (next value)) :
    Ends result bad (run >>= next) := by
  cases first with
  | returns holds => exact second _ rfl holds
  | stops holds => exact .stops holds

/-- A step whose value is known. -/
theorem step {value : α} (ran : run = .ok value) (second : Ends result bad (next value)) :
    Ends result bad (run >>= next) := by
  subst ran
  exact second

theorem guard {condition : Prop} [Decidable condition] {reason : ε}
    (stops : condition → bad reason) (rest : ¬ condition → Ends good bad run) :
    Ends good bad (if condition then .error reason else run) := by
  by_cases taken : condition
  · rw [if_pos taken]
    exact .stops (stops taken)
  · rw [if_neg taken]
    exact rest taken

theorem mapError {δ : Type} {inner : Except δ α} {wrap : δ → ε}
    (values : ∀ value, inner = .ok value → good value)
    (reasons : ∀ reason, inner = .error reason → bad (wrap reason)) :
    Ends good bad (inner.mapError wrap) := by
  cases inner with
  | error reason => exact .stops (reasons reason rfl)
  | ok value => exact .returns (values value rfl)

/-- A loop, under an invariant of the items done. -/
theorem foldlM {stepOf : σ → α → Except ε σ} {items : List α} {state : σ}
    (inv : List α → σ → Prop) (start : inv [] state)
    (each : ∀ (before : List α) (item : α) (after : List α) (current : σ),
      items = before ++ item :: after → inv before current →
      Ends (inv (before ++ [item])) bad (stepOf current item)) :
    Ends (inv items) bad (items.foldlM stepOf state) := by
  -- The induction runs over the suffix still to do, with the consumed prefix as a parameter.
  have general : ∀ (rest before : List α) (current : σ), items = before ++ rest →
      inv before current → Ends (inv items) bad (rest.foldlM stepOf current) := by
    intro rest
    induction rest with
    | nil =>
        intro before current split holds
        have same : before = items := by simpa using split.symm
        exact .returns (same ▸ holds)
    | cons item rest ih =>
        intro before current split holds
        rw [List.foldlM_cons]
        refine (each before item rest current split holds).bind ?_
        intro next _ kept
        exact ih (before ++ [item]) next (by simpa using split) kept
  exact general items [] state rfl start

/-- The same rule for a loop over a counter. -/
theorem foldlM_range {stepOf : σ → Nat → Except ε σ} {count : Nat} {state : σ}
    (inv : Nat → σ → Prop) (start : inv 0 state)
    (each : ∀ (index : Nat) (current : σ), index < count → inv index current →
      Ends (inv (index + 1)) bad (stepOf current index)) :
    Ends (inv count) bad ((List.range count).foldlM stepOf state) := by
  have counted : Ends (fun current => inv (List.range count).length current) bad
      ((List.range count).foldlM stepOf state) := by
    refine foldlM (fun before current => inv before.length current) start ?_
    intro before item after current split holds
    -- The counter is the number of iterations already done.
    have position : (List.range count)[before.length]? = some item := by simp [split]
    obtain ⟨bound, same⟩ := List.getElem?_eq_some_iff.mp position
    rw [List.getElem_range] at same
    subst same
    simpa using each before.length current (by simpa using bound) holds
  simpa using counted

end Ends

end UnnamedOS.Data
