import UnnamedOS.Data.Fallible

namespace UnnamedOS.Data

/-! # Programs over a state

A program takes the state it finds and leaves another one, whether it returns
a value or stops. -/

def Program (σ ε α : Type) : Type := σ → Except ε α × σ

namespace Program

variable {σ ε δ α β : Type}

instance : Monad (Program σ ε) where
  pure value := fun state => (.ok value, state)
  bind first next := fun state =>
    match first state with
    | (.ok value, middle) => next value middle
    | (.error reason, middle) => (.error reason, middle)

def stop (reason : ε) : Program σ ε α := fun state => (.error reason, state)

/-- A value that is read from the state. -/
def look (observe : σ → α) : Program σ ε α := fun state => (.ok (observe state), state)

def change (update : σ → σ) : Program σ ε Unit := fun state => (.ok (), update state)

/-- A call that answers from the state and changes it. -/
def call (answer : σ → α × σ) : Program σ ε α := fun state =>
  (.ok (answer state).1, (answer state).2)

/-- A program of its own reasons to stop, with the outcome as the value. -/
def attempt (program : Program σ ε α) : Program σ δ (Except ε α) := fun state =>
  (.ok (program state).1, (program state).2)

/-- The same program, with its reasons to stop put in other words. -/
def mapStop (convert : ε → δ) (program : Program σ ε α) : Program σ δ α := fun state =>
  ((program state).1.mapError convert, (program state).2)

/-- A program that cleans up after itself where it stops. -/
def onStop (cleanUp : ε → σ → σ) (program : Program σ ε α) : Program σ ε α := fun state =>
  match program state with
  | (.ok value, after) => (.ok value, after)
  | (.error reason, after) => (.error reason, cleanUp reason after)

@[simp] theorem pure_run (value : α) (state : σ) :
    (pure value : Program σ ε α) state = (.ok value, state) := rfl

@[simp] theorem stop_run (reason : ε) (state : σ) :
    (stop reason : Program σ ε α) state = (.error reason, state) := rfl

@[simp] theorem look_run (observe : σ → α) (state : σ) :
    (look observe : Program σ ε α) state = (.ok (observe state), state) := rfl

@[simp] theorem change_run (update : σ → σ) (state : σ) :
    (change update : Program σ ε Unit) state = (.ok (), update state) := rfl

@[simp] theorem call_run (answer : σ → α × σ) (state : σ) :
    (call answer : Program σ ε α) state = (.ok (answer state).1, (answer state).2) := rfl

@[simp] theorem attempt_run (program : Program σ ε α) (state : σ) :
    (program.attempt : Program σ δ (Except ε α)) state =
      (.ok (program state).1, (program state).2) := rfl

variable {first : Program σ ε α} {next : α → Program σ ε β} {state middle after : σ}

theorem bind_of_ok {value : α} (ran : first state = (.ok value, middle)) :
    (first >>= next) state = next value middle := by
  simp only [bind, ran]

theorem bind_of_error {reason : ε} (ran : first state = (.error reason, middle)) :
    (first >>= next) state = (.error reason, middle) := by
  simp only [bind, ran]

theorem bind_eq_ok {result : β} :
    (first >>= next) state = (.ok result, after) ↔
      ∃ value middle, first state = (.ok value, middle) ∧
        next value middle = (.ok result, after) := by
  cases ran : first state with
  | mk outcome middle =>
      cases outcome with
      | error reason => simp [bind_of_error ran]
      | ok value => simp [bind_of_ok ran]

theorem attempt_eq_ok {program : Program σ ε α} {outcome : Except ε α} :
    (program.attempt : Program σ δ (Except ε α)) state = (.ok outcome, after) ↔
      program state = (outcome, after) := by
  rw [attempt_run, Prod.ext_iff, Prod.ext_iff, Except.ok.injEq]

/-! ## Programs that keep an observation -/

/-- However the program ends, what is observed of the state is as before. -/
def Keeps {γ : Type} (observe : σ → γ) (program : Program σ ε α) : Prop :=
  ∀ state, observe (program state).2 = observe state

namespace Keeps

variable {γ : Type} {observe : σ → γ} {program : Program σ ε α}

theorem pure (value : α) : Keeps observe (Pure.pure value : Program σ ε α) := fun _ => rfl

theorem stop (reason : ε) : Keeps observe (Program.stop reason : Program σ ε α) := fun _ => rfl

theorem look (read : σ → α) : Keeps observe (Program.look read : Program σ ε α) := fun _ => rfl

theorem mapStop {convert : ε → δ} (keeps : Keeps observe program) :
    Keeps observe (program.mapStop convert) := keeps

theorem attempt (keeps : Keeps observe program) :
    Keeps observe (program.attempt : Program σ δ (Except ε α)) := keeps

theorem bind {next : α → Program σ ε β} (first : Keeps observe program)
    (second : ∀ value, Keeps observe (next value)) : Keeps observe (program >>= next) := by
  intro state
  have same := first state
  cases ran : program state with
  | mk outcome middle =>
      rw [ran] at same
      cases outcome with
      | ok value =>
          rw [bind_of_ok ran]
          exact (second value middle).trans same
      | error reason =>
          rw [bind_of_error ran]
          exact same

end Keeps

/-! ## Rules for what a program leaves -/

/-- From every state with `before`, a returned value and the state left with it
satisfy `returns`, and a reason to stop and its state satisfy `stops`. -/
def Triple (before : σ → Prop) (program : Program σ ε α) (returns : α → σ → Prop)
    (stops : ε → σ → Prop) : Prop :=
  ∀ state, before state →
    (∀ value after, program state = (.ok value, after) → returns value after) ∧
    ∀ reason after, program state = (.error reason, after) → stops reason after

namespace Triple

variable {before : σ → Prop} {program : Program σ ε α} {returns : α → σ → Prop}
  {stops : ε → σ → Prop} {results : β → σ → Prop}

theorem pure {value : α} (holds : ∀ state, before state → returns value state) :
    Triple before (pure value : Program σ ε α) returns stops := by
  intro state start
  refine ⟨?_, by simp⟩
  intro result after ran
  cases ran
  exact holds state start

theorem stop {reason : ε} (holds : ∀ state, before state → stops reason state) :
    Triple before (Program.stop reason : Program σ ε α) returns stops := by
  intro state start
  refine ⟨by simp, ?_⟩
  intro result after ran
  cases ran
  exact holds state start

theorem look {observe : σ → α} (holds : ∀ state, before state → returns (observe state) state) :
    Triple before (Program.look observe : Program σ ε α) returns stops := by
  intro state start
  refine ⟨?_, by simp⟩
  intro result after ran
  cases ran
  exact holds state start

theorem change {update : σ → σ} {returns : Unit → σ → Prop} {stops : ε → σ → Prop}
    (holds : ∀ state, before state → returns () (update state)) :
    Triple before (Program.change update : Program σ ε Unit) returns stops := by
  intro state start
  refine ⟨?_, by simp⟩
  intro value after ran
  cases ran
  exact holds state start

theorem call {answer : σ → α × σ}
    (holds : ∀ state, before state → returns (answer state).1 (answer state).2) :
    Triple before (Program.call answer : Program σ ε α) returns stops := by
  intro state start
  refine ⟨?_, by simp⟩
  intro result after ran
  cases ran
  exact holds state start

theorem attempt {outcomes : Except ε α → σ → Prop} {unused : δ → σ → Prop}
    (first : Triple before program (fun value => outcomes (.ok value))
      fun reason => outcomes (.error reason)) :
    Triple before program.attempt outcomes unused := by
  intro state start
  refine ⟨?_, by simp⟩
  intro result after ran
  cases ran
  obtain ⟨good, bad⟩ := first state start
  cases outcome : (program state).1 with
  | ok value => exact good value _ (Prod.ext outcome rfl)
  | error reason => exact bad reason _ (Prod.ext outcome rfl)

theorem mapStop {convert : ε → δ} {conversions : δ → σ → Prop}
    (triple : Triple before program returns fun reason => conversions (convert reason)) :
    Triple before (program.mapStop convert) returns conversions := by
  intro state start
  obtain ⟨good, bad⟩ := triple state start
  cases ran : program state with
  | mk outcome middle =>
      rw [Program.mapStop, ran]
      cases outcome with
      | ok value =>
          refine ⟨?_, by simp [Except.mapError]⟩
          intro result after same
          cases same
          exact good value middle ran
      | error reason =>
          refine ⟨by simp [Except.mapError], ?_⟩
          intro result after same
          cases same
          exact bad reason middle ran

theorem onStop {cleanUp : ε → σ → σ} {cleaned : ε → σ → Prop}
    (triple : Triple before program returns stops)
    (cleans : ∀ reason state, stops reason state → cleaned reason (cleanUp reason state)) :
    Triple before (program.onStop cleanUp) returns cleaned := by
  intro state start
  obtain ⟨good, bad⟩ := triple state start
  cases ran : program state with
  | mk outcome middle =>
      rw [Program.onStop, ran]
      cases outcome with
      | ok value =>
          refine ⟨?_, by simp⟩
          intro result after same
          cases same
          exact good value middle ran
      | error reason =>
          refine ⟨by simp, ?_⟩
          intro result after same
          cases same
          exact cleans reason middle (bad reason middle ran)

/-- The second program starts where a run of the first has ended. -/
theorem bind_run {next : α → Program σ ε β} (first : Triple before program returns stops)
    (second : ∀ state value after, program state = (.ok value, after) →
      Triple (fun middle => middle = after ∧ returns value middle) (next value) results stops) :
    Triple before (program >>= next) results stops := by
  intro state start
  obtain ⟨good, bad⟩ := first state start
  cases ran : program state with
  | mk outcome middle =>
      cases outcome with
      | ok value =>
          rw [bind_of_ok ran]
          exact second state value middle ran middle ⟨rfl, good value middle ran⟩
      | error reason =>
          rw [bind_of_error ran]
          refine ⟨by simp, ?_⟩
          intro other after same
          cases same
          exact bad reason middle ran

theorem bind {next : α → Program σ ε β} (first : Triple before program returns stops)
    (second : ∀ value, Triple (returns value) (next value) results stops) :
    Triple before (program >>= next) results stops :=
  first.bind_run fun _ value _ _ middle reached => second value middle reached.2

/-- What follows an attempt knows how it ended. -/
theorem attempt_bind {next : Except ε α → Program σ δ β} {unused : δ → σ → Prop}
    (first : Triple before program returns stops)
    (good : ∀ value, Triple (returns value) (next (.ok value)) results unused)
    (bad : ∀ reason, Triple (stops reason) (next (.error reason)) results unused) :
    Triple before (program.attempt >>= next) results unused := by
  intro state start
  obtain ⟨returned, stopped⟩ := first state start
  cases ran : program state with
  | mk outcome middle =>
      rw [bind_of_ok (attempt_eq_ok.mpr ran)]
      cases outcome with
      | ok value => exact good value middle (returned value middle ran)
      | error reason => exact bad reason middle (stopped reason middle ran)

theorem ite {condition : Prop} [Decidable condition] {other : Program σ ε α}
    (yes : Triple before program returns stops) (no : Triple before other returns stops) :
    Triple before (if condition then program else other) returns stops := by
  split
  · exact yes
  · exact no

/-- More may be assumed and less may be promised. -/
theorem imp {stronger : σ → Prop} {weaker : α → σ → Prop} {weakly : ε → σ → Prop}
    (triple : Triple before program returns stops) (start : ∀ state, stronger state → before state)
    (values : ∀ value state, returns value state → weaker value state)
    (reasons : ∀ reason state, stops reason state → weakly reason state) :
    Triple stronger program weaker weakly := by
  intro state holds
  obtain ⟨good, bad⟩ := triple state (start state holds)
  exact ⟨fun value after ran => values value after (good value after ran),
    fun reason after ran => reasons reason after (bad reason after ran)⟩

/-- A program that never stops keeps any promise about its stops. -/
theorem unstopped (triple : Triple before program returns fun _ _ => False) :
    Triple before program returns stops :=
  triple.imp (fun _ => id) (fun _ _ => id) fun _ _ => False.elim

theorem start {stronger : σ → Prop} (triple : Triple before program returns stops)
    (holds : ∀ state, stronger state → before state) : Triple stronger program returns stops :=
  triple.imp holds (fun _ _ => id) fun _ _ => id

end Triple

end Program

end UnnamedOS.Data
