import UnnamedOS.Data.Fallible

namespace UnnamedOS.Data

/-! # Validators

A validator accepts, rejects, or faults.  `Decides fault run accepts` says that
`run` cannot fault and succeeds exactly on `accepts`; the rules below follow
the shape of the code, and a later step may use that the earlier ones have
succeeded. -/

variable {ε α β σ : Type} {fault : ε}

structure Decides (fault : ε) (run : Except ε α) (accepts : Prop) : Prop where
  safe : run ≠ .error fault
  exact : (∃ value, run = .ok value) ↔ accepts

namespace Decides

variable {run : Except ε α} {next : α → Except ε β} {accepts others : Prop}

theorem congr (decides : Decides fault run accepts) (same : accepts ↔ others) :
    Decides fault run others :=
  ⟨decides.safe, decides.exact.trans same⟩

theorem accept (value : α) : Decides fault (.ok value : Except ε α) True :=
  ⟨by simp, by simp⟩

theorem reject {reason : ε} (plain : reason ≠ fault) :
    Decides fault (.error reason : Except ε α) False :=
  ⟨by simpa using plain, by simp⟩

/-- A value that has to exist, and what follows it. -/
theorem given {value : Option α} {reason : ε} {passes : α → Prop} (plain : reason ≠ fault)
    (rest : ∀ found, value = some found → Decides fault (next found) (passes found)) :
    Decides fault (okOr value reason >>= next) (∃ found, value = some found ∧ passes found) := by
  cases value with
  | none => exact (reject plain).congr (by simp)
  | some found => exact (rest found rfl).congr (by simp)

/-- A guard that rejects: the rest is only reached where it is false. -/
theorem guard {condition : Prop} [Decidable condition] {reason : ε} (plain : reason ≠ fault)
    (rest : ¬ condition → Decides fault run accepts) :
    Decides fault (if condition then .error reason else run) (¬ condition ∧ accepts) := by
  by_cases taken : condition
  · rw [if_pos taken]
    exact (reject plain).congr (by simp [taken])
  · rw [if_neg taken]
    exact (rest taken).congr (by simp [taken])

/-- A branch that accepts early. -/
theorem early {condition : Prop} [Decidable condition] {value : α}
    (rest : ¬ condition → Decides fault run accepts) :
    Decides fault (if condition then .ok value else run) (condition ∨ accepts) := by
  by_cases taken : condition
  · rw [if_pos taken]
    exact (accept value).congr (by simp [taken])
  · rw [if_neg taken]
    exact (rest taken).congr (by simp [taken])

/-- A check made on one branch only. -/
theorem branch {condition : Prop} [Decidable condition] {value : α}
    (taken : Decides fault run accepts) :
    Decides fault (if condition then run else .ok value) (condition → accepts) := by
  by_cases holds : condition
  · rw [if_pos holds]
    exact taken.congr (by simp [holds])
  · rw [if_neg holds]
    exact (accept value).congr (by simp [holds])

theorem bind (first : Decides fault run accepts)
    (second : ∀ value, run = .ok value → Decides fault (next value) others) :
    Decides fault (run >>= next) (accepts ∧ others) := by
  cases ran : run with
  | error reason =>
      have refused : ¬ accepts := by
        rw [← first.exact, ran]
        simp
      have plain : reason ≠ fault := by
        intro same
        exact first.safe (by rw [ran, same])
      exact (reject plain).congr (by simp [refused])
  | ok value =>
      have accepted : accepts := first.exact.mp ⟨value, ran⟩
      exact (second value ran).congr (by simp [accepted])

/-- A step that cannot fault, and after which everything is rejected. -/
theorem doomed (safe : run ≠ .error fault)
    (rest : ∀ value, run = .ok value → Decides fault (next value) False) :
    Decides fault (run >>= next) False := by
  have first : Decides fault run (∃ value, run = .ok value) := ⟨safe, Iff.rfl⟩
  exact (first.bind rest).congr (by simp)

/-- An operation that cannot fail here, whatever it does elsewhere. -/
theorem step {value : α} (ran : run = .ok value) (second : Decides fault (next value) others) :
    Decides fault (run >>= next) others := by
  rw [ran]
  exact second

/-- A loop of independent checks. -/
theorem checkAll {check : α → Except ε Unit} {passes : α → Prop} {items : List α}
    (each : ∀ item ∈ items, Decides fault (check item) (passes item)) :
    Decides fault (checkAll check items) (∀ item ∈ items, passes item) := by
  induction items with
  | nil => exact (accept ()).congr (by simp)
  | cons item items ih =>
      have first := each item (by simp)
      have rest := ih fun other member => each other (List.mem_cons_of_mem _ member)
      exact (first.bind fun _ _ => rest).congr (by simp)

/-- A loop that also carries a state, under an invariant of the items done. -/
theorem foldlM {stepOf : σ → α → Except ε σ} {passes : α → Prop} {items : List α} {state : σ}
    (inv : List α → σ → Prop) (start : inv [] state)
    (each : ∀ (before : List α) (item : α) (after : List α) (current : σ),
      items = before ++ item :: after → inv before current →
      Decides fault (stepOf current item) (passes item))
    (kept : ∀ (before : List α) (item : α) (after : List α) (current next : σ),
      items = before ++ item :: after → inv before current →
      stepOf current item = .ok next → inv (before ++ [item]) next) :
    Decides fault (items.foldlM stepOf state) (∀ item ∈ items, passes item) := by
  have general : ∀ (rest before : List α) (current : σ), items = before ++ rest →
      inv before current →
      Decides fault (rest.foldlM stepOf current) (∀ item ∈ rest, passes item) := by
    intro rest
    induction rest with
    | nil =>
        intro before current split holds
        exact (accept current).congr (by simp)
    | cons item rest ih =>
        intro before current split holds
        rw [List.foldlM_cons]
        have first := each before item rest current split holds
        refine (first.bind fun next ran => ih (before ++ [item]) next (by simpa using split)
          (kept before item rest current next split holds ran)).congr ?_
        simp
  exact general items [] state rfl start

end Decides

/-- `run` cannot fault, and what it returns is what the specification says. -/
structure Computes (fault : ε) (run : Except ε α) (result : α → Prop) : Prop where
  safe : run ≠ .error fault
  exact : ∀ value, run = .ok value ↔ result value

namespace Computes

variable {run : Except ε α} {result others : α → Prop}

theorem congr (computes : Computes fault run result) (same : ∀ value, result value ↔ others value) :
    Computes fault run others :=
  ⟨computes.safe, fun value => (computes.exact value).trans (same value)⟩

theorem accept {value : α} (only : ∀ other, result other ↔ other = value) :
    Computes fault (.ok value) result := by
  refine ⟨by simp, ?_⟩
  intro other
  rw [only, Except.ok.injEq, eq_comm]

theorem reject {reason : ε} (plain : reason ≠ fault) (nothing : ∀ value, ¬ result value) :
    Computes fault (.error reason) result := by
  refine ⟨by simpa using plain, ?_⟩
  intro value
  simp [nothing]

theorem map {f : α → β} (computes : Computes fault run result) :
    Computes fault (run.map f) fun value => ∃ inner, result inner ∧ f inner = value := by
  refine ⟨?_, ?_⟩
  · rw [ne_eq, map_eq_error]
    exact computes.safe
  · intro value
    simp only [map_eq_ok, computes.exact]

end Computes

end UnnamedOS.Data
