import UnnamedOS.Data.Outcome

namespace UnnamedOS.Data

/-! Fallible computations: peeling a successful `do` block apart, and the
invariant rules for the loops that stop at their first error. -/

/-- `Option::ok_or`. -/
def okOr {ε α : Type} (value : Option α) (error : ε) : Except ε α :=
  match value with
  | some found => .ok found
  | none => .error error

@[simp] theorem okOr_some {ε α : Type} (value : α) (error : ε) :
    okOr (some value) error = .ok value := rfl

@[simp] theorem okOr_none {ε α : Type} (error : ε) :
    okOr (none : Option α) error = .error error := rfl

@[simp] theorem okOr_eq_ok {ε α : Type} {value : Option α} {error : ε} {result : α} :
    okOr value error = .ok result ↔ value = some result := by
  cases value <;> simp

/-- A value that may be missing, for a reason of its own. -/
theorem Ends.okOr {ε α : Type} {value : Option α} {error : ε} {bad : ε → Prop}
    (stops : value = none → bad error) :
    Ends (fun found => value = some found) bad (okOr value error) := by
  cases value with
  | none => exact .stops (stops rfl)
  | some found => exact .returns rfl

theorem bind_eq_ok {ε α β : Type} {first : Except ε α} {next : α → Except ε β} {result : β} :
    first >>= next = .ok result ↔ ∃ value, first = .ok value ∧ next value = .ok result := by
  cases first with
  | error reason => simp [bind, Except.bind]
  | ok value => simp [bind, Except.bind]

@[simp] theorem ok_bind {ε α β : Type} (value : α) (next : α → Except ε β) :
    (Except.ok value >>= next) = next value := rfl

@[simp] theorem error_bind {ε α β : Type} (reason : ε) (next : α → Except ε β) :
    (Except.error reason >>= next) = .error reason := rfl

/-- A guard that returns early: past it the condition is known to be false. -/
@[simp] theorem guard_eq_ok {ε α : Type} {condition : Prop} [Decidable condition] {reason : ε}
    {rest : Except ε α} {result : α} :
    (if condition then .error reason else rest) = .ok result ↔
      ¬ condition ∧ rest = .ok result := by
  by_cases taken : condition <;> simp [taken]

theorem mapError_eq_ok {ε δ α : Type} {convert : ε → δ} {first : Except ε α} {result : α} :
    first.mapError convert = .ok result ↔ first = .ok result := by
  cases first <;> simp [Except.mapError]

theorem mapError_eq_error {ε δ α : Type} {convert : ε → δ} {first : Except ε α} {reason : δ} :
    first.mapError convert = .error reason ↔
      ∃ source, first = .error source ∧ convert source = reason := by
  cases first <;> simp [Except.mapError]

@[simp] theorem mapError_ok {ε δ α : Type} (value : α) (convert : ε → δ) :
    (Except.ok value).mapError convert = .ok value := rfl

theorem map_eq_ok {ε α β : Type} {convert : α → β} {first : Except ε α} {result : β} :
    first.map convert = .ok result ↔ ∃ value, first = .ok value ∧ convert value = result := by
  cases first <;> simp [Except.map]

theorem map_eq_error {ε α β : Type} {convert : α → β} {first : Except ε α} {reason : ε} :
    first.map convert = .error reason ↔ first = .error reason := by
  cases first <;> simp [Except.map]

theorem toOption_eq_some {ε α : Type} {first : Except ε α} {result : α} :
    first.toOption = some result ↔ first = .ok result := by
  cases first <;> simp [Except.toOption]

/-- A loop that only checks, in order, and stops at the first item that fails. -/
def checkAll {ε α : Type} (check : α → Except ε Unit) : List α → Except ε Unit
  | [] => .ok ()
  | item :: items => do
      check item
      checkAll check items

theorem checkAll_eq_ok {ε α : Type} {check : α → Except ε Unit} {items : List α} :
    checkAll check items = .ok () ↔ ∀ item ∈ items, check item = .ok () := by
  induction items with
  | nil => simp [checkAll]
  | cons item items ih =>
      simp only [checkAll, bind_eq_ok, List.forall_mem_cons, ih]
      constructor
      · rintro ⟨_, first, rest⟩
        exact ⟨first, rest⟩
      · rintro ⟨first, rest⟩
        exact ⟨(), first, rest⟩

/-- The results of a loop that produced one for every item. -/
theorem mapM_eq_some {α β : Type} {items : List α} {produce : α → Option β} {results : List β}
    (ran : items.mapM produce = some results) :
    results.length = items.length ∧
      ∀ result ∈ results, ∃ item ∈ items, produce item = some result := by
  induction items generalizing results with
  | nil =>
      cases ran
      simp
  | cons item rest ih =>
      rw [List.mapM_cons] at ran
      obtain ⟨first, produced, ran⟩ := Option.bind_eq_some_iff.mp ran
      obtain ⟨others, later, ran⟩ := Option.bind_eq_some_iff.mp ran
      cases ran
      obtain ⟨length, origins⟩ := ih later
      refine ⟨congrArg (· + 1) length, List.forall_mem_cons.mpr ⟨?_, ?_⟩⟩
      · exact ⟨item, List.mem_cons_self, produced⟩
      · intro result member
        obtain ⟨origin, listed, made⟩ := origins result member
        exact ⟨origin, List.mem_cons_of_mem item listed, made⟩

/-- A loop whose body has a value at every item. -/
theorem mapM_eq_some_map {α β : Type} {body : α → Option β} {value : α → β} {items : List α}
    (each : ∀ item ∈ items, body item = some (value item)) :
    items.mapM body = some (items.map value) := by
  induction items with
  | nil => rfl
  | cons item items ih =>
      rw [List.mapM_cons, each item List.mem_cons_self,
        ih fun other member => each other (List.mem_cons_of_mem item member)]
      rfl

theorem exists_of_isOk {ε α : Type} {run : Except ε α} (accepted : run.isOk = true) :
    ∃ value, run = .ok value := by
  cases run with
  | error reason => contradiction
  | ok value => exact ⟨value, rfl⟩

/-- A loop of checks, each with the same reasons to stop. -/
theorem Ends.checkAll {ε α : Type} {check : α → Except ε Unit} {passes : α → Prop}
    {bad : ε → Prop} {items : List α}
    (each : ∀ item ∈ items, Ends (fun _ => passes item) bad (check item)) :
    Ends (fun _ => ∀ item ∈ items, passes item) bad (checkAll check items) := by
  induction items with
  | nil => exact .returns (by simp)
  | cons item items ih =>
      refine (each item List.mem_cons_self).bind ?_
      intro _ _ first
      refine (ih fun other member => each other (List.mem_cons_of_mem item member)).imp ?_ fun _ => id
      intro _ _ rest
      exact List.forall_mem_cons.mpr ⟨first, rest⟩

variable {ε σ α : Type} {step : σ → α → Except ε σ}

theorem foldlM_cons_eq_ok {state final : σ} {item : α} {items : List α} :
    (item :: items).foldlM step state = .ok final ↔
      ∃ next, step state item = .ok next ∧ items.foldlM step next = .ok final := by
  rw [List.foldlM_cons]
  exact bind_eq_ok

/-- A successful loop has taken a successful step at each of its items. -/
theorem foldlM_step_of_mem {items : List α} {state final : σ}
    (ran : items.foldlM step state = .ok final) {item : α} (member : item ∈ items) :
    ∃ current next, step current item = .ok next := by
  induction items generalizing state with
  | nil => exact absurd member List.not_mem_nil
  | cons first rest ih =>
      obtain ⟨next, stepped, ran⟩ := foldlM_cons_eq_ok.mp ran
      rcases List.mem_cons.mp member with rfl | member
      · exact ⟨state, next, stepped⟩
      · exact ih ran member

/-- What holds of the items done so far and of the next one. -/
theorem forall_mem_append_singleton {items : List α} {item : α} {holds : α → Prop}
    (old : ∀ other ∈ items, holds other) (new : holds item) :
    ∀ other ∈ items ++ [item], holds other :=
  List.forall_mem_append.mpr ⟨old, List.forall_mem_singleton.mpr new⟩

/-- The loop rule: an invariant of the items already consumed and the state,
kept by every successful iteration, holds of a successful loop's result. -/
theorem foldlM_invariant {items : List α} {state final : σ} (inv : List α → σ → Prop)
    (start : inv [] state)
    (kept : ∀ (before : List α) (item : α) (after : List α) (current next : σ),
      items = before ++ item :: after → inv before current →
      step current item = .ok next → inv (before ++ [item]) next)
    (ran : items.foldlM step state = .ok final) : inv items final := by
  have ends : Ends (inv items) (fun _ => True) (items.foldlM step state) := by
    refine Ends.foldlM inv start ?_
    intro before item after current split holds
    exact .intro (fun next => kept before item after current next split holds) fun _ _ => trivial
  exact ends.of_ok ran

/-- Two loops over the same items agree when their steps do wherever the
invariant holds. -/
theorem foldlM_congr {items : List α} {state : σ} {other : σ → α → Except ε σ} (inv : σ → Prop)
    (start : inv state)
    (same : ∀ item ∈ items, ∀ current, inv current → step current item = other current item)
    (kept : ∀ item ∈ items, ∀ current next, inv current → step current item = .ok next → inv next) :
    items.foldlM step state = items.foldlM other state := by
  induction items generalizing state with
  | nil => rfl
  | cons item items ih =>
      rw [List.foldlM_cons, List.foldlM_cons, ← same item List.mem_cons_self state start]
      cases stepped : step state item with
      | error reason => rfl
      | ok next =>
          exact ih (kept item List.mem_cons_self state next start stepped)
            (fun later member => same later (List.mem_cons_of_mem item member))
            (fun later member => kept later (List.mem_cons_of_mem item member))

/-- A loop of loops is one loop over all the inner items. -/
theorem foldlM_flatMap {β : Type} {items : List β} {expand : β → List α} {state : σ} :
    (items.flatMap expand).foldlM step state =
      items.foldlM (fun current item => (expand item).foldlM step current) state := by
  induction items generalizing state with
  | nil => rfl
  | cons item items ih =>
      rw [List.flatMap_cons, List.foldlM_append, List.foldlM_cons]
      exact bind_congr fun next => ih

/-- A loop over a counter ends with its invariant, or stops early in an
iteration that found it intact. -/
theorem foldlM_range_ends {step : σ → Nat → Except ε σ} {count : Nat} {state : σ}
    (inv : Nat → σ → Prop) (start : inv 0 state)
    (kept : ∀ (index : Nat) (current next : σ), index < count → inv index current →
      step current index = .ok next → inv (index + 1) next) :
    Ends (inv count)
      (fun reason => ∃ index current, index < count ∧ inv index current ∧
        step current index = .error reason)
      ((List.range count).foldlM step state) := by
  refine Ends.foldlM_range inv start ?_
  intro index current below holds
  exact .intro (fun next => kept index current next below holds)
    fun reason stopped => ⟨index, current, below, holds, stopped⟩

theorem foldlM_range_invariant {step : σ → Nat → Except ε σ} {count : Nat} {state final : σ}
    (inv : Nat → σ → Prop) (start : inv 0 state)
    (kept : ∀ (index : Nat) (current next : σ), index < count → inv index current →
      step current index = .ok next → inv (index + 1) next)
    (ran : (List.range count).foldlM step state = .ok final) : inv count final :=
  (foldlM_range_ends inv start kept).of_ok ran

theorem foldlM_range_error {step : σ → Nat → Except ε σ} {count : Nat} {state : σ} {reason : ε}
    (inv : Nat → σ → Prop) (start : inv 0 state)
    (kept : ∀ (index : Nat) (current next : σ), index < count → inv index current →
      step current index = .ok next → inv (index + 1) next)
    (failed : (List.range count).foldlM step state = .error reason) :
    ∃ index current, index < count ∧ inv index current ∧ step current index = .error reason :=
  (foldlM_range_ends inv start kept).of_error failed

/-- Every iteration of a loop succeeds as long as the invariant lets each
single step succeed, so the loop does too. -/
theorem foldlM_succeeds {items : List α} {state : σ} (inv : List α → σ → Prop)
    (start : inv [] state)
    (steps : ∀ (before : List α) (item : α) (after : List α) (current : σ),
      items = before ++ item :: after → inv before current →
      ∃ next, step current item = .ok next ∧ inv (before ++ [item]) next) :
    ∃ final, items.foldlM step state = .ok final ∧ inv items final := by
  have ends : Ends (inv items) (fun _ => False) (items.foldlM step state) := by
    refine Ends.foldlM inv start ?_
    intro before item after current split holds
    obtain ⟨next, stepped, kept⟩ := steps before item after current split holds
    rw [stepped]
    exact .returns kept
  exact ends.succeeds fun _ => id

/-- The rule for a loop over an index that cannot stop early. -/
theorem foldl_finRange_invariant {count : Nat} {next : σ → Fin count → σ} {state : σ}
    (inv : Nat → σ → Prop) (start : inv 0 state)
    (each : ∀ (index : Fin count) (current : σ), inv index current →
      inv (index + 1) (next current index)) :
    inv count ((List.finRange count).foldl next state) := by
  have general : ∀ done, done ≤ count → inv done (((List.finRange count).take done).foldl next state) := by
    intro done
    induction done with
    | zero => exact fun _ => start
    | succ done ih =>
        intro below
        have inside : done < (List.finRange count).length := by rwa [List.length_finRange]
        rw [List.take_succ_eq_append_getElem inside, List.foldl_append, List.getElem_finRange]
        exact each ⟨done, below⟩ _ (ih (Nat.le_of_lt below))
  have whole := general count (Nat.le_refl count)
  rwa [List.take_of_length_le (Nat.le_of_eq List.length_finRange)] at whole

end UnnamedOS.Data
