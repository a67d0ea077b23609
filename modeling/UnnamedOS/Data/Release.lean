import Mathlib.Data.List.Nodup

namespace UnnamedOS.Data

/-! # Giving held resources back

A holder gives its resources back one call at a time, newest first.  A call
may be refused: a loop that reports errors stops there and keeps the resource
and everything older, a loop that cannot report goes on without it.

`Releases` is the discipline both loops follow, stated on the calls alone, so
that it composes over any number of attempts. -/

/-- One call of the release operation and whether it was accepted. -/
structure Attempt (α : Type) where
  resource : α
  accepted : Bool
deriving DecidableEq, Repr

section

variable {α : Type}

/-- One accepted call on each resource. -/
def acceptances (resources : List α) : List (Attempt α) :=
  resources.map fun resource => ⟨resource, true⟩

@[simp] theorem acceptances_nil : acceptances ([] : List α) = [] := rfl

@[simp] theorem acceptances_cons (resource : α) (resources : List α) :
    acceptances (resource :: resources) = ⟨resource, true⟩ :: acceptances resources := rfl

/-- From the resources `held`, newest first, the calls leave `left`.  Only a
lossy holder forgets a resource whose release was refused. -/
inductive Releases (lossy : Bool) : List α → List (Attempt α) → List α → Prop
  | stop (held : List α) : Releases lossy held [] held
  | accept {resource : α} {older left : List α} {attempts : List (Attempt α)} :
      Releases lossy older attempts left →
      Releases lossy (resource :: older) (⟨resource, true⟩ :: attempts) left
  | retry {resource : α} {older left : List α} {attempts : List (Attempt α)} :
      Releases lossy (resource :: older) attempts left →
      Releases lossy (resource :: older) (⟨resource, false⟩ :: attempts) left
  | abandon {resource : α} {older left : List α} {attempts : List (Attempt α)} :
      lossy = true → Releases lossy older attempts left →
      Releases lossy (resource :: older) (⟨resource, false⟩ :: attempts) left

namespace Releases

variable {lossy : Bool} {held middle left : List α} {attempts more : List (Attempt α)}

theorem trans (first : Releases lossy held attempts middle)
    (second : Releases lossy middle more left) : Releases lossy held (attempts ++ more) left := by
  induction first with
  | stop held => exact second
  | accept _ ih => exact .accept (ih second)
  | retry _ ih => exact .retry (ih second)
  | abandon allowed _ ih => exact .abandon allowed (ih second)

theorem weaken (releases : Releases false held attempts left) :
    Releases lossy held attempts left := by
  induction releases with
  | stop held => exact .stop held
  | accept _ ih => exact .accept ih
  | retry _ ih => exact .retry ih
  | abandon allowed => contradiction

/-- Accepted calls on the newest resources leave the older ones. -/
theorem accepted (released left : List α) :
    Releases lossy (released ++ left) (acceptances released) left := by
  induction released with
  | nil => exact .stop left
  | cons resource released ih => exact .accept ih

theorem refused (resource : α) (older : List α) :
    Releases lossy (resource :: older) [⟨resource, false⟩] (resource :: older) :=
  .retry (.stop _)

theorem suffix (releases : Releases lossy held attempts left) : left <:+ held := by
  induction releases with
  | stop held => exact List.suffix_refl held
  | accept _ ih => exact ih.trans (List.suffix_cons _ _)
  | retry _ ih => exact ih
  | abandon _ _ ih => exact ih.trans (List.suffix_cons _ _)

/-- Only held resources are released. -/
theorem mem (releases : Releases lossy held attempts left) {attempt : Attempt α}
    (made : attempt ∈ attempts) : attempt.resource ∈ held := by
  induction releases with
  | stop held => simp at made
  | accept _ ih =>
      rcases List.mem_cons.mp made with rfl | later
      · simp
      · exact List.mem_cons_of_mem _ (ih later)
  | retry _ ih =>
      rcases List.mem_cons.mp made with rfl | later
      · simp
      · exact ih later
  | abandon _ _ ih =>
      rcases List.mem_cons.mp made with rfl | later
      · simp
      · exact List.mem_cons_of_mem _ (ih later)

/-- No call names a resource again once a call on it was accepted. -/
theorem once (releases : Releases lossy held attempts left) (distinct : held.Nodup) :
    attempts.Pairwise fun earlier later =>
      earlier.accepted = true → later.resource ≠ earlier.resource := by
  induction releases with
  | stop held => exact .nil
  | accept rest ih =>
      obtain ⟨fresh, distinct⟩ := List.nodup_cons.mp distinct
      refine .cons ?_ (ih distinct)
      intro later made _ same
      have named := rest.mem made
      rw [same] at named
      exact fresh named
  | retry _ ih =>
      refine .cons ?_ (ih distinct)
      intro later made accepted
      contradiction
  | abandon _ _ ih =>
      obtain ⟨_, distinct⟩ := List.nodup_cons.mp distinct
      refine .cons ?_ (ih distinct)
      intro later made accepted
      contradiction

/-- The calls go through the held resources in order, never back. -/
theorem ordered (releases : Releases lossy held attempts left) :
    attempts.Pairwise fun earlier later =>
      later.resource = earlier.resource ∨ [earlier.resource, later.resource].Sublist held := by
  induction releases with
  | stop held => exact .nil
  | accept rest ih =>
      refine .cons ?_ (ih.imp fun before => before.imp_right (·.cons _))
      intro later made
      exact .inr ((List.singleton_sublist.mpr (rest.mem made)).cons_cons _)
  | retry rest ih =>
      refine .cons ?_ ih
      intro later made
      rcases List.mem_cons.mp (rest.mem made) with same | older
      · exact .inl same
      · exact .inr ((List.singleton_sublist.mpr older).cons_cons _)
  | abandon _ rest ih =>
      refine .cons ?_ (ih.imp fun before => before.imp_right (·.cons _))
      intro later made
      exact .inr ((List.singleton_sublist.mpr (rest.mem made)).cons_cons _)

variable [DecidableEq α]

/-- Counted from the oldest, the positions of the calls only go down. -/
theorem descends {acquired : List α} (releases : Releases lossy acquired.reverse attempts left)
    (distinct : acquired.Nodup) :
    attempts.Pairwise fun earlier later =>
      acquired.idxOf later.resource ≤ acquired.idxOf earlier.resource := by
  refine releases.ordered.imp ?_
  intro earlier later before
  rcases before with same | newer
  · exact Nat.le_of_eq (congrArg acquired.idxOf same)
  · have older : [later.resource, earlier.resource].Sublist acquired := by
      simpa using newer.reverse
    clear newer releases
    induction acquired with
    | nil => simp at older
    | cons first rest ih =>
        obtain ⟨fresh, distinct⟩ := List.nodup_cons.mp distinct
        cases older with
        | cons _ older =>
            have position {attempt : Attempt α} (member : attempt.resource ∈ rest) :
                (first :: rest).idxOf attempt.resource = rest.idxOf attempt.resource + 1 :=
              List.idxOf_cons_ne _ fun same => fresh (same ▸ member)
            rw [position (older.subset (by simp)), position (older.subset (by simp))]
            exact Nat.succ_le_succ (ih distinct older)
        | cons_cons _ older => simp

/-- A holder that forgets nothing has released exactly what it no longer has,
and each of these once. -/
theorem count (releases : Releases false held attempts left) (distinct : held.Nodup)
    {resource : α} (member : resource ∈ held) :
    attempts.count ⟨resource, true⟩ = if resource ∈ left then 0 else 1 := by
  induction releases with
  | stop held => simp [member]
  | @accept newest older left attempts rest ih =>
      obtain ⟨fresh, distinct⟩ := List.nodup_cons.mp distinct
      rcases List.mem_cons.mp member with rfl | inOlder
      · have gone : resource ∉ left := fun kept => fresh (rest.suffix.subset kept)
        have unnamed : ⟨resource, true⟩ ∉ attempts := fun made => fresh (rest.mem made)
        simp [gone, List.count_eq_zero.mpr unnamed]
      · have different : newest ≠ resource := fun same => fresh (same ▸ inOlder)
        simp [different, ih distinct inOlder]
  | retry _ ih => simpa using ih distinct member
  | abandon allowed => contradiction

end Releases

end

/-! ## The two loops -/

section

variable {σ ε α : Type} (free : σ → α → Except ε Unit × σ)

/-- Release newest first and stop at the first refusal. -/
def releaseAll : σ → List α → Except ε Unit × σ × List α
  | state, [] => (.ok (), state, [])
  | state, resource :: older =>
      match free state resource with
      | (.error source, state) => (.error source, state, resource :: older)
      | (.ok _, state) => releaseAll state older

/-- Release newest first and ignore refusals. -/
def dropAll (state : σ) (held : List α) : σ :=
  held.foldl (fun current resource => (free current resource).2) state

/-- What the release operation answers to one call after the other. -/
def answers : σ → List α → List Bool
  | _, [] => []
  | state, resource :: rest =>
      (free state resource).1.isOk :: answers (free state resource).2 rest

/-- The answers under which a release gives back nothing or everything. -/
def AllOrNothing (answers : List Bool) : Prop :=
  answers.head? = some false ∨ ∀ answer ∈ answers, answer = true

instance (answers : List Bool) : Decidable (AllOrNothing answers) :=
  inferInstanceAs (Decidable (_ ∨ _))

/-- The state keeps a log that each call extends by its own event. -/
def Records {γ : Type} (log : σ → List γ) (event : Attempt α → γ) : Prop :=
  ∀ state resource, log (free state resource).2 =
    log state ++ [event ⟨resource, (free state resource).1.isOk⟩]

variable {free} {γ : Type} {log : σ → List γ} {event : Attempt α → γ}

theorem dropAll_append (state : σ) (first second : List α) :
    dropAll free state (first ++ second) = dropAll free (dropAll free state first) second :=
  List.foldl_append

theorem answers_append (state : σ) (first second : List α) :
    answers free state (first ++ second) =
      answers free state first ++ answers free (dropAll free state first) second := by
  induction first generalizing state with
  | nil => rfl
  | cons resource rest ih => exact congrArg (_ :: ·) (ih (free state resource).2)

theorem AllOrNothing.nothing {released : Nat} {more : List Bool}
    (clean : AllOrNothing (List.replicate released true ++ false :: more)) : released = 0 := by
  rcases clean with refused | accepted
  · cases released with
    | zero => rfl
    | succ released => simp [List.replicate_succ] at refused
  · simpa using accepted false (by simp)

/-- Releasing named resources is releasing what the names stand for. -/
theorem releaseAll_map {δ : Type} (name : δ → α) (state : σ) (held : List δ) :
    releaseAll free state (held.map name) =
      ((releaseAll (fun state item => free state (name item)) state held).1,
        (releaseAll (fun state item => free state (name item)) state held).2.1,
        (releaseAll (fun state item => free state (name item)) state held).2.2.map name) := by
  induction held generalizing state with
  | nil => rfl
  | cons item older ih =>
      cases freed : free state (name item) with
      | mk result after =>
          cases result with
          | error source => simp only [List.map_cons, releaseAll, freed]
          | ok value => simp only [List.map_cons, releaseAll, freed, ih]

/-- Everything the reporting loop can do. -/
theorem releaseAll_cases (records : Records free log event) (state : σ) (held : List α) :
    (∃ after, releaseAll free state held = (.ok (), after, []) ∧
      log after = log state ++ (acceptances held).map event) ∨
    ∃ source after released resource older,
      releaseAll free state held = (.error source, after, resource :: older) ∧
      held = released ++ resource :: older ∧
      log after = log state ++
        (acceptances released ++ [Attempt.mk resource false]).map event := by
  induction held generalizing state with
  | nil => exact .inl ⟨state, rfl, by simp⟩
  | cons resource older ih =>
      have recorded := records state resource
      cases freed : free state resource with
      | mk result after =>
          rw [freed] at recorded
          cases result with
          | error source =>
              refine .inr ⟨source, after, [], resource, older, ?_, rfl, ?_⟩
              · simp only [releaseAll, freed]
              · rw [recorded]
                rfl
          | ok value =>
              rcases ih after with ⟨final, ran, made⟩ |
                ⟨source, final, released, failing, rest, ran, split, made⟩
              · refine .inl ⟨final, by simp only [releaseAll, freed, ran], ?_⟩
                rw [made, recorded]
                simp [Except.isOk, Except.toBool]
              · refine .inr ⟨source, final, resource :: released, failing, rest,
                  by simp only [releaseAll, freed, ran], by rw [split]; rfl, ?_⟩
                rw [made, recorded]
                simp [Except.isOk, Except.toBool]

theorem releaseAll_releases (records : Records free log event) (state : σ) (held : List α) :
    ∃ made, log (releaseAll free state held).2.1 = log state ++ made.map event ∧
      Releases false held made (releaseAll free state held).2.2 := by
  rcases releaseAll_cases records state held with ⟨after, ran, made⟩ |
    ⟨source, after, released, resource, older, ran, rfl, made⟩
  · rw [ran]
    refine ⟨_, made, ?_⟩
    simpa using Releases.accepted held []
  · rw [ran]
    exact ⟨_, made, (Releases.accepted released _).trans (.refused resource older)⟩

/-- The silent loop calls once for each held resource. -/
theorem dropAll_releases (records : Records free log event) (state : σ) (held : List α) :
    ∃ made, log (dropAll free state held) = log state ++ made.map event ∧
      made.map Attempt.resource = held ∧ Releases true held made [] := by
  induction held generalizing state with
  | nil => exact ⟨[], by simp [dropAll], rfl, .stop []⟩
  | cons resource older ih =>
      obtain ⟨made, extended, visited, releases⟩ := ih (free state resource).2
      refine ⟨⟨resource, (free state resource).1.isOk⟩ :: made, ?_, ?_, ?_⟩
      · rw [records state resource] at extended
        simpa [dropAll] using extended
      · rw [List.map_cons, visited]
      · cases (free state resource).1.isOk with
        | true => exact .accept releases
        | false => exact .abandon rfl releases

end

/-! ## One call per resource -/

section

variable {σ ε α γ : Type} {free : σ → α → Except ε Unit × σ} {log : σ → List γ}
  {event : Attempt α → γ}

/-- The log has grown by one call for each resource, in order, and by nothing
else. -/
def FreedEach (event : Attempt α → γ) (before : List γ) (resources : List α)
    (after : List γ) : Prop :=
  ∃ made : List (Attempt α),
    after = before ++ made.map event ∧ made.map Attempt.resource = resources

theorem FreedEach.none (event : Attempt α → γ) (before : List γ) :
    FreedEach event before [] before :=
  ⟨[], by simp, rfl⟩

theorem dropAll_freedEach (records : Records free log event) (state : σ) (held : List α) :
    FreedEach event (log state) held (log (dropAll free state held)) := by
  obtain ⟨made, extended, visited, _⟩ := dropAll_releases records state held
  exact ⟨made, extended, visited⟩

theorem free_freedEach (records : Records free log event) (state : σ) (resource : α) :
    FreedEach event (log state) [resource] (log (free state resource).2) :=
  ⟨[_], records state resource, rfl⟩

end

/-! ## Histories -/

section

variable {α γ : Type} {taken : γ → Option α} {returned : γ → Option (Attempt α)}
  {event : Attempt α → γ}

/-- A history in which every release names a resource taken before it, and
none again once a release of it was accepted. -/
structure Accounted (taken : γ → Option α) (returned : γ → Option (Attempt α))
    (history : List γ) : Prop where
  taken : ∀ before call after attempt, history = before ++ call :: after →
    returned call = some attempt → attempt.resource ∈ before.filterMap taken
  once : (history.filterMap returned).Pairwise fun earlier later =>
    earlier.accepted = true → later.resource ≠ earlier.resource

theorem filterMap_returned (isReturn : ∀ attempt, returned (event attempt) = some attempt)
    (made : List (Attempt α)) : (made.map event).filterMap returned = made := by
  rw [List.filterMap_map, show returned ∘ event = some from funext isReturn, List.filterMap_some]

/-- First distinct resources are taken and none is returned, then they are
released. -/
theorem accounted_of_phases {opening : List γ} {acquired left : List α}
    {made : List (Attempt α)} {lossy : Bool}
    (isReturn : ∀ attempt, returned (event attempt) = some attempt)
    (quiet : opening.filterMap returned = [])
    (takes : ∀ resource ∈ acquired, resource ∈ opening.filterMap taken)
    (releases : Releases lossy acquired.reverse made left) (distinct : acquired.Nodup) :
    Accounted taken returned (opening ++ made.map event) where
  taken := by
    intro before call after attempt split isCall
    have unreturned : call ∉ opening := by
      intro early
      have absent : attempt ∈ opening.filterMap returned :=
        List.mem_filterMap.mpr ⟨call, early, isCall⟩
      simp [quiet] at absent
    have named : attempt.resource ∈ opening.filterMap taken := by
      have member : call ∈ opening ++ made.map event := by simp [split]
      obtain ⟨same, isMade, rfl⟩ :=
        List.mem_map.mp ((List.mem_append.mp member).resolve_left unreturned)
      obtain rfl : same = attempt := Option.some.inj ((isReturn same).symm.trans isCall)
      exact takes _ (List.mem_reverse.mp (releases.mem isMade))
    -- The opening returns nothing, so it ends before the call.
    rcases List.append_eq_append_iff.mp split with ⟨more, rfl, _⟩ | ⟨more, rfl, rest⟩
    · rw [List.filterMap_append]
      exact List.mem_append_left _ named
    · cases more with
      | nil => simpa using named
      | cons first more =>
          simp only [List.cons_append, List.cons.injEq] at rest
          exact absurd (by simp [rest.1]) unreturned
  once := by
    rw [List.filterMap_append, quiet, filterMap_returned isReturn]
    exact releases.once (List.nodup_reverse.mpr distinct)

end

end UnnamedOS.Data
