import UnnamedOS.Data.Release

namespace UnnamedOS.Data

/-! # Resources in flagged slots

A fixed array of resources with an ownership flag each.  The release loops go
from the highest index down and clear a flag after each accepted call; on the
slots still flagged they are the loops of `Release`. -/

section

variable {σ ε α : Type} (free : σ → α → Except ε Unit × σ)

/-- The flagged resources with their indices, lowest first. -/
def heldSlots : Nat → List (α × Bool) → List (Nat × α)
  | _, [] => []
  | index, (resource, true) :: rest => (index, resource) :: heldSlots (index + 1) rest
  | index, (_, false) :: rest => heldSlots (index + 1) rest

/-- Release from the highest index down, and stop at the first refusal with
its index.  The first slot has the index given. -/
def releaseSlots : Nat → σ → List (α × Bool) → Except (Nat × ε) Unit × σ × List (α × Bool)
  | _, state, [] => (.ok (), state, [])
  | index, state, (resource, owned) :: rest =>
      match releaseSlots (index + 1) state rest with
      | (.error refusal, state, rest) => (.error refusal, state, (resource, owned) :: rest)
      | (.ok _, state, rest) =>
          if owned then
            match free state resource with
            | (.error source, state) => (.error (index, source), state, (resource, true) :: rest)
            | (.ok _, state) => (.ok (), state, (resource, false) :: rest)
          else (.ok (), state, (resource, false) :: rest)

/-- Release from the highest index down and go on after a refusal. -/
def dropSlots : σ → List (α × Bool) → σ
  | state, [] => state
  | state, (resource, owned) :: rest =>
      let state := dropSlots state rest
      if owned then (free state resource).2 else state

end

section

variable {σ ε α γ : Type} {free : σ → α → Except ε Unit × σ} {log : σ → List γ}
  {event : Attempt α → γ}

theorem heldSlots_cons (index : Nat) (resource : α) (owned : Bool) (rest : List (α × Bool)) :
    heldSlots index ((resource, owned) :: rest) =
      (if owned then [(index, resource)] else []) ++ heldSlots (index + 1) rest := by
  cases owned <;> simp [heldSlots]

theorem heldSlots_length (index : Nat) (slots : List (α × Bool)) :
    (heldSlots index slots).length = (slots.filter Prod.snd).length := by
  induction slots generalizing index with
  | nil => rfl
  | cons slot rest ih =>
      obtain ⟨resource, owned⟩ := slot
      cases owned <;> simp [heldSlots, ih]

theorem heldSlots_ge {index : Nat} {slots : List (α × Bool)} {item : Nat × α}
    (member : item ∈ heldSlots index slots) : index ≤ item.1 := by
  induction slots generalizing index with
  | nil => simp [heldSlots] at member
  | cons slot rest ih =>
      obtain ⟨resource, owned⟩ := slot
      rw [heldSlots_cons] at member
      rcases List.mem_append.mp member with here | later
      · cases owned with
        | true => exact Nat.le_of_eq (congrArg Prod.fst (List.mem_singleton.mp here)).symm
        | false => simp at here
      · have bound := ih later
        omega

/-- The indices of the held slots go up. -/
theorem heldSlots_ascending (index : Nat) (slots : List (α × Bool)) :
    (heldSlots index slots).Pairwise fun left right => left.1 < right.1 := by
  induction slots generalizing index with
  | nil => exact .nil
  | cons slot rest ih =>
      obtain ⟨resource, owned⟩ := slot
      cases owned with
      | true =>
          refine .cons ?_ (ih (index + 1))
          intro item member
          exact heldSlots_ge member
      | false => exact ih (index + 1)

/-- Everything the reporting loop can do: all held slots are given back, or
those above the refused one. -/
theorem releaseSlots_cases (records : Records free log event) (index : Nat) (state : σ)
    (slots : List (α × Bool)) :
    (∃ after left, releaseSlots free index state slots = (.ok (), after, left) ∧
      heldSlots index left = [] ∧
      answers free state ((heldSlots index slots).map Prod.snd).reverse =
        List.replicate (heldSlots index slots).length true ∧
      after = dropAll free state ((heldSlots index slots).map Prod.snd).reverse ∧
      log after = log state ++
        (acceptances ((heldSlots index slots).map Prod.snd).reverse).map event) ∨
    ∃ source after left older position resource released more,
      releaseSlots free index state slots = (.error (position, source), after, left) ∧
      heldSlots index slots = older ++ (position, resource) :: released ∧
      heldSlots index left = older ++ [(position, resource)] ∧
      answers free state ((heldSlots index slots).map Prod.snd).reverse =
        List.replicate released.length true ++ false :: more ∧
      log after = log state ++ (acceptances (released.map Prod.snd).reverse ++
        [Attempt.mk resource false]).map event := by
  induction slots generalizing index with
  | nil => exact .inl ⟨state, [], rfl, rfl, rfl, rfl, by simp [heldSlots]⟩
  | cons slot rest ih =>
      obtain ⟨resource, owned⟩ := slot
      rw [heldSlots_cons, List.map_append, List.reverse_append, answers_append]
      rcases ih (index + 1) with ⟨after, left, ran, none, accepted, reached, made⟩ |
        ⟨source, after, left, older, position, refused, released, more, ran, split, rest, accepted,
          made⟩
      · rw [accepted, ← reached]
        cases owned with
        | false =>
            refine .inl ⟨after, (resource, false) :: left, ?_, none, by simp [answers], ?_, ?_⟩
            · simp only [releaseSlots, ran, Bool.false_eq_true, if_false]
            · simpa using reached
            · simpa using made
        | true =>
            have recorded := records after resource
            cases freed : free after resource with
            | mk result final =>
                rw [freed] at recorded
                cases result with
                | ok done =>
                    refine .inl ⟨final, (resource, false) :: left, ?_, none, ?_, ?_, ?_⟩
                    · simp only [releaseSlots, ran, if_true, freed]
                    · simp [answers, freed, Except.isOk, Except.toBool, ← List.replicate_succ',
                        Nat.add_comm]
                    · rw [dropAll_append, ← reached]
                      simp [dropAll, freed]
                    · rw [recorded, made]
                      simp [acceptances, Except.isOk, Except.toBool]
                | error source =>
                    refine .inr ⟨source, final, (resource, true) :: left, [], index, resource,
                      heldSlots (index + 1) rest, [], ?_, by simp, ?_, ?_, ?_⟩
                    · simp only [releaseSlots, ran, if_true, freed]
                    · simp [heldSlots_cons, none]
                    · simp [answers, freed, Except.isOk, Except.toBool]
                    · rw [recorded, made]
                      simp [Except.isOk, Except.toBool]
      · rw [accepted, List.append_assoc, List.cons_append]
        refine .inr ⟨source, after, (resource, owned) :: left,
          (if owned then [(index, resource)] else []) ++ older, position, refused, released, _,
          ?_, ?_, ?_, rfl, made⟩
        · simp only [releaseSlots, ran]
        · rw [split, List.append_assoc]
        · rw [heldSlots_cons, rest, List.append_assoc]

/-- The resources still held, lowest index first. -/
def heldResources (slots : List (α × Bool)) : List α := (heldSlots 0 slots).map Prod.snd

theorem heldResources_flagged (owned free : List α) :
    heldResources (owned.map (·, true) ++ free.map (·, false)) = owned := by
  have none (index : Nat) : heldSlots index (free.map (·, false)) = [] := by
    induction free generalizing index with
    | nil => rfl
    | cons resource rest ih => exact ih (index + 1)
  have flagged (index : Nat) :
      (heldSlots index (owned.map (·, true) ++ free.map (·, false))).map Prod.snd = owned := by
    induction owned generalizing index with
    | nil => simp [none]
    | cons resource rest ih => simp [heldSlots, ih (index + 1)]
  exact flagged 0

/-- Without a flagged slot nothing is called and nothing changes. -/
theorem releaseSlots_none {index : Nat} {slots : List (α × Bool)}
    (none : heldSlots index slots = []) (state : σ) :
    releaseSlots free index state slots = (.ok (), state, slots) := by
  induction slots generalizing index with
  | nil => rfl
  | cons slot rest ih =>
      obtain ⟨resource, owned⟩ := slot
      cases owned with
      | true => simp [heldSlots] at none
      | false => simp [releaseSlots, ih none]

theorem releaseSlots_releases (records : Records free log event) (state : σ)
    (slots : List (α × Bool)) :
    ∃ made, log (releaseSlots free 0 state slots).2.1 = log state ++ made.map event ∧
      Releases false (heldResources slots).reverse made
        (heldResources (releaseSlots free 0 state slots).2.2).reverse := by
  rcases releaseSlots_cases records 0 state slots with ⟨after, left, ran, none, _, _, made⟩ |
    ⟨source, after, left, older, position, resource, released, _, ran, split, rest, _, made⟩
  · rw [ran]
    refine ⟨_, made, ?_⟩
    simpa [heldResources, none] using Releases.accepted (heldResources slots).reverse []
  · rw [ran]
    refine ⟨_, made, ?_⟩
    have freed : Releases false ((released.map Prod.snd).reverse ++ resource ::
        (older.map Prod.snd).reverse) _ (resource :: (older.map Prod.snd).reverse) :=
      (Releases.accepted (released.map Prod.snd).reverse _).trans (.refused resource _)
    simpa [heldResources, split, rest] using freed

/-- A release under such answers empties the slots, or asks once, in vain. -/
theorem releaseSlots_allOrNothing (records : Records free log event) (state : σ)
    (slots : List (α × Bool))
    (clean : AllOrNothing (answers free state (heldResources slots).reverse)) :
    heldSlots 0 (releaseSlots free 0 state slots).2.2 = [] ∨
    ∃ resource, heldSlots 0 (releaseSlots free 0 state slots).2.2 = heldSlots 0 slots ∧
      log (releaseSlots free 0 state slots).2.1 = log state ++ [event ⟨resource, false⟩] := by
  rcases releaseSlots_cases records 0 state slots with ⟨after, left, ran, none, _⟩ |
    ⟨source, after, left, older, position, resource, released, more, ran, split, rest, accepted,
      made⟩
  · left
    rw [ran]
    exact none
  · right
    rw [heldResources, accepted] at clean
    obtain rfl := List.length_eq_zero_iff.mp clean.nothing
    rw [ran]
    exact ⟨resource, rest.trans split.symm, by simpa using made⟩

/-- The loop changes flags, never what stands in a slot. -/
theorem releaseSlots_fst (free : σ → α → Except ε Unit × σ) (index : Nat) (state : σ)
    (slots : List (α × Bool)) :
    (releaseSlots free index state slots).2.2.map Prod.fst = slots.map Prod.fst := by
  induction slots generalizing index with
  | nil => rfl
  | cons slot rest ih =>
      obtain ⟨resource, owned⟩ := slot
      have same := ih (index + 1)
      cases ran : releaseSlots free (index + 1) state rest with
      | mk result left =>
          rw [ran] at same
          cases result with
          | error refusal => simpa [releaseSlots, ran] using same
          | ok done =>
              cases owned with
              | false => simpa [releaseSlots, ran] using same
              | true =>
                  cases freed : free left.1 resource with
                  | mk result final =>
                      cases result with
                      | error source => simpa [releaseSlots, ran, freed] using same
                      | ok done => simpa [releaseSlots, ran, freed] using same

theorem dropSlots_eq (index : Nat) (state : σ) (slots : List (α × Bool)) :
    dropSlots free state slots =
      dropAll free state ((heldSlots index slots).map Prod.snd).reverse := by
  induction slots generalizing index with
  | nil => rfl
  | cons slot rest ih =>
      obtain ⟨resource, owned⟩ := slot
      cases owned with
      | true => simp [dropSlots, heldSlots, ih (index + 1), dropAll]
      | false => simp [dropSlots, heldSlots, ih (index + 1)]

theorem dropSlots_releases (records : Records free log event) (state : σ)
    (slots : List (α × Bool)) :
    ∃ made, log (dropSlots free state slots) = log state ++ made.map event ∧
      Releases true (heldResources slots).reverse made [] := by
  rw [dropSlots_eq 0]
  obtain ⟨made, extended, _, releases⟩ :=
    dropAll_releases records state (heldResources slots).reverse
  exact ⟨made, extended, releases⟩

end

end UnnamedOS.Data
