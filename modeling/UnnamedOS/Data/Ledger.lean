import Mathlib.Data.List.Induction
import Mathlib.Data.List.Perm.Basic
import UnnamedOS.Data.Fallible
import UnnamedOS.Data.Slots

namespace UnnamedOS.Data

/-! # Loans

A borrower takes resources from a lender and gives them back.  The ledger is
kept from the deals alone.  The lender may refuse to take something back; where
it lends out what is lent already, the accounts end, and nobody can be blamed
for what follows.  The borrower is at fault when it gives back what it does not
have.

`Owes` and `Leaves` are what a proof about a borrower carries along: the
resources it has to answer for, and in `Leaves` also some that were refused. -/

inductive Deal (α : Type) where
  | took (resource : α)
  | gave (resource : α) (accepted : Bool)
deriving DecidableEq, Repr

inductive Fault where
  | lender
  | borrower
deriving DecidableEq, Repr

structure Account (α : Type) where
  live : List α
  refused : List α
deriving DecidableEq, Repr

/-! ## What the borrower answers for -/

section

variable {α : Type} {books : Except Fault (Account α)} {held same : List α}

def Owes (books : Except Fault (Account α)) (held : List α) : Prop :=
  books = .error .lender ∨ ∃ account, books = .ok account ∧ account.live.Perm held

def Leaves (books : Except Fault (Account α)) (held : List α) : Prop :=
  books = .error .lender ∨ ∃ account lost, books = .ok account ∧
    account.live.Perm (held ++ lost) ∧ ∀ resource ∈ lost, resource ∈ account.refused

theorem Owes.perm (owes : Owes books held) (reordered : held.Perm same) : Owes books same := by
  rcases owes with fault | ⟨account, kept, live⟩
  · exact .inl fault
  · exact .inr ⟨account, kept, live.trans reordered⟩

theorem Leaves.perm (leaves : Leaves books held) (reordered : held.Perm same) :
    Leaves books same := by
  rcases leaves with fault | ⟨account, lost, kept, live, refused⟩
  · exact .inl fault
  · exact .inr ⟨account, lost, kept, live.trans (reordered.append_right lost), refused⟩

theorem Owes.leaves (owes : Owes books held) : Leaves books held := by
  rcases owes with fault | ⟨account, kept, live⟩
  · exact .inl fault
  · exact .inr ⟨account, [], kept, by simpa using live, by simp⟩

theorem Leaves.faultless (leaves : Leaves books held) : books ≠ .error .borrower := by
  rcases leaves with fault | ⟨account, lost, kept, _⟩
  · simp [fault]
  · simp [kept]

end

/-! ## The ledger -/

section

variable {α : Type} [DecidableEq α] (clash : α → α → Bool)

def Account.settle (account : Account α) : Deal α → Except Fault (Account α)
  | .took resource =>
      if account.live.any (clash resource) then .error .lender
      else .ok { account with live := resource :: account.live }
  | .gave resource accepted =>
      if resource ∈ account.live then
        .ok (if accepted then { account with live := account.live.erase resource }
          else { account with refused := resource :: account.refused })
      else .error .borrower

def ledger (deals : List (Deal α)) : Except Fault (Account α) :=
  deals.foldlM (Account.settle clash) ⟨[], []⟩

variable {clash} {deals : List (Deal α)} {deal : Deal α} {resource : α} {account : Account α}
  {books : Except Fault (Account α)} {held rest : List α} {accepted : Bool}

theorem ledger_concat :
    ledger clash (deals ++ [deal]) =
      ledger clash deals >>= fun account => account.settle clash deal := by
  simp only [ledger, List.foldlM_append, List.foldlM_cons, List.foldlM_nil, bind_pure]

/-- Only what was taken is live. -/
theorem took_of_live (kept : ledger clash deals = .ok account) (live : resource ∈ account.live) :
    .took resource ∈ deals := by
  induction deals using List.reverseRecOn generalizing account with
  | nil =>
      cases kept
      contradiction
  | append_singleton deals deal ih =>
      rw [ledger_concat, bind_eq_ok] at kept
      obtain ⟨before, earlier, kept⟩ := kept
      cases deal with
      | took other =>
          obtain ⟨_, kept⟩ := guard_eq_ok.mp kept
          cases kept
          rcases List.mem_cons.mp live with rfl | live
          · simp
          · exact List.mem_append_left _ (ih earlier live)
      | gave other accepted =>
          simp only [Account.settle] at kept
          split at kept
          · cases kept
            refine List.mem_append_left _ (ih earlier ?_)
            cases accepted with
            | true => exact List.mem_of_mem_erase live
            | false => exact live
          · contradiction

theorem Owes.took (owes : Owes books held) :
    Owes (books >>= fun account => account.settle clash (.took resource)) (resource :: held) := by
  rcases owes with rfl | ⟨account, rfl, live⟩
  · exact .inl rfl
  · simp only [ok_bind, Account.settle]
    split
    · exact .inl rfl
    · exact .inr ⟨_, rfl, live.cons resource⟩

/-- The lender is at fault where it lends what clashes with a loan. -/
theorem Owes.clashes (owes : Owes books held) {other : α} (member : other ∈ held)
    (meet : clash resource other = true) :
    (books >>= fun account => account.settle clash (.took resource)) = .error .lender := by
  rcases owes with rfl | ⟨account, rfl, live⟩
  · rfl
  · simp only [ok_bind, Account.settle]
    exact if_pos (List.any_eq_true.mpr ⟨other, live.mem_iff.mpr member, meet⟩)

/-- A deal that is allowed, on what the account says is live. -/
theorem Account.settle_gave (clash : α → α → Bool) (live : account.live.Perm (resource :: rest)) :
    ∃ next, account.settle clash (.gave resource true) = .ok next ∧ next.live.Perm rest ∧
      next.refused = account.refused := by
  refine ⟨_, if_pos (live.mem_iff.mpr (by simp)), ?_, rfl⟩
  have erased := live.erase resource
  rwa [List.erase_cons_head] at erased

theorem Account.settle_refused (clash : α → α → Bool) (live : resource ∈ account.live) :
    account.settle clash (.gave resource false) =
      .ok { account with refused := resource :: account.refused } :=
  if_pos live

theorem Owes.gave (owes : Owes books (resource :: held)) :
    Owes (books >>= fun account => account.settle clash (.gave resource true)) held := by
  rcases owes with rfl | ⟨account, rfl, live⟩
  · exact .inl rfl
  · obtain ⟨next, settled, left, _⟩ := Account.settle_gave clash live
    exact .inr ⟨next, settled, left⟩

theorem Leaves.refused (leaves : Leaves books (resource :: held)) :
    Leaves (books >>= fun account => account.settle clash (.gave resource false))
      (resource :: held) := by
  rcases leaves with rfl | ⟨account, lost, rfl, live, refused⟩
  · exact .inl rfl
  · refine .inr ⟨_, lost, Account.settle_refused clash (live.mem_iff.mpr (by simp)), live, ?_⟩
    intro other member
    exact List.mem_cons_of_mem _ (refused other member)

/-- Given back or refused, it is off the borrower's hands. -/
theorem Leaves.gave (leaves : Leaves books (resource :: held)) :
    Leaves (books >>= fun account => account.settle clash (.gave resource accepted)) held := by
  rcases leaves with rfl | ⟨account, lost, rfl, live, refused⟩
  · exact .inl rfl
  · cases accepted with
    | true =>
        obtain ⟨next, settled, left, same⟩ := Account.settle_gave clash live
        exact .inr ⟨next, lost, settled, left, same ▸ refused⟩
    | false =>
        refine .inr ⟨_, resource :: lost, Account.settle_refused clash (live.mem_iff.mpr (by simp)),
          live.trans List.perm_middle.symm, ?_⟩
        intro other member
        rcases List.mem_cons.mp member with rfl | member
        · exact List.mem_cons_self
        · exact List.mem_cons_of_mem _ (refused other member)

end

/-! ## The loops that give back -/

theorem heldResources_eq {α : Type} (slots : List (α × Bool)) :
    heldResources slots = (slots.filter Prod.snd).map Prod.fst := by
  have indexed (index : Nat) :
      (heldSlots index slots).map Prod.snd = (slots.filter Prod.snd).map Prod.fst := by
    induction slots generalizing index with
    | nil => rfl
    | cons slot slots ih =>
        obtain ⟨resource, owned⟩ := slot
        cases owned <;> simp [heldSlots, ih (index + 1)]
  exact indexed 0

/-- A release that went through has left no flag set. -/
theorem heldResources_released {σ ε α : Type} {free : σ → α → Except ε Unit × σ} {index : Nat}
    {state after : σ} {slots left : List (α × Bool)} {done : Unit}
    (ran : releaseSlots free index state slots = (.ok done, after, left)) :
    heldResources left = [] := by
  rw [heldResources_eq]
  induction slots generalizing index after left with
  | nil =>
      cases ran
      rfl
  | cons slot slots ih =>
      obtain ⟨resource, owned⟩ := slot
      simp only [releaseSlots] at ran
      split at ran
      · cases ran
      · rename_i later
        have above := ih later
        split at ran
        · split at ran
          · cases ran
          · cases ran
            simpa using above
        · cases ran
          simpa using above

/-- An operation that gives one resource back, in terms of what is left to
answer for: one less in any case, and no less where it is refused. -/
structure Gives {σ ε α : Type} (free : σ → α → Except ε Unit × σ)
    (left : List α → σ → Prop) : Prop where
  perm : ∀ {state held same}, left held state → held.Perm same → left same state
  gone : ∀ {state resource rest}, left (resource :: rest) state →
    left rest (free state resource).2
  kept : ∀ {state resource rest}, left (resource :: rest) state →
    (free state resource).1.isOk = false → left (resource :: rest) (free state resource).2

namespace Gives

variable {σ ε α : Type} {free : σ → α → Except ε Unit × σ} {left : List α → σ → Prop}
  {state : σ} {held rest : List α}

theorem dropAll (gives : Gives free left) (start : left (held ++ rest) state) :
    left rest (dropAll free state held) := by
  induction held generalizing state with
  | nil => exact start
  | cons resource older ih => exact ih (gives.gone start)

theorem releaseAll (gives : Gives free left) (start : left (held ++ rest) state) :
    left ((releaseAll free state held).2.2 ++ rest) (releaseAll free state held).2.1 := by
  induction held generalizing state with
  | nil => exact start
  | cons resource older ih =>
      have gone := gives.gone start
      have kept := gives.kept start
      cases freed : free state resource with
      | mk result after =>
          rw [freed] at gone kept
          cases result with
          | error source =>
              simp only [Data.releaseAll, freed]
              exact kept rfl
          | ok done =>
              simp only [Data.releaseAll, freed]
              exact ih gone

theorem dropSlots (gives : Gives free left) {slots : List (α × Bool)}
    (start : left (heldResources slots ++ rest) state) :
    left rest (dropSlots free state slots) := by
  rw [dropSlots_eq 0]
  exact gives.dropAll (gives.perm start ((List.reverse_perm _).symm.append_right rest))

theorem releaseSlots (gives : Gives free left) {slots : List (α × Bool)} (index : Nat)
    (start : left (heldResources slots ++ rest) state) :
    left (heldResources (releaseSlots free index state slots).2.2 ++ rest)
      (releaseSlots free index state slots).2.1 := by
  simp only [heldResources_eq] at start ⊢
  induction slots generalizing index rest with
  | nil => exact start
  | cons slot slots ih =>
      obtain ⟨resource, owned⟩ := slot
      cases owned with
      | false =>
          have later := ih (index + 1) start
          cases ran : Data.releaseSlots free (index + 1) state slots with
          | mk result after =>
              rw [ran] at later
              cases result with
              | error refusal => simpa [Data.releaseSlots, ran] using later
              | ok done => simpa [Data.releaseSlots, ran] using later
      | true =>
          -- The slots above come first, with this one among the rest.
          have later := ih (index + 1) (gives.perm start List.perm_middle.symm)
          cases ran : Data.releaseSlots free (index + 1) state slots with
          | mk result after =>
              rw [ran] at later
              have held := gives.perm later List.perm_middle
              cases result with
              | error refusal => simpa [Data.releaseSlots, ran] using held
              | ok done =>
                  have gone := gives.gone held
                  have kept := gives.kept held
                  cases freed : free after.1 resource with
                  | mk result final =>
                      rw [freed] at gone kept
                      cases result with
                      | error source => simpa [Data.releaseSlots, ran, freed] using kept rfl
                      | ok done => simpa [Data.releaseSlots, ran, freed] using gone

end Gives

end UnnamedOS.Data
