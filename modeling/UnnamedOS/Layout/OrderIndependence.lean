import Mathlib.Data.List.Perm.Basic
import UnnamedOS.Layout.History

namespace UnnamedOS.Layout

open UnnamedOS.Data

/-! # The order of the requests

Whether a collection of requests fits into one plan is a property of the
collection: the checks between two entries are symmetric.  The plan it leaves
is the one sorted arrangement of the entries. -/

/-- The checks `insert` makes between two entries, in either order. -/
def PlanEntry.Coexist (left right : PlanEntry) : Prop :=
  ¬ left.virtualRange.overlaps right.virtualRange ∧ left.AliasCompatible right

theorem PlanEntry.Coexist.symm {left right : PlanEntry} (coexist : left.Coexist right) :
    right.Coexist left :=
  ⟨fun shared => coexist.1 ⟨shared.2, shared.1⟩, coexist.2.symm⟩

/-- Entries that fit into one plan together. -/
structure Joint (capacity : Nat) (entries : List PlanEntry) : Prop where
  accepted : ∀ entry ∈ entries, entry.Accepted
  bounded : entries.length ≤ capacity
  coexist : entries.Pairwise PlanEntry.Coexist

namespace Joint

variable {capacity : Nat} {entries rest : List PlanEntry} {entry : PlanEntry}

theorem perm (joint : Joint capacity entries) (same : entries.Perm rest) : Joint capacity rest where
  accepted := fun entry member => joint.accepted entry (same.mem_iff.mpr member)
  bounded := Nat.le_trans (Nat.le_of_eq same.length_eq.symm) joint.bounded
  coexist := joint.coexist.perm same PlanEntry.Coexist.symm

theorem perm_iff (same : entries.Perm rest) : Joint capacity entries ↔ Joint capacity rest :=
  ⟨fun joint => joint.perm same, fun joint => joint.perm same.symm⟩

theorem of_append (joint : Joint capacity (entries ++ rest)) : Joint capacity entries where
  accepted := fun entry member => joint.accepted entry (List.mem_append_left rest member)
  bounded := by
    have bounded := joint.bounded
    rw [List.length_append] at bounded
    omega
  coexist := (List.pairwise_append.mp joint.coexist).1

theorem cons_iff : Joint capacity (entry :: entries) ↔
    Joint capacity entries ∧ entry.Accepted ∧ entries.length < capacity ∧
      ∀ existing ∈ entries, existing.Coexist entry := by
  constructor
  · intro joint
    obtain ⟨separate, coexist⟩ := List.pairwise_cons.mp joint.coexist
    have bounded := joint.bounded
    rw [List.length_cons] at bounded
    exact ⟨⟨fun other member => joint.accepted other (List.mem_cons_of_mem entry member),
      Nat.le_of_succ_le bounded, coexist⟩, joint.accepted entry List.mem_cons_self, bounded,
      fun existing member => (separate existing member).symm⟩
  · intro joined
    obtain ⟨joint, accepted, room, separate⟩ := joined
    exact {
      accepted := by
        intro other member
        cases List.mem_cons.mp member with
        | inl same => exact same ▸ accepted
        | inr member => exact joint.accepted other member
      bounded := room
      coexist := List.pairwise_cons.mpr
        ⟨fun existing member => (separate existing member).symm, joint.coexist⟩ }

end Joint

namespace MappingPlan

variable {capacity : Nat}

/-- What the calls of a run returned, in order. -/
def results (plan : MappingPlan capacity) : List Call → List (Except LayoutError Unit)
  | [] => []
  | call :: calls => (plan.apply call).1 :: (plan.apply call).2.results calls

/-- Every call of the run returned `Ok`. -/
def AllSucceed (plan : MappingPlan capacity) (calls : List Call) : Prop :=
  ∀ result ∈ plan.results calls, result = .ok ()

instance (plan : MappingPlan capacity) (calls : List Call) : Decidable (plan.AllSucceed calls) :=
  inferInstanceAs (Decidable (∀ result ∈ plan.results calls, result = .ok ()))

theorem allSucceed_cons {plan : MappingPlan capacity} {call : Call} {calls : List Call} :
    plan.AllSucceed (call :: calls) ↔
      (plan.apply call).1 = .ok () ∧ (plan.apply call).2.AllSucceed calls := by
  simp only [AllSucceed, results, List.forall_mem_cons]

/-- A granted call adds its entry, wherever it lands. -/
theorem apply_perm {plan : MappingPlan capacity} {call : Call}
    (granted : (plan.apply call).1 = .ok ()) :
    (plan.apply call).2.entries.Perm (call.entry :: plan.entries) := by
  have added : plan.apply call = (.ok (), (plan.apply call).2) := Prod.ext granted rfl
  rw [apply_eq_ok added]
  exact List.perm_insertIdx _ _ ( List.takeWhile_prefix _).length_le

theorem apply_granted_iff {plan : MappingPlan capacity} {call : Call}
    (joint : Joint capacity plan.entries) :
    (plan.apply call).1 = .ok () ↔ Joint capacity (call.entry :: plan.entries) := by
  rw [Joint.cons_iff, and_iff_right joint]
  constructor
  · intro granted
    rcases apply_cases plan call with ⟨reason, refused⟩ | ⟨accepted, inserted⟩
    · rw [refused] at granted
      contradiction
    · rcases insert_cases plan call.entry with ⟨reason, refused⟩ | ⟨_, room, checks⟩
      · rw [inserted, refused] at granted
        contradiction
      · exact ⟨accepted, Nat.lt_of_le_of_ne joint.bounded room, checks⟩
  · intro joined
    obtain ⟨accepted, room, checks⟩ := joined
    rw [apply_succeeds accepted (Nat.ne_of_lt room) checks]

/-- The requests that still come succeed exactly when they fit together with
the entries that are there. -/
theorem allSucceed_iff {plan : MappingPlan capacity} {calls : List Call}
    (joint : Joint capacity plan.entries) :
    plan.AllSucceed calls ↔ Joint capacity (plan.entries ++ calls.map Call.entry) := by
  induction calls generalizing plan with
  | nil => simpa [AllSucceed, results] using joint
  | cons call calls ih =>
      have moved : (plan.entries ++ call.entry :: calls.map Call.entry).Perm
          ((call.entry :: plan.entries) ++ calls.map Call.entry) := List.perm_middle
      rw [allSucceed_cons, List.map_cons, Joint.perm_iff moved]
      constructor
      · intro succeed
        obtain ⟨granted, rest⟩ := succeed
        have added := apply_perm granted
        have next := ((apply_granted_iff joint).mp granted).perm added.symm
        exact ((ih next).mp rest).perm (added.append_right _)
      · intro together
        have granted := (apply_granted_iff joint).mpr together.of_append
        have added := apply_perm granted
        exact ⟨granted, (ih (together.of_append.perm added.symm)).mpr
          (together.perm (added.append_right _).symm)⟩

theorem run_perm {plan : MappingPlan capacity} {calls : List Call}
    (succeed : plan.AllSucceed calls) :
    (plan.run calls).entries.Perm (plan.entries ++ calls.map Call.entry) := by
  induction calls generalizing plan with
  | nil => simp [run]
  | cons call calls ih =>
      obtain ⟨granted, rest⟩ := allSucceed_cons.mp succeed
      exact (ih rest).trans (((apply_perm granted).append_right _).trans List.perm_middle.symm)

/-- An arrangement by address is determined by the entries it holds. -/
theorem Invariant.entries_eq_of_perm {left right : MappingPlan capacity} (first : left.Invariant)
    (second : right.Invariant) (same : left.entries.Perm right.entries) :
    left.entries = right.entries := by
  refine List.Perm.eq_of_pairwise ?_ first.ordered second.ordered same
  intro entry other _ _ before after
  have nonempty := startOf_lt_stopOf entry
  have otherNonempty := startOf_lt_stopOf other
  omega

/-- Requests that all succeed in one order succeed in every order, and leave
the same entries. -/
theorem run_order_independent {calls reordered : List Call} (same : calls.Perm reordered)
    (succeed : (new capacity).AllSucceed calls) :
    (new capacity).AllSucceed reordered ∧
      ((new capacity).run reordered).entries = ((new capacity).run calls).entries := by
  have empty : Joint capacity (new capacity).entries :=
    ⟨new_invariant.accepted, new_invariant.bounded, List.Pairwise.nil⟩
  have joint := (allSucceed_iff empty).mp succeed
  have entries : (calls.map Call.entry).Perm (reordered.map Call.entry) := same.map Call.entry
  have reorderedSucceed := (allSucceed_iff empty).mpr (joint.perm (entries.append_left _))
  have arranged := ((run_perm reorderedSucceed).trans (entries.append_left _).symm).trans
    (run_perm succeed).symm
  exact ⟨reorderedSucceed,
    (reachable_invariant reordered).entries_eq_of_perm (reachable_invariant calls) arranged⟩

theorem rodataAlias_order_independent :
    (new 2).AllSucceed rodataAlias ∧ (new 2).AllSucceed rodataAlias.reverse ∧
      ((new 2).run rodataAlias.reverse).entries = ((new 2).run rodataAlias).entries :=
  have succeed : (new 2).AllSucceed rodataAlias := by decide
  ⟨succeed, run_order_independent rodataAlias.reverse_perm.symm succeed⟩

end MappingPlan

end UnnamedOS.Layout
