import UnnamedOS.Layout.MappingPlan

namespace UnnamedOS.Layout

open UnnamedOS.Data

/-- What the two public insertions have checked of an entry on its own. -/
def PlanEntry.Accepted : PlanEntry → Prop
  | .mapping range physical permissions cache kind =>
      range.length = physical.length ∧
        validateMappingPolicy range physical permissions cache kind = .ok ()
  | .guard range => (regionRange .kernelLocal).containsRange range

/-- Two mappings that share a physical page agree on writability, and neither
lets the other write what it executes. -/
def PlanEntry.AliasCompatible : PlanEntry → PlanEntry → Prop
  | .mapping _ left leftPermissions _ _, .mapping _ right rightPermissions _ _ =>
      left.overlaps right →
        ¬ (leftPermissions.writable = true ∧ rightPermissions.executable = true) ∧
        ¬ (rightPermissions.writable = true ∧ leftPermissions.executable = true) ∧
        leftPermissions.writable = rightPermissions.writable
  | _, _ => True

theorem PlanEntry.AliasCompatible.symm {left right : PlanEntry}
    (compatible : left.AliasCompatible right) : right.AliasCompatible left := by
  cases left with
  | guard range => cases right <;> trivial
  | mapping range physical permissions cache kind =>
      cases right with
      | guard range => trivial
      | mapping otherRange otherPhysical otherPermissions otherCache otherKind =>
          intro shared
          obtain ⟨forward, backward, same⟩ := compatible ⟨shared.2, shared.1⟩
          exact ⟨backward, forward, same.symm⟩

namespace MappingPlan

variable {capacity : Nat}

def stopOf (entry : PlanEntry) : Nat := entry.virtualRange.stop

theorem startOf_lt_stopOf (entry : PlanEntry) : startOf entry < stopOf entry :=
  entry.virtualRange.bounds.nonempty

theorem checkExisting_eq_ok {entry existing : PlanEntry} :
    checkExisting entry existing = .ok () ↔
      ¬ existing.virtualRange.overlaps entry.virtualRange ∧ existing.AliasCompatible entry := by
  unfold checkExisting
  rw [guard_eq_ok]
  refine and_congr_right fun _ => ?_
  cases existing with
  | guard range => cases entry <;> simp [PlanEntry.AliasCompatible]
  | mapping range left leftPermissions cache kind =>
      cases entry with
      | guard range => simp [PlanEntry.AliasCompatible]
      | mapping otherRange right rightPermissions otherCache otherKind =>
          by_cases shared : left.overlaps right
          · simp only [shared, if_true, guard_eq_ok, PlanEntry.AliasCompatible, true_imp_iff,
              Bool.or_eq_true, Bool.and_eq_true, not_or, ne_eq, not_not, and_true, and_assoc]
          · simp [shared, PlanEntry.AliasCompatible]

/-- The invariant of every plan the public interface can build. -/
structure Invariant (plan : MappingPlan capacity) : Prop where
  accepted : ∀ entry ∈ plan.entries, entry.Accepted
  ordered : Ordered startOf stopOf plan.entries
  compatible : plan.entries.Pairwise PlanEntry.AliasCompatible
  bounded : plan.entries.length ≤ capacity

theorem new_invariant : (new capacity).Invariant where
  accepted := by simp [new]
  ordered := List.Pairwise.nil
  compatible := List.Pairwise.nil
  bounded := Nat.zero_le _

/-- Everything `insert` can do: refuse and leave the plan, or add the entry in
its place after the checks against every existing one. -/
theorem insert_cases (plan : MappingPlan capacity) (entry : PlanEntry) :
    (∃ reason, plan.insert entry = (.error reason, plan)) ∨
    (plan.insert entry = (.ok (), ⟨insertOrdered startOf plan.entries entry⟩) ∧
      plan.entries.length ≠ capacity ∧
      ∀ existing ∈ plan.entries, ¬ existing.virtualRange.overlaps entry.virtualRange ∧
        existing.AliasCompatible entry) := by
  cases checked : checkAll (checkExisting entry) plan.entries with
  | error reason =>
      left
      exact ⟨reason, by simp only [insert, checked]⟩
  | ok _ =>
      by_cases full : plan.entries.length = capacity
      · left
        exact ⟨.planExhausted, by simp only [insert, checked, if_pos full]⟩
      · right
        refine ⟨by simp only [insert, checked, if_neg full], full, ?_⟩
        intro existing member
        exact checkExisting_eq_ok.mp (checkAll_eq_ok.mp checked existing member)

/-- An entry that passes all checks is inserted. -/
theorem insert_succeeds {plan : MappingPlan capacity} {entry : PlanEntry}
    (room : plan.entries.length ≠ capacity)
    (checks : ∀ existing ∈ plan.entries,
      ¬ existing.virtualRange.overlaps entry.virtualRange ∧ existing.AliasCompatible entry) :
    plan.insert entry = (.ok (), ⟨insertOrdered startOf plan.entries entry⟩) := by
  have checked : checkAll (checkExisting entry) plan.entries = .ok () :=
    checkAll_eq_ok.mpr fun existing member => checkExisting_eq_ok.mpr (checks existing member)
  simp only [insert, checked, if_neg room]

theorem insert_preserves_invariant {plan : MappingPlan capacity} {entry : PlanEntry}
    (invariant : plan.Invariant) (accepted : entry.Accepted) :
    (plan.insert entry).2.Invariant := by
  rcases insert_cases plan entry with ⟨reason, refused⟩ | ⟨added, room, checks⟩
  · rw [refused]
    exact invariant
  · rw [added]
    exact {
      accepted := by
        intro candidate member
        rcases mem_insertOrdered.mp member with rfl | member
        · exact accepted
        · exact invariant.accepted candidate member
      ordered := invariant.ordered.insert (startOf_lt_stopOf entry)
        (fun existing _ => startOf_lt_stopOf existing)
        (fun existing member => (checks existing member).1)
      compatible := pairwise_insertOrdered (fun _ _ compatible => compatible.symm)
        invariant.compatible (fun existing member => (checks existing member).2)
      bounded := by
        have before := invariant.bounded
        rw [length_insertOrdered]
        omega }

/-- A call is refused before it reaches the entries, or inserts the entry it
asks for after the checks of that entry on its own. -/
theorem apply_cases (plan : MappingPlan capacity) (call : Call) :
    (∃ reason, plan.apply call = (.error reason, plan)) ∨
      (call.entry.Accepted ∧ plan.apply call = plan.insert call.entry) := by
  cases call with
  | insertMapping range physical permissions cache kind =>
      by_cases lengths : range.length = physical.length
      · cases policy : validateMappingPolicy range physical permissions cache kind with
        | error reason =>
            left
            exact ⟨reason, by simp [apply, insertMapping, lengths, policy]⟩
        | ok _ =>
            right
            exact ⟨⟨lengths, policy⟩, by simp [apply, Call.entry, insertMapping, lengths, policy]⟩
      · left
        exact ⟨.rangeLengthMismatch, by simp [apply, insertMapping, lengths]⟩
  | insertGuard range =>
      by_cases inside : (regionRange .kernelLocal).containsRange range
      · right
        exact ⟨inside, by simp [apply, Call.entry, insertGuard, inside]⟩
      · left
        exact ⟨.outsideDeclaredRegion, by simp [apply, insertGuard, inside]⟩

theorem apply_eq_ok {plan next : MappingPlan capacity} {call : Call}
    (granted : plan.apply call = (.ok (), next)) :
    next = ⟨insertOrdered startOf plan.entries call.entry⟩ := by
  rcases apply_cases plan call with ⟨reason, refused⟩ | ⟨_, inserted⟩
  · rw [refused] at granted
    cases granted
  · rcases insert_cases plan call.entry with ⟨reason, refused⟩ | ⟨added, _⟩
    · rw [inserted, refused] at granted
      cases granted
    · rw [inserted, added] at granted
      cases granted
      rfl

/-- A call is granted when its entry passes its own checks and those against
the plan. -/
theorem apply_succeeds {plan : MappingPlan capacity} {call : Call}
    (accepted : call.entry.Accepted) (room : plan.entries.length ≠ capacity)
    (checks : ∀ existing ∈ plan.entries,
      ¬ existing.virtualRange.overlaps call.entry.virtualRange ∧
        existing.AliasCompatible call.entry) :
    plan.apply call = (.ok (), ⟨insertOrdered startOf plan.entries call.entry⟩) := by
  rw [← insert_succeeds room checks]
  cases call with
  | insertMapping range physical permissions cache kind =>
      obtain ⟨lengths, policy⟩ := accepted
      simp [apply, Call.entry, insertMapping, lengths, policy]
  | insertGuard range => exact if_neg (not_not.mpr accepted)

theorem apply_preserves_invariant {plan : MappingPlan capacity} (invariant : plan.Invariant)
    (call : Call) : (plan.apply call).2.Invariant := by
  rcases apply_cases plan call with ⟨reason, refused⟩ | ⟨accepted, inserted⟩
  · rw [refused]
    exact invariant
  · rw [inserted]
    exact insert_preserves_invariant invariant accepted

theorem run_preserves_invariant {plan : MappingPlan capacity} (invariant : plan.Invariant)
    (calls : List Call) : (plan.run calls).Invariant := by
  induction calls generalizing plan with
  | nil => exact invariant
  | cons call calls ih => exact ih (apply_preserves_invariant invariant call)

/-- Every reachable plan satisfies the invariant. -/
theorem reachable_invariant (calls : List Call) : ((new capacity).run calls).Invariant :=
  run_preserves_invariant new_invariant calls

/-- An entry meets none of those before it. -/
theorem Invariant.apart {plan : MappingPlan capacity} (invariant : plan.Invariant)
    {before rest : List PlanEntry} {entry : PlanEntry}
    (split : plan.entries = before ++ entry :: rest) :
    ∀ existing ∈ before, ¬ existing.virtualRange.overlaps entry.virtualRange := by
  intro existing member
  have ordered := invariant.ordered
  rw [split] at ordered
  have separate := (List.pairwise_append.mp ordered).2.2 existing member entry (by simp)
  simp only [VirtualRange.overlaps, stopOf, startOf] at separate ⊢
  omega

/-! ## Translation -/

section

variable {plan : MappingPlan capacity} {address : VirtualAddress}

/-- At most one entry contains an address. -/
theorem Invariant.unique (invariant : plan.Invariant) {entry other : PlanEntry}
    (member : entry ∈ plan.entries) (inside : entry.virtualRange.contains address)
    (otherMember : other ∈ plan.entries) (otherInside : other.virtualRange.contains address) :
    other = entry :=
  invariant.ordered.unique otherMember otherInside member inside

theorem find?_contains (invariant : plan.Invariant) {entry : PlanEntry}
    (member : entry ∈ plan.entries) (inside : entry.virtualRange.contains address) :
    plan.entries.find? (fun entry => entry.virtualRange.contains address) = some entry :=
  invariant.ordered.find?_eq_some member inside

/-- Inside a mapping `translate` keeps the offset from the range's start. -/
theorem translate_mapping (invariant : plan.Invariant) {range : VirtualRange}
    {physical : PhysicalRange} {permissions : MappingPermissions} {cache : CachePolicy}
    {kind : MappingKind}
    (member : .mapping range physical permissions cache kind ∈ plan.entries)
    (inside : range.contains address) :
    ∃ translated, plan.translate address = .ok translated ∧
      translated.value = physical.start.value + (address.value - range.start.value) := by
  obtain ⟨lengths, _⟩ := invariant.accepted _ member
  obtain ⟨lower, upper⟩ := inside
  have supported := physical.bounds.supported
  have nonempty := physical.bounds.nonempty
  have bound : physical.start.value + (address.value - range.start.value) <
      supportedPhysicalEnd := by
    simp only [VirtualRange.length, PhysicalRange.length] at lengths
    omega
  refine ⟨⟨_, bound⟩, ?_, rfl⟩
  have offset : checkedSub address.value range.start.value =
      some (address.value - range.start.value) := checkedSub_eq_some.mpr ⟨lower, rfl⟩
  have sum : checkedAdd physical.start.value (address.value - range.start.value) =
      some (physical.start.value + (address.value - range.start.value)) := by
    refine checkedAdd_eq_some.mpr ⟨?_, rfl⟩
    simp only [supportedPhysicalEnd, wordLimit] at bound ⊢
    omega
  rw [translate, find?_contains invariant member ⟨lower, upper⟩]
  simp only [okOr_some, ok_bind, PlanEntry.backing, PlanEntry.virtualRange, offset, sum]
  exact PhysicalAddress.new_eq_ok.mpr rfl

theorem translate_unmapped
    (absent : ∀ entry ∈ plan.entries, entry.virtualRange.contains address →
      entry.backing = .unmapped) : plan.translate address = .error .unmapped := by
  cases found : plan.entries.find? (fun entry => entry.virtualRange.contains address) with
  | none => simp [translate, found]
  | some entry =>
      have inside := List.find?_some found
      have backing := absent entry (List.mem_of_find?_eq_some found) (by simpa using inside)
      simp [translate, found, backing]

end

end MappingPlan

end UnnamedOS.Layout
