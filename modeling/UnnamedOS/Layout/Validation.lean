import UnnamedOS.Layout.Contract

namespace UnnamedOS.Layout

open UnnamedOS.Data

/-! # What the two validations establish

A transition plan has one trampoline page and one stack in the low half, and
nothing else there.  A final plan has nothing in the low half and a guard below
every stack. -/

namespace PlanEntry

def IsLow (entry : PlanEntry) : Prop := entry.virtualRange.start.value < highCanonicalStart

/-- A low identity mapping with the given permissions and length. -/
def IsIdentity (expected : MappingPermissions) (length : Nat) : PlanEntry → Prop
  | .mapping range _ permissions _ kind => range.start.value < highCanonicalStart ∧
      kind = .transitionIdentity ∧ permissions = expected ∧ range.length = length
  | .guard _ => False

instance (expected : MappingPermissions) (length : Nat) :
    DecidablePred (IsIdentity expected length)
  | .mapping _ _ _ _ _ => inferInstanceAs (Decidable (_ ∧ _ ∧ _ ∧ _))
  | .guard _ => inferInstanceAs (Decidable False)

/-- The one page the transition executes from. -/
abbrev IsTrampoline : PlanEntry → Prop := IsIdentity .kernelRx pageSize

/-- The stack the transition runs on. -/
abbrev IsIdentityStack : PlanEntry → Prop := IsIdentity .kernelRw bootstrapStackBytes

end PlanEntry

namespace MappingPlan

variable {capacity : Nat} {plan : MappingPlan capacity}

/-- Everything one round of the count can do: pass over a high entry, or count
a low one as the trampoline or as the stack. -/
inductive Tallied (entry : PlanEntry) (tally next : TransitionTally) : Prop where
  | high (upper : ¬ entry.IsLow) (same : next = tally)
  | trampoline (shape : entry.IsTrampoline)
      (counted : next.trampolineCount = tally.trampolineCount + 1)
      (kept : next.stackCount = tally.stackCount)
  | stack (shape : entry.IsIdentityStack) (counted : next.stackCount = tally.stackCount + 1)
      (kept : next.trampolineCount = tally.trampolineCount)

theorem tallyTransition_eq_ok {entry : PlanEntry} {tally next : TransitionTally}
    (counted : tallyTransition tally entry = .ok next) : Tallied entry tally next := by
  unfold tallyTransition at counted
  split at counted
  · rename_i low
    cases entry with
    | guard range => contradiction
    | mapping range physical permissions cache kind =>
        simp only [guard_eq_ok, bind_eq_ok, ne_eq, not_not] at counted
        obtain ⟨identity, identityBytes, _, _, counted⟩ := counted
        split at counted
        · rename_i shape
          split at counted
          · cases counted
            exact .trampoline ⟨low, identity, shape⟩ rfl rfl
          · contradiction
        · split at counted
          · rename_i shape
            split at counted
            · cases counted
              exact .stack ⟨low, identity, shape⟩ rfl rfl
            · contradiction
          · contradiction
  · rename_i high
    cases counted
    exact .high high rfl

/-- Within the byte budget an identity mapping only has to have one of the two
shapes. -/
theorem tallyTransition_identity {range : VirtualRange} {physical : PhysicalRange}
    {permissions : MappingPermissions} {cache : CachePolicy} {tally : TransitionTally}
    (low : range.start.value < highCanonicalStart)
    (budget : tally.identityBytes + range.length ≤ maxTransitionIdentityBytes) :
    tallyTransition tally (.mapping range physical permissions cache .transitionIdentity) =
      if permissions = .kernelRx ∧ range.length = pageSize then
        if tally.trampolineCount + 1 < 256 then
          .ok { tally with
            identityBytes := tally.identityBytes + range.length
            trampolineCount := tally.trampolineCount + 1 }
        else .error .invalidTransitionComposition
      else if permissions = .kernelRw ∧ range.length = bootstrapStackBytes then
        if tally.stackCount + 1 < 256 then
          .ok { tally with
            identityBytes := tally.identityBytes + range.length
            stackCount := tally.stackCount + 1 }
        else .error .invalidTransitionComposition
      else .error .invalidTransitionComposition := by
  have word : tally.identityBytes + range.length < wordLimit :=
    Nat.lt_of_le_of_lt budget (by decide)
  have added := checkedAdd_eq_some.mpr ⟨word, rfl⟩
  have within : ¬ tally.identityBytes + range.length > maxTransitionIdentityBytes :=
    Nat.not_lt.mpr budget
  unfold tallyTransition
  simp only [PlanEntry.virtualRange, if_pos low, ne_eq, not_true_eq_false, if_false, added,
    okOr_some, ok_bind, if_neg within]

theorem tallyTransition_of_isTrampoline {entry : PlanEntry} {tally : TransitionTally}
    (shape : entry.IsTrampoline)
    (budget : tally.identityBytes + pageSize ≤ maxTransitionIdentityBytes)
    (few : tally.trampolineCount + 1 < 256) :
    tallyTransition tally entry = .ok { tally with
      identityBytes := tally.identityBytes + pageSize
      trampolineCount := tally.trampolineCount + 1 } := by
  cases entry with
  | guard range => exact shape.elim
  | mapping range physical permissions cache kind =>
      obtain ⟨low, rfl, rfl, length⟩ := shape
      rw [← length] at budget
      rw [tallyTransition_identity low budget, if_pos ⟨rfl, length⟩, if_pos few, length]

theorem tallyTransition_of_isIdentityStack {entry : PlanEntry} {tally : TransitionTally}
    (shape : entry.IsIdentityStack)
    (budget : tally.identityBytes + bootstrapStackBytes ≤ maxTransitionIdentityBytes)
    (few : tally.stackCount + 1 < 256) :
    tallyTransition tally entry = .ok { tally with
      identityBytes := tally.identityBytes + bootstrapStackBytes
      stackCount := tally.stackCount + 1 } := by
  cases entry with
  | guard range => exact shape.elim
  | mapping range physical permissions cache kind =>
      obtain ⟨low, rfl, rfl, length⟩ := shape
      have other : ¬ (MappingPermissions.kernelRw = MappingPermissions.kernelRx ∧
          range.length = pageSize) := fun both => absurd both.1 (by decide)
      rw [← length] at budget
      rw [tallyTransition_identity low budget, if_neg other, if_pos ⟨rfl, length⟩, if_pos few,
        length]

/-- The two shapes exclude each other, and both are low. -/
theorem not_stack_of_isTrampoline {entry : PlanEntry} (shape : entry.IsTrampoline) :
    ¬ entry.IsIdentityStack := by
  cases entry with
  | guard range => exact shape.elim
  | mapping range physical permissions cache kind =>
      intro other
      rw [shape.2.2.1] at other
      exact absurd other.2.2.1 (by decide)

theorem isLow_of_isIdentity {entry : PlanEntry} {expected : MappingPermissions} {length : Nat}
    (shape : entry.IsIdentity expected length) : entry.IsLow := by
  cases entry with
  | guard range => exact shape.elim
  | mapping range physical permissions cache kind => exact shape.1

/-- The counts of the rounds already done. -/
structure Counted (before : List PlanEntry) (tally : TransitionTally) : Prop where
  trampolines : tally.trampolineCount = (before.filter fun entry => entry.IsTrampoline).length
  identityStacks : tally.stackCount = (before.filter fun entry => entry.IsIdentityStack).length
  only : ∀ entry ∈ before, entry.IsLow → entry.IsTrampoline ∨ entry.IsIdentityStack

theorem Counted.step {before : List PlanEntry} {entry : PlanEntry} {tally next : TransitionTally}
    (counted : Counted before tally) (tallied : Tallied entry tally next) :
    Counted (before ++ [entry]) next := by
  have only (shaped : entry.IsLow → entry.IsTrampoline ∨ entry.IsIdentityStack) :
      ∀ other ∈ before ++ [entry], other.IsLow → other.IsTrampoline ∨ other.IsIdentityStack := by
    intro other member low
    rcases List.mem_append.mp member with old | fresh
    · exact counted.only other old low
    · rw [List.mem_singleton.mp fresh] at low ⊢
      exact shaped low
  cases tallied with
  | high upper same =>
      subst same
      have shapeless (expected : MappingPermissions) (length : Nat) :
          ¬ entry.IsIdentity expected length := mt isLow_of_isIdentity upper
      refine ⟨?_, ?_, only fun low => absurd low upper⟩
      · simp [counted.trampolines, shapeless]
      · simp [counted.identityStacks, shapeless]
  | trampoline shape grown kept =>
      have other := not_stack_of_isTrampoline shape
      refine ⟨?_, ?_, only fun _ => .inl shape⟩
      · simp [grown, counted.trampolines, shape]
      · simp [kept, counted.identityStacks, other]
  | stack shape grown kept =>
      have other : ¬ entry.IsTrampoline := fun both => not_stack_of_isTrampoline both shape
      refine ⟨?_, ?_, only fun _ => .inr shape⟩
      · simp [kept, counted.trampolines, other]
      · simp [grown, counted.identityStacks, shape]

/-- The low part of a plan that passed `validate_transition`. -/
structure TransitionParts (plan : MappingPlan capacity) (trampoline stack : PlanEntry) : Prop where
  trampolineMember : trampoline ∈ plan.entries
  trampolineShape : trampoline.IsTrampoline
  stackMember : stack ∈ plan.entries
  stackShape : stack.IsIdentityStack
  only : ∀ entry ∈ plan.entries, entry.IsLow → entry = trampoline ∨ entry = stack

theorem validateTransition_eq_ok (validated : plan.validateTransition = .ok ()) :
    ∃ trampoline stack, plan.TransitionParts trampoline stack := by
  obtain ⟨tally, looped, checked⟩ := bind_eq_ok.mp validated
  simp only [guard_eq_ok, not_or, ne_eq, not_not, and_true] at checked
  have counted : Counted plan.entries tally := by
    refine foldlM_invariant Counted ⟨rfl, rfl, by simp⟩ ?_ looped
    intro before entry after current next _ holds stepped
    exact holds.step (tallyTransition_eq_ok stepped)
  obtain ⟨trampoline, trampolines⟩ :=
    List.length_eq_one_iff.mp (counted.trampolines.symm.trans checked.1)
  obtain ⟨stack, identityStacks⟩ :=
    List.length_eq_one_iff.mp (counted.identityStacks.symm.trans checked.2)
  have isTrampoline (entry : PlanEntry) :
      entry ∈ plan.entries ∧ entry.IsTrampoline ↔ entry = trampoline := by
    rw [← List.mem_singleton, ← trampolines, List.mem_filter, decide_eq_true_iff]
  have isStack (entry : PlanEntry) :
      entry ∈ plan.entries ∧ entry.IsIdentityStack ↔ entry = stack := by
    rw [← List.mem_singleton, ← identityStacks, List.mem_filter, decide_eq_true_iff]
  obtain ⟨trampolineMember, trampolineShape⟩ := (isTrampoline trampoline).mpr rfl
  obtain ⟨stackMember, stackShape⟩ := (isStack stack).mpr rfl
  refine ⟨trampoline, stack, trampolineMember, trampolineShape, stackMember, stackShape, ?_⟩
  intro entry member low
  cases counted.only entry member low with
  | inl shape => exact .inl ((isTrampoline entry).mp ⟨member, shape⟩)
  | inr shape => exact .inr ((isStack entry).mp ⟨member, shape⟩)

theorem Invariant.identity_bounds (invariant : plan.Invariant) {entry : PlanEntry}
    {expected : MappingPermissions} {length : Nat} (member : entry ∈ plan.entries)
    (shape : entry.IsIdentity expected length) :
    entry.virtualRange.stop = entry.virtualRange.start.value + length ∧
      entry.virtualRange.stop ≤ transitionIdentityEnd := by
  cases entry with
  | guard range => exact shape.elim
  | mapping range physical permissions cache kind =>
      obtain ⟨_, rfl, _, spans⟩ := shape
      obtain ⟨_, _, below⟩ := (invariant.contract.mappings _ _ _ _ _ member).identity rfl
      have nonempty := range.bounds.nonempty
      simp only [VirtualRange.length] at spans
      exact ⟨by simp only [PlanEntry.virtualRange]; omega, below⟩

/-- No address lies in two entries, and the trampoline is not the stack. -/
theorem TransitionParts.apart {trampoline stack : PlanEntry}
    (parts : plan.TransitionParts trampoline stack) (invariant : plan.Invariant) :
    ¬ stack.virtualRange.contains trampoline.virtualRange.start := by
  intro inStack
  have inTrampoline : trampoline.virtualRange.contains trampoline.virtualRange.start :=
    ⟨Nat.le_refl _, trampoline.virtualRange.bounds.nonempty⟩
  have same := invariant.unique parts.trampolineMember inTrampoline parts.stackMember inStack
  exact not_stack_of_isTrampoline parts.trampolineShape (same ▸ parts.stackShape)

/-- What `validate_final` has checked. -/
structure FinalParts (plan : MappingPlan capacity) : Prop where
  high : ∀ entry ∈ plan.entries, ¬ entry.IsLow
  guarded : ∀ entry ∈ plan.entries, entry.kind = .bootstrapStack →
    ∃ range, .guard range ∈ plan.entries ∧
      range.start.value + pageSize = entry.virtualRange.start.value ∧
      range.stop = entry.virtualRange.start.value

/-- The kind `guard` is that of the entries without a mapping. -/
theorem Invariant.eq_guard (invariant : plan.Invariant) {entry : PlanEntry}
    (member : entry ∈ plan.entries) (kind : entry.kind = .guard) :
    entry = .guard entry.virtualRange := by
  cases entry with
  | guard range => rfl
  | mapping range physical permissions cache mapped =>
      have granted := (invariant.contract.mappings _ _ _ _ _ member).granted
      rw [show mapped = .guard from kind] at granted
      simp [MappingKind.allowedPermissions] at granted

theorem validateFinal_eq_ok (invariant : plan.Invariant)
    (validated : plan.validateFinal = .ok ()) : plan.FinalParts := by
  obtain ⟨_, high, guarded⟩ := bind_eq_ok.mp validated
  refine ⟨?_, ?_⟩
  · intro entry member low
    have checked := checkAll_eq_ok.mp high entry member
    simp only [checkFinalEntry, guard_eq_ok] at checked
    exact checked.2.1 low
  · intro entry member kind
    have checked := checkAll_eq_ok.mp guarded entry member
    simp only [checkStackGuard, kind, ↓reduceIte, bind_eq_ok, okOr_eq_ok, checkedSub_eq_some,
      guard_eq_ok, not_not, and_true] at checked
    obtain ⟨_, ⟨below, rfl⟩, candidate, inPlan, isGuard, start, stop⟩ := checked
    rw [invariant.eq_guard inPlan isGuard] at inPlan
    refine ⟨candidate.virtualRange, inPlan, ?_, stop⟩
    rw [start]
    omega

end MappingPlan

end UnnamedOS.Layout
