import UnnamedOS.Layout.Validation
import UnnamedOS.PageTable.Completeness

namespace UnnamedOS.PageTable

open UnnamedOS.Data UnnamedOS.Layout

namespace ConstructionPlan

/-! # The page below a stack

A final plan has a guard there.  A transitional one is not asked for it, so the
page is absent unless another mapping ends where the stack begins. -/

variable {tableCapacity entryCapacity removalCapacity capacity : Nat}
variable {plan : ConstructionPlan tableCapacity entryCapacity removalCapacity}
variable {mappings : MappingPlan capacity} {range : VirtualRange} {physical : PhysicalRange}
  {permissions : MappingPermissions} {cache : CachePolicy}

/-- Ranges are made of whole pages: one that reaches into the page below
another ends where that one starts. -/
theorem stop_eq_of_below (invariant : mappings.Invariant) {entry stack : PlanEntry}
    {address : VirtualAddress} (member : entry ∈ mappings.entries)
    (stackMember : stack ∈ mappings.entries) (inside : entry.virtualRange.contains address)
    (lower : stack.virtualRange.start.value - 4096 ≤ address.value)
    (upper : address.value < stack.virtualRange.start.value) :
    entry.virtualRange.stop = stack.virtualRange.start.value := by
  have before : entry.virtualRange.stop ≤ stack.virtualRange.start.value := by
    by_contra reaches
    have inEntry : entry.virtualRange.contains stack.virtualRange.start :=
      ⟨Nat.le_trans inside.1 (Nat.le_of_lt upper), Nat.lt_of_not_le reaches⟩
    have inStack : stack.virtualRange.contains stack.virtualRange.start :=
      ⟨Nat.le_refl _, stack.virtualRange.bounds.nonempty⟩
    have same := invariant.unique stackMember inStack member inEntry
    rw [same] at inside
    exact absurd inside.1 (Nat.not_le_of_lt upper)
  have stopAligned := entry.virtualRange.bounds.stopAligned
  have startAligned := stack.virtualRange.bounds.startAligned
  obtain ⟨_, below⟩ := inside
  simp only [pageSize] at stopAligned startAligned
  omega

theorem exists_last_page (range : VirtualRange) :
    ∃ page : VirtualAddress, range.contains page ∧ page.value + 4096 = range.stop := by
  have nonempty := range.bounds.nonempty
  have startAligned := range.bounds.startAligned
  have stopAligned := range.bounds.stopAligned
  simp only [pageSize] at startAligned stopAligned
  have canonical : isCanonical (range.stop - 4096) :=
    range.canonical_of_mem (by omega) (by omega)
  refine ⟨⟨range.stop - 4096, canonical⟩, ?_, ?_⟩
  · simp only [VirtualRange.contains]
    omega
  · simp only
    omega

theorem unmapped_below_of_final (invariant : mappings.Invariant) (parts : mappings.FinalParts)
    (member : .mapping range physical permissions cache .bootstrapStack ∈ mappings.entries)
    {address : VirtualAddress} (lower : range.start.value - 4096 ≤ address.value)
    (upper : address.value < range.start.value) {entry : PlanEntry}
    (entryMember : entry ∈ mappings.entries) (inside : entry.virtualRange.contains address) :
    entry.backing = .unmapped := by
  obtain ⟨guard, guardMember, start, stop⟩ := parts.guarded _ member rfl
  simp only [PlanEntry.virtualRange, pageSize] at start stop
  -- The guard covers the page, and nothing else can.
  have inGuard : guard.contains address := ⟨by omega, by omega⟩
  rw [invariant.unique guardMember inGuard entryMember inside]
  rfl

/-- The page below every bootstrap stack is absent exactly in the final mode and
where no granted mapping ends at the start of a granted stack. -/
theorem stackGuard_absent_iff {mode : PlanMode} (calls : List MappingPlan.Call)
    (built : build ((MappingPlan.new capacity).run calls) mode = .ok plan) :
    (∀ range physical permissions cache,
      .mapping range physical permissions cache .bootstrapStack ∈
        ((MappingPlan.new capacity).run calls).entries →
      ∀ address : VirtualAddress, range.start.value - 4096 ≤ address.value →
        address.value < range.start.value → plan.leafEntry address = none) ↔
    (mode = .final ∨ ∀ stack stackPhysical stackPermissions stackCache below belowPhysical
        belowPermissions belowCache kind,
      MappingPlan.Granted capacity calls
        (.insertMapping stack stackPhysical stackPermissions stackCache .bootstrapStack) →
      MappingPlan.Granted capacity calls
        (.insertMapping below belowPhysical belowPermissions belowCache kind) →
      below.stop ≠ stack.start.value) := by
  have invariant := @MappingPlan.reachable_invariant capacity calls
  have realizes := build_realizes invariant built
  constructor
  · intro absent
    right
    intro stack stackPhysical stackPermissions stackCache below belowPhysical belowPermissions
      belowCache kind stackGranted belowGranted meets
    -- The last page of the mapping below is the one under the stack.
    obtain ⟨page, inside, last⟩ := exists_last_page below
    obtain ⟨leaf, found, _⟩ := realizes.mapped _ _ _ _ _
      (MappingPlan.mapping_mem_run.mpr belowGranted) page inside
    rw [absent _ _ _ _ (MappingPlan.mapping_mem_run.mpr stackGranted) page (by omega) (by omega)]
      at found
    contradiction
  · intro holds range physical permissions cache member address lower upper
    refine realizes.unmapped address fun entry entryMember inside => ?_
    cases holds with
    | inl final =>
        subst final
        exact unmapped_below_of_final invariant
          (MappingPlan.validateFinal_eq_ok invariant (build_validated built)) member lower upper
          entryMember inside
    | inr apart =>
        cases entry with
        | guard guarded => rfl
        | mapping below belowPhysical belowPermissions belowCache kind =>
            exact absurd (stop_eq_of_below invariant entryMember member inside lower upper)
              (apart _ _ _ _ _ _ _ _ _ (MappingPlan.mapping_mem_run.mp member)
                (MappingPlan.mapping_mem_run.mp entryMember))

theorem lowStack_supported : 0x10_0000 < supportedPhysicalEnd := by decide

def highStack : MappingPlan.Call :=
  .insertMapping
    ⟨⟨kernelLocalStart, by decide⟩, kernelLocalStart + 0x1_0000, by constructor <;> decide⟩
    ⟨⟨0x10_0000, lowStack_supported⟩, 0x11_0000, by constructor <;> decide⟩
    .kernelRw .writeBack .bootstrapStack

def lastTextPage : MappingPlan.Call :=
  .insertMapping
    ⟨⟨kernelImageEnd - 0x1000, by decide⟩, kernelImageEnd, by constructor <;> decide⟩
    ⟨⟨0x40_0000, by decide⟩, 0x40_1000, by constructor <;> decide⟩
    .kernelRx .writeBack .kernelText

def belowStack : VirtualAddress := ⟨kernelLocalStart - 8, by decide⟩

theorem stackGuard_absent_iff_highStack :
    ∃ plan : ConstructionPlan 7 39 1,
      build ((MappingPlan.new 3).run (highStack :: MappingPlan.lowTrampoline)) .transitional =
        .ok plan ∧
      plan.leafEntry belowStack = none := by
  have found : ((build ((MappingPlan.new 3).run (highStack :: MappingPlan.lowTrampoline))
      .transitional).toOption.any fun _ : ConstructionPlan 7 39 1 => true) = true := by
    decide +kernel
  obtain ⟨plan, some, _⟩ := (Option.any_eq_true _ _).mp found
  have built := toOption_eq_some.mp some
  have apart : ∀ stack ∈ ((MappingPlan.new 3).run (highStack :: MappingPlan.lowTrampoline)).entries,
      ∀ below ∈ ((MappingPlan.new 3).run (highStack :: MappingPlan.lowTrampoline)).entries,
        stack.kind = .bootstrapStack →
          below.virtualRange.stop ≠ stack.virtualRange.start.value := by
    decide
  refine ⟨plan, built, (stackGuard_absent_iff _ built).mpr (.inr ?_) _ _ _ _
    (MappingPlan.mem_run.mpr ⟨highStack, ⟨[], _, rfl, rfl⟩, rfl⟩) belowStack (by decide) (by decide)⟩
  intro stack _ _ _ below _ _ _ _ stackGranted belowGranted
  exact apart _ (MappingPlan.mapping_mem_run.mpr stackGranted) _
    (MappingPlan.mapping_mem_run.mpr belowGranted) rfl

/-- The transitional mode builds a plan in which a word pushed below the stack
lands in the kernel's text. -/
theorem build_maps_below_stack :
    ∃ plan : ConstructionPlan 9 42 1,
      build ((MappingPlan.new 4).run (highStack :: lastTextPage :: MappingPlan.lowTrampoline))
        .transitional = .ok plan ∧
      highStack.entry ∈ ((MappingPlan.new 4).run
        (highStack :: lastTextPage :: MappingPlan.lowTrampoline)).entries ∧
      ∃ leaf, plan.leafEntry belowStack = some leaf := by
  have found : ((build ((MappingPlan.new 4).run
      (highStack :: lastTextPage :: MappingPlan.lowTrampoline)) .transitional).toOption.any
        fun plan : ConstructionPlan 9 42 1 => (plan.leafEntry belowStack).isSome) = true := by
    decide +kernel
  obtain ⟨plan, some, mapped⟩ := (Option.any_eq_true _ _).mp found
  exact ⟨plan, toOption_eq_some.mp some,
    MappingPlan.mem_run.mpr ⟨highStack, ⟨[], _, rfl, rfl⟩, rfl⟩, Option.isSome_iff_exists.mp mapped⟩

end ConstructionPlan

end UnnamedOS.PageTable
