import Mathlib.Order.Interval.Finset.Nat
import UnnamedOS.Layout.Validation
import UnnamedOS.PageTable.Aliases
import UnnamedOS.PageTable.Completeness
import UnnamedOS.PageTable.FrameOwner

namespace UnnamedOS.PageTable

open UnnamedOS.Data UnnamedOS.Layout

/-! # The low half of a hierarchy

A transitional hierarchy has seventeen low pages and a list of the root
entries they hang from.  Taking those entries out unmaps the low half and
leaves the upper one alone. -/

/-- A removal's value is that of the entry it expects. -/
theorem TransitionRemoval.expectedValue_eq {capacity : Nat} (removal : TransitionRemoval)
    (assignments : FrameAssignments capacity) :
    removal.expectedValue assignments = removal.entry.encodedValue assignments := by
  unfold expectedValue PlannedEntry.encodedValue
  cases found : assignments.frame removal.expectedTarget with
  | error reason => simp [entry, found]
  | ok frame => simp [entry, found]

namespace ConstructionPlan

variable {tableCapacity entryCapacity removalCapacity capacity : Nat}
variable {plan other : ConstructionPlan tableCapacity entryCapacity removalCapacity}

/-! ## Taking the listed entries out -/

/-- A removal names the entry's place. -/
def Listed (plan : ConstructionPlan tableCapacity entryCapacity removalCapacity) (slot : Nat)
    (index : TableIndex) : Prop :=
  ∃ removal ∈ plan.removals, removal.tableSlot = slot ∧ removal.index = index

instance (slot : Nat) (index : TableIndex) : Decidable (plan.Listed slot index) :=
  inferInstanceAs (Decidable (∃ removal ∈ plan.removals, _))

/-- The plan without the entries its removals name. -/
def withoutRemovals (plan : ConstructionPlan tableCapacity entryCapacity removalCapacity) :
    ConstructionPlan tableCapacity entryCapacity removalCapacity :=
  { plan with
    entries := plan.entries.filter fun entry => ¬ plan.Listed entry.tableSlot entry.index }

theorem findEntry_withoutRemovals (slot : Nat) (index : TableIndex) :
    plan.withoutRemovals.findEntry slot index =
      if plan.Listed slot index then none else plan.findEntry slot index := by
  simp only [findEntry, withoutRemovals, List.find?_filter]
  by_cases listed : plan.Listed slot index
  · rw [if_pos listed, List.find?_eq_none]
    intro entry _ kept
    simp only [decide_eq_true_eq, Bool.decide_and, Bool.and_eq_true] at kept
    obtain ⟨unlisted, rfl, rfl⟩ := kept
    exact unlisted listed
  · rw [if_neg listed]
    congr 1
    funext entry
    by_cases here : entry.tableSlot = slot ∧ entry.index = index
    · obtain ⟨rfl, rfl⟩ := here
      simp [listed]
    · simp [here]

section Removals

variable {opened : Finset (List TableIndex)} {leaves : Nat}

/-- The listed places are the root's low entries. -/
theorem Tracks.listed_iff (tracks : plan.Tracks opened leaves) {slot : Nat} {index : TableIndex} :
    plan.Listed slot index ↔
      (∃ entry, plan.findEntry slot index = some entry) ∧ slot = frameSlotRoot ∧
        index.value < 256 := by
  have names (entry : PlannedEntry) :
      (∃ removal ∈ plan.removals, removal.entry = entry) ↔
        entry ∈ plan.entries ∧ entry.IsLowRoot := by
    rw [← List.mem_map, tracks.removals, List.mem_filter, decide_eq_true_iff]
  constructor
  · rintro ⟨removal, member, rfl, rfl⟩
    obtain ⟨present, low⟩ := (names removal.entry).mp ⟨removal, member, rfl⟩
    exact ⟨⟨_, tracks.consistent.findEntry_mem present⟩, low⟩
  · rintro ⟨⟨entry, found⟩, root, low⟩
    obtain ⟨member, rfl, rfl⟩ := findEntry_some found
    obtain ⟨removal, listed, same⟩ := (names entry).mpr ⟨member, root, low⟩
    exact ⟨removal, listed, congrArg PlannedEntry.tableSlot same,
      congrArg PlannedEntry.index same⟩

/-- No entry leads back to the root. -/
theorem Consistent.child_ne_root (consistent : plan.Consistent) {slot child : Nat}
    {index : TableIndex} {entry : PlannedEntry} (found : plan.findEntry slot index = some entry)
    (target : entry.target.frameSlot = some child) : child ≠ frameSlotRoot := by
  obtain ⟨member, _, _⟩ := findEntry_some found
  obtain ⟨_, _, fits⟩ := consistent.fits entry member
  cases kind : entry.target with
  | physicalFrame frame => simp [kind, EntryTarget.frameSlot] at target
  | tableSlot next =>
      obtain rfl : next = child := by simpa [kind, EntryTarget.frameSlot] using target
      simp only [kind] at fits
      exact Nat.ne_of_gt (Nat.lt_of_le_of_lt (Nat.zero_le _) fits.2.1)

theorem Tracks.withoutRemovals_low (tracks : plan.Tracks opened leaves) {address : VirtualAddress}
    (low : address.value < highCanonicalStart) : plan.withoutRemovals.leafEntry address = none := by
  have index := (low_iff_index address).mp low
  have cleared : plan.withoutRemovals.findEntry frameSlotRoot (tableIndexAt address 39) = none := by
    rw [findEntry_withoutRemovals]
    split
    · rfl
    · rename_i unlisted
      rw [tracks.listed_iff] at unlisted
      cases found : plan.findEntry frameSlotRoot (tableIndexAt address 39) with
      | none => rfl
      | some entry => exact absurd ⟨⟨entry, found⟩, rfl, index⟩ unlisted
  simp [leafEntry, virtualAddressIndices, cleared]

theorem Tracks.withoutRemovals_high (tracks : plan.Tracks opened leaves) {address : VirtualAddress}
    (high : highCanonicalStart ≤ address.value) :
    plan.withoutRemovals.leafEntry address = plan.leafEntry address := by
  have index : ¬ (tableIndexAt address 39).value < 256 := by
    rw [← low_iff_index]
    omega
  have kept (slot : Nat) (position : TableIndex)
      (elsewhere : ¬ (slot = frameSlotRoot ∧ position.value < 256)) :
      plan.withoutRemovals.findEntry slot position = plan.findEntry slot position := by
    rw [findEntry_withoutRemovals, if_neg]
    rw [tracks.listed_iff]
    exact fun listed => elsewhere listed.2
  have below {slot child : Nat} {position : TableIndex} {entry : PlannedEntry}
      (found : plan.findEntry slot position = some entry)
      (target : entry.target.frameSlot = some child) (next : TableIndex) :
      plan.withoutRemovals.findEntry child next = plan.findEntry child next :=
    kept child next fun root => tracks.consistent.child_ne_root found target root.1
  -- The walk goes down one level at a time through entries that are all kept.
  simp only [leafEntry, virtualAddressIndices]
  rw [kept _ _ fun root => index root.2]
  cases first : plan.findEntry frameSlotRoot (tableIndexAt address 39) with
  | none => rfl
  | some entry =>
      cases pdpt : entry.target.frameSlot with
      | none => simp [pdpt]
      | some slot =>
          simp only [Option.bind_eq_bind, Option.bind_some, pdpt, below first pdpt]
          cases second : plan.findEntry slot (tableIndexAt address 30) with
          | none => rfl
          | some entry =>
              cases pd : entry.target.frameSlot with
              | none => simp [pd]
              | some slot =>
                  simp only [Option.bind_some, pd, below second pd]
                  cases third : plan.findEntry slot (tableIndexAt address 21) with
                  | none => rfl
                  | some entry =>
                      cases pt : entry.target.frameSlot with
                      | none => simp [pt]
                      | some slot => simp only [Option.bind_some, pt, below third pt]

end Removals

/-! ## The pages of the two modes -/

/-- A leaf that maps the address to itself. -/
def IdentityLeaf (plan : ConstructionPlan tableCapacity entryCapacity removalCapacity)
    (address : VirtualAddress) (writable executable : Bool) : Prop :=
  ∃ leaf frame, plan.leafEntry address = some leaf ∧ leaf.target = .physicalFrame frame ∧
    frame.address = address.value / 4096 * 4096 ∧ leaf.flags.writable = writable ∧
    leaf.flags.executable = executable

/-- The low half of a transitional hierarchy, before and after the removals. -/
structure LowTransition (plan : ConstructionPlan tableCapacity entryCapacity removalCapacity) :
    Prop where
  pages : ∃ trampoline stack, trampoline < 2 ^ 20 ∧ stack + 16 ≤ 2 ^ 20 ∧
    (insert trampoline (Finset.Ico stack (stack + 16))).card = 17 ∧
    ∀ address : VirtualAddress, address.value < 2 ^ 47 →
      (address.value / 4096 = trampoline → plan.IdentityLeaf address false true) ∧
      (address.value / 4096 ∈ Finset.Ico stack (stack + 16) →
        plan.IdentityLeaf address true false) ∧
      (address.value / 4096 ∉ insert trampoline (Finset.Ico stack (stack + 16)) →
        plan.leafEntry address = none)
  removals : plan.removals.map TransitionRemoval.entry =
    plan.entries.filter fun entry => entry.IsLowRoot
  expected : ∀ removal ∈ plan.removals, ∀ {count : Nat} (assignments : FrameAssignments count),
    assignments.frames.length = plan.tableCount →
    ∃ value, removal.expectedValue assignments = .ok value ∧
      removal.entry.encodedValue assignments = .ok value
  lowCleared : ∀ address : VirtualAddress, address.value < 2 ^ 47 →
    plan.withoutRemovals.leafEntry address = none
  highKept : ∀ address : VirtualAddress, highCanonicalStart ≤ address.value →
    plan.withoutRemovals.leafEntry address = plan.leafEntry address

section

variable {mappings : MappingPlan capacity}

theorem Realizes.identityLeaf (realizes : plan.Realizes mappings.entries)
    (invariant : mappings.Invariant) {entry : PlanEntry} {permissions : MappingPermissions}
    {length : Nat} {address : VirtualAddress} (member : entry ∈ mappings.entries)
    (shape : entry.IsIdentity permissions length)
    (inside : entry.virtualRange.contains address) :
    plan.IdentityLeaf address permissions.writable permissions.executable := by
  cases entry with
  | guard range => exact shape.elim
  | mapping range physical permissions cache kind =>
      obtain ⟨_, rfl, rfl, _⟩ := shape
      obtain ⟨leaf, found, ⟨frame, target, backing⟩, flags⟩ :=
        realizes.mapped range physical permissions cache _ member address inside
      obtain ⟨same, _, _⟩ := (invariant.contract.mappings _ _ _ _ _ member).identity rfl
      refine ⟨leaf, frame, found, target, ?_, forLeaf_writable flags, forLeaf_executable flags⟩
      have aligned := range.bounds.startAligned
      obtain ⟨lower, _⟩ := inside
      simp only [PlanEntry.virtualRange] at lower
      rw [backing, ← same]
      simp only [pageSize] at aligned ⊢
      omega

/-- The low half has no other pages than those two mappings. -/
theorem Realizes.low_of_transition (realizes : plan.Realizes mappings.entries)
    {trampoline stack : PlanEntry} (parts : mappings.TransitionParts trampoline stack)
    {address : VirtualAddress} (low : address.value < 2 ^ 47)
    (offPage : ¬ trampoline.virtualRange.contains address)
    (offStack : ¬ stack.virtualRange.contains address) : plan.leafEntry address = none := by
  refine realizes.unmapped address fun entry member inside => ?_
  have lowEntry : entry.IsLow := by
    have start := inside.1
    simp only [PlanEntry.IsLow, highCanonicalStart]
    omega
  rcases parts.only entry member lowEntry with rfl | rfl
  · contradiction
  · contradiction

/-- The frames of a removal's target exist once every table has one. -/
theorem Tracks.expectedValue {opened : Finset (List TableIndex)} {leaves count : Nat}
    (tracks : plan.Tracks opened leaves) {removal : TransitionRemoval}
    (member : removal ∈ plan.removals) {assignments : FrameAssignments count}
    (complete : assignments.frames.length = plan.tableCount) :
    ∃ value, removal.expectedValue assignments = .ok value ∧
      removal.entry.encodedValue assignments = .ok value := by
  have present : removal.entry ∈ plan.entries := by
    have listed := List.mem_map_of_mem (f := TransitionRemoval.entry) member
    rw [tracks.removals] at listed
    exact (List.mem_filter.mp listed).1
  obtain ⟨_, _, fits⟩ := tracks.consistent.fits _ present
  simp only [TransitionRemoval.entry] at fits
  obtain ⟨_, _, _, childFound, _, _⟩ := fits
  have bound : removal.expectedTarget < assignments.frames.length :=
    complete ▸ (List.getElem?_eq_some_iff.mp childFound).1
  rw [← removal.expectedValue_eq assignments]
  simp [TransitionRemoval.expectedValue, FrameAssignments.frame, List.getElem?_eq_getElem bound]

theorem Realizes.lowPages (realizes : plan.Realizes mappings.entries)
    (invariant : mappings.Invariant) {trampoline stack : PlanEntry}
    (parts : mappings.TransitionParts trampoline stack) :
    ∃ first last, first < 2 ^ 20 ∧ last + 16 ≤ 2 ^ 20 ∧
      (insert first (Finset.Ico last (last + 16))).card = 17 ∧
      ∀ address : VirtualAddress, address.value < 2 ^ 47 →
        (address.value / 4096 = first → plan.IdentityLeaf address false true) ∧
        (address.value / 4096 ∈ Finset.Ico last (last + 16) →
          plan.IdentityLeaf address true false) ∧
        (address.value / 4096 ∉ insert first (Finset.Ico last (last + 16)) →
          plan.leafEntry address = none) := by
  obtain ⟨pageStop, pageBelow⟩ :=
    invariant.identity_bounds parts.trampolineMember parts.trampolineShape
  obtain ⟨runStop, runBelow⟩ := invariant.identity_bounds parts.stackMember parts.stackShape
  have apart := parts.apart invariant
  have pageAligned := trampoline.virtualRange.bounds.startAligned
  have runAligned := stack.virtualRange.bounds.startAligned
  simp only [VirtualRange.contains, pageSize, bootstrapStackBytes, transitionIdentityEnd]
    at pageStop runStop pageBelow runBelow apart pageAligned runAligned
  refine ⟨trampoline.virtualRange.start.value / 4096, stack.virtualRange.start.value / 4096,
    by omega, by omega, ?_, ?_⟩
  · rw [Finset.card_insert_of_notMem, Nat.card_Ico]
    · omega
    · rw [Finset.mem_Ico]
      omega
  · intro address low
    refine ⟨?_, ?_, ?_⟩
    · intro here
      exact realizes.identityLeaf invariant parts.trampolineMember parts.trampolineShape
        ⟨by omega, by omega⟩
    · intro here
      rw [Finset.mem_Ico] at here
      exact realizes.identityLeaf invariant parts.stackMember parts.stackShape
        ⟨by omega, by omega⟩
    · intro elsewhere
      rw [Finset.mem_insert, Finset.mem_Ico] at elsewhere
      refine realizes.low_of_transition parts low ?_ ?_
      all_goals
        simp only [VirtualRange.contains]
        omega

theorem Tracks.removals_of_final {leaves : Nat}
    (tracks : plan.Tracks (neededTables mappings.pages) leaves) (parts : mappings.FinalParts) :
    plan.removals = [] := by
  have none : (neededTables mappings.pages).filter IsLowPath = ∅ := by
    refine Finset.eq_empty_of_forall_notMem fun path member => ?_
    obtain ⟨range, _, _, _, _, page, inPlan, lower, _, low, _⟩ := page_of_lowPath member
    refine parts.high _ inPlan ?_
    simp only [PlanEntry.IsLow, PlanEntry.virtualRange, lowCanonicalEnd, highCanonicalStart]
      at low ⊢
    omega
  have count := tracks.removalCount
  rw [none, Finset.card_empty] at count
  exact List.eq_nil_of_length_eq_zero count

theorem Realizes.low_of_final (realizes : plan.Realizes mappings.entries)
    (parts : mappings.FinalParts) {address : VirtualAddress} (low : address.value < 2 ^ 47) :
    plan.leafEntry address = none := by
  refine realizes.unmapped address fun entry member inside => ?_
  have lower := inside.1
  refine absurd ?_ (parts.high entry member)
  simp only [PlanEntry.IsLow, highCanonicalStart]
  omega

end

/-- The low half of every hierarchy built from a reachable plan: seventeen
identity pages that the listed removals take away again, or nothing. -/
theorem build_lowHalf (calls : List MappingPlan.Call) :
    (∀ plan : ConstructionPlan tableCapacity entryCapacity removalCapacity,
      build ((MappingPlan.new capacity).run calls) .transitional = .ok plan →
      plan.LowTransition) ∧
    ∀ plan : ConstructionPlan tableCapacity entryCapacity removalCapacity,
      build ((MappingPlan.new capacity).run calls) .final = .ok plan →
      plan.removals = [] ∧
        ∀ address : VirtualAddress, address.value < 2 ^ 47 → plan.leafEntry address = none := by
  have invariant := @MappingPlan.reachable_invariant capacity calls
  constructor
  · intro plan built
    have tracks := build_tracks invariant built
    obtain ⟨trampoline, stack, parts⟩ :=
      MappingPlan.validateTransition_eq_ok (build_validated built)
    exact {
      pages := (build_realizes invariant built).lowPages invariant parts
      removals := tracks.removals
      expected := fun _ member _ _ complete => tracks.expectedValue member complete
      lowCleared := fun _ low => tracks.withoutRemovals_low (Nat.lt_trans low (by decide))
      highKept := fun _ high => tracks.withoutRemovals_high high }
  · intro plan built
    have parts := MappingPlan.validateFinal_eq_ok invariant (build_validated built)
    exact ⟨(build_tracks invariant built).removals_of_final parts,
      fun _ low => (build_realizes invariant built).low_of_final parts low⟩

/-- The transition plan of a trampoline at `0x8000` and a stack at `0x100000`,
and its one removal. -/
theorem build_lowHalf_lowTrampoline :
    ∃ plan : ConstructionPlan 4 20 1,
      build ((MappingPlan.new 2).run MappingPlan.lowTrampoline) .transitional = .ok plan ∧
      plan.LowTransition ∧ plan.removals.length = 1 := by
  have found : ((build ((MappingPlan.new 2).run MappingPlan.lowTrampoline)
      .transitional).toOption.any fun plan : ConstructionPlan 4 20 1 =>
        decide (plan.removals.length = 1)) = true := by decide +kernel
  obtain ⟨plan, some, removals⟩ := (Option.any_eq_true _ _).mp found
  have built := toOption_eq_some.mp some
  exact ⟨plan, built, (build_lowHalf MappingPlan.lowTrampoline).1 plan built, by simpa using removals⟩

end ConstructionPlan

end UnnamedOS.PageTable
