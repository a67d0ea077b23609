import UnnamedOS.PageTable.Completeness

namespace UnnamedOS.PageTable

open UnnamedOS.Data UnnamedOS.Layout

namespace ConstructionPlan

variable {tableCapacity entryCapacity removalCapacity capacity : Nat}
variable {plan : ConstructionPlan tableCapacity entryCapacity removalCapacity}

/-! # The hierarchy behind the records

The tables and entries of a plan are two flat lists.  What makes them one tree
is that records and entries name each other, in both directions. -/

structure Hierarchy (plan : ConstructionPlan tableCapacity entryCapacity removalCapacity) :
    Prop where
  slots : ∀ (slot : Nat) (table : PlannedTable), plan.tables[slot]? = some table →
    table.frameSlot = slot
  root : ∃ table, plan.tables[0]? = some table ∧ table.level = .pml4 ∧ table.parent = none
  parents : ∀ (slot : Nat) (table : PlannedTable), plan.tables[slot]? = some table → slot ≠ 0 →
    ∃ parent index parentTable, table.parent = some (parent, index) ∧ parent < slot ∧
      plan.tables[parent]? = some parentTable ∧ parentTable.level.child = some table.level
  keys : plan.entries.Pairwise fun left right =>
    ¬ (left.tableSlot = right.tableSlot ∧ left.index = right.index)
  links : ∀ (slot : Nat) (table : PlannedTable), plan.tables[slot]? = some table → slot ≠ 0 →
    ∃ entry ∈ plan.entries, entry.target = .tableSlot slot ∧
      table.parent = some (entry.tableSlot, entry.index) ∧ entry.flags = .intermediate ∧
      ∀ other ∈ plan.entries, other.target = .tableSlot slot → other = entry
  tableTargets : ∀ entry ∈ plan.entries, ∀ slot, entry.target = .tableSlot slot →
    slot < plan.tables.length ∧ ∃ table, plan.tables[entry.tableSlot]? = some table ∧
      (table.level = .pml4 ∨ table.level = .pdpt ∨ table.level = .pd)
  frameTargets : ∀ entry ∈ plan.entries, ∀ frame, entry.target = .physicalFrame frame →
    ∃ table, plan.tables[entry.tableSlot]? = some table ∧ table.level = .pt

/-- The link of a table, with all its entry says. -/
theorem Linked.entry (linked : plan.Linked) (consistent : plan.Consistent) {slot : Nat}
    {table : PlannedTable} (found : plan.tables[slot]? = some table) (other : slot ≠ frameSlotRoot) :
    ∃ entry ∈ plan.entries, entry.target = .tableSlot slot ∧
      table.parent = some (entry.tableSlot, entry.index) ∧ entry.flags = .intermediate ∧
      ∃ parentTable, plan.tables[entry.tableSlot]? = some parentTable ∧
        parentTable.level.child = some table.level := by
  obtain ⟨parent, index, entry, recorded, entryFound, target⟩ := linked slot table found other
  obtain ⟨member, rfl, rfl⟩ := findEntry_some entryFound
  obtain ⟨parentTable, parentFound, fits⟩ := consistent.fits entry member
  simp only [target] at fits
  obtain ⟨flags, _, child, childFound, levels, _⟩ := fits
  rw [found] at childFound
  cases childFound
  exact ⟨entry, member, target, recorded, flags, parentTable, parentFound, levels⟩

theorem Consistent.hierarchy (consistent : plan.Consistent) (linked : plan.Linked) :
    plan.Hierarchy where
  slots := consistent.slots
  root := consistent.root
  keys := consistent.keys
  parents := by
    intro slot table found other
    obtain ⟨entry, _, _, recorded, _, parentTable, parentFound, levels⟩ :=
      linked.entry consistent found other
    exact ⟨_, _, parentTable, recorded, linked.parent_lt consistent found recorded, parentFound,
      levels⟩
  links := by
    intro slot table found nonroot
    obtain ⟨entry, member, target, recorded, flags, _⟩ := linked.entry consistent found nonroot
    refine ⟨entry, member, target, recorded, flags, ?_⟩
    intro other otherMember otherTarget
    have entryFound := consistent.findEntry_mem member
    have otherFound := consistent.findEntry_mem otherMember
    obtain ⟨sameSlot, sameIndex⟩ :=
      consistent.entry_of_child otherFound otherTarget entryFound target
    rw [sameSlot, sameIndex, entryFound] at otherFound
    exact (Option.some.inj otherFound).symm
  tableTargets := by
    intro entry member slot target
    obtain ⟨table, tableFound, fits⟩ := consistent.fits entry member
    simp only [target] at fits
    obtain ⟨_, _, child, childFound, levels, _⟩ := fits
    refine ⟨(List.getElem?_eq_some_iff.mp childFound).1, table, tableFound, ?_⟩
    cases level : table.level with
    | pt =>
        rw [level] at levels
        contradiction
    | pd => exact .inr (.inr rfl)
    | pdpt => exact .inr (.inl rfl)
    | pml4 => exact .inl rfl
  frameTargets := by
    intro entry member frame target
    obtain ⟨table, tableFound, fits⟩ := consistent.fits entry member
    simp only [target] at fits
    exact ⟨table, tableFound, fits.1⟩

/-- The errors the planner has for mistakes of its own or of the mapping layer. -/
def internalErrors : List PageTablePlanError :=
  [.duplicateLeaf, .incompatibleRemap, .missingParent, .invalidEntryFlags, .userMappingForbidden,
    .writableExecutableLeaf, .unsupportedGuardLocation, .unalignedPhysicalFrame,
    .arithmeticOverflow]

/-- From every reachable plan `build` returns a hierarchy with one entry for
each table below the root and each page, or an error that is not internal. -/
theorem build_hierarchy {mode : PlanMode} (calls : List MappingPlan.Call) :
    (∀ plan : ConstructionPlan tableCapacity entryCapacity removalCapacity,
      build ((MappingPlan.new capacity).run calls) mode = .ok plan →
      plan.Hierarchy ∧ plan.entries.length =
        plan.tables.length - 1 + ((MappingPlan.new capacity).run calls).pages.length) ∧
    ∀ reason, (build ((MappingPlan.new capacity).run calls) mode :
        Result tableCapacity entryCapacity removalCapacity) = .error reason →
      reason ∉ internalErrors := by
  have invariant := @MappingPlan.reachable_invariant capacity calls
  constructor
  · intro plan built
    have tracks := build_tracks invariant built
    have tables := tracks.tables
    have entries := tracks.entries
    obtain ⟨_, found, _⟩ := tracks.consistent.root
    have rooted := (List.getElem?_eq_some_iff.mp found).1
    exact ⟨tracks.consistent.hierarchy tracks.linked, by omega⟩
  · intro reason failed
    rcases build_error_cases invariant failed with ⟨_, _, rfl⟩ | exceeds | ⟨rfl, _⟩
    · simp [internalErrors]
    · cases exceeds <;> decide
    · decide

theorem build_hierarchy_textPage :
    ∃ plan : ConstructionPlan 4 4 0,
      build ((MappingPlan.new 1).run [textPage]) .final = .ok plan ∧ plan.Hierarchy ∧
      plan.tables.length = 4 ∧ plan.entries.length = 4 := by
  obtain ⟨plan, built, tables⟩ : ∃ plan : ConstructionPlan 4 4 0,
      build ((MappingPlan.new 1).run [textPage]) .final = .ok plan ∧ plan.tables.length = 4 :=
    ⟨_, rfl, rfl⟩
  obtain ⟨hierarchy, entries⟩ := (build_hierarchy [textPage]).1 plan built
  have pages : ((MappingPlan.new 1).run [textPage]).pages.length = 1 := by decide
  exact ⟨plan, built, hierarchy, tables, by omega⟩

end ConstructionPlan

end UnnamedOS.PageTable
