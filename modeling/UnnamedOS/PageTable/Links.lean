import UnnamedOS.PageTable.Translation

namespace UnnamedOS.PageTable

open UnnamedOS.Data UnnamedOS.Layout

/-- The removal describes the entry. -/
def TransitionRemoval.Names (removal : TransitionRemoval) (entry : PlannedEntry) : Prop :=
  entry.tableSlot = removal.tableSlot ∧ entry.index = removal.index ∧
    entry.target = .tableSlot removal.expectedTarget ∧ entry.flags = removal.expectedFlags

namespace ConstructionPlan

/-! # The records of a finished plan

`build` grows a plan in two ways only, by a table with the entry that reaches
it and by a leaf.  The rule below turns an invariant of these two steps into a
fact about every finished plan. -/

variable {tableCapacity entryCapacity removalCapacity capacity : Nat}
variable {plan after : ConstructionPlan tableCapacity entryCapacity removalCapacity}

section

variable {inv : ConstructionPlan tableCapacity entryCapacity removalCapacity → Prop}

theorem ensureChild_keeps {parentSlot slot : Nat} {parentLevel : TableLevel} {index : TableIndex}
    {address : VirtualAddress}
    (tables : ∀ {current next : ConstructionPlan tableCapacity entryCapacity removalCapacity}
      {parentSlot slot : Nat} {parentLevel : TableLevel} {index : TableIndex}
      {address : VirtualAddress}, inv current →
      current.createChild parentSlot parentLevel index address = .ok (slot, next) → inv next)
    (holds : inv plan)
    (ensured : plan.ensureChild parentSlot parentLevel index address = .ok (slot, after)) :
    inv after := by
  unfold ensureChild at ensured
  split at ensured
  · obtain ⟨child, _, result⟩ := bind_eq_ok.mp ensured
    cases result
    exact holds
  · exact tables holds ensured

/-- The rule for `build`. -/
theorem build_keeps {mappings : MappingPlan capacity} {mode : PlanMode}
    (start : ∀ {empty : ConstructionPlan tableCapacity entryCapacity removalCapacity},
      begin mode = .ok empty → inv empty)
    (tables : ∀ {current next : ConstructionPlan tableCapacity entryCapacity removalCapacity}
      {parentSlot slot : Nat} {parentLevel : TableLevel} {index : TableIndex}
      {address : VirtualAddress}, inv current →
      current.createChild parentSlot parentLevel index address = .ok (slot, next) → inv next)
    (leaves : ∀ {range : VirtualRange} {physical : PhysicalRange}
      {permissions : MappingPermissions} {cache : CachePolicy} {kind : MappingKind},
      .mapping range physical permissions cache kind ∈ mappings.entries →
      ∀ {current next : ConstructionPlan tableCapacity entryCapacity removalCapacity}
        {page slot : Nat} {index : TableIndex} {frame : PhysicalFrame},
        page < range.length / pageSize → frame.address = physical.start.value + page * pageSize →
        inv current → current.insertLeaf slot index frame permissions cache = .ok next → inv next)
    (built : build mappings mode = .ok plan) : inv plan := by
  obtain ⟨empty, begun, added, _⟩ := build_eq_ok built
  refine foldlM_invariant (fun _ current => inv current) (start begun) ?_ added
  intro before mapping rest current next split holds stepped
  have member : mapping ∈ mappings.entries := by simp [split]
  cases mapping with
  | guard range =>
      obtain rfl := addMapping_guard_eq_ok stepped
      exact holds
  | mapping range physical permissions cache kind =>
      refine foldlM_range_invariant (fun _ current => inv current) holds ?_
        (addMapping_mapping_eq_ok stepped)
      intro page current next below holds paged
      obtain ⟨address, frame, _, backing, inserted⟩ := addPage_eq_ok paged
      unfold insertPage at inserted
      obtain ⟨⟨pdpt, first⟩, firstEnsured, inserted⟩ := bind_eq_ok.mp inserted
      obtain ⟨⟨pd, second⟩, secondEnsured, inserted⟩ := bind_eq_ok.mp inserted
      obtain ⟨⟨pt, third⟩, thirdEnsured, inserted⟩ := bind_eq_ok.mp inserted
      have opened : inv third := ensureChild_keeps tables
        (ensureChild_keeps tables (ensureChild_keeps tables holds firstEnsured) secondEnsured)
        thirdEnsured
      exact leaves member below backing opened inserted

end

/-! ## Links -/

/-- Every table but the root is the target of the entry its record names. -/
def Linked (plan : ConstructionPlan tableCapacity entryCapacity removalCapacity) : Prop :=
  ∀ (slot : Nat) (table : PlannedTable), plan.tables[slot]? = some table → slot ≠ frameSlotRoot →
    ∃ parent index entry, table.parent = some (parent, index) ∧
      plan.findEntry parent index = some entry ∧ entry.target = .tableSlot slot

theorem checkTable_eq_ok {table : PlannedTable} (checked : plan.checkTable table = .ok ()) :
    ∃ parent index entry, table.parent = some (parent, index) ∧
      plan.findEntry parent index = some entry ∧ entry.target = .tableSlot table.frameSlot := by
  obtain ⟨⟨parent, index⟩, recorded, checked⟩ := bind_eq_ok.mp checked
  obtain ⟨entry, found, checked⟩ := bind_eq_ok.mp checked
  simp only [guard_eq_ok, not_or, not_not] at checked
  obtain ⟨⟨slot, _⟩, _⟩ := checked
  refine ⟨parent, index, entry, okOr_eq_ok.mp recorded, okOr_eq_ok.mp found, ?_⟩
  cases target : entry.target with
  | physicalFrame frame => simp [target, EntryTarget.frameSlot] at slot
  | tableSlot child =>
      simp only [target, EntryTarget.frameSlot, Option.some.injEq] at slot
      rw [slot]

theorem mem_tail {slot : Nat} {table : PlannedTable} (found : plan.tables[slot]? = some table)
    (other : slot ≠ frameSlotRoot) : table ∈ plan.tables.tail := by
  refine List.mem_iff_getElem?.mpr ⟨slot - 1, ?_⟩
  rw [List.getElem?_tail, Nat.sub_add_cancel (Nat.pos_of_ne_zero other), found]

theorem build_linked {mappings : MappingPlan capacity} {mode : PlanMode}
    (consistent : plan.Consistent) (built : build mappings mode = .ok plan) : plan.Linked := by
  obtain ⟨_, _, _, validated⟩ := build_eq_ok built
  intro slot table found other
  have linked := checkTable_eq_ok (checkAll_eq_ok.mp validated table (mem_tail found other))
  rw [consistent.slots slot table found] at linked
  exact linked

/-- The parent of a table has a smaller slot. -/
theorem Linked.parent_lt (linked : plan.Linked) (consistent : plan.Consistent) {slot : Nat}
    {table : PlannedTable} {parent : Nat} {index : TableIndex}
    (found : plan.tables[slot]? = some table) (recorded : table.parent = some (parent, index)) :
    parent < slot := by
  by_cases root : slot = frameSlotRoot
  · obtain ⟨first, firstFound, _, rootless⟩ := consistent.root
    rw [root, frameSlotRoot, firstFound] at found
    cases found
    rw [rootless] at recorded
    contradiction
  · obtain ⟨_, _, entry, same, entryFound, target⟩ := linked slot table found root
    rw [recorded] at same
    cases same
    obtain ⟨member, rfl, _⟩ := findEntry_some entryFound
    obtain ⟨_, _, fits⟩ := consistent.fits entry member
    simp only [target] at fits
    exact fits.2.1

/-- Two entries that lead to the same table are the same entry. -/
theorem Consistent.entry_of_child (consistent : plan.Consistent) {slot other child : Nat}
    {index otherIndex : TableIndex} {entry otherEntry : PlannedEntry}
    (found : plan.findEntry slot index = some entry) (target : entry.target = .tableSlot child)
    (otherFound : plan.findEntry other otherIndex = some otherEntry)
    (otherTarget : otherEntry.target = .tableSlot child) : slot = other ∧ index = otherIndex := by
  obtain ⟨member, rfl, rfl⟩ := findEntry_some found
  obtain ⟨otherMember, rfl, rfl⟩ := findEntry_some otherFound
  obtain ⟨_, _, fits⟩ := consistent.fits entry member
  obtain ⟨_, _, otherFits⟩ := consistent.fits otherEntry otherMember
  simp only [target] at fits
  simp only [otherTarget] at otherFits
  obtain ⟨_, _, record, recordFound, _, parent⟩ := fits
  obtain ⟨_, _, sameRecord, sameFound, _, otherParent⟩ := otherFits
  rw [recordFound] at sameFound
  cases sameFound
  rw [parent] at otherParent
  simpa using otherParent

/-! ## Removals -/

/-- Every removal expects an entry of the plan. -/
def Removable (plan : ConstructionPlan tableCapacity entryCapacity removalCapacity) : Prop :=
  ∀ removal ∈ plan.removals, ∃ entry ∈ plan.entries, removal.Names entry

/-- A new table of the root in the low half comes with a removal. -/
theorem createChild_removals {parentSlot slot : Nat} {parentLevel : TableLevel}
    {index : TableIndex} {address : VirtualAddress}
    (created : plan.createChild parentSlot parentLevel index address = .ok (slot, after)) :
    after.removals = plan.removals ++
      if parentLevel = .pml4 ∧ address.value < highCanonicalStart then
        [⟨parentSlot, index, slot, .intermediate⟩] else [] := by
  simp only [createChild, guard_eq_ok, bind_eq_ok, okOr_eq_ok, pushEntry, Except.ok.injEq]
    at created
  obtain ⟨_, _, childLevel, _, extended, ⟨_, rfl⟩, created⟩ := created
  split at created
  · rename_i low
    obtain ⟨removed, pushed, result⟩ := bind_eq_ok.mp created
    simp only [pushRemoval, guard_eq_ok, EntryTarget.frameSlot, okOr_some, ok_bind,
      Except.ok.injEq] at pushed
    obtain ⟨_, rfl⟩ := pushed
    cases result
    rw [if_pos low]
  · rename_i high
    cases created
    rw [if_neg high, List.append_nil]

theorem build_removable {mappings : MappingPlan capacity} {mode : PlanMode}
    (built : build mappings mode = .ok plan) : plan.Removable := by
  refine build_keeps ?_ ?_ ?_ built
  · intro empty begun
    simp only [begin, guard_eq_ok, Except.ok.injEq] at begun
    obtain ⟨_, rfl⟩ := begun
    simp [Removable]
  · intro current next parentSlot slot parentLevel index address holds created removal member
    obtain ⟨_, _, _, _, _, _, entries⟩ := createChild_eq_ok created
    rw [entries]
    rw [createChild_removals created] at member
    rcases List.mem_append.mp member with old | fresh
    · obtain ⟨entry, present, names⟩ := holds removal old
      exact ⟨entry, List.mem_append_left _ present, names⟩
    · obtain rfl : removal = ⟨parentSlot, index, slot, .intermediate⟩ := by
        split at fresh <;> simp_all
      exact ⟨_, List.mem_append_right _ (List.mem_singleton_self _), rfl, rfl, rfl, rfl⟩
  · intro range physical permissions cache kind _ current next page slot index frame _ _ holds
      inserted removal member
    obtain ⟨flags, _, _, rfl⟩ := insertLeaf_eq_ok inserted
    obtain ⟨entry, present, names⟩ := holds removal member
    exact ⟨entry, List.mem_append_left _ present, names⟩

/-- A key finds its entry. -/
theorem Consistent.findEntry_mem (consistent : plan.Consistent) {entry : PlannedEntry}
    (member : entry ∈ plan.entries) : plan.findEntry entry.tableSlot entry.index = some entry := by
  obtain ⟨before, rest, split⟩ := List.mem_iff_append.mp member
  have keys := consistent.keys
  rw [split, List.pairwise_append] at keys
  refine List.find?_eq_some_iff_append.mpr ⟨by simp, before, rest, split, ?_⟩
  intro earlier present
  simpa only [Bool.not_eq_true', decide_eq_false_iff_not] using
    keys.2.2 earlier present entry (by simp)

end ConstructionPlan

end UnnamedOS.PageTable
