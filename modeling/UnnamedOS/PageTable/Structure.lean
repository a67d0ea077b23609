import UnnamedOS.Data.Trie
import UnnamedOS.PageTable.Plan

namespace UnnamedOS.PageTable

open UnnamedOS.Data UnnamedOS.Layout

namespace ConstructionPlan

variable {tableCapacity entryCapacity removalCapacity : Nat}

/-! # The plan as a trie

`find_entry` makes the entry list a node store over frame slots.  The table
records carry each slot's level and parent, which is what keeps two different
index paths from reaching the same table. -/

def edgeOf (entry : PlannedEntry) : Target Nat PlannedEntry :=
  match entry.target with
  | .tableSlot slot => .node slot
  | .physicalFrame _ => .leaf entry

def edges (plan : ConstructionPlan tableCapacity entryCapacity removalCapacity) :
    Edges Nat TableIndex PlannedEntry :=
  fun slot index => (plan.findEntry slot index).map edgeOf

def parentOf (plan : ConstructionPlan tableCapacity entryCapacity removalCapacity)
    (slot : Nat) : Option (Nat × TableIndex) :=
  (plan.tables[slot]?).bind PlannedTable.parent

def levelAt : Nat → Option TableLevel
  | 0 => some .pml4
  | depth + 1 => (levelAt depth).bind TableLevel.child

def upperPath (address : VirtualAddress) : List TableIndex :=
  [tableIndexAt address 39, tableIndexAt address 30, tableIndexAt address 21]

def lastIndex (address : VirtualAddress) : TableIndex := tableIndexAt address 12

variable {plan : ConstructionPlan tableCapacity entryCapacity removalCapacity}

theorem findEntry_some {slot : Nat} {index : TableIndex} {entry : PlannedEntry}
    (found : plan.findEntry slot index = some entry) :
    entry ∈ plan.entries ∧ entry.tableSlot = slot ∧ entry.index = index := by
  have keys := List.find?_some found
  simp only [decide_eq_true_eq] at keys
  exact ⟨List.mem_of_find?_eq_some found, keys⟩

theorem leafEntry_eq_leafAt (address : VirtualAddress) :
    plan.leafEntry address =
      leafAt plan.edges frameSlotRoot (upperPath address) (lastIndex address) := by
  -- Each level of the walk is the same two-way split: no entry, a leaf, or a child table.
  have level (slot : Nat) (index : TableIndex) :
      (plan.findEntry slot index = none ∧ plan.edges slot index = none) ∨
      (∃ entry frame, plan.findEntry slot index = some entry ∧
        entry.target = .physicalFrame frame ∧ plan.edges slot index = some (.leaf entry)) ∨
      (∃ entry child, plan.findEntry slot index = some entry ∧
        entry.target = .tableSlot child ∧ plan.edges slot index = some (.node child)) := by
    unfold edges
    cases found : plan.findEntry slot index with
    | none => exact .inl ⟨rfl, rfl⟩
    | some entry =>
        cases target : entry.target with
        | physicalFrame frame =>
            exact .inr (.inl ⟨entry, frame, rfl, target, by simp [edgeOf, target]⟩)
        | tableSlot child =>
            exact .inr (.inr ⟨entry, child, rfl, target, by simp [edgeOf, target]⟩)
  simp only [leafEntry, virtualAddressIndices, upperPath, lastIndex, leafAt, descend]
  rcases level frameSlotRoot (tableIndexAt address 39) with
    ⟨found, edge⟩ | ⟨entry, frame, found, target, edge⟩ | ⟨entry, pdpt, found, target, edge⟩
  · simp [found, edge]
  · simp [found, edge, target, EntryTarget.frameSlot]
  · simp only [found, edge, target, EntryTarget.frameSlot, Option.bind_eq_bind, Option.bind_some]
    rcases level pdpt (tableIndexAt address 30) with
      ⟨found, edge⟩ | ⟨entry, frame, found, target, edge⟩ | ⟨entry, pd, found, target, edge⟩
    · simp [found, edge]
    · simp [found, edge, target]
    · simp only [found, edge, target, Option.bind_some]
      rcases level pd (tableIndexAt address 21) with
        ⟨found, edge⟩ | ⟨entry, frame, found, target, edge⟩ | ⟨entry, pt, found, target, edge⟩
      · simp [found, edge]
      · simp [found, edge, target]
      · simp only [found, edge, target, Option.bind_some]
        rcases level pt (tableIndexAt address 12) with
          ⟨found, edge⟩ | ⟨entry, frame, found, target, edge⟩ | ⟨entry, next, found, target, edge⟩
        · simp [found, edge]
        · simp [found, edge, target]
        · simp [found, edge, target]

/-- An entry fits the tables: a leaf stands in a page table with leaf flags, and
a table entry is the recorded parent of its target, one level up and at a
smaller slot. -/
def EntryFits (tables : List PlannedTable) (entry : PlannedEntry) : Prop :=
  ∃ table, tables[entry.tableSlot]? = some table ∧
    match entry.target with
    | .physicalFrame _ => table.level = .pt ∧
        ∃ permissions cache, EntryFlags.forLeaf permissions cache = .ok entry.flags
    | .tableSlot slot => entry.flags = .intermediate ∧ entry.tableSlot < slot ∧
        ∃ child, tables[slot]? = some child ∧ table.level.child = some child.level ∧
          child.parent = some (entry.tableSlot, entry.index)

/-- The invariant of the plan under construction. -/
structure Consistent (plan : ConstructionPlan tableCapacity entryCapacity removalCapacity) :
    Prop where
  root : ∃ table, plan.tables[0]? = some table ∧ table.level = .pml4 ∧ table.parent = none
  slots : ∀ (slot : Nat) (table : PlannedTable), plan.tables[slot]? = some table → table.frameSlot = slot
  fits : ∀ entry ∈ plan.entries, EntryFits plan.tables entry
  keys : plan.entries.Pairwise fun left right =>
    ¬ (left.tableSlot = right.tableSlot ∧ left.index = right.index)

theorem EntryFits.append {tables more : List PlannedTable} {entry : PlannedEntry}
    (fits : EntryFits tables entry) : EntryFits (tables ++ more) entry := by
  have grows {slot : Nat} {table : PlannedTable} (found : tables[slot]? = some table) :
      (tables ++ more)[slot]? = some table := by
    rw [List.getElem?_append_left (List.getElem?_eq_some_iff.mp found).1, found]
  obtain ⟨table, found, rest⟩ := fits
  refine ⟨table, grows found, ?_⟩
  split
  · rename_i frame target
    simpa only [target] using rest
  · rename_i slot target
    simp only [target] at rest
    obtain ⟨flags, below, child, childFound, levels, parent⟩ := rest
    exact ⟨flags, below, child, grows childFound, levels, parent⟩

namespace Consistent

theorem treeShaped (consistent : plan.Consistent) :
    TreeShaped plan.edges frameSlotRoot plan.parentOf where
  recorded := by
    intro slot index child edge
    obtain ⟨entry, found, node⟩ := Option.map_eq_some_iff.mp edge
    obtain ⟨member, rfl, rfl⟩ := findEntry_some found
    obtain ⟨table, _, rest⟩ := consistent.fits entry member
    cases target : entry.target with
    | physicalFrame frame => simp [edgeOf, target] at node
    | tableSlot slot =>
        simp only [edgeOf, target, Target.node.injEq] at node
        subst node
        simp only [target] at rest
        obtain ⟨_, _, record, recordFound, _, parent⟩ := rest
        simp [parentOf, recordFound, parent]
  rootless := by
    obtain ⟨table, found, _, parent⟩ := consistent.root
    simp only [parentOf, frameSlotRoot, found, Option.bind_some, parent]

/-- The level of a table is its depth below the root. -/
theorem level_of_descend (consistent : plan.Consistent) {path : List TableIndex} {slot : Nat}
    (reached : descend plan.edges frameSlotRoot path = some slot) :
    ∃ table, plan.tables[slot]? = some table ∧ levelAt path.length = some table.level := by
  induction path using List.reverseRecOn generalizing slot with
  | nil =>
      obtain ⟨table, found, level, _⟩ := consistent.root
      have same : frameSlotRoot = slot := by simpa [descend] using reached
      subst same
      exact ⟨table, found, by simp [levelAt, level]⟩
  | append_singleton path index ih =>
      rw [descend_append_singleton] at reached
      split at reached
      · contradiction
      · rename_i upper upperReached
        split at reached
        · rename_i child edge
          cases reached
          obtain ⟨table, tableFound, level⟩ := ih upperReached
          obtain ⟨entry, found, node⟩ := Option.map_eq_some_iff.mp edge
          obtain ⟨member, rfl, rfl⟩ := findEntry_some found
          obtain ⟨recorded, recordedFound, rest⟩ := consistent.fits entry member
          rw [tableFound] at recordedFound
          cases recordedFound
          cases target : entry.target with
          | physicalFrame frame => simp [edgeOf, target] at node
          | tableSlot childSlot =>
              simp only [edgeOf, target, Target.node.injEq] at node
              subst node
              simp only [target] at rest
              obtain ⟨_, _, childTable, childFound, childLevel, _⟩ := rest
              exact ⟨childTable, childFound, by simp [levelAt, level, childLevel]⟩
        · contradiction

/-- A slot past the last table has no entries yet. -/
theorem childless (consistent : plan.Consistent) (index : TableIndex) :
    plan.edges plan.tables.length index = none := by
  cases edge : plan.edges plan.tables.length index with
  | none => rfl
  | some target =>
      obtain ⟨entry, found, _⟩ := Option.map_eq_some_iff.mp edge
      obtain ⟨member, slot, _⟩ := findEntry_some found
      obtain ⟨table, tableFound, _⟩ := consistent.fits entry member
      have bound := (List.getElem?_eq_some_iff.mp tableFound).1
      omega

end Consistent

theorem edges_push {entry : PlannedEntry}
    {extended : ConstructionPlan tableCapacity entryCapacity removalCapacity}
    (entries : extended.entries = plan.entries ++ [entry])
    (free : plan.findEntry entry.tableSlot entry.index = none) :
    extended.edges = addEdge plan.edges entry.tableSlot entry.index (edgeOf entry) := by
  funext slot index
  have lookup : extended.findEntry slot index =
      (plan.findEntry slot index).or
        (if entry.tableSlot = slot ∧ entry.index = index then some entry else none) := by
    simp only [findEntry, entries, List.find?_append, List.find?_singleton, decide_eq_true_eq]
  by_cases here : slot = entry.tableSlot ∧ index = entry.index
  · obtain ⟨rfl, rfl⟩ := here
    rw [addEdge_self]
    simp only [edges, lookup, free, Option.none_or, and_self, if_true, Option.map_some]
  · rw [addEdge_other here]
    have absent : ¬ (entry.tableSlot = slot ∧ entry.index = index) :=
      fun both => here ⟨both.1.symm, both.2.symm⟩
    simp only [edges, lookup, if_neg absent, Option.or_none]

theorem keys_push {entry : PlannedEntry}
    (keys : plan.entries.Pairwise fun left right =>
      ¬ (left.tableSlot = right.tableSlot ∧ left.index = right.index))
    (free : plan.findEntry entry.tableSlot entry.index = none) :
    (plan.entries ++ [entry]).Pairwise fun left right =>
      ¬ (left.tableSlot = right.tableSlot ∧ left.index = right.index) := by
  refine List.pairwise_append.mpr ⟨keys, by simp, ?_⟩
  intro existing member added addedMember
  obtain rfl := List.mem_singleton.mp addedMember
  have absent := List.find?_eq_none.mp free existing member
  simpa using absent

/-- What one step down the hierarchy leaves: a consistent plan in which the
path reaches the returned slot and every leaf is where it was. -/
structure Opened (before after : ConstructionPlan tableCapacity entryCapacity removalCapacity)
    (path : List TableIndex) (slot : Nat) : Prop where
  consistent : after.Consistent
  reached : descend after.edges frameSlotRoot path = some slot
  leaves : ∀ upper last, leafAt after.edges frameSlotRoot upper last =
    leafAt before.edges frameSlotRoot upper last
  mode : after.mode = before.mode

theorem pushRemoval_entries {entry : PlannedEntry}
    {after : ConstructionPlan tableCapacity entryCapacity removalCapacity}
    (pushed : plan.pushRemoval entry = .ok after) :
    after.tables = plan.tables ∧ after.entries = plan.entries ∧ after.mode = plan.mode := by
  simp only [pushRemoval, guard_eq_ok, bind_eq_ok, Except.ok.injEq] at pushed
  obtain ⟨_, target, _, rfl⟩ := pushed
  exact ⟨rfl, rfl, rfl⟩

/-- Everything `createChild` can do to the tables and entries. -/
theorem createChild_eq_ok {parentSlot slot : Nat} {parentLevel : TableLevel}
    {index : TableIndex} {address : VirtualAddress}
    {after : ConstructionPlan tableCapacity entryCapacity removalCapacity}
    (created : plan.createChild parentSlot parentLevel index address = .ok (slot, after)) :
    ∃ childLevel, parentLevel.child = some childLevel ∧ slot = plan.tables.length ∧
      plan.tables.length < 2 ^ 32 ∧ after.mode = plan.mode ∧
      after.tables = plan.tables ++ [{
        level := childLevel, frameSlot := slot, parentSlot, parentIndex := index }] ∧
      after.entries = plan.entries ++ [{
        tableSlot := parentSlot, index, target := .tableSlot slot, flags := .intermediate }] := by
  simp only [createChild, guard_eq_ok, bind_eq_ok, okOr_eq_ok, pushEntry, Except.ok.injEq] at created
  obtain ⟨_, fits, childLevel, level, extended, ⟨_, rfl⟩, rest⟩ := created
  refine ⟨childLevel, level, ?_⟩
  split at rest
  · obtain ⟨removed, pushed, result⟩ := bind_eq_ok.mp rest
    cases result
    obtain ⟨tables, entries, mode⟩ := pushRemoval_entries pushed
    exact ⟨rfl, by omega, mode, tables, entries⟩
  · cases rest
    exact ⟨rfl, by omega, rfl, rfl, rfl⟩

/-- A plan grown by one table and the entry that reaches it stays consistent. -/
theorem Consistent.pushTable {table : PlannedTable} {entry : PlannedEntry}
    {after : ConstructionPlan tableCapacity entryCapacity removalCapacity}
    (consistent : plan.Consistent)
    (tables : after.tables = plan.tables ++ [table]) (entries : after.entries = plan.entries ++ [entry])
    (slot : table.frameSlot = plan.tables.length)
    (free : plan.findEntry entry.tableSlot entry.index = none)
    (fits : EntryFits after.tables entry) : after.Consistent where
  root := by
    obtain ⟨root, found, rest⟩ := consistent.root
    refine ⟨root, ?_, rest⟩
    rw [tables, List.getElem?_append_left (List.getElem?_eq_some_iff.mp found).1, found]
  slots := by
    intro candidate record found
    rw [tables] at found
    by_cases old : candidate < plan.tables.length
    · rw [List.getElem?_append_left old] at found
      exact consistent.slots candidate record found
    · rw [List.getElem?_append_right (by omega)] at found
      obtain ⟨position, same⟩ := List.getElem?_eq_some_iff.mp found
      have last : candidate = plan.tables.length := by
        simp only [List.length_singleton] at position
        omega
      subst last
      simp only [Nat.sub_self, List.getElem_cons_zero] at same
      rw [← same, slot]
  fits := by
    rw [entries]
    refine forall_mem_append_singleton ?_ fits
    intro candidate old
    rw [tables]
    exact (consistent.fits candidate old).append
  keys := by
    rw [entries]
    exact keys_push consistent.keys free

theorem createChild_opens {parentSlot slot : Nat} {parentLevel : TableLevel}
    {index : TableIndex} {address : VirtualAddress} {path : List TableIndex}
    {after : ConstructionPlan tableCapacity entryCapacity removalCapacity}
    (consistent : plan.Consistent)
    (reached : descend plan.edges frameSlotRoot path = some parentSlot)
    (level : levelAt path.length = some parentLevel)
    (free : plan.findEntry parentSlot index = none)
    (created : plan.createChild parentSlot parentLevel index address = .ok (slot, after)) :
    Opened plan after (path ++ [index]) slot := by
  obtain ⟨childLevel, child, rfl, fits, mode, tables, entries⟩ := createChild_eq_ok created
  obtain ⟨parentTable, parentFound, parentLevels⟩ := consistent.level_of_descend reached
  have parentBound := (List.getElem?_eq_some_iff.mp parentFound).1
  have sameLevel : parentTable.level = parentLevel := by
    rw [level] at parentLevels
    exact (Option.some.inj parentLevels).symm
  have grown : after.edges = addEdge plan.edges parentSlot index (.node plan.tables.length) :=
    edges_push entries free
  have unused : plan.edges parentSlot index = none := by simp [edges, free]
  have distinct : plan.tables.length ≠ parentSlot := by omega
  have shape := consistent.treeShaped
  -- The parent's slot is below the new one, so it is not the sentinel for "no parent".
  have parentRecorded : parentSlot ≠ frameSlotNone := by
    simp only [frameSlotNone]
    omega
  refine ⟨consistent.pushTable tables entries rfl free ?_, ?_, ?_, mode⟩
  · rw [tables]
    refine ⟨parentTable, ?_, rfl, parentBound, ⟨childLevel, plan.tables.length, parentSlot, index⟩,
      ?_, by rw [sameLevel]; exact child, if_neg parentRecorded⟩
    · rw [List.getElem?_append_left parentBound, parentFound]
    · rw [List.getElem?_append_right (Nat.le_refl _), Nat.sub_self]
      rfl
  · rw [grown, descend_addEdge_node shape reached unused distinct consistent.childless, if_pos rfl]
  · intro upper last
    rw [grown]
    exact leafAt_addEdge_node shape reached unused distinct consistent.childless

theorem ensureChild_opens {parentSlot slot : Nat} {parentLevel : TableLevel}
    {index : TableIndex} {address : VirtualAddress} {path : List TableIndex}
    {after : ConstructionPlan tableCapacity entryCapacity removalCapacity}
    (consistent : plan.Consistent)
    (reached : descend plan.edges frameSlotRoot path = some parentSlot)
    (level : levelAt path.length = some parentLevel)
    (ensured : plan.ensureChild parentSlot parentLevel index address = .ok (slot, after)) :
    Opened plan after (path ++ [index]) slot := by
  unfold ensureChild at ensured
  split at ensured
  · rename_i existing found
    obtain ⟨child, target, result⟩ := bind_eq_ok.mp ensured
    cases result
    have edge : plan.edges parentSlot index = some (.node slot) := by
      cases kind : existing.target with
      | physicalFrame frame => simp [kind, EntryTarget.frameSlot] at target
      | tableSlot next =>
          simp only [kind, EntryTarget.frameSlot, okOr_some, Except.ok.injEq] at target
          simp [edges, found, edgeOf, kind, target]
    refine ⟨consistent, ?_, fun _ _ => rfl, rfl⟩
    rw [descend_append_singleton, reached]
    simp only [edge]
  · rename_i free
    exact createChild_opens consistent reached level free ensured

/-- What inserting one page leaves: the leaf at the address's path is new, and
it is the only one that changed. -/
structure Inserted (before after : ConstructionPlan tableCapacity entryCapacity removalCapacity)
    (address : VirtualAddress) (frame : PhysicalFrame) (flags : EntryFlags) : Prop where
  consistent : after.Consistent
  absent : leafAt before.edges frameSlotRoot (upperPath address) (lastIndex address) = none
  leaves : ∃ leaf : PlannedEntry, leaf.target = .physicalFrame frame ∧ leaf.flags = flags ∧
    ∀ upper last, leafAt after.edges frameSlotRoot upper last =
      if upper = upperPath address ∧ last = lastIndex address then some leaf
      else leafAt before.edges frameSlotRoot upper last
  mode : after.mode = before.mode

theorem insertLeaf_eq_ok {slot : Nat} {index : TableIndex} {frame : PhysicalFrame}
    {permissions : MappingPermissions} {cache : CachePolicy}
    {after : ConstructionPlan tableCapacity entryCapacity removalCapacity}
    (inserted : plan.insertLeaf slot index frame permissions cache = .ok after) :
    ∃ flags, EntryFlags.forLeaf permissions cache = .ok flags ∧
      plan.findEntry slot index = none ∧ after = { plan with
        entries := plan.entries ++ [⟨slot, index, .physicalFrame frame, flags⟩] } := by
  obtain ⟨flags, leafFlags, rest⟩ := bind_eq_ok.mp inserted
  refine ⟨flags, leafFlags, ?_⟩
  split at rest
  · dsimp only at rest
    split at rest <;> contradiction
  · rename_i free
    simp only [pushEntry, guard_eq_ok, Except.ok.injEq] at rest
    exact ⟨free, rest.2.symm⟩

theorem insertLeaf_inserts {slot : Nat} {address : VirtualAddress} {frame : PhysicalFrame}
    {permissions : MappingPermissions} {cache : CachePolicy}
    {after : ConstructionPlan tableCapacity entryCapacity removalCapacity}
    (consistent : plan.Consistent)
    (reached : descend plan.edges frameSlotRoot (upperPath address) = some slot)
    (inserted : plan.insertLeaf slot (lastIndex address) frame permissions cache = .ok after) :
    ∃ flags, EntryFlags.forLeaf permissions cache = .ok flags ∧
      Inserted plan after address frame flags := by
  obtain ⟨flags, leafFlags, free, rfl⟩ := insertLeaf_eq_ok inserted
  let leaf : PlannedEntry :=
    { tableSlot := slot, index := lastIndex address, target := .physicalFrame frame, flags }
  have unused : plan.edges slot (lastIndex address) = none := by simp [edges, free]
  obtain ⟨table, found, level⟩ := consistent.level_of_descend reached
  have pageTable : table.level = .pt := by
    simpa [upperPath, levelAt, TableLevel.child, eq_comm] using level
  refine ⟨flags, leafFlags, ⟨consistent.root, consistent.slots, ?_,
    keys_push consistent.keys free⟩, ?_, ⟨leaf, rfl, rfl, ?_⟩, rfl⟩
  · exact forall_mem_append_singleton consistent.fits
      ⟨table, found, pageTable, permissions, cache, leafFlags⟩
  · simp only [leafAt, reached, unused]
  · intro upper last
    have appended : ({ plan with entries := plan.entries ++ [leaf] } :
      ConstructionPlan tableCapacity entryCapacity removalCapacity).entries =
        plan.entries ++ [leaf] := rfl
    have grown := edges_push appended free
    have leafEdge : edgeOf leaf = .leaf leaf := rfl
    rw [leafEdge] at grown
    rw [grown]
    exact leafAt_addEdge_leaf consistent.treeShaped reached unused

theorem insertPage_inserts {address : VirtualAddress} {frame : PhysicalFrame}
    {permissions : MappingPermissions} {cache : CachePolicy}
    {after : ConstructionPlan tableCapacity entryCapacity removalCapacity}
    (consistent : plan.Consistent)
    (inserted : plan.insertPage address frame permissions cache = .ok after) :
    ∃ flags, EntryFlags.forLeaf permissions cache = .ok flags ∧
      Inserted plan after address frame flags := by
  unfold insertPage at inserted
  obtain ⟨⟨pdpt, first⟩, firstEnsured, inserted⟩ := bind_eq_ok.mp inserted
  obtain ⟨⟨pd, second⟩, secondEnsured, inserted⟩ := bind_eq_ok.mp inserted
  obtain ⟨⟨pt, third⟩, thirdEnsured, inserted⟩ := bind_eq_ok.mp inserted
  have rootReached : descend plan.edges frameSlotRoot [] = some frameSlotRoot := rfl
  have firstOpened := ensureChild_opens consistent rootReached rfl firstEnsured
  have secondOpened := ensureChild_opens firstOpened.consistent firstOpened.reached rfl secondEnsured
  have thirdOpened := ensureChild_opens secondOpened.consistent secondOpened.reached rfl thirdEnsured
  have reached : descend third.edges frameSlotRoot (upperPath address) = some pt :=
    thirdOpened.reached
  obtain ⟨flags, leafFlags, result⟩ := insertLeaf_inserts thirdOpened.consistent reached inserted
  have leaves (upper : List TableIndex) (last : TableIndex) :
      leafAt third.edges frameSlotRoot upper last = leafAt plan.edges frameSlotRoot upper last := by
    rw [thirdOpened.leaves, secondOpened.leaves, firstOpened.leaves]
  refine ⟨flags, leafFlags, result.consistent, ?_, ?_, ?_⟩
  · rw [← leaves]
    exact result.absent
  · obtain ⟨leaf, target, flagged, changed⟩ := result.leaves
    refine ⟨leaf, target, flagged, ?_⟩
    intro upper last
    rw [changed, leaves]
  · rw [result.mode, thirdOpened.mode, secondOpened.mode, firstOpened.mode]

theorem begin_consistent {mode : PlanMode}
    (begun : begin mode = .ok plan) :
    plan.Consistent ∧ plan.mode = mode ∧ plan.entries = [] := by
  simp only [begin, guard_eq_ok, Except.ok.injEq] at begun
  obtain ⟨_, rfl⟩ := begun
  refine ⟨⟨⟨_, rfl, rfl, rfl⟩, ?_, by simp, .nil⟩, rfl, rfl⟩
  intro slot table found
  obtain ⟨bound, same⟩ := List.getElem?_eq_some_iff.mp found
  have zero : slot = 0 := by
    simp only [List.length_singleton] at bound
    omega
  subst zero
  simp only [List.getElem_cons_zero] at same
  rw [← same]
  rfl

end ConstructionPlan

end UnnamedOS.PageTable
