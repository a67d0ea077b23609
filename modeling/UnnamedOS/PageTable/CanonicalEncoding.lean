import UnnamedOS.PageTable.Encoding

namespace UnnamedOS.PageTable

open UnnamedOS.Data UnnamedOS.Layout

/-! # The encoding names the plan

The header carries the three counts and every record has a fixed size, so an
encoding also says where it ends: of two built plans neither encoding continues
the other.  The records hold slots, targets and flags in full, because in a
built plan all of them fit the words they are stored in. -/

/-! ## Each record determines what it was made of -/

theorem PlannedTable.bytes_eq (table : PlannedTable) :
    table.bytes = [table.level.code, 0, 0, 0] ++ (u32Bytes table.frameSlot ++
      (u32Bytes table.parentSlot ++ (u16Bytes table.parentIndex.value ++ [0, 0]))) := rfl

theorem PlannedEntry.bytes_eq (entry : PlannedEntry) :
    entry.bytes = u32Bytes entry.tableSlot ++ (u16Bytes entry.index.value ++
      ([entry.target.code, 0] ++ (u64Bytes entry.target.value ++ (u64Bytes entry.flags.bits ++
        [0, 0, 0, 0, 0, 0, 0, 0])))) := rfl

theorem TransitionRemoval.bytes_eq (removal : TransitionRemoval) :
    removal.bytes = u32Bytes removal.tableSlot ++ (u16Bytes removal.index.value ++ ([0, 0] ++
      (u32Bytes removal.expectedTarget ++ ([0, 0, 0, 0] ++
        u64Bytes removal.expectedFlags.bits)))) := rfl

theorem ConstructionPlan.headerBytes_eq {tableCapacity entryCapacity removalCapacity : Nat}
    (plan : ConstructionPlan tableCapacity entryCapacity removalCapacity) :
    plan.headerBytes = u16Bytes 1 ++ ([plan.mode.code, 0] ++ (u32Bytes plan.tables.length ++
      (u32Bytes plan.entries.length ++ (u32Bytes plan.removals.length ++
        (u32Bytes frameSlotRoot ++ List.replicate 12 0))))) := rfl

theorem TableLevel.code_inj {left right : TableLevel} (same : left.code = right.code) :
    left = right := by
  cases left <;> cases right <;> first | rfl | exact absurd same (by decide)

theorem PlanMode.code_inj {left right : PlanMode} (same : left.code = right.code) :
    left = right := by
  cases left <;> cases right <;> first | rfl | exact absurd same (by decide)

/-- The kind and the value name the target. -/
theorem EntryTarget.ext_code {left right : EntryTarget} (kind : left.code = right.code)
    (value : left.value = right.value) : left = right := by
  cases left with
  | tableSlot slot =>
      cases right with
      | tableSlot other => exact congrArg _ value
      | physicalFrame frame => exact absurd kind (by simp [code])
  | physicalFrame frame =>
      cases right with
      | tableSlot slot => exact absurd kind (by simp [code])
      | physicalFrame other => exact congrArg _ (PhysicalFrame.ext value)

theorem TableIndex.ext_bytes {left right : TableIndex} {rest more : List UInt8}
    (same : u16Bytes left.value ++ rest = u16Bytes right.value ++ more) :
    left = right ∧ rest = more := by
  obtain ⟨index, same⟩ := List.append_inj same (by simp [u16Bytes])
  exact ⟨TableIndex.ext (leBytes_inj (Nat.lt_trans left.bound (by decide))
    (Nat.lt_trans right.bound (by decide)) index), same⟩

theorem u32Bytes_append_inj {left right : Nat} {rest more : List UInt8} (leftBound : left < 2 ^ 32)
    (rightBound : right < 2 ^ 32) (same : u32Bytes left ++ rest = u32Bytes right ++ more) :
    left = right ∧ rest = more := by
  obtain ⟨word, same⟩ := List.append_inj same (by simp [u32Bytes])
  exact ⟨leBytes_inj leftBound rightBound word, same⟩

theorem u64Bytes_append_inj {left right : Nat} {rest more : List UInt8} (leftBound : left < 2 ^ 64)
    (rightBound : right < 2 ^ 64) (same : u64Bytes left ++ rest = u64Bytes right ++ more) :
    left = right ∧ rest = more := by
  obtain ⟨word, same⟩ := List.append_inj same (by simp [u64Bytes])
  exact ⟨leBytes_inj leftBound rightBound word, same⟩

/-! The source's fields are machine words; here that is a condition. -/

structure PlannedTable.Narrow (table : PlannedTable) : Prop where
  frameSlot : table.frameSlot < 2 ^ 32
  parentSlot : table.parentSlot < 2 ^ 32

structure PlannedEntry.Narrow (entry : PlannedEntry) : Prop where
  tableSlot : entry.tableSlot < 2 ^ 32
  target : entry.target.value < 2 ^ 64
  flags : entry.flags.bits < 2 ^ 64

structure TransitionRemoval.Narrow (removal : TransitionRemoval) : Prop where
  tableSlot : removal.tableSlot < 2 ^ 32
  expectedTarget : removal.expectedTarget < 2 ^ 32
  expectedFlags : removal.expectedFlags.bits < 2 ^ 64

theorem PlannedTable.bytes_inj {left right : PlannedTable} (leftNarrow : left.Narrow)
    (rightNarrow : right.Narrow) (same : left.bytes = right.bytes) : left = right := by
  rw [bytes_eq, bytes_eq] at same
  obtain ⟨level, same⟩ := List.append_inj same rfl
  obtain ⟨frameSlot, same⟩ := u32Bytes_append_inj leftNarrow.frameSlot rightNarrow.frameSlot same
  obtain ⟨parentSlot, same⟩ :=
    u32Bytes_append_inj leftNarrow.parentSlot rightNarrow.parentSlot same
  obtain ⟨parentIndex, _⟩ := TableIndex.ext_bytes same
  have level := TableLevel.code_inj (List.cons.inj level).1
  cases left
  cases right
  simp_all

theorem PlannedEntry.bytes_inj {left right : PlannedEntry} (leftNarrow : left.Narrow)
    (rightNarrow : right.Narrow) (same : left.bytes = right.bytes) : left = right := by
  rw [bytes_eq, bytes_eq] at same
  obtain ⟨tableSlot, same⟩ := u32Bytes_append_inj leftNarrow.tableSlot rightNarrow.tableSlot same
  obtain ⟨index, same⟩ := TableIndex.ext_bytes same
  obtain ⟨kind, same⟩ := List.append_inj same rfl
  obtain ⟨value, same⟩ := u64Bytes_append_inj leftNarrow.target rightNarrow.target same
  obtain ⟨bits, _⟩ := u64Bytes_append_inj leftNarrow.flags rightNarrow.flags same
  have target := EntryTarget.ext_code (List.cons.inj kind).1 value
  have flags := EntryFlags.ext bits
  cases left
  cases right
  simp_all

theorem TransitionRemoval.bytes_inj {left right : TransitionRemoval} (leftNarrow : left.Narrow)
    (rightNarrow : right.Narrow) (same : left.bytes = right.bytes) : left = right := by
  rw [bytes_eq, bytes_eq] at same
  obtain ⟨tableSlot, same⟩ := u32Bytes_append_inj leftNarrow.tableSlot rightNarrow.tableSlot same
  obtain ⟨index, same⟩ := TableIndex.ext_bytes same
  obtain ⟨_, same⟩ := List.append_inj same rfl
  obtain ⟨target, same⟩ :=
    u32Bytes_append_inj leftNarrow.expectedTarget rightNarrow.expectedTarget same
  obtain ⟨_, bits⟩ := List.append_inj same rfl
  have flags := EntryFlags.ext
    (leBytes_inj leftNarrow.expectedFlags rightNarrow.expectedFlags bits)
  cases left
  cases right
  simp_all

namespace ConstructionPlan

variable {tableCapacity entryCapacity removalCapacity capacity : Nat}
  {otherTables otherEntries otherRemovals otherCapacity : Nat}
  {plan : ConstructionPlan tableCapacity entryCapacity removalCapacity}
  {other : ConstructionPlan otherTables otherEntries otherRemovals}

structure Narrow (plan : ConstructionPlan tableCapacity entryCapacity removalCapacity) : Prop where
  counts : plan.CountsFit
  tables : ∀ table ∈ plan.tables, table.Narrow
  entries : ∀ entry ∈ plan.entries, entry.Narrow
  removals : ∀ removal ∈ plan.removals, removal.Narrow

theorem headerBytes_inj (counts : plan.CountsFit) (otherCounts : other.CountsFit)
    (same : plan.headerBytes = other.headerBytes) :
    plan.mode = other.mode ∧ plan.tables.length = other.tables.length ∧
      plan.entries.length = other.entries.length ∧
      plan.removals.length = other.removals.length := by
  rw [headerBytes_eq, headerBytes_eq] at same
  obtain ⟨tables, entries, removals⟩ := counts
  obtain ⟨otherTables, otherEntries, otherRemovals⟩ := otherCounts
  obtain ⟨_, same⟩ := List.append_inj same rfl
  obtain ⟨mode, same⟩ := List.append_inj same rfl
  obtain ⟨tableCount, same⟩ := u32Bytes_append_inj tables otherTables same
  obtain ⟨entryCount, same⟩ := u32Bytes_append_inj entries otherEntries same
  obtain ⟨removalCount, _⟩ := u32Bytes_append_inj removals otherRemovals same
  exact ⟨PlanMode.code_inj (List.cons.inj mode).1, tableCount, entryCount, removalCount⟩

/-- Nothing that follows an encoding can be taken for a part of it. -/
theorem abstractBytes_append_inj {rest more : List UInt8} (narrow : plan.Narrow)
    (otherNarrow : other.Narrow)
    (same : plan.abstractBytes ++ rest = other.abstractBytes ++ more) :
    plan.mode = other.mode ∧ plan.tables = other.tables ∧ plan.entries = other.entries ∧
      plan.removals = other.removals := by
  simp only [abstractBytes, List.append_assoc] at same
  obtain ⟨header, same⟩ := List.append_inj same
    (plan.length_headerBytes.trans other.length_headerBytes.symm)
  obtain ⟨mode, tableCount, entryCount, removalCount⟩ :=
    headerBytes_inj narrow.counts otherNarrow.counts header
  -- The counts fix where each section ends, whatever follows.
  obtain ⟨tables, same⟩ := flatMap_append_inj PlannedTable.length_bytes tableCount
    (fun first member second otherMember =>
      PlannedTable.bytes_inj (narrow.tables first member)
        (otherNarrow.tables second otherMember)) same
  obtain ⟨entries, same⟩ := flatMap_append_inj PlannedEntry.length_bytes entryCount
    (fun first member second otherMember =>
      PlannedEntry.bytes_inj (narrow.entries first member)
        (otherNarrow.entries second otherMember)) same
  obtain ⟨removals, _⟩ := flatMap_append_inj TransitionRemoval.length_bytes removalCount
    (fun first member second otherMember =>
      TransitionRemoval.bytes_inj (narrow.removals first member)
        (otherNarrow.removals second otherMember)) same
  exact ⟨mode, tables, entries, removals⟩

/-! ## Built plans are narrow -/

theorem leafBits_lt (permissions : MappingPermissions) (cache : CachePolicy) :
    EntryFlags.leafBits permissions cache < 2 ^ 64 := by
  unfold EntryFlags.leafBits
  cases permissions.writable <;> cases permissions.executable <;> cases cache <;> decide

theorem forLeaf_lt {permissions : MappingPermissions} {cache : CachePolicy} {flags : EntryFlags}
    (leaf : EntryFlags.forLeaf permissions cache = .ok flags) : flags.bits < 2 ^ 64 := by
  simp only [EntryFlags.forLeaf, EntryFlags.fromBits, guard_eq_ok, Except.ok.injEq] at leaf
  obtain ⟨_, _, _, _, rfl⟩ := leaf
  exact leafBits_lt permissions cache

/-- Slots name tables, and there are fewer of those than a word can count. -/
theorem slot_lt (counts : plan.CountsFit) {slot : Nat} {table : PlannedTable}
    (found : plan.tables[slot]? = some table) : slot < 2 ^ 32 :=
  Nat.lt_trans (List.getElem?_eq_some_iff.mp found).1 counts.1

theorem Consistent.table_narrow (consistent : plan.Consistent) (linked : plan.Linked)
    (counts : plan.CountsFit) {table : PlannedTable} (member : table ∈ plan.tables) :
    table.Narrow := by
  obtain ⟨slot, found⟩ := List.mem_iff_getElem?.mp member
  have bounded := slot_lt counts found
  have named := consistent.slots slot table found
  by_cases rootless : table.parentSlot = frameSlotNone
  · exact ⟨named ▸ bounded, by rw [rootless]; decide⟩
  · have recorded : table.parent = some (table.parentSlot, table.parentIndex) := if_neg rootless
    have below := linked.parent_lt consistent found recorded
    exact ⟨named ▸ bounded, Nat.lt_trans below bounded⟩

theorem Consistent.entry_narrow (consistent : plan.Consistent) (counts : plan.CountsFit)
    {entry : PlannedEntry} (member : entry ∈ plan.entries) : entry.Narrow := by
  obtain ⟨table, found, fits⟩ := consistent.fits entry member
  have slot := slot_lt counts found
  cases target : entry.target with
  | physicalFrame frame =>
      simp only [target] at fits
      obtain ⟨_, permissions, cache, leaf⟩ := fits
      have bounded : frame.address < 2 ^ 64 := Nat.lt_trans frame.supported (by decide)
      exact ⟨slot, by rwa [target], forLeaf_lt leaf⟩
  | tableSlot child =>
      simp only [target] at fits
      obtain ⟨flags, _, record, childFound, _⟩ := fits
      have bounded : child < 2 ^ 64 := Nat.lt_trans (slot_lt counts childFound) (by decide)
      exact ⟨slot, by rwa [target], by rw [flags]; decide⟩

theorem Consistent.removal_narrow (consistent : plan.Consistent) (removable : plan.Removable)
    (counts : plan.CountsFit) {removal : TransitionRemoval} (member : removal ∈ plan.removals) :
    removal.Narrow := by
  obtain ⟨entry, present, slot, _, target, flags⟩ := removable removal member
  have narrow := consistent.entry_narrow counts present
  obtain ⟨_, _, fits⟩ := consistent.fits entry present
  simp only [target] at fits
  obtain ⟨_, _, _, childFound, _⟩ := fits
  exact ⟨slot ▸ narrow.tableSlot, slot_lt counts childFound, flags ▸ narrow.flags⟩

theorem build_narrow {mode : PlanMode} {calls : List MappingPlan.Call}
    (built : build ((MappingPlan.new capacity).run calls) mode = .ok plan)
    (counts : plan.CountsFit) : plan.Narrow := by
  have invariant := @MappingPlan.reachable_invariant capacity calls
  have consistent := (build_realizes invariant built).consistent
  have linked := build_linked consistent built
  have removable := build_removable built
  exact {
    counts
    tables := fun _ member => consistent.table_narrow linked counts member
    entries := fun _ member => consistent.entry_narrow counts member
    removals := fun _ member => consistent.removal_narrow removable counts member }

/-! ## What a call does to its slice -/

/-- The outcome of a call on a slice with the given contents, for any plan. -/
structure EncodesInPlace (plan : ConstructionPlan tableCapacity entryCapacity removalCapacity)
    (contents : List UInt8) : Prop where
  contentless : ∀ length, (plan.encodeAbstract ⟨contents, []⟩).1 = .ok length →
    ∀ (previous : List UInt8) (again : Nat),
      (plan.encodeAbstract ⟨previous, []⟩).1 = .ok again →
      length = again ∧ (plan.encodeAbstract ⟨contents, []⟩).2.bytes.take length =
        (plan.encodeAbstract ⟨previous, []⟩).2.bytes.take again
  behind : ∀ length, (plan.encodeAbstract ⟨contents, []⟩).1 = .ok length →
    (plan.encodeAbstract ⟨contents, []⟩).2.bytes.drop length = contents.drop length
  within : ∀ length, (plan.encodeAbstract ⟨contents, []⟩).1 = .ok length →
    (plan.encodeAbstract ⟨contents, []⟩).2.Within length
  untouched : (plan.encodeAbstract ⟨contents, []⟩).1 = .error (.failed .outputTooSmall) →
    (plan.encodeAbstract ⟨contents, []⟩).2 = ⟨contents, []⟩

theorem encodesInPlace (plan : ConstructionPlan tableCapacity entryCapacity removalCapacity)
    (contents : List UInt8) : plan.EncodesInPlace contents where
  contentless := by
    intro length encoded previous again repeated
    rw [plan.take_encodeAbstract encoded, plan.take_encodeAbstract repeated,
      (plan.encodeAbstract_eq_ok encoded).1, (plan.encodeAbstract_eq_ok repeated).1]
    exact ⟨rfl, rfl⟩
  behind := by
    intro length encoded
    obtain ⟨rfl, _, advances⟩ := plan.encodeAbstract_eq_ok encoded
    rw [advances.bytes, ← plan.length_abstractBytes, List.drop_left]
  within := by
    intro length encoded
    obtain ⟨_, _, advances⟩ := plan.encodeAbstract_eq_ok encoded
    exact advances.within fun range member => absurd member List.not_mem_nil
  untouched := by
    intro stopped
    rcases plan.encodeAbstract_cases ⟨contents, []⟩ with ⟨next, ran, _⟩ | ran | overflow
    · rw [ran] at stopped
      contradiction
    · rw [ran]
    · rw [overflow] at stopped
      contradiction

/-- Two built plans of which one is encoded as the beginning of the other agree
in all records; and whatever the plan, a call writes its encoding and nothing
else. -/
theorem encodeAbstract_names_plan :
    (∀ {tableCapacity entryCapacity removalCapacity capacity : Nat}
        {otherTables otherEntries otherRemovals otherCapacity : Nat}
        {plan : ConstructionPlan tableCapacity entryCapacity removalCapacity}
        {other : ConstructionPlan otherTables otherEntries otherRemovals}
        {mode otherMode : PlanMode} {calls otherCalls : List MappingPlan.Call}
        {contents otherContents : List UInt8} {length otherLength : Nat},
      build ((MappingPlan.new capacity).run calls) mode = .ok plan →
      build ((MappingPlan.new otherCapacity).run otherCalls) otherMode = .ok other →
      (plan.encodeAbstract ⟨contents, []⟩).1 = .ok length →
      (other.encodeAbstract ⟨otherContents, []⟩).1 = .ok otherLength →
      (plan.encodeAbstract ⟨contents, []⟩).2.bytes.take length <+:
        (other.encodeAbstract ⟨otherContents, []⟩).2.bytes.take otherLength →
      plan.mode = other.mode ∧ plan.tables = other.tables ∧ plan.entries = other.entries ∧
        plan.removals = other.removals) ∧
    (∀ {tableCapacity entryCapacity removalCapacity : Nat}
        (plan : ConstructionPlan tableCapacity entryCapacity removalCapacity)
        (contents : List UInt8), plan.EncodesInPlace contents) := by
  refine ⟨?_, fun plan => plan.encodesInPlace⟩
  intro _ _ _ _ _ _ _ _ plan other _ _ _ _ _ _ _ _ built otherBuilt encoded otherEncoded continued
  have narrow := build_narrow built (plan.encodeAbstract_eq_ok encoded).2.1
  have otherNarrow := build_narrow otherBuilt (other.encodeAbstract_eq_ok otherEncoded).2.1
  rw [plan.take_encodeAbstract encoded, other.take_encodeAbstract otherEncoded] at continued
  obtain ⟨rest, same⟩ := continued
  rw [← List.append_nil other.abstractBytes] at same
  exact abstractBytes_append_inj narrow otherNarrow same

/-- The text page, planned with two sets of capacities and encoded into two slices. -/
theorem encodeAbstract_names_textPage :
    ∃ (plan : ConstructionPlan 4 4 0) (other : ConstructionPlan 5 6 1),
      build ((MappingPlan.new 1).run [textPage]) .final = .ok plan ∧
      build ((MappingPlan.new 2).run [textPage]) .final = .ok other ∧
      (plan.encodeAbstract ⟨List.replicate 224 0xff, []⟩).1 = .ok 224 ∧
      (other.encodeAbstract ⟨List.replicate 225 0, []⟩).1 = .ok 224 ∧
      plan.tables = other.tables := by
  obtain ⟨plan, other, built, otherBuilt, encoded, otherEncoded, same⟩ :
      ∃ (plan : ConstructionPlan 4 4 0) (other : ConstructionPlan 5 6 1),
        build ((MappingPlan.new 1).run [textPage]) .final = .ok plan ∧
        build ((MappingPlan.new 2).run [textPage]) .final = .ok other ∧
        (plan.encodeAbstract ⟨List.replicate 224 0xff, []⟩).1 = .ok 224 ∧
        (other.encodeAbstract ⟨List.replicate 225 0, []⟩).1 = .ok 224 ∧
        plan.abstractBytes = other.abstractBytes :=
    ⟨_, _, rfl, rfl, by decide +kernel, by decide +kernel, rfl⟩
  have continued : (plan.encodeAbstract ⟨List.replicate 224 0xff, []⟩).2.bytes.take 224 <+:
      (other.encodeAbstract ⟨List.replicate 225 0, []⟩).2.bytes.take 224 := by
    rw [plan.take_encodeAbstract encoded, other.take_encodeAbstract otherEncoded, same]
  have agree := encodeAbstract_names_plan.1 built otherBuilt encoded otherEncoded continued
  exact ⟨plan, other, built, otherBuilt, encoded, otherEncoded, agree.2.1⟩

end ConstructionPlan

end UnnamedOS.PageTable
