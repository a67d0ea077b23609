import UnnamedOS.Loader.TransitionPlan
import UnnamedOS.PageTable.Walk

namespace UnnamedOS.Loader

open UnnamedOS.Data UnnamedOS.Layout UnnamedOS.PageTable UnnamedOS.X86

/-! # What the materialized tables translate -/

section

variable {μ δ : Type}

/-- A successful write changes the addressed cell and no other. -/
structure PageTableMemory.Lawful (memory : PageTableMemory μ δ) : Prop where
  written : ∀ (state after : μ) (frame : PhysicalFrame) (index : TableIndex) (value : Nat),
    memory.writeEntry state frame index value = (.ok (), after) →
    memory.readEntry after frame index = .ok value
  others : ∀ (state after : μ) (frame : PhysicalFrame) (index : TableIndex) (value : Nat),
    memory.writeEntry state frame index value = (.ok (), after) →
    ∀ (other : PhysicalFrame) (otherIndex : TableIndex), ¬ (other = frame ∧ otherIndex = index) →
      memory.readEntry after other otherIndex = memory.readEntry state other otherIndex

/-- The cells as the processor addresses them. -/
def PageTableMemory.cells (memory : PageTableMemory μ δ) (state : μ) (address index : Nat) :
    Option Nat :=
  match PhysicalFrame.new address with
  | .error _ => none
  | .ok frame =>
      if bound : index < 512 then (memory.readEntry state frame ⟨index, bound⟩).toOption else none

theorem PageTableMemory.cells_of_readEntry {memory : PageTableMemory μ δ} {state : μ}
    {frame : PhysicalFrame} {index : TableIndex} {value : Nat}
    (found : memory.readEntry state frame index = .ok value) :
    memory.cells state frame.address index.value = some value := by
  have built : PhysicalFrame.new frame.address = .ok frame := PhysicalFrame.new_eq_ok.mpr rfl
  simp only [cells, built, dif_pos index.bound, found]
  rfl

variable {memory : PageTableMemory μ δ} {plan : RuntimePageTablePlan}
  {assignments : FrameAssignments pageTableFrameCapacity}

theorem mem_tableIndices (index : TableIndex) : index ∈ tableIndices :=
  List.mem_map.mpr ⟨⟨index.value, index.bound⟩, List.mem_finRange _, rfl⟩

theorem writeTableEntry_eq_ok {tableSlot : Nat} {frame : PhysicalFrame} {state after : μ}
    {index : TableIndex}
    (written : writeTableEntry memory plan assignments tableSlot frame state index = .ok after) :
    ∃ value, entryValue plan assignments tableSlot index = .ok value ∧
      memory.writeEntry state frame index value = (.ok (), after) := by
  unfold writeTableEntry at written
  split at written
  · contradiction
  · rename_i value encoded
    split at written
    · contradiction
    · rename_i done wrote
      cases written
      exact ⟨value, encoded, wrote⟩

/-- A table's loop fills its frame and touches no other. -/
theorem writeTable_cells (lawful : memory.Lawful) {table : PlannedTable} {frame : PhysicalFrame}
    {state after : μ} (assigned : assignments.frame table.frameSlot = .ok frame)
    (written : writeTable memory plan assignments state table = .ok after) :
    (∀ index, ∃ value, entryValue plan assignments table.frameSlot index = .ok value ∧
      memory.readEntry after frame index = .ok value) ∧
    ∀ other, other ≠ frame → ∀ index,
      memory.readEntry after other index = memory.readEntry state other index := by
  simp only [writeTable, assigned] at written
  have filled := foldlM_invariant (fun done current =>
    (∀ index ∈ done, ∃ value, entryValue plan assignments table.frameSlot index = .ok value ∧
      memory.readEntry current frame index = .ok value) ∧
    ∀ other, other ≠ frame → ∀ index,
      memory.readEntry current other index = memory.readEntry state other index)
    ⟨by simp, fun _ _ _ => rfl⟩ ?_ written
  · exact ⟨fun index => filled.1 index (mem_tableIndices index), filled.2⟩
  · intro done index rest current next _ holds stepped
    obtain ⟨value, encoded, wrote⟩ := writeTableEntry_eq_ok stepped
    refine ⟨?_, ?_⟩
    · intro candidate member
      by_cases here : candidate = index
      · exact ⟨value, here ▸ encoded, here ▸ lawful.written _ _ _ _ _ wrote⟩
      · have earlier : candidate ∈ done := by simpa [here] using member
        obtain ⟨old, oldEncoded, oldRead⟩ := holds.1 candidate earlier
        refine ⟨old, oldEncoded, ?_⟩
        rw [lawful.others _ _ _ _ _ wrote frame candidate (fun both => here both.2), oldRead]
    · intro other different otherIndex
      rw [lawful.others _ _ _ _ _ wrote other otherIndex (fun both => different both.1)]
      exact holds.2 other different otherIndex

section

variable {β ε : Type} {ops : FrameBackend β ε} {tables : AllocatedPageTables β}

theorem materialize_eq_ok {result : MaterializedPageTables β} {state after : μ}
    (materialized : tables.materialize memory ops state = .ok (result, after)) :
    result = ⟨tables.plan, tables.owner⟩ ∧ tables.plan.tables.foldlM
      (writeTable memory tables.plan tables.owner.assignments) state = .ok after := by
  unfold AllocatedPageTables.materialize at materialized
  split at materialized
  · contradiction
  · rename_i final written
    cases materialized
    exact ⟨rfl, written⟩

/-- The frame of the slot holds the planned entries. -/
def MaterializedAt (memory : PageTableMemory μ δ) (tables : AllocatedPageTables β) (state : μ)
    (slot : Nat) : Prop :=
  ∀ frame : PhysicalFrame, tables.owner.frames[slot]? = some frame → ∀ index,
    ∃ value, entryValue tables.plan tables.owner.assignments slot index = .ok value ∧
      memory.readEntry state frame index = .ok value

/-- Writing a table stores it and keeps what is stored in the other frames. -/
theorem writeTable_stored (lawful : memory.Lawful) (distinct : tables.owner.frames.Nodup)
    {table : PlannedTable} {state after : μ}
    (written : writeTable memory tables.plan tables.owner.assignments state table = .ok after)
    {slot : Nat} (stored : slot ≠ table.frameSlot → MaterializedAt memory tables state slot) :
    MaterializedAt memory tables after slot := by
  intro frame found index
  cases assigned : tables.owner.assignments.frame table.frameSlot with
  | error reason =>
      simp only [writeTable, assigned] at written
      contradiction
  | ok target =>
      obtain ⟨cells, others⟩ := writeTable_cells lawful assigned written
      have targetFound : tables.owner.frames[table.frameSlot]? = some target := by
        simpa [FrameAssignments.frame, PageTableFrameOwner.assignments] using assigned
      by_cases here : slot = table.frameSlot
      · subst here
        rw [targetFound] at found
        cases found
        exact cells index
      · -- Two slots never share a frame.
        have different : frame ≠ target := by
          intro same
          rw [← same] at targetFound
          exact here ((List.getElem?_inj (List.getElem?_eq_some_iff.mp found).1 distinct).mp
            (found.trans targetFound.symm))
        obtain ⟨value, encoded, read⟩ := stored here frame found index
        exact ⟨value, encoded, by rw [others frame different index, read]⟩

theorem materialize_stored (lawful : memory.Lawful) {result : MaterializedPageTables β}
    {state after : μ} (consistent : tables.plan.Consistent)
    (distinct : tables.owner.frames.Nodup)
    (complete : tables.owner.frames.length = tables.plan.tableCount)
    (materialized : tables.materialize memory ops state = .ok (result, after)) (slot : Nat) :
    MaterializedAt memory tables after slot := by
  obtain ⟨_, written⟩ := materialize_eq_ok materialized
  have stored := foldlM_invariant (fun done current =>
    ∀ table ∈ done, MaterializedAt memory tables current table.frameSlot) (by simp) ?_ written
  · intro frame found
    have bound : slot < tables.plan.tables.length := by
      have inside := (List.getElem?_eq_some_iff.mp found).1
      rw [complete] at inside
      exact inside
    have here := stored _ (List.getElem_mem bound)
    rw [consistent.slots slot _ (List.getElem?_eq_getElem bound)] at here
    exact here frame found
  · intro done table rest current next _ holds stepped candidate member
    refine writeTable_stored lawful distinct stepped fun different => ?_
    rcases List.mem_append.mp member with earlier | last
    · exact holds candidate earlier
    · rw [List.mem_singleton.mp last] at different
      contradiction

end

end

/-- Every entry of a consistent plan can be encoded once each table has a frame. -/
theorem entryValue_exists {plan : RuntimePageTablePlan}
    {assignments : FrameAssignments pageTableFrameCapacity} (consistent : plan.Consistent)
    (complete : assignments.frames.length = plan.tableCount) (slot : Nat) (index : TableIndex) :
    ∃ value, entryValue plan assignments slot index = .ok value := by
  cases found : expectedEntry plan slot index with
  | none => exact ⟨0, by simp only [entryValue, found]⟩
  | some entry =>
      simp only [entryValue, found]
      obtain ⟨table, _, fits⟩ := consistent.fits entry (List.mem_of_find?_eq_some found)
      cases target : entry.target with
      | physicalFrame frame => exact ⟨_, by simp only [PlannedEntry.encodedValue, target]; rfl⟩
      | tableSlot child =>
          simp only [target] at fits
          obtain ⟨_, _, childTable, childFound, _⟩ := fits
          have bound : child < assignments.frames.length := by
            rw [complete]
            exact (List.getElem?_eq_some_iff.mp childFound).1
          refine ⟨assignments.frames[child].address ||| entry.flags.bits, ?_⟩
          simp only [PlannedEntry.encodedValue, target, FrameAssignments.frame,
            List.getElem?_eq_getElem bound, okOr_some, ok_bind]

theorem writeTable_succeeds {μ δ : Type} {memory : PageTableMemory μ δ}
    {plan : RuntimePageTablePlan} {assignments : FrameAssignments pageTableFrameCapacity}
    (consistent : plan.Consistent) (complete : assignments.frames.length = plan.tableCount)
    (writes : ∀ state frame index value, ∃ after,
      memory.writeEntry state frame index value = (.ok (), after))
    {table : PlannedTable} (assigned : table.frameSlot < plan.tableCount) (state : μ) :
    ∃ after, writeTable memory plan assignments state table = .ok after := by
  have bound : table.frameSlot < assignments.frames.length := complete ▸ assigned
  have frame : assignments.frame table.frameSlot = .ok assignments.frames[table.frameSlot] := by
    simp only [FrameAssignments.frame, List.getElem?_eq_getElem bound, okOr_some]
  obtain ⟨after, filled, _⟩ : ∃ after, tableIndices.foldlM
      (writeTableEntry memory plan assignments table.frameSlot assignments.frames[table.frameSlot])
      state = .ok after ∧ True := by
    refine foldlM_succeeds (fun _ _ => True) trivial ?_
    intro done index rest current _ _
    obtain ⟨value, encoded⟩ := entryValue_exists consistent complete table.frameSlot index
    obtain ⟨next, wrote⟩ := writes current assignments.frames[table.frameSlot] index value
    exact ⟨next, by simp only [writeTableEntry, encoded, wrote], trivial⟩
  exact ⟨after, by simp only [writeTable, frame, filled]⟩

/-- Only the memory can make `materialize` fail. -/
theorem materialize_succeeds {β μ ε δ : Type} (ops : FrameBackend β ε)
    {memory : PageTableMemory μ δ} {tables : AllocatedPageTables β}
    (consistent : tables.plan.Consistent)
    (complete : tables.owner.frames.length = tables.plan.tableCount)
    (writes : ∀ state frame index value, ∃ after,
      memory.writeEntry state frame index value = (.ok (), after)) (state : μ) :
    ∃ after, tables.materialize memory ops state = .ok (⟨tables.plan, tables.owner⟩, after) := by
  obtain ⟨after, ran, _⟩ : ∃ after, tables.plan.tables.foldlM
      (writeTable memory tables.plan tables.owner.assignments) state = .ok after ∧ True := by
    refine foldlM_succeeds (fun _ _ => True) trivial ?_
    intro before table rest current split _
    have position : tables.plan.tables[before.length]? = some table := by simp [split]
    have numbered := consistent.slots before.length table position
    have assigned : table.frameSlot < tables.plan.tableCount := by
      rw [numbered]
      exact (List.getElem?_eq_some_iff.mp position).1
    have assignable : tables.owner.assignments.frames.length = tables.plan.tableCount := complete
    obtain ⟨next, written⟩ := writeTable_succeeds consistent assignable writes assigned current
    exact ⟨next, written, trivial⟩
  exact ⟨after, by simp only [AllocatedPageTables.materialize, ran]⟩

/-! ## The walk -/

section

variable {read : Nat → Nat → Option Nat} {frames : List PhysicalFrame} {root : PhysicalFrame}
  {plan : RuntimePageTablePlan} {entries : List PlanEntry} {address : VirtualAddress}

/-- Inside an identity range the walk ends at the address it started from. -/
theorem pageWalk_identity (stored : plan.Stored frames read) (realizes : plan.Realizes entries)
    (complete : plan.tables.length = frames.length) (rootFound : frames[0]? = some root)
    {start length : Nat} {range : VirtualRange} {physical : PhysicalRange}
    {permissions : MappingPermissions} (identity : IdentityRange start length range physical)
    (member : .mapping range physical permissions .writeBack .transitionIdentity ∈ entries)
    (lower : start ≤ address.value) (upper : address.value < start + length) :
    pageWalk read root.address address.value =
      .mapped address.value permissions.writable (!permissions.executable) := by
  obtain ⟨leaf, found, ⟨frame, target, frameAddress⟩, flags⟩ :=
    realizes.mapped range physical permissions .writeBack .transitionIdentity member address
      ⟨identity.virtualStart ▸ lower, identity.virtualStop ▸ upper⟩
  rcases ConstructionPlan.pageWalk_eq_leafEntry stored realizes.consistent complete rootFound
    address with ⟨absent, _⟩ | ⟨same, sameFrame, sameFound, sameTarget, translated⟩
  · rw [found] at absent
    contradiction
  · rw [found] at sameFound
    cases sameFound
    rw [target] at sameTarget
    cases sameTarget
    have described := forLeaf_flags flags
    have writes : leaf.flags.writable = permissions.writable := by
      rw [Bool.eq_iff_iff, EntryFlags.writable, bne_iff_ne]
      exact described.writable
    have executes : leaf.flags.executable = permissions.executable := by
      have forbids := described.noExecute
      rw [Bool.eq_iff_iff, EntryFlags.executable, beq_iff_eq, ← not_iff_not, Bool.not_eq_true]
      exact forbids
    have whole : frame.address + address.value % 4096 = address.value := by
      have aligned := range.bounds.startAligned
      rw [frameAddress, identity.physicalStart, identity.virtualStart]
      rw [identity.virtualStart] at aligned
      simp only [pageSize] at aligned ⊢
      omega
    rw [translated, writes, executes, whole]

theorem pageWalk_elsewhere (stored : plan.Stored frames read) (realizes : plan.Realizes entries)
    (complete : plan.tables.length = frames.length) (rootFound : frames[0]? = some root)
    (outside : ∀ entry ∈ entries, ¬ entry.virtualRange.contains address) :
    pageWalk read root.address address.value = .notPresent := by
  have absent : plan.leafEntry address = none :=
    realizes.unmapped address fun entry member inside => absurd inside (outside entry member)
  rcases ConstructionPlan.pageWalk_eq_leafEntry stored realizes.consistent complete rootFound
    address with ⟨_, translated⟩ | ⟨leaf, _, found, _⟩
  · exact translated
  · rw [absent] at found
    contradiction

end

/-! ## Whole construction -/

theorem encodedValue_supervisor {plan : RuntimePageTablePlan} (consistent : plan.Consistent)
    {entry : PlannedEntry} (member : entry ∈ plan.entries) {value : Nat}
    {assignments : FrameAssignments pageTableFrameCapacity}
    (encoded : entry.encodedValue assignments = .ok value) :
    value &&& EntryFlags.userBit = 0 ∧ value &&& EntryFlags.hugePage = 0 := by
  have flags : entry.flags.bits &&& EntryFlags.userBit = 0 ∧
      entry.flags.bits &&& EntryFlags.hugePage = 0 := by
    obtain ⟨table, _, fits⟩ := consistent.fits entry member
    cases target : entry.target with
    | physicalFrame frame =>
        simp only [target] at fits
        obtain ⟨_, permissions, cache, built⟩ := fits
        exact ⟨(forLeaf_flags built).user, (forLeaf_flags built).hugePage⟩
    | tableSlot slot =>
        simp only [target] at fits
        rw [fits.1]
        decide
  obtain ⟨frame, rfl⟩ := PlannedEntry.encodedValue_eq_ok encoded
  rw [entry_low frame.aligned (by decide), entry_low frame.aligned (by decide)]
  exact flags

theorem entryValue_supervisor {plan : RuntimePageTablePlan} (consistent : plan.Consistent)
    {assignments : FrameAssignments pageTableFrameCapacity} {slot value : Nat} {index : TableIndex}
    (expected : entryValue plan assignments slot index = .ok value) :
    value &&& EntryFlags.userBit = 0 ∧ value &&& EntryFlags.hugePage = 0 := by
  unfold entryValue at expected
  split at expected
  · rename_i entry found
    exact encodedValue_supervisor consistent (List.mem_of_find?_eq_some found) expected
  · cases expected
    decide

/-- Frames whose every entry reads back as planned hold the plan. -/
theorem stored_of_readEntry {μ δ : Type} {memory : PageTableMemory μ δ}
    {plan : RuntimePageTablePlan} {frames : List PhysicalFrame} {state : μ}
    (filled : ∀ (slot : Nat) (frame : PhysicalFrame), frames[slot]? = some frame → ∀ index,
      ∃ value, entryValue plan ⟨frames⟩ slot index = .ok value ∧
        memory.readEntry state frame index = .ok value) :
    plan.Stored frames (memory.cells state) := by
  intro slot frame index found
  obtain ⟨value, expected, read⟩ := filled slot frame found index
  have cell := PageTableMemory.cells_of_readEntry read
  cases entryFound : plan.findEntry slot index with
  | none =>
      have none : expectedEntry plan slot index = none := entryFound
      simp only [entryValue, none, Except.ok.injEq] at expected
      rw [cell, expected]
  | some entry =>
      have some : expectedEntry plan slot index = some entry := entryFound
      simp only [entryValue, some] at expected
      exact ⟨value, expected, cell⟩

/-- After a successful `materialize` the processor finds the trampoline page
readable and executable, the stack writable and not executable, both at their
own addresses, and nothing else; no entry is open to user mode or huge. -/
theorem materialize_translates {β μ ε δ : Type} {ops : FrameBackend β ε}
    {memory : PageTableMemory μ δ} (lawful : memory.Lawful) {trampolinePage stackStart : Nat}
    {planned : PlannedPageTables} {backend : β} {allocated : AllocatedPageTables β}
    {result : MaterializedPageTables β} {state after : μ}
    (accepted : PlannedPageTables.forTransition trampolinePage stackStart = .ok planned)
    (owned : planned.allocate ops backend = .ok allocated)
    (materialized : allocated.materialize memory ops state = .ok (result, after)) :
    ∃ root, result.owner.root = some root ∧
      (∀ address : VirtualAddress,
        (trampolinePage ≤ address.value ∧ address.value < trampolinePage + 4096 →
          pageWalk (memory.cells after) root.address address.value =
            .mapped address.value false false) ∧
        (stackStart ≤ address.value ∧ address.value < stackStart + 65536 →
          pageWalk (memory.cells after) root.address address.value =
            .mapped address.value true true) ∧
        (¬ (trampolinePage ≤ address.value ∧ address.value < trampolinePage + 4096) →
          ¬ (stackStart ≤ address.value ∧ address.value < stackStart + 65536) →
          pageWalk (memory.cells after) root.address address.value = .notPresent)) ∧
      ∀ frame ∈ result.owner.frames, ∀ index, ∃ value,
        memory.readEntry after frame index = .ok value ∧
        value &&& EntryFlags.userBit = 0 ∧ value &&& EntryFlags.hugePage = 0 := by
  obtain ⟨inserted, planBuilt⟩ := forTransition_eq_ok accepted
  have realizes := ConstructionPlan.build_realizes inserted.invariant planBuilt
  obtain ⟨owner, allocatedOwner, built⟩ := bind_eq_ok.mp owned
  cases built
  obtain ⟨complete, distinct, rootIs⟩ := PageTableFrameOwner.allocate_eq_ok allocatedOwner
  have filled := materialize_stored lawful realizes.consistent distinct complete materialized
  obtain ⟨rfl, _⟩ := materialize_eq_ok materialized
  have nonempty : 0 < owner.frames.length := by
    obtain ⟨table, found, _⟩ := realizes.consistent.root
    rw [complete]
    exact (List.getElem?_eq_some_iff.mp found).1
  have rootFound : owner.frames[0]? = some owner.frames[0] := List.getElem?_eq_getElem nonempty
  have stored : planned.plan.Stored owner.frames (memory.cells after) :=
    stored_of_readEntry filled
  refine ⟨owner.frames[0], ?_, ?_, ?_⟩
  · rw [rootIs, List.head?_eq_getElem?, rootFound]
  · intro address
    refine ⟨?_, ?_, ?_⟩
    · rintro ⟨lower, upper⟩
      exact pageWalk_identity stored realizes complete.symm rootFound
        inserted.trampolineRange ((inserted.mem_entries _).mpr (.inr rfl)) lower upper
    · rintro ⟨lower, upper⟩
      exact pageWalk_identity stored realizes complete.symm rootFound
        inserted.stackRange ((inserted.mem_entries _).mpr (.inl rfl)) lower upper
    · intro offTrampoline offStack
      refine pageWalk_elsewhere stored realizes complete.symm rootFound ?_
      intro entry member inside
      rcases (inserted.mem_entries entry).mp member with rfl | rfl
      · exact offStack (inserted.stackRange.bounds_of_contains inside)
      · exact offTrampoline (inserted.trampolineRange.bounds_of_contains inside)
  · intro frame member index
    obtain ⟨slot, found⟩ := List.getElem?_of_mem member
    obtain ⟨value, expected, read⟩ := filled slot frame found index
    exact ⟨value, read, entryValue_supervisor realizes.consistent expected⟩

/-- Memory that is a table of cells and accepts every write. -/
def cellMemory : PageTableMemory (PhysicalFrame → TableIndex → Nat) Empty where
  writeEntry state frame index value :=
    (.ok (), fun other otherIndex =>
      if other = frame ∧ otherIndex = index then value else state other otherIndex)
  readEntry state frame index := .ok (state frame index)

theorem cellMemory_writes (state : PhysicalFrame → TableIndex → Nat) (frame : PhysicalFrame)
    (index : TableIndex) (value : Nat) :
    ∃ after, cellMemory.writeEntry state frame index value = (.ok (), after) := ⟨_, rfl⟩

theorem cellMemory_lawful : cellMemory.Lawful where
  written := by
    intro state after frame index value wrote
    cases wrote
    simp [cellMemory]
  others := by
    intro state after frame index value wrote other otherIndex different
    cases wrote
    simp [cellMemory, different]

/-- A backend that hands out consecutive frames. -/
def consecutiveFrames : FrameBackend Nat Empty where
  allocateFrame next := (.ok (next * pageSize), next + 1)
  zeroFrame next _ := (.ok (), next)
  freeFrame next _ := (.ok (), next)

theorem materialize_translates_sample :
    ∃ planned allocated result after root,
      PlannedPageTables.forTransition 0x200000 0x400000 = .ok planned ∧
      planned.allocate consecutiveFrames 16 = .ok allocated ∧
      allocated.materialize cellMemory consecutiveFrames (fun _ _ => 0) = .ok (result, after) ∧
      result.owner.root = some root ∧
      pageWalk (cellMemory.cells after) root.address 0x200123 = .mapped 0x200123 false false ∧
      pageWalk (cellMemory.cells after) root.address 0x40ffff = .mapped 0x40ffff true true ∧
      pageWalk (cellMemory.cells after) root.address 0x201000 = .notPresent := by
  obtain ⟨planned, allocated, accepted, owned⟩ : ∃ planned allocated,
      PlannedPageTables.forTransition 0x200000 0x400000 = .ok planned ∧
      planned.allocate consecutiveFrames 16 = .ok allocated := ⟨_, _, rfl, rfl⟩
  obtain ⟨inserted, planBuilt⟩ := forTransition_eq_ok accepted
  have realizes := ConstructionPlan.build_realizes inserted.invariant planBuilt
  obtain ⟨owner, allocatedOwner, built⟩ := bind_eq_ok.mp owned
  cases built
  obtain ⟨complete, _⟩ := PageTableFrameOwner.allocate_eq_ok allocatedOwner
  obtain ⟨after, materialized⟩ := @materialize_succeeds _ _ _ _ consecutiveFrames cellMemory
    ⟨planned.plan, owner⟩ realizes.consistent complete cellMemory_writes fun _ _ => 0
  obtain ⟨root, rooted, translations, _⟩ :=
    materialize_translates cellMemory_lawful accepted owned materialized
  refine ⟨planned, _, _, after, root, accepted, owned, materialized, rooted, ?_, ?_, ?_⟩
  · exact (translations ⟨0x200123, by decide⟩).1 (by decide)
  · exact (translations ⟨0x40ffff, by decide⟩).2.1 (by decide)
  · exact (translations ⟨0x201000, by decide⟩).2.2 (by decide) (by decide)

end UnnamedOS.Loader
