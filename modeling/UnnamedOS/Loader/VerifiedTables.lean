import UnnamedOS.Loader.VerifiedCells

namespace UnnamedOS.Loader

open UnnamedOS.Data UnnamedOS.Layout UnnamedOS.PageTable

/-! # The verifier decides equality

The loops over the cells tolerate what a single cell tolerates and mark the
tables that are reached.  With the two checks that follow nothing is tolerated
any more. -/

section

variable {β μ δ : Type} {memory : PageTableMemory μ δ} {state : μ} {plan : RuntimePageTablePlan}
  {owner : PageTableFrameOwner β pageTableFrameCapacity} {cells : Nat → TableIndex → Nat}

/-- The cell holds the entry that leads to the child. -/
def Reaches (plan : RuntimePageTablePlan) (owner : PageTableFrameOwner β pageTableFrameCapacity)
    (cells : Nat → TableIndex → Nat) (slot : Nat) (index : TableIndex) (child : Nat) : Prop :=
  LeadsTo plan slot index child ∧ Agrees plan owner cells slot index

section

variable {table : PlannedTable} {frame : PhysicalFrame} {reachable next : List Bool}

theorem verifyEntry_decides (prepared : Prepared plan owner)
    (readable : Readable memory state owner cells)
    (found : plan.tables[table.frameSlot]? = some table)
    (frameFound : owner.frames[table.frameSlot]? = some frame)
    (flags : reachable.length = pageTableFrameCapacity) (index : TableIndex) :
    Decides .stuck (verifyEntry memory plan owner state table frame reachable index)
      (Tolerated plan owner cells table.frameSlot index) := by
  cases verifyEntry_cases prepared readable found frameFound flags index with
  | refused wrong decides => exact decides.congr (by simp [wrong])
  | skipped tolerated nowhere ran =>
      rw [ran]
      exact (Decides.accept _).congr (by simp [tolerated])
  | marked child room leads agrees ran =>
      rw [ran]
      exact (Decides.accept _).congr (by simp [Tolerated, agrees])

theorem verifyEntry_raises (prepared : Prepared plan owner)
    (readable : Readable memory state owner cells)
    (found : plan.tables[table.frameSlot]? = some table)
    (frameFound : owner.frames[table.frameSlot]? = some frame)
    (flags : reachable.length = pageTableFrameCapacity) {index : TableIndex}
    (ran : verifyEntry memory plan owner state table frame reachable index = .ok next) :
    Raises (Reaches plan owner cells table.frameSlot index) reachable next := by
  cases verifyEntry_cases prepared readable found frameFound flags index with
  | refused wrong decides => exact (decides.exact.mp ⟨next, ran⟩).elim
  | skipped tolerated nowhere passed =>
      rw [ran] at passed
      cases passed
      exact .refl _ fun child reaches => nowhere child reaches.1 reaches.2
  | marked child room leads agrees marked =>
      rw [ran] at marked
      cases marked
      refine (Raises.set room).congr ?_
      intro position
      constructor
      · intro here
        subst here
        exact ⟨leads, agrees⟩
      · intro reaches
        obtain ⟨entry, entryFound, target⟩ := leads
        rw [reaches.1.target entryFound] at target
        cases target
        rfl

theorem verifyTable_eq (frameFound : owner.frames[table.frameSlot]? = some frame) :
    verifyTable memory plan owner state reachable table =
      tableIndices.foldlM (verifyEntry memory plan owner state table frame) reachable := by
  simp only [verifyTable, PageTableFrameOwner.assignments, FrameAssignments.frame, frameFound,
    okOr_some, mapError_ok, ok_bind]

theorem verifyTable_raises (prepared : Prepared plan owner)
    (readable : Readable memory state owner cells)
    (found : plan.tables[table.frameSlot]? = some table)
    (flags : reachable.length = pageTableFrameCapacity)
    (ran : verifyTable memory plan owner state reachable table = .ok next) :
    Raises (fun child => ∃ index, Reaches plan owner cells table.frameSlot index child)
      reachable next := by
  obtain ⟨frame, frameFound⟩ := prepared.frame_of_table (List.getElem?_eq_some_iff.mp found).1
  rw [verifyTable_eq frameFound] at ran
  have raises := foldlM_raises (fun index _ current after length stepped =>
    verifyEntry_raises prepared readable found frameFound (length.trans flags) stepped) ran
  refine raises.congr ?_
  intro child
  simp [mem_tableIndices]

theorem verifyTable_decides (prepared : Prepared plan owner)
    (readable : Readable memory state owner cells)
    (found : plan.tables[table.frameSlot]? = some table)
    (flags : reachable.length = pageTableFrameCapacity) :
    Decides .stuck (verifyTable memory plan owner state reachable table)
      (∀ index, Tolerated plan owner cells table.frameSlot index) := by
  obtain ⟨frame, frameFound⟩ := prepared.frame_of_table (List.getElem?_eq_some_iff.mp found).1
  rw [verifyTable_eq frameFound]
  have looped : Decides .stuck
      (tableIndices.foldlM (verifyEntry memory plan owner state table frame) reachable)
      (∀ index ∈ tableIndices, Tolerated plan owner cells table.frameSlot index) := by
    refine Decides.foldlM (fun _ current => current.length = pageTableFrameCapacity) flags ?_ ?_
    · intro _ index _ current _ length
      exact verifyEntry_decides prepared readable found frameFound length index
    · intro _ index _ current after _ length stepped
      exact (verifyEntry_raises prepared readable found frameFound length stepped).length.trans
        length
  exact looped.congr (by simp [mem_tableIndices])

end

/-! ## The whole hierarchy -/

theorem Prepared.table_found (prepared : Prepared plan owner) {table : PlannedTable}
    (member : table ∈ plan.tables) : plan.tables[table.frameSlot]? = some table := by
  obtain ⟨slot, found⟩ := List.mem_iff_getElem?.mp member
  rw [prepared.consistent.slots slot table found, found]

theorem verifyTables_decides (prepared : Prepared plan owner)
    (readable : Readable memory state owner cells) {reachable : List Bool}
    (flags : reachable.length = pageTableFrameCapacity) :
    Decides .stuck (plan.tables.foldlM (verifyTable memory plan owner state) reachable)
      (∀ table ∈ plan.tables, ∀ index, Tolerated plan owner cells table.frameSlot index) := by
  refine Decides.foldlM (fun _ current => current.length = pageTableFrameCapacity) flags ?_ ?_
  · intro before table after current split length
    have found := prepared.table_found (show table ∈ plan.tables by simp [split])
    exact verifyTable_decides prepared readable found length
  · intro before table after current next split length stepped
    have found := prepared.table_found (show table ∈ plan.tables by simp [split])
    exact (verifyTable_raises prepared readable found length stepped).length.trans length

theorem verifyTables_raises (prepared : Prepared plan owner)
    (readable : Readable memory state owner cells) {reachable next : List Bool}
    (flags : reachable.length = pageTableFrameCapacity)
    (ran : plan.tables.foldlM (verifyTable memory plan owner state) reachable = .ok next) :
    Raises (fun child => ∃ table ∈ plan.tables, ∃ index,
      Reaches plan owner cells table.frameSlot index child) reachable next :=
  foldlM_raises (fun _ member _ _ length stepped => verifyTable_raises prepared readable
    (prepared.table_found member) (length.trans flags) stepped) ran

theorem checkReachable_decides {reachable : List Bool} {table : PlannedTable}
    (inside : table.frameSlot < reachable.length) :
    Decides .stuck (checkReachable reachable table : Except (VerificationFailure δ) Unit)
      (Raised reachable table.frameSlot) := by
  have found := List.getElem?_eq_getElem inside
  unfold checkReachable Raised
  rw [found, okOr_some, ok_bind]
  cases reachable[table.frameSlot] with
  | true => exact (Decides.accept _).congr (by simp)
  | false => exact (Decides.reject (by simp)).congr (by simp)

theorem Prepared.lower_slot (prepared : Prepared plan owner) {table : PlannedTable}
    (lower : table ∈ plan.tables.tail) :
    table.frameSlot ≠ frameSlotRoot ∧ table.frameSlot < plan.tables.length := by
  obtain ⟨position, found⟩ := List.mem_iff_getElem?.mp lower
  rw [List.getElem?_tail] at found
  rw [prepared.consistent.slots _ table found]
  exact ⟨Nat.succ_ne_zero position, (List.getElem?_eq_some_iff.mp found).1⟩

theorem checkReachables_decides (prepared : Prepared plan owner) {reachable : List Bool}
    (flags : reachable.length = pageTableFrameCapacity) :
    Decides .stuck (checkReachables reachable plan.tables : Except (VerificationFailure δ) Unit)
      (∀ table ∈ plan.tables.tail, Raised reachable table.frameSlot) := by
  have checks : Decides .stuck
      (checkAll (checkReachable reachable) plan.tables.tail : Except (VerificationFailure δ) Unit)
      (∀ table ∈ plan.tables.tail, Raised reachable table.frameSlot) := by
    refine .checkAll ?_
    intro table lower
    have bounded := prepared.bounded
    have inside := (prepared.lower_slot lower).2
    exact checkReachable_decides (by omega)
  obtain ⟨first, firstFound, _⟩ := prepared.consistent.root
  cases tables : plan.tables with
  | nil => simp [tables] at firstFound
  | cons head rest =>
      rw [tables] at checks
      exact checks

/-- After the loops the flags of the tables below the root say who is reached. -/
theorem raised_iff_reached (prepared : Prepared plan owner) {reachable : List Bool}
    {reached : Nat → Prop}
    (raised : Raises (fun slot => slot = frameSlotRoot ∨ reached slot)
      (List.replicate pageTableFrameCapacity false) reachable)
    {table : PlannedTable} (lower : table ∈ plan.tables.tail) :
    Raised reachable table.frameSlot ↔ reached table.frameSlot := by
  have below := (prepared.lower_slot lower).1
  have blank : ¬ Raised (List.replicate pageTableFrameCapacity false) table.frameSlot := by
    unfold Raised
    intro flag
    have value := List.eq_of_mem_replicate (List.mem_of_getElem? flag)
    contradiction
  rw [raised.raised, or_iff_right blank, or_iff_right below]

theorem verifyRemoval_passes (prepared : Prepared plan owner)
    (readable : Readable memory state owner cells) {removal : TransitionRemoval}
    (member : removal ∈ plan.removals)
    (agrees : ∀ slot < plan.tables.length, ∀ index, Agrees plan owner cells slot index) :
    verifyRemoval memory owner state removal = .ok () := by
  obtain ⟨entry, present, slot, index, target, flags⟩ := prepared.removable removal member
  have found := prepared.consistent.findEntry_mem present
  obtain ⟨table, tableFound, fits⟩ := prepared.consistent.fits entry present
  simp only [target] at fits
  obtain ⟨_, _, child, childFound, _⟩ := fits
  have inside := (List.getElem?_eq_some_iff.mp tableFound).1
  obtain ⟨frame, frameFound⟩ := prepared.frame_of_table inside
  obtain ⟨childFrame, childFrameFound⟩ :=
    prepared.frame_of_table (List.getElem?_eq_some_iff.mp childFound).1
  have encoded := encodedValue_table target childFrameFound
  have read := readable _ frame frameFound entry.index
  rw [(agrees_iff found encoded).mp (agrees _ inside entry.index)] at read
  rw [slot] at frameFound
  rw [index] at read
  simp only [verifyRemoval, PageTableFrameOwner.assignments, FrameAssignments.frame, frameFound,
    okOr_some, mapError_ok, ok_bind, read, TransitionRemoval.expectedValue, childFrameFound, flags,
    ne_eq, not_true_eq_false, if_false]

/-- Every table is reached and no cell is worse than tolerated exactly where
all cells agree. -/
theorem agrees_iff_reached (prepared : Prepared plan owner) :
    ((∀ table ∈ plan.tables, ∀ index, Tolerated plan owner cells table.frameSlot index) ∧
      ∀ table ∈ plan.tables.tail, ∃ parent ∈ plan.tables, ∃ index,
        Reaches plan owner cells parent.frameSlot index table.frameSlot) ↔
    ∀ slot < plan.tables.length, ∀ index, Agrees plan owner cells slot index := by
  constructor
  · intro holds slot inside index
    obtain ⟨tolerated, reached⟩ := holds
    have found := List.getElem?_eq_getElem inside
    have cell := tolerated _ (List.getElem_mem inside) index
    rw [prepared.consistent.slots slot _ found] at cell
    rcases cell with agrees | ⟨_, child, entry, entryFound, target⟩
    · exact agrees
    · -- The child's only entry is this one, so the cell that reaches it is this cell.
      obtain ⟨member, rfl, rfl⟩ := ConstructionPlan.findEntry_some entryFound
      obtain ⟨_, _, fits⟩ := prepared.consistent.fits entry member
      simp only [target] at fits
      obtain ⟨_, below, childTable, childFound, _⟩ := fits
      have lower : childTable ∈ plan.tables.tail :=
        ConstructionPlan.mem_tail childFound (by simp only [frameSlotRoot]; omega)
      obtain ⟨parent, _, otherIndex, ⟨other, otherFound, otherTarget⟩, agrees⟩ :=
        reached childTable lower
      rw [prepared.consistent.slots child childTable childFound] at otherTarget
      obtain ⟨sameSlot, sameIndex⟩ :=
        prepared.consistent.entry_of_child entryFound target otherFound otherTarget
      rw [sameSlot, sameIndex]
      exact agrees
  · intro agrees
    have slots {table : PlannedTable} (member : table ∈ plan.tables) :=
      (List.getElem?_eq_some_iff.mp (prepared.table_found member)).1
    refine ⟨fun table member index => .inl (agrees _ (slots member) index), ?_⟩
    intro table member
    obtain ⟨position, tailFound⟩ := List.mem_iff_getElem?.mp member
    rw [List.getElem?_tail] at tailFound
    have numbered := prepared.consistent.slots _ table tailFound
    obtain ⟨parent, index, entry, _, entryFound, target⟩ :=
      prepared.linked _ table tailFound (Nat.succ_ne_zero position)
    obtain ⟨entryMember, rfl, rfl⟩ := ConstructionPlan.findEntry_some entryFound
    obtain ⟨parentTable, parentFound, _⟩ := prepared.consistent.fits entry entryMember
    have inside := (List.getElem?_eq_some_iff.mp parentFound).1
    refine ⟨parentTable, List.mem_of_getElem? parentFound, entry.index, ?_⟩
    rw [prepared.consistent.slots _ parentTable parentFound, numbered]
    exact ⟨⟨entry, entryFound, target⟩, agrees _ inside entry.index⟩

theorem verifyMaterialized_decides (prepared : Prepared plan owner)
    (readable : Readable memory state owner cells) :
    Decides .stuck (verifyMaterialized memory plan owner state)
      (∀ slot < plan.tables.length, ∀ index, Agrees plan owner cells slot index) := by
  obtain ⟨first, firstFound, _⟩ := prepared.consistent.root
  have nonempty := (List.getElem?_eq_some_iff.mp firstFound).1
  obtain ⟨root, rootFound⟩ := prepared.frame_of_table nonempty
  have counted : owner.frameCount = plan.tableCount := prepared.complete
  have rooted : owner.root = some root := by rw [prepared.root, List.head?_eq_getElem?, rootFound]
  let start := (List.replicate pageTableFrameCapacity false).set frameSlotRoot true
  have started : Raises (· = frameSlotRoot) (List.replicate pageTableFrameCapacity false) start :=
    .set (by decide)
  have length : start.length = pageTableFrameCapacity := by simp [start]
  unfold verifyMaterialized
  rw [if_neg (not_not.mpr counted)]
  simp only [PageTableFrameOwner.assignments, FrameAssignments.frame, frameSlotRoot, rootFound,
    okOr_some, mapError_ok, ok_bind, rooted, ne_eq, not_true_eq_false, if_false]
  have marked : okOr (markReachable (List.replicate pageTableFrameCapacity false) 0) .stuck =
      (.ok start : Except (VerificationFailure δ) (List Bool)) := rfl
  rw [marked, ok_bind]
  refine ((verifyTables_decides prepared readable length).bind fun reachable ran => ?_).congr
    (agrees_iff_reached prepared)
  have raised := started.trans (verifyTables_raises prepared readable length ran)
  have counts := raised.length.trans List.length_replicate
  have checks : Decides .stuck
      (checkReachables reachable plan.tables : Except (VerificationFailure δ) Unit) _ :=
    checkReachables_decides prepared counts
  have reaches := checks.congr
    (forall₂_congr fun table lower => raised_iff_reached prepared raised lower)
  refine (reaches.bind fun _ checked => ?_).congr (iff_of_eq (and_true _))
  have tolerated := (verifyTables_decides prepared readable length).exact.mp ⟨reachable, ran⟩
  have agrees := (agrees_iff_reached prepared).mp
    ⟨tolerated, reaches.exact.mp ⟨_, checked⟩⟩
  rw [checkAll_eq_ok.mpr fun removal member =>
    verifyRemoval_passes prepared readable member agrees]
  exact .accept ()

end

/-! ## From the plan to the verified tables -/

section

variable {β μ ε δ : Type}

theorem allocate_prepared {ops : FrameBackend β ε} {trampolinePage stackStart : Nat}
    {planned : PlannedPageTables} {backend : β} {tables : AllocatedPageTables β}
    (accepted : PlannedPageTables.forTransition trampolinePage stackStart = .ok planned)
    (allocated : planned.allocate ops backend = .ok tables) :
    Prepared tables.plan tables.owner := by
  obtain ⟨inserted, built⟩ := forTransition_eq_ok accepted
  have realizes := ConstructionPlan.build_realizes inserted.invariant built
  obtain ⟨owner, owned, allocated⟩ := bind_eq_ok.mp allocated
  cases allocated
  obtain ⟨complete, distinct, root⟩ := PageTableFrameOwner.allocate_eq_ok owned
  simp only [PageTableFrameOwner.allocate, guard_eq_ok] at owned
  exact {
    consistent := realizes.consistent
    linked := ConstructionPlan.build_linked realizes.consistent built
    removable := ConstructionPlan.build_removable built
    complete
    bounded := Nat.le_of_not_lt owned.1
    distinct
    root }

theorem readable_of_reads {memory : PageTableMemory μ δ} {state : μ}
    {owner : PageTableFrameOwner β pageTableFrameCapacity}
    (reads : ∀ frame ∈ owner.frames, ∀ index, ∃ value,
      memory.readEntry state frame index = .ok value) :
    ∃ cells, Readable memory state owner cells := by
  refine ⟨fun slot index => ((owner.frames[slot]?).bind fun frame =>
    (memory.readEntry state frame index).toOption).getD 0, ?_⟩
  intro slot frame found index
  obtain ⟨value, read⟩ := reads frame (List.mem_of_getElem? found) index
  simp [found, read, Except.toOption]

/-- The cells agree with the plan where every read gives the planned value. -/
theorem agrees_iff_read {memory : PageTableMemory μ δ} {state : μ} {plan : RuntimePageTablePlan}
    {owner : PageTableFrameOwner β pageTableFrameCapacity} {cells : Nat → TableIndex → Nat}
    (prepared : Prepared plan owner) (readable : Readable memory state owner cells) :
    (∀ slot < plan.tables.length, ∀ index, Agrees plan owner cells slot index) ↔
      ∀ slot < plan.tableCount, ∃ frame, owner.assignments.frame slot = .ok frame ∧
        ∀ index, ∃ value, entryValue plan owner.assignments slot index = .ok value ∧
          memory.readEntry state frame index = .ok value := by
  refine forall₂_congr fun slot inside => ?_
  obtain ⟨frame, found⟩ := prepared.frame_of_table inside
  have assigned : owner.assignments.frame slot = .ok frame := by
    simp only [FrameAssignments.frame, PageTableFrameOwner.assignments, found, okOr_some]
  have read := readable slot frame found
  simp only [assigned, Except.ok.injEq, exists_eq_left', read, Agrees]
  simp only [eq_comm, exists_eq_right]

theorem verify_decides (ops : FrameBackend β ε) {memory : PageTableMemory μ δ} {state : μ}
    (tables : MaterializedPageTables β) {accepts : Prop}
    (decides : Decides .stuck (verifyMaterialized memory tables.plan tables.owner state) accepts) :
    ((∃ verified, tables.verify memory state ops = .ok verified) ↔ accepts) ∧
      ∀ dropped, tables.verify memory state ops ≠ .error (.stuck, dropped) := by
  unfold MaterializedPageTables.verify
  cases ran : verifyMaterialized memory tables.plan tables.owner state with
  | error failure =>
      rw [ran] at decides
      have plain : failure ≠ .stuck := fun same => decides.safe (by rw [same])
      refine ⟨by simpa using decides.exact, ?_⟩
      intro dropped same
      simp only [Except.error.injEq, Prod.mk.injEq] at same
      exact plain same.1
  | ok done =>
      rw [ran] at decides
      exact ⟨by simpa using decides.exact, by simp⟩

theorem verify_eq_ok {memory : PageTableMemory μ δ} {state : μ} {ops : FrameBackend β ε}
    {tables : MaterializedPageTables β} {verified : VerifiedInactivePageTables β}
    (ran : tables.verify memory state ops = .ok verified) :
    verified = ⟨tables.plan.tableCount, tables.owner⟩ := by
  unfold MaterializedPageTables.verify at ran
  split at ran
  · contradiction
  · cases ran
    rfl

theorem verify_decides_cells (ops : FrameBackend β ε) {memory : PageTableMemory μ δ} {state : μ}
    {tables : AllocatedPageTables β} (prepared : Prepared tables.plan tables.owner)
    (reads : ∀ frame ∈ tables.owner.frames, ∀ index, ∃ value,
      memory.readEntry state frame index = .ok value) :
    ((∃ verified, (⟨tables.plan, tables.owner⟩ : MaterializedPageTables β).verify memory state
        ops = .ok verified) ↔
      ∀ slot < tables.plan.tableCount, ∃ frame,
        tables.owner.assignments.frame slot = .ok frame ∧ ∀ index, ∃ value,
          entryValue tables.plan tables.owner.assignments slot index = .ok value ∧
          memory.readEntry state frame index = .ok value) ∧
    ∀ dropped, (⟨tables.plan, tables.owner⟩ : MaterializedPageTables β).verify memory state
      ops ≠ .error (.stuck, dropped) := by
  obtain ⟨cells, readable⟩ := readable_of_reads reads
  exact verify_decides ops ⟨_, _⟩
    ((verifyMaterialized_decides prepared readable).congr (agrees_iff_read prepared readable))

/-- What `materialize` leaves is accepted. -/
theorem materialize_verified {ops : FrameBackend β ε} {memory : PageTableMemory μ δ}
    (lawful : memory.Lawful) {tables : AllocatedPageTables β}
    (prepared : Prepared tables.plan tables.owner) {result : MaterializedPageTables β}
    {state after : μ}
    (materialized : tables.materialize memory ops state = .ok (result, after)) :
    result.verify memory after ops = .ok ⟨tables.plan.tableCount, tables.owner⟩ := by
  have filled := materialize_stored lawful prepared.consistent prepared.distinct
    prepared.complete materialized
  obtain ⟨rfl, _⟩ := materialize_eq_ok materialized
  have reads : ∀ frame ∈ tables.owner.frames, ∀ index, ∃ value,
      memory.readEntry after frame index = .ok value := by
    intro frame member index
    obtain ⟨slot, found⟩ := List.getElem?_of_mem member
    obtain ⟨value, _, read⟩ := filled slot frame found index
    exact ⟨value, read⟩
  have cells : ∀ slot < tables.plan.tableCount, ∃ frame,
      tables.owner.assignments.frame slot = .ok frame ∧ ∀ index, ∃ value,
        entryValue tables.plan tables.owner.assignments slot index = .ok value ∧
        memory.readEntry after frame index = .ok value := by
    intro slot inside
    obtain ⟨frame, found⟩ := prepared.frame_of_table inside
    exact ⟨frame, okOr_eq_ok.mpr found, filled slot frame found⟩
  obtain ⟨verified, ran⟩ := (verify_decides_cells ops prepared reads).1.mpr cells
  rw [ran, verify_eq_ok ran]

/-- `verify` returns, and accepts exactly the memories that hold the encoded
plan in every owned cell; what `materialize` leaves is such a memory. -/
theorem verify_accepts_iff (ops : FrameBackend β ε) (memory : PageTableMemory μ δ)
    {trampolinePage stackStart : Nat} {planned : PlannedPageTables} {backend : β}
    {tables : AllocatedPageTables β}
    (accepted : PlannedPageTables.forTransition trampolinePage stackStart = .ok planned)
    (allocated : planned.allocate ops backend = .ok tables) :
    (∀ state : μ,
      (∀ frame ∈ tables.owner.frames, ∀ index, ∃ value,
        memory.readEntry state frame index = .ok value) →
      ((∃ verified, (⟨tables.plan, tables.owner⟩ : MaterializedPageTables β).verify memory state
          ops = .ok verified) ↔
        ∀ slot < tables.plan.tableCount, ∃ frame,
          tables.owner.assignments.frame slot = .ok frame ∧ ∀ index, ∃ value,
            entryValue tables.plan tables.owner.assignments slot index = .ok value ∧
            memory.readEntry state frame index = .ok value) ∧
      ∀ dropped, (⟨tables.plan, tables.owner⟩ : MaterializedPageTables β).verify memory state
        ops ≠ .error (.stuck, dropped)) ∧
    (memory.Lawful → ∀ (state after : μ) (result : MaterializedPageTables β),
      tables.materialize memory ops state = .ok (result, after) →
      result.verify memory after ops = .ok ⟨tables.plan.tableCount, tables.owner⟩) := by
  have prepared := allocate_prepared accepted allocated
  exact ⟨fun _ reads => verify_decides_cells ops prepared reads,
    fun lawful _ _ _ materialized => materialize_verified lawful prepared materialized⟩

/-- Memory that takes every write is filled and accepted. -/
theorem materialize_cellMemory (ops : FrameBackend β ε) {tables : AllocatedPageTables β}
    (prepared : Prepared tables.plan tables.owner) :
    ∃ after, tables.materialize cellMemory ops (fun _ _ => 0) =
        .ok (⟨tables.plan, tables.owner⟩, after) ∧
      (⟨tables.plan, tables.owner⟩ : MaterializedPageTables β).verify cellMemory after ops =
        .ok ⟨tables.plan.tableCount, tables.owner⟩ := by
  obtain ⟨after, materialized⟩ := materialize_succeeds ops prepared.consistent prepared.complete
    cellMemory_writes fun _ _ => 0
  exact ⟨after, materialized, materialize_verified cellMemory_lawful prepared materialized⟩

theorem verify_accepts_iff_sample :
    ∃ planned tables result after,
      PlannedPageTables.forTransition 0x200000 0x400000 = .ok planned ∧
      planned.allocate consecutiveFrames 16 = .ok tables ∧
      tables.materialize cellMemory consecutiveFrames (fun _ _ => 0) = .ok (result, after) ∧
      result.verify cellMemory after consecutiveFrames =
        .ok ⟨tables.plan.tableCount, tables.owner⟩ ∧
      ¬ ∃ verified, (⟨tables.plan, tables.owner⟩ : MaterializedPageTables Nat).verify cellMemory
        (fun _ _ => 0) consecutiveFrames = .ok verified := by
  obtain ⟨planned, tables, accepted, allocated, first⟩ : ∃ planned tables,
      PlannedPageTables.forTransition 0x200000 0x400000 = .ok planned ∧
      planned.allocate consecutiveFrames 16 = .ok tables ∧
      entryValue tables.plan tables.owner.assignments 0 ⟨0, by decide⟩ = .ok 0x11003 :=
    ⟨_, _, rfl, rfl, by decide +kernel⟩
  have prepared := allocate_prepared accepted allocated
  obtain ⟨after, materialized, _⟩ := materialize_cellMemory consecutiveFrames prepared
  obtain ⟨exact, accepts⟩ := verify_accepts_iff consecutiveFrames cellMemory accepted allocated
  refine ⟨planned, tables, _, after, accepted, allocated, materialized,
    accepts cellMemory_lawful _ _ _ materialized, ?_⟩
  rw [(exact (fun _ _ => 0) fun _ _ _ => ⟨0, rfl⟩).1]
  intro cells
  obtain ⟨root, found, _⟩ := prepared.consistent.root
  obtain ⟨frame, _, agree⟩ := cells 0 (List.getElem?_eq_some_iff.mp found).1
  obtain ⟨value, planned, read⟩ := agree ⟨0, by decide⟩
  rw [first] at planned
  cases planned
  cases read

end

end UnnamedOS.Loader
