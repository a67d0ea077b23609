import Mathlib.Data.Finset.Card
import UnnamedOS.Data.Outcome
import UnnamedOS.PageTable.Links

namespace UnnamedOS.PageTable

open UnnamedOS.Data UnnamedOS.Layout

/-! # How a plan grows

While `build` runs, the tables of the plan stand for a set of index paths: the
root's empty one and the proper prefixes of the pages planned so far.  Every
count of the plan is a count over that set and the pages, and the only reasons
to stop are a page the frame type refuses and a capacity below its count. -/

/-- The entry a removal expects. -/
def TransitionRemoval.entry (removal : TransitionRemoval) : PlannedEntry where
  tableSlot := removal.tableSlot
  index := removal.index
  target := .tableSlot removal.expectedTarget
  flags := removal.expectedFlags

/-- An entry of the root for the low half. -/
def PlannedEntry.IsLowRoot (entry : PlannedEntry) : Prop :=
  entry.tableSlot = frameSlotRoot ∧ entry.index.value < 256

instance (entry : PlannedEntry) : Decidable entry.IsLowRoot := inferInstanceAs (Decidable (_ ∧ _))

namespace ConstructionPlan

variable {tableCapacity entryCapacity removalCapacity capacity : Nat}
variable {plan after : ConstructionPlan tableCapacity entryCapacity removalCapacity}
variable {opened more : Finset (List TableIndex)} {leaves : Nat}

/-- The path of a table right below the root, for the low half. -/
def IsLowPath : List TableIndex → Prop
  | [index] => index.value < 256
  | _ => False

instance : DecidablePred IsLowPath
  | [] => inferInstanceAs (Decidable False)
  | [index] => inferInstanceAs (Decidable (index.value < 256))
  | _ :: _ :: _ => inferInstanceAs (Decidable False)

/-- The counts of a plan with the given tables and number of leaves. -/
structure Tracks (plan : ConstructionPlan tableCapacity entryCapacity removalCapacity)
    (opened : Finset (List TableIndex)) (leaves : Nat) : Prop where
  consistent : plan.Consistent
  linked : plan.Linked
  reaches : Reaches plan.edges frameSlotRoot opened
  tables : plan.tables.length = opened.card
  entries : plan.entries.length + 1 = opened.card + leaves
  removals : plan.removals.map TransitionRemoval.entry =
    plan.entries.filter fun entry => entry.IsLowRoot
  removalCount : plan.removals.length = (opened.filter IsLowPath).card
  tablesFit : plan.tables.length ≤ tableCapacity
  entriesFit : plan.entries.length ≤ entryCapacity
  removalsFit : plan.removals.length ≤ removalCapacity

/-- A capacity error and the count it falls short of; slots are 32 bits wide. -/
inductive Exceeds (tableCapacity entryCapacity removalCapacity : Nat)
    (opened : Finset (List TableIndex)) (leaves : Nat) : PageTablePlanError → Prop where
  | tables (short : tableCapacity < opened.card) :
      Exceeds tableCapacity entryCapacity removalCapacity opened leaves .tableCapacityExhausted
  | slots (short : 2 ^ 32 < opened.card) :
      Exceeds tableCapacity entryCapacity removalCapacity opened leaves .frameSlotOverflow
  | entries (short : entryCapacity + 1 < opened.card + leaves) :
      Exceeds tableCapacity entryCapacity removalCapacity opened leaves .entryCapacityExhausted
  | removals (short : removalCapacity < (opened.filter IsLowPath).card) :
      Exceeds tableCapacity entryCapacity removalCapacity opened leaves .removalCapacityExhausted

theorem Exceeds.mono {reason : PageTablePlanError} {others : Nat}
    (exceeds : Exceeds tableCapacity entryCapacity removalCapacity opened leaves reason)
    (paths : opened ⊆ more) (counts : leaves ≤ others) :
    Exceeds tableCapacity entryCapacity removalCapacity more others reason := by
  have cards := Finset.card_le_card paths
  cases exceeds with
  | tables short => exact .tables (by omega)
  | slots short => exact .slots (by omega)
  | entries short => exact .entries (by omega)
  | removals short =>
      exact .removals (Nat.lt_of_lt_of_le short
        (Finset.card_le_card (Finset.filter_subset_filter _ paths)))

/-! ## One table -/

theorem findEntry_push {entry found : PlannedEntry} {slot : Nat} {index : TableIndex}
    (entries : after.entries = plan.entries ++ [entry])
    (was : plan.findEntry slot index = some found) : after.findEntry slot index = some found := by
  unfold findEntry at was ⊢
  rw [entries, List.find?_append, was]
  rfl

theorem findEntry_pushed {entry : PlannedEntry} (entries : after.entries = plan.entries ++ [entry])
    (free : plan.findEntry entry.tableSlot entry.index = none) :
    after.findEntry entry.tableSlot entry.index = some entry := by
  unfold findEntry at free ⊢
  rw [entries, List.find?_append, free]
  simp

theorem levelAt_pml4 {depth : Nat} (level : levelAt depth = some .pml4) : depth = 0 := by
  cases depth with
  | zero => rfl
  | succ depth =>
      obtain ⟨upper, _, child⟩ := Option.bind_eq_some_iff.mp level
      cases upper <;> contradiction

/-- Only the empty path leads back to the root. -/
theorem Consistent.eq_nil_of_root (consistent : plan.Consistent) {path : List TableIndex}
    (reached : descend plan.edges frameSlotRoot path = some frameSlotRoot) : path = [] :=
  consistent.treeShaped.descend_injective reached rfl

section Table

variable {parentSlot slot : Nat} {parentLevel : TableLevel} {index : TableIndex}
  {address : VirtualAddress} {path : List TableIndex}

theorem createChild_linked (tracks : plan.Tracks opened leaves)
    (reached : descend plan.edges frameSlotRoot path = some parentSlot)
    (free : plan.findEntry parentSlot index = none)
    (created : plan.createChild parentSlot parentLevel index address = .ok (slot, after)) :
    after.Linked := by
  obtain ⟨childLevel, _, rfl, small, _, tables, entries⟩ := createChild_eq_ok created
  obtain ⟨parentTable, parentFound, _⟩ := tracks.consistent.level_of_descend reached
  have parentBound := (List.getElem?_eq_some_iff.mp parentFound).1
  intro candidate table found other
  rw [tables] at found
  by_cases old : candidate < plan.tables.length
  · rw [List.getElem?_append_left old] at found
    obtain ⟨parent, position, entry, recorded, entryFound, target⟩ :=
      tracks.linked candidate table found other
    exact ⟨parent, position, entry, recorded, findEntry_push entries entryFound, target⟩
  · obtain ⟨bound, _⟩ := List.getElem?_eq_some_iff.mp found
    obtain rfl : candidate = plan.tables.length := by
      simp only [List.length_append, List.length_singleton] at bound
      omega
    obtain rfl : _ = table := by simpa using found
    have recorded : parentSlot ≠ frameSlotNone := by
      simp only [frameSlotNone]
      omega
    exact ⟨parentSlot, index, _, if_neg recorded, findEntry_pushed entries free, rfl⟩

/-- Whether the new table is one the low half hangs from. -/
theorem isLowPath_iff (level : levelAt path.length = some parentLevel)
    (half : path = [] → (address.value < highCanonicalStart ↔ index.value < 256)) :
    IsLowPath (path ++ [index]) ↔ parentLevel = .pml4 ∧ address.value < highCanonicalStart := by
  cases path with
  | nil =>
      have root : parentLevel = .pml4 := (Option.some.inj level).symm
      simp only [root, List.nil_append, IsLowPath, true_and]
      exact (half rfl).symm
  | cons first rest =>
      have deeper : parentLevel ≠ .pml4 := by
        intro root
        subst root
        exact absurd (levelAt_pml4 level) (by simp)
      cases rest <;> simp [IsLowPath, deeper]

/-- Only the empty path ends in the root, so an entry is in the low half of
the root exactly when its path is a low one. -/
theorem Consistent.isLowRoot_iff (consistent : plan.Consistent) {entry : PlannedEntry}
    (reached : descend plan.edges frameSlotRoot path = some entry.tableSlot) :
    entry.IsLowRoot ↔ IsLowPath (path ++ [entry.index]) := by
  have root : entry.tableSlot = frameSlotRoot ↔ path = [] := by
    constructor
    · intro isRoot
      rw [isRoot] at reached
      exact consistent.eq_nil_of_root reached
    · rintro rfl
      exact (Option.some.inj reached).symm
  cases path with
  | nil => simp [PlannedEntry.IsLowRoot, IsLowPath, root]
  | cons first rest => cases rest <;> simp [PlannedEntry.IsLowRoot, IsLowPath, root]

/-- A removal is recorded with each low table, and with no other. -/
theorem createChild_records (tracks : plan.Tracks opened leaves)
    (reached : descend plan.edges frameSlotRoot path = some parentSlot)
    (low : IsLowPath (path ++ [index]) ↔
      parentLevel = .pml4 ∧ address.value < highCanonicalStart)
    (created : plan.createChild parentSlot parentLevel index address = .ok (slot, after)) :
    after.removals.map TransitionRemoval.entry =
      after.entries.filter fun entry => entry.IsLowRoot := by
  have removed := createChild_removals created
  obtain ⟨childLevel, _, rfl, _, _, _, entries⟩ := createChild_eq_ok created
  rw [removed, entries, List.map_append, List.filter_append, tracks.removals]
  have lowRoot : (PlannedEntry.mk parentSlot index (.tableSlot plan.tables.length)
      .intermediate).IsLowRoot ↔ parentLevel = .pml4 ∧ address.value < highCanonicalStart :=
    (tracks.consistent.isLowRoot_iff reached).trans low
  by_cases lowTable : parentLevel = .pml4 ∧ address.value < highCanonicalStart
  · have here := lowRoot.mpr lowTable
    rw [if_pos lowTable]
    simp [TransitionRemoval.entry, here]
  · have elsewhere := mt lowRoot.mp lowTable
    rw [if_neg lowTable]
    simp [elsewhere]

theorem createChild_removalCount (tracks : plan.Tracks opened leaves)
    (low : IsLowPath (path ++ [index]) ↔
      parentLevel = .pml4 ∧ address.value < highCanonicalStart)
    (unopened : path ++ [index] ∉ opened)
    (created : plan.createChild parentSlot parentLevel index address = .ok (slot, after)) :
    after.removals.length = ((insert (path ++ [index]) opened).filter IsLowPath).card := by
  rw [createChild_removals created, List.length_append, tracks.removalCount, Finset.filter_insert]
  by_cases lowTable : parentLevel = .pml4 ∧ address.value < highCanonicalStart
  · rw [if_pos lowTable, if_pos (low.mpr lowTable), Finset.card_insert_of_notMem]
    · rfl
    · exact fun member => unopened (Finset.mem_of_mem_filter _ member)
  · rw [if_neg lowTable, if_neg (mt low.mp lowTable)]
    rfl

theorem createChild_removalsFit (fit : plan.removals.length ≤ removalCapacity)
    (room : parentLevel = .pml4 ∧ address.value < highCanonicalStart →
      plan.removals.length ≠ removalCapacity)
    (created : plan.createChild parentSlot parentLevel index address = .ok (slot, after)) :
    after.removals.length ≤ removalCapacity := by
  rw [createChild_removals created, List.length_append]
  by_cases lowTable : parentLevel = .pml4 ∧ address.value < highCanonicalStart
  · have spare := room lowTable
    rw [if_pos lowTable, List.length_singleton]
    omega
  · rw [if_neg lowTable]
    exact fit

theorem createChild_tracks (tracks : plan.Tracks opened leaves)
    (reached : descend plan.edges frameSlotRoot path = some parentSlot)
    (level : levelAt path.length = some parentLevel)
    (free : plan.findEntry parentSlot index = none)
    (half : path = [] → (address.value < highCanonicalStart ↔ index.value < 256))
    (tableRoom : plan.tables.length ≠ tableCapacity)
    (entryRoom : plan.entries.length ≠ entryCapacity)
    (removalRoom : parentLevel = .pml4 ∧ address.value < highCanonicalStart →
      plan.removals.length ≠ removalCapacity)
    (created : plan.createChild parentSlot parentLevel index address = .ok (slot, after)) :
    after.Tracks (insert (path ++ [index]) opened) leaves := by
  have opens := createChild_opens tracks.consistent reached level free created
  have linked := createChild_linked tracks reached free created
  have low := isLowPath_iff level half
  obtain ⟨_, _, rfl, _, _, tables, entries⟩ := createChild_eq_ok created
  obtain ⟨parentTable, parentFound, _⟩ := tracks.consistent.level_of_descend reached
  have parentBound := (List.getElem?_eq_some_iff.mp parentFound).1
  have unused : plan.edges parentSlot index = none := by simp [edges, free]
  have unopened := tracks.reaches.unopened reached unused
  have grown : after.edges = addEdge plan.edges parentSlot index (.node plan.tables.length) :=
    edges_push entries free
  have card := Finset.card_insert_of_notMem unopened
  have tableCount := tracks.tables
  have entryCount := tracks.entries
  have tablesFit := tracks.tablesFit
  have entriesFit := tracks.entriesFit
  refine ⟨opens.consistent, linked, ?_, ?_, ?_, createChild_records tracks reached low created,
    createChild_removalCount tracks low unopened created, ?_, ?_,
    createChild_removalsFit tracks.removalsFit removalRoom created⟩
  · rw [grown]
    exact tracks.reaches.addNode tracks.consistent.treeShaped reached unused (by omega)
      tracks.consistent.childless
  · rw [tables, List.length_append, List.length_singleton, card, tableCount]
  · rw [entries, List.length_append, List.length_singleton, card]
    omega
  · rw [tables, List.length_append, List.length_singleton]
    omega
  · rw [entries, List.length_append, List.length_singleton]
    omega

theorem pushEntry_ends {entry : PlannedEntry} {bad : PageTablePlanError → Prop}
    (full : plan.entries.length = entryCapacity → bad .entryCapacityExhausted) :
    Ends (fun extended => plan.entries.length ≠ entryCapacity ∧
      extended = { plan with entries := plan.entries ++ [entry] }) bad (plan.pushEntry entry) :=
  .guard full fun room => .returns ⟨room, rfl⟩

theorem pushRemoval_ends {entry : PlannedEntry} {child : Nat} {bad : PageTablePlanError → Prop}
    (target : entry.target.frameSlot = some child)
    (full : plan.removals.length = removalCapacity → bad .removalCapacityExhausted) :
    Ends (fun _ => plan.removals.length ≠ removalCapacity) bad (plan.pushRemoval entry) := by
  refine .guard full fun room => ?_
  rw [target, okOr_some, ok_bind]
  exact .returns room

/-- A new table, or a capacity below what the plan with it counts. -/
theorem createChild_ends (tracks : plan.Tracks opened leaves)
    (reached : descend plan.edges frameSlotRoot path = some parentSlot)
    (level : levelAt path.length = some parentLevel) (upper : parentLevel ≠ .pt)
    (free : plan.findEntry parentSlot index = none)
    (half : path = [] → (address.value < highCanonicalStart ↔ index.value < 256)) :
    Ends (fun result => result.2.Tracks (insert (path ++ [index]) opened) leaves)
      (Exceeds tableCapacity entryCapacity removalCapacity (insert (path ++ [index]) opened) leaves)
      (plan.createChild parentSlot parentLevel index address) := by
  have unused : plan.edges parentSlot index = none := by simp [edges, free]
  have unopened := tracks.reaches.unopened reached unused
  have card := Finset.card_insert_of_notMem unopened
  have low := isLowPath_iff level half
  have tableCount := tracks.tables
  have entryCount := tracks.entries
  obtain ⟨childLevel, child⟩ : ∃ childLevel, parentLevel.child = some childLevel := by
    cases parentLevel <;> simp_all [TableLevel.child]
  have roomy : Ends
      (fun _ => plan.tables.length ≠ tableCapacity ∧ plan.entries.length ≠ entryCapacity ∧
        (parentLevel = .pml4 ∧ address.value < highCanonicalStart →
          plan.removals.length ≠ removalCapacity))
      (Exceeds tableCapacity entryCapacity removalCapacity (insert (path ++ [index]) opened) leaves)
      (plan.createChild parentSlot parentLevel index address) := by
    unfold createChild
    refine .guard (fun full => .tables (by omega)) fun tableRoom => ?_
    refine .guard (fun wide => .slots (by omega)) fun _ => ?_
    rw [child, okOr_some, ok_bind]
    refine Ends.bind (pushEntry_ends ?_) ?_
    · intro full
      have full : plan.entries.length = entryCapacity := full
      exact .entries (by omega)
    rintro extended _ ⟨entryRoom, rfl⟩
    by_cases lowTable : parentLevel = .pml4 ∧ address.value < highCanonicalStart
    · have count : ((insert (path ++ [index]) opened).filter IsLowPath).card =
          plan.removals.length + 1 := by
        rw [Finset.filter_insert, if_pos (low.mpr lowTable), Finset.card_insert_of_notMem
          fun member => unopened (Finset.mem_of_mem_filter _ member), tracks.removalCount]
      rw [if_pos lowTable]
      refine Ends.bind (pushRemoval_ends rfl ?_) ?_
      · intro full
        have full : plan.removals.length = removalCapacity := full
        exact .removals (by omega)
      · intro removed _ removalRoom
        exact .returns ⟨tableRoom, entryRoom, fun _ => removalRoom⟩
    · rw [if_neg lowTable]
      exact .returns ⟨tableRoom, entryRoom, fun taken => absurd taken lowTable⟩
  refine roomy.imp ?_ fun _ exceeds => exceeds
  intro result created room
  exact createChild_tracks tracks reached level free half room.1 room.2.1 room.2.2 created

/-- Above the page tables an entry leads to a table. -/
theorem Consistent.target_of_upper (consistent : plan.Consistent) {existing : PlannedEntry}
    (reached : descend plan.edges frameSlotRoot path = some parentSlot)
    (level : levelAt path.length = some parentLevel) (upper : parentLevel ≠ .pt)
    (found : plan.findEntry parentSlot index = some existing) :
    ∃ child, existing.target = .tableSlot child := by
  obtain ⟨member, rfl, rfl⟩ := findEntry_some found
  obtain ⟨table, tableFound, tableLevel⟩ := consistent.level_of_descend reached
  obtain ⟨recorded, recordedFound, fits⟩ := consistent.fits existing member
  rw [tableFound] at recordedFound
  cases recordedFound
  cases target : existing.target with
  | tableSlot child => exact ⟨child, rfl⟩
  | physicalFrame frame =>
      simp only [target] at fits
      rw [level, fits.1] at tableLevel
      exact absurd (Option.some.inj tableLevel) upper

theorem ensureChild_ends (tracks : plan.Tracks opened leaves)
    (reached : descend plan.edges frameSlotRoot path = some parentSlot)
    (level : levelAt path.length = some parentLevel) (upper : parentLevel ≠ .pt)
    (half : path = [] → (address.value < highCanonicalStart ↔ index.value < 256)) :
    Ends (fun result => result.2.Tracks (insert (path ++ [index]) opened) leaves ∧
        Opened plan result.2 (path ++ [index]) result.1)
      (Exceeds tableCapacity entryCapacity removalCapacity (insert (path ++ [index]) opened) leaves)
      (plan.ensureChild parentSlot parentLevel index address) := by
  suffices tracked : Ends (fun result => result.2.Tracks (insert (path ++ [index]) opened) leaves)
      (Exceeds tableCapacity entryCapacity removalCapacity (insert (path ++ [index]) opened) leaves)
      (plan.ensureChild parentSlot parentLevel index address) by
    refine tracked.imp ?_ fun _ exceeds => exceeds
    intro result ensured after
    exact ⟨after, ensureChild_opens tracks.consistent reached level ensured⟩
  unfold ensureChild
  cases found : plan.findEntry parentSlot index with
  | none => exact createChild_ends tracks reached level upper found half
  | some existing =>
      obtain ⟨child, target⟩ := tracks.consistent.target_of_upper reached level upper found
      have present : path ++ [index] ∈ opened := by
        rw [tracks.reaches, descend_append_singleton, reached]
        simp [edges, found, edgeOf, target]
      simp only [target, EntryTarget.frameSlot, okOr_some, ok_bind]
      rw [Finset.insert_eq_of_mem present]
      exact .returns tracks

end Table

/-! ## One page -/

section Page

variable {address : VirtualAddress} {frame : PhysicalFrame} {flags : EntryFlags}
  {permissions : MappingPermissions} {cache : CachePolicy}

/-- The index of a level, as a quotient. -/
def indexAt (address shift : Nat) : TableIndex :=
  ⟨address / 2 ^ shift % 512, Nat.mod_lt _ (Nat.succ_pos _)⟩

theorem tableIndexAt_eq (address : VirtualAddress) (shift : Nat) :
    tableIndexAt address shift = indexAt address.value shift :=
  TableIndex.ext (tableIndexAt_value address shift)

/-- The tables below the root that the page of an address needs. -/
def tablePaths (address : Nat) : Finset (List TableIndex) :=
  {[indexAt address 39], [indexAt address 39, indexAt address 30],
    [indexAt address 39, indexAt address 30, indexAt address 21]}

/-- The two halves share no entry of the root. -/
theorem low_iff_index (address : VirtualAddress) :
    address.value < highCanonicalStart ↔ (tableIndexAt address 39).value < 256 := by
  have canonical := address.canonical
  simp only [isCanonical, lowCanonicalEnd, highCanonicalStart, wordLimit] at canonical
  rw [tableIndexAt_value, highCanonicalStart]
  omega

/-- A page table has no table below it, so a slot without a leaf is free. -/
theorem Consistent.findEntry_of_absent (consistent : plan.Consistent) {slot : Nat}
    (reached : descend plan.edges frameSlotRoot (upperPath address) = some slot)
    (absent : plan.leafEntry address = none) :
    plan.findEntry slot (lastIndex address) = none := by
  rw [leafEntry_eq_leafAt, leafAt, reached] at absent
  cases found : plan.findEntry slot (lastIndex address) with
  | none => rfl
  | some entry =>
      exfalso
      obtain ⟨member, rfl, _⟩ := findEntry_some found
      cases target : entry.target with
      | physicalFrame backing => simp [edges, found, edgeOf, target] at absent
      | tableSlot child =>
          obtain ⟨table, tableFound, level⟩ := consistent.level_of_descend reached
          obtain ⟨recorded, recordedFound, fits⟩ := consistent.fits entry member
          rw [tableFound] at recordedFound
          cases recordedFound
          have pageTable : table.level = .pt := by
            simpa [upperPath, levelAt, TableLevel.child, eq_comm] using level
          simp only [target] at fits
          obtain ⟨_, _, _, _, below, _⟩ := fits
          rw [pageTable] at below
          contradiction

theorem insertLeaf_tracks {slot : Nat} (tracks : plan.Tracks opened leaves)
    (reached : descend plan.edges frameSlotRoot (upperPath address) = some slot)
    (room : plan.entries.length ≠ entryCapacity)
    (inserted : plan.insertLeaf slot (lastIndex address) frame permissions cache = .ok after) :
    after.Tracks opened (leaves + 1) := by
  obtain ⟨_, _, consistent⟩ := insertLeaf_inserts tracks.consistent reached inserted
  obtain ⟨flags, _, free, rfl⟩ := insertLeaf_eq_ok inserted
  have entriesFit := tracks.entriesFit
  have entryCount := tracks.entries
  have unused : plan.edges slot (lastIndex address) = none := by simp [edges, free]
  have below : slot ≠ frameSlotRoot := by
    rintro rfl
    exact absurd (tracks.consistent.eq_nil_of_root reached) (by simp [upperPath])
  refine ⟨consistent.consistent, ?_, ?_, tracks.tables, ?_, ?_, tracks.removalCount,
    tracks.tablesFit, ?_, tracks.removalsFit⟩
  · intro candidate table found other
    obtain ⟨parent, position, entry, recorded, entryFound, target⟩ :=
      tracks.linked candidate table found other
    exact ⟨parent, position, entry, recorded, findEntry_push rfl entryFound, target⟩
  · rw [edges_push rfl free]
    exact tracks.reaches.addLeaf unused
  · simp only [List.length_append, List.length_singleton]
    omega
  · simp [tracks.removals, PlannedEntry.IsLowRoot, below]
  · simp only [List.length_append, List.length_singleton]
    omega

theorem insertLeaf_ends {slot : Nat} (tracks : plan.Tracks opened leaves)
    (reached : descend plan.edges frameSlotRoot (upperPath address) = some slot)
    (absent : plan.leafEntry address = none)
    (flagged : EntryFlags.forLeaf permissions cache = .ok flags) :
    Ends (fun after => after.Tracks opened (leaves + 1))
      (Exceeds tableCapacity entryCapacity removalCapacity opened (leaves + 1))
      (plan.insertLeaf slot (lastIndex address) frame permissions cache) := by
  have free := tracks.consistent.findEntry_of_absent reached absent
  have entryCount := tracks.entries
  have roomy : Ends (fun _ => plan.entries.length ≠ entryCapacity)
      (Exceeds tableCapacity entryCapacity removalCapacity opened (leaves + 1))
      (plan.insertLeaf slot (lastIndex address) frame permissions cache) := by
    unfold insertLeaf
    refine .step flagged ?_
    simp only [free]
    refine Ends.imp (pushEntry_ends ?_) (fun _ _ pushed => pushed.1) fun _ exceeds => exceeds
    intro full
    exact .entries (by omega)
  refine roomy.imp ?_ fun _ exceeds => exceeds
  intro after inserted room
  exact insertLeaf_tracks tracks reached room inserted

/-- One more page needs the tables on its path and one more leaf. -/
theorem insertPage_ends (tracks : plan.Tracks opened leaves)
    (absent : plan.leafEntry address = none)
    (flagged : EntryFlags.forLeaf permissions cache = .ok flags) :
    Ends (fun after => after.Tracks (tablePaths address.value ∪ opened) (leaves + 1))
      (Exceeds tableCapacity entryCapacity removalCapacity (tablePaths address.value ∪ opened)
        (leaves + 1))
      (plan.insertPage address frame permissions cache) := by
  have paths : tablePaths address.value ∪ opened =
      insert (upperPath address) (insert [tableIndexAt address 39, tableIndexAt address 30]
        (insert [tableIndexAt address 39] opened)) := by
    ext path
    simp only [tablePaths, upperPath, tableIndexAt_eq, Finset.mem_union, Finset.mem_insert,
      Finset.mem_singleton]
    tauto
  have second : insert [tableIndexAt address 39, tableIndexAt address 30]
      (insert [tableIndexAt address 39] opened) ⊆ tablePaths address.value ∪ opened := by
    rw [paths]
    exact Finset.subset_insert _ _
  have first : insert [tableIndexAt address 39] opened ⊆ tablePaths address.value ∪ opened :=
    (Finset.subset_insert _ _).trans second
  have rootReached : descend plan.edges frameSlotRoot [] = some frameSlotRoot := rfl
  have rootLevel : levelAt ([] : List TableIndex).length = some .pml4 := rfl
  unfold insertPage
  refine Ends.bind ((ensureChild_ends tracks rootReached rootLevel (by decide)
    fun _ => low_iff_index address).imp (fun _ _ => id) fun _ exceeds =>
      exceeds.mono first (Nat.le_succ _)) ?_
  rintro ⟨pdpt, upper⟩ _ ⟨upperTracks, upperOpened⟩
  refine Ends.bind ((ensureChild_ends upperTracks upperOpened.reached rfl (by decide)
    (by simp)).imp (fun _ _ => id) fun _ exceeds => exceeds.mono second (Nat.le_succ _)) ?_
  rintro ⟨pd, middle⟩ _ ⟨middleTracks, middleOpened⟩
  refine Ends.bind ((ensureChild_ends middleTracks middleOpened.reached rfl (by decide)
    (by simp)).imp (fun _ _ => id) fun _ exceeds =>
      exceeds.mono paths.symm.subset (Nat.le_succ _)) ?_
  rintro ⟨pt, lower⟩ _ ⟨lowerTracks, lowerOpened⟩
  have stillAbsent : lower.leafEntry address = none := by
    rw [leafEntry_eq_leafAt, lowerOpened.leaves, middleOpened.leaves, upperOpened.leaves,
      ← leafEntry_eq_leafAt, absent]
  rw [paths]
  exact insertLeaf_ends lowerTracks lowerOpened.reached stillAbsent flagged

end Page

end ConstructionPlan

end UnnamedOS.PageTable
