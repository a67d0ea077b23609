import Mathlib.Data.Finset.Union
import UnnamedOS.Layout.History
import UnnamedOS.PageTable.Growth

namespace UnnamedOS.Layout

/-- The addresses of the first pages of a range. -/
def VirtualRange.firstPages (range : VirtualRange) (count : Nat) : List Nat :=
  (List.range count).map fun page => range.start.value + page * pageSize

/-- The addresses of the pages an entry maps, in the order the planner takes. -/
def PlanEntry.pages : PlanEntry → List Nat
  | .mapping range _ _ _ _ => range.firstPages (range.length / pageSize)
  | .guard _ => []

/-- The entry maps the physical page at zero. -/
def PlanEntry.MapsFrameZero : PlanEntry → Prop
  | .mapping _ physical _ _ _ => physical.start.value = 0
  | .guard _ => False

def MappingPlan.pages {capacity : Nat} (plan : MappingPlan capacity) : List Nat :=
  plan.entries.flatMap PlanEntry.pages

theorem VirtualRange.firstPages_succ (range : VirtualRange) (count : Nat) :
    range.firstPages (count + 1) =
      range.firstPages count ++ [range.start.value + count * pageSize] := by
  simp only [firstPages, List.range_succ, List.map_append, List.map_singleton]

theorem VirtualRange.firstPages_prefix (range : VirtualRange) {count total : Nat}
    (below : count ≤ total) : range.firstPages count <+: range.firstPages total := by
  have shorter : List.range count = (List.range total).take count := by
    rw [List.take_range, Nat.min_eq_left below]
  rw [firstPages, shorter]
  exact (List.take_prefix _ _).map _

end UnnamedOS.Layout

namespace UnnamedOS.PageTable

open UnnamedOS.Data UnnamedOS.Layout

/-! # Which plans are built

The loops of `build` take one page after another.  Where the mapping plan has
been validated, what is left to go wrong is frame zero, which is no physical
frame of the planner, and the three capacities. -/

/-- The validation `build` asks for in a mode. -/
def PlanMode.validate {capacity : Nat} (mode : PlanMode) (mappings : MappingPlan capacity) :
    Except LayoutError Unit :=
  match mode with
  | .transitional => mappings.validateTransition
  | .final => mappings.validateFinal

theorem PhysicalFrame.new_ends {address : Nat} (supported : address < supportedPhysicalEnd)
    (aligned : address % pageSize = 0) :
    Ends (fun frame => frame.address = address)
      (fun reason => reason = .zeroPhysicalFrame ∧ address = 0) (PhysicalFrame.new address) := by
  by_cases zero : address = 0
  · rw [PhysicalFrame.new, dif_pos zero]
    exact .stops ⟨rfl, zero⟩
  · have built : PhysicalFrame.new address = .ok ⟨address, zero, supported, aligned⟩ :=
      PhysicalFrame.new_eq_ok.mpr rfl
    rw [built]
    exact .returns rfl

/-- Kernel permissions always make leaf flags. -/
theorem forLeaf_of_kernelOnly {permissions : MappingPermissions} (known : isKernelPermissions permissions)
    (cache : CachePolicy) : ∃ flags, EntryFlags.forLeaf permissions cache = .ok flags := by
  rcases known with rfl | rfl | rfl <;> cases cache <;> exact ⟨_, rfl⟩

namespace ConstructionPlan

variable {tableCapacity entryCapacity removalCapacity capacity : Nat}
variable {plan after : ConstructionPlan tableCapacity entryCapacity removalCapacity}
variable {range : VirtualRange} {physical : PhysicalRange} {permissions : MappingPermissions}
  {cache : CachePolicy} {kind : MappingKind}

/-- The tables of the given pages, the root among them. -/
def neededTables (pages : List Nat) : Finset (List TableIndex) :=
  insert [] (pages.toFinset.biUnion tablePaths)

theorem neededTables_concat (pages : List Nat) (page : Nat) :
    neededTables (pages ++ [page]) = tablePaths page ∪ neededTables pages := by
  ext path
  simp only [neededTables, Finset.mem_insert, Finset.mem_union, Finset.mem_biUnion,
    List.mem_toFinset, List.mem_append, List.mem_singleton]
  grind

theorem neededTables_mono {pages more : List Nat} (subset : pages ⊆ more) :
    neededTables pages ⊆ neededTables more := by
  refine Finset.insert_subset_insert _ (Finset.biUnion_subset_biUnion_of_subset_left _ ?_)
  intro page member
  exact List.mem_toFinset.mpr (subset (List.mem_toFinset.mp member))

/-- What a plan of the given pages may stop for. -/
def Unbuildable (tableCapacity entryCapacity removalCapacity : Nat) (pages : List Nat)
    (frameZero : Prop) (reason : PageTablePlanError) : Prop :=
  Exceeds tableCapacity entryCapacity removalCapacity (neededTables pages) pages.length reason ∨
    (reason = .zeroPhysicalFrame ∧ frameZero)

theorem Unbuildable.mono {pages more : List Nat} {frameZero zeroFrame : Prop}
    {reason : PageTablePlanError}
    (stops : Unbuildable tableCapacity entryCapacity removalCapacity pages frameZero reason)
    (within : pages <+: more) (zero : frameZero → zeroFrame) :
    Unbuildable tableCapacity entryCapacity removalCapacity more zeroFrame reason := by
  cases stops with
  | inl exceeds => exact .inl (exceeds.mono (neededTables_mono within.subset) within.length_le)
  | inr refused => exact .inr ⟨refused.1, zero refused.2⟩

/-- The arithmetic of the page loop stays in the two ranges. -/
theorem page_bounds (lengths : range.length = physical.length) {page : Nat}
    (below : page < range.length / pageSize) :
    range.start.value + page * pageSize + pageSize ≤ range.stop ∧
      physical.start.value + page * pageSize + pageSize ≤ physical.stop ∧
      range.stop ≤ wordLimit := by
  have last := range.bounds.lastCanonical
  have nonempty := range.bounds.nonempty
  have backed := physical.bounds.nonempty
  simp only [VirtualRange.length, PhysicalRange.length, pageSize] at lengths below
  simp only [isCanonical, lowCanonicalEnd, highCanonicalStart, wordLimit, pageSize] at last ⊢
  omega

theorem addPage_ends {pages : List Nat} {page : Nat}
    (lengths : range.length = physical.length) (known : isKernelPermissions permissions)
    (below : page < range.length / pageSize)
    (tracks : plan.Tracks (neededTables pages) pages.length)
    (absent : ∀ address : VirtualAddress, address.value = range.start.value + page * pageSize →
      plan.leafEntry address = none) :
    Ends (fun after => after.Tracks
        (neededTables (pages ++ [range.start.value + page * pageSize])) (pages.length + 1))
      (Unbuildable tableCapacity entryCapacity removalCapacity
        (pages ++ [range.start.value + page * pageSize]) (physical.start.value = 0))
      (plan.addPage range physical permissions cache page) := by
  obtain ⟨inRange, inBacking, word⟩ := page_bounds lengths below
  have supported := physical.bounds.supported
  have backingAligned := physical.bounds.startAligned
  simp only [pageSize, wordLimit] at inRange inBacking word
  simp only [pageSize, supportedPhysicalEnd] at supported backingAligned
  have canonical : isCanonical (range.start.value + page * pageSize) :=
    range.canonical_of_mem (Nat.le_add_right _ _) (by simp only [pageSize]; omega)
  obtain ⟨flags, flagged⟩ := forLeaf_of_kernelOnly known cache
  unfold addPage
  refine .step (okOr_eq_ok.mpr (checkedMul_eq_some.mpr ⟨?_, rfl⟩)) ?_
  · simp only [wordLimit, pageSize]
    omega
  refine .step (okOr_eq_ok.mpr (checkedAdd_eq_some.mpr ⟨?_, rfl⟩)) ?_
  · simp only [wordLimit, pageSize]
    omega
  refine .step (okOr_eq_ok.mpr (checkedAdd_eq_some.mpr ⟨?_, rfl⟩)) ?_
  · simp only [wordLimit, pageSize]
    omega
  refine .step (mapError_eq_ok.mpr (VirtualAddress.new_eq_ok.mpr
    (show VirtualAddress.value ⟨_, canonical⟩ = _ from rfl))) ?_
  refine Ends.bind ((PhysicalFrame.new_ends ?_ ?_).imp (fun _ _ => id) ?_) ?_
  · simp only [supportedPhysicalEnd, pageSize]
    omega
  · simp only [pageSize]
    omega
  · rintro reason ⟨refused, zero⟩
    exact .inr ⟨refused, by omega⟩
  · intro frame _ _
    rw [neededTables_concat]
    refine (insertPage_ends tracks (absent _ rfl) flagged).imp (fun _ _ => id) ?_
    intro reason exceeds
    refine .inl ?_
    rw [neededTables_concat, List.length_append, List.length_singleton]
    exact exceeds

/-- The page loop of one mapping. -/
theorem addPages_ends {done : List PlanEntry} {pages : List Nat}
    (lengths : range.length = physical.length) (known : isKernelPermissions permissions)
    (realizes : plan.Realizes done)
    (apart : ∀ existing ∈ done, ¬ existing.virtualRange.overlaps range)
    (tracks : plan.Tracks (neededTables pages) pages.length) :
    Ends (fun after =>
        Filled plan after range physical permissions cache (range.length / pageSize) ∧
        after.Tracks (neededTables (pages ++ range.firstPages (range.length / pageSize)))
          (pages ++ range.firstPages (range.length / pageSize)).length)
      (Unbuildable tableCapacity entryCapacity removalCapacity
        (pages ++ range.firstPages (range.length / pageSize)) (physical.start.value = 0))
      ((List.range (range.length / pageSize)).foldlM
        (fun plan page => plan.addPage range physical permissions cache page) plan) := by
  refine Ends.foldlM_range (fun page current =>
    Filled plan current range physical permissions cache page ∧
      current.Tracks (neededTables (pages ++ range.firstPages page))
        (pages ++ range.firstPages page).length) ?_ ?_
  · refine ⟨⟨realizes.consistent, rfl, ?_, fun _ _ => rfl⟩, ?_⟩
    · intro address lower upper
      omega
    · simpa [VirtualRange.firstPages] using tracks
  · rintro page current below ⟨filled, tracked⟩
    have longer : pages ++ range.firstPages (page + 1) =
        (pages ++ range.firstPages page) ++ [range.start.value + page * pageSize] := by
      rw [range.firstPages_succ, List.append_assoc]
    refine (addPage_ends lengths known below tracked ?_).imp ?_ ?_
    · -- No earlier mapping and no earlier page of this one has left a leaf here.
      intro address here
      obtain ⟨inRange, _⟩ := page_bounds lengths below
      rw [filled.outside address (by omega)]
      refine realizes.unmapped address fun existing member inside => ?_
      have separate := apart existing member
      simp only [VirtualRange.overlaps, VirtualRange.contains, pageSize]
        at separate inside inRange here
      omega
    · intro next paged grown
      rw [longer]
      refine ⟨addPage_fills filled paged, ?_⟩
      exact List.length_append ▸ grown
    · intro reason stops
      rw [← longer] at stops
      exact stops.mono ((List.prefix_append_right_inj _).mpr (range.firstPages_prefix below)) id

theorem addMapping_ends {done : List PlanEntry} {entry : PlanEntry} {pages : List Nat}
    (accepted : entry.Accepted)
    (fitting : ¬ (plan.mode = .final ∧ (entry.virtualRange.start.value < highCanonicalStart ∨
      entry.kind = .transitionIdentity)))
    (realizes : plan.Realizes done)
    (apart : ∀ existing ∈ done, ¬ existing.virtualRange.overlaps entry.virtualRange)
    (tracks : plan.Tracks (neededTables pages) pages.length) :
    Ends (fun after => after.mode = plan.mode ∧
        after.Tracks (neededTables (pages ++ entry.pages)) (pages ++ entry.pages).length)
      (Unbuildable tableCapacity entryCapacity removalCapacity (pages ++ entry.pages)
        entry.MapsFrameZero)
      (plan.addMapping entry) := by
  unfold addMapping
  refine .guard (fun refused => absurd refused fitting) fun _ => ?_
  cases entry with
  | guard range =>
      refine .returns ⟨rfl, ?_⟩
      simpa [PlanEntry.pages] using tracks
  | mapping range physical permissions cache kind =>
      obtain ⟨lengths, policy⟩ := accepted
      have known := isKernelPermissions_of_allowed (allowed_of_policy lengths policy).granted
      simp only [PlanEntry.backing, PlanEntry.permissions, PlanEntry.cachePolicy,
        PlanEntry.virtualRange, okOr_some, ok_bind]
      refine (addPages_ends lengths known realizes apart tracks).imp ?_ fun _ stops => stops
      intro next _ grown
      exact ⟨grown.1.mode, grown.2⟩

/-! ## The whole build -/

theorem begin_ends {mode : PlanMode} {pages : List Nat} {frameZero : Prop} :
    Ends (fun plan => plan.mode = mode ∧ plan.Realizes [] ∧ plan.Tracks (neededTables []) 0)
      (Unbuildable tableCapacity entryCapacity removalCapacity pages frameZero)
      (begin mode : Result tableCapacity entryCapacity removalCapacity) := by
  have opens : Ends (fun _ => tableCapacity ≠ 0)
      (Unbuildable tableCapacity entryCapacity removalCapacity pages frameZero)
      (begin mode : Result tableCapacity entryCapacity removalCapacity) := by
    refine .guard (fun full => .inl (.tables ?_)) fun room => .returns room
    rw [full]
    exact Finset.card_pos.mpr ⟨[], Finset.mem_insert_self _ _⟩
  refine opens.imp ?_ fun _ stops => stops
  intro plan begun room
  obtain ⟨consistent, mode, entries⟩ := begin_consistent begun
  simp only [begin, guard_eq_ok, Except.ok.injEq] at begun
  obtain ⟨_, rfl⟩ := begun
  refine ⟨mode, ⟨consistent, by simp, ?_⟩, ⟨consistent, ?_, ?_, rfl, rfl, rfl, rfl, ?_, Nat.zero_le _,
    Nat.zero_le _⟩⟩
  · intro address _
    simp [leafEntry, virtualAddressIndices, findEntry]
  · intro slot table found other
    obtain ⟨bound, _⟩ := List.getElem?_eq_some_iff.mp found
    exact absurd (Nat.lt_one_iff.mp bound) other
  · intro path
    cases path with
    | nil => simp [neededTables, descend]
    | cons index path => simp [neededTables, descend, edges, findEntry]
  · exact Nat.pos_of_ne_zero room

/-- The structure check repeats what the loops have kept all along. -/
theorem Tracks.validateStructure {opened : Finset (List TableIndex)} {leaves : Nat}
    (tracks : plan.Tracks opened leaves) : plan.validateStructure = .ok () := by
  refine checkAll_eq_ok.mpr fun table member => ?_
  obtain ⟨slot, found⟩ := List.mem_iff_getElem?.mp member
  rw [List.getElem?_tail] at found
  obtain ⟨parent, index, entry, recorded, entryFound, target⟩ :=
    tracks.linked (slot + 1) table found (Nat.succ_ne_zero slot)
  obtain ⟨entryMember, _, _⟩ := findEntry_some entryFound
  obtain ⟨_, _, fits⟩ := tracks.consistent.fits entry entryMember
  simp only [target] at fits
  have named := tracks.consistent.slots (slot + 1) table found
  simp only [checkTable, recorded, entryFound, okOr_some, ok_bind]
  simp [target, EntryTarget.frameSlot, named, fits.1]

theorem validate_fits {mappings : MappingPlan capacity} {mode : PlanMode} {entry : PlanEntry}
    (validated : mode.validate mappings = .ok ()) (member : entry ∈ mappings.entries) :
    ¬ (mode = .final ∧ (entry.virtualRange.start.value < highCanonicalStart ∨
      entry.kind = .transitionIdentity)) := by
  rintro ⟨rfl, low⟩
  obtain ⟨_, checked, _⟩ := bind_eq_ok.mp validated
  have high := checkAll_eq_ok.mp checked entry member
  simp only [MappingPlan.checkFinalEntry, guard_eq_ok] at high
  exact low.elim high.2.1 high.1

/-- A validated plan is built, or stops at frame zero or at a capacity. -/
theorem build_ends {mappings : MappingPlan capacity} {mode : PlanMode}
    (invariant : mappings.Invariant)
    (validated : mode.validate mappings = .ok ()) :
    Ends (fun plan => plan.Tracks (neededTables mappings.pages) mappings.pages.length)
      (Unbuildable tableCapacity entryCapacity removalCapacity mappings.pages
        (∃ entry ∈ mappings.entries, entry.MapsFrameZero))
      (build mappings mode : Result tableCapacity entryCapacity removalCapacity) := by
  have unfolded : (build mappings mode : Result tableCapacity entryCapacity removalCapacity) = (do
      (mode.validate mappings).mapError .layout
      let plan ← begin mode
      let plan ← mappings.entries.foldlM addMapping plan
      plan.finish) := rfl
  rw [unfolded]
  refine .step (mapError_eq_ok.mpr validated) (begin_ends.bind ?_)
  rintro empty _ ⟨begun, realizes, tracks⟩
  refine Ends.bind (Ends.foldlM (fun before current => current.mode = mode ∧
    current.Realizes before ∧ current.Tracks (neededTables (before.flatMap PlanEntry.pages))
      (before.flatMap PlanEntry.pages).length) ⟨begun, realizes, tracks⟩ ?_) ?_
  · rintro before entry rest current split ⟨kept, realized, tracked⟩
    have member : entry ∈ mappings.entries := by simp [split]
    have apart := invariant.apart split
    have within : before.flatMap PlanEntry.pages ++ entry.pages <+: mappings.pages := by
      rw [MappingPlan.pages, split, List.flatMap_append, List.flatMap_cons, ← List.append_assoc]
      exact List.prefix_append _ _
    refine (addMapping_ends (invariant.accepted entry member)
      (kept ▸ validate_fits validated member) realized apart tracked).imp ?_ ?_
    · intro next added grown
      refine ⟨grown.1.trans kept, addMapping_realizes realized apart added, ?_⟩
      simpa using grown.2
    · intro reason stops
      exact stops.mono within fun zero => ⟨entry, member, zero⟩
  · intro filled _ grown
    exact .step grown.2.2.validateStructure (.returns grown.2.2)

/-- The planner has a frame for the first page of every mapping. -/
theorem Realizes.nonzero {entries : List PlanEntry} (realizes : plan.Realizes entries)
    (member : .mapping range physical permissions cache kind ∈ entries) :
    physical.start.value ≠ 0 := by
  intro zero
  obtain ⟨_, _, ⟨frame, _, address⟩, _⟩ := realizes.mapped range physical permissions cache kind
    member range.start ⟨Nat.le_refl _, range.bounds.nonempty⟩
  refine frame.nonzero ?_
  rw [address, zero]
  simp only [pageSize]
  omega

theorem build_validated {mappings : MappingPlan capacity} {mode : PlanMode}
    (built : build mappings mode = .ok plan) : mode.validate mappings = .ok () := by
  obtain ⟨_, validated, _⟩ := bind_eq_ok.mp built
  exact mapError_eq_ok.mp validated

theorem build_tracks {mappings : MappingPlan capacity} {mode : PlanMode}
    (invariant : mappings.Invariant)
    (built : build mappings mode = .ok plan) :
    plan.Tracks (neededTables mappings.pages) mappings.pages.length :=
  (build_ends invariant (build_validated built)).of_ok built

/-- Everything `build` can stop for. -/
theorem build_error_cases {mappings : MappingPlan capacity} {mode : PlanMode}
    {reason : PageTablePlanError} (invariant : mappings.Invariant)
    (failed : (build mappings mode : Result tableCapacity entryCapacity removalCapacity) =
      .error reason) :
    (∃ source, mode.validate mappings = .error source ∧ reason = .layout source) ∨
      Unbuildable tableCapacity entryCapacity removalCapacity mappings.pages
        (∃ entry ∈ mappings.entries, entry.MapsFrameZero) reason := by
  cases validated : mode.validate mappings with
  | ok _ => exact .inr ((build_ends invariant validated).of_error failed)
  | error source =>
      have refused : (build mappings mode : Result tableCapacity entryCapacity removalCapacity) =
          (mode.validate mappings).mapError .layout >>= fun _ => _ := rfl
      rw [refused, validated] at failed
      exact .inl ⟨source, rfl, (Except.error.inj failed).symm⟩

/-! ## What the pages of a plan need -/

theorem card_neededTables (pages : List Nat) : (neededTables pages).card ≤ 1 + 3 * pages.length := by
  induction pages using List.reverseRecOn with
  | nil => simp [neededTables]
  | append_singleton pages page ih =>
      have joined := Finset.card_union_le (tablePaths page) (neededTables pages)
      have three : (tablePaths page).card ≤ 3 := Finset.card_le_three
      rw [neededTables_concat, List.length_append, List.length_singleton]
      omega

/-- Only the 2 MiB block of a page decides the tables it needs. -/
theorem tablePaths_congr {page other : Nat} (same : page / 2 ^ 21 = other / 2 ^ 21) :
    tablePaths page = tablePaths other := by
  have coarser (shift : Nat) : indexAt page (21 + shift) = indexAt other (21 + shift) := by
    refine TableIndex.ext ?_
    simp only [indexAt, Nat.pow_add, ← Nat.div_div_eq_div_mul, same]
  have third : indexAt page 21 = indexAt other 21 := coarser 0
  have second : indexAt page 30 = indexAt other 30 := coarser 9
  have first : indexAt page 39 = indexAt other 39 := coarser 18
  rw [tablePaths, tablePaths, first, second, third]

/-- Pages less than 2 MiB apart straddle one block boundary at most. -/
theorem tablePaths_between {first page last : Nat} (lower : first ≤ page) (upper : page ≤ last)
    (near : last < first + 2 ^ 21) : tablePaths page ⊆ tablePaths first ∪ tablePaths last := by
  have block : page / 2 ^ 21 = first / 2 ^ 21 ∨ page / 2 ^ 21 = last / 2 ^ 21 := by omega
  rcases block with same | same
  · rw [tablePaths_congr same]
    exact Finset.subset_union_left
  · rw [tablePaths_congr same]
    exact Finset.subset_union_right

/-- Below 4 GiB three pages share the root and the table right below it. -/
theorem card_threePages {first second third : Nat} (firstLow : first < 2 ^ 32)
    (secondLow : second < 2 ^ 32) (thirdLow : third < 2 ^ 32) :
    (insert [] (tablePaths first ∪ (tablePaths second ∪ tablePaths third))).card ≤ 8 := by
  obtain ⟨root, shared⟩ : ∃ root, ∀ page < 2 ^ 32, indexAt page 39 = root := by
    refine ⟨indexAt 0 39, fun page low => TableIndex.ext ?_⟩
    simp only [indexAt]
    omega
  have listed : insert [] (tablePaths first ∪ (tablePaths second ∪ tablePaths third)) ⊆
      [[], [root], [root, indexAt first 30], [root, indexAt first 30, indexAt first 21],
        [root, indexAt second 30], [root, indexAt second 30, indexAt second 21],
        [root, indexAt third 30], [root, indexAt third 30, indexAt third 21]].toFinset := by
    intro path
    simp only [tablePaths, shared first firstLow, shared second secondLow, shared third thirdLow,
      Finset.mem_insert, Finset.mem_union, Finset.mem_singleton, List.mem_toFinset, List.mem_cons,
      List.not_mem_nil]
    tauto
  exact (Finset.card_le_card listed).trans (List.toFinset_card_le _)

theorem mem_pages {mappings : MappingPlan capacity} {page : Nat} (member : page ∈ mappings.pages) :
    ∃ range physical permissions cache kind,
      .mapping range physical permissions cache kind ∈ mappings.entries ∧
      range.start.value ≤ page ∧ page < range.stop := by
  obtain ⟨entry, entryMember, inEntry⟩ := List.mem_flatMap.mp member
  cases entry with
  | guard range => simp [PlanEntry.pages] at inEntry
  | mapping range physical permissions cache kind =>
      refine ⟨range, physical, permissions, cache, kind, entryMember, ?_⟩
      simp only [PlanEntry.pages, VirtualRange.firstPages, List.mem_map, List.mem_range] at inEntry
      obtain ⟨index, below, rfl⟩ := inEntry
      simp only [VirtualRange.length, pageSize] at below ⊢
      omega

/-- A table right below the root of the low half is there for a low page. -/
theorem page_of_lowPath {mappings : MappingPlan capacity} {path : List TableIndex}
    (member : path ∈ (neededTables mappings.pages).filter IsLowPath) :
    ∃ range physical permissions cache kind page,
      .mapping range physical permissions cache kind ∈ mappings.entries ∧
      range.start.value ≤ page ∧ page < range.stop ∧ page < lowCanonicalEnd ∧
      path = [indexAt page 39] := by
  simp only [neededTables, tablePaths, Finset.mem_filter, Finset.mem_insert, Finset.mem_biUnion,
    List.mem_toFinset, Finset.mem_singleton] at member
  obtain ⟨rfl | ⟨page, inPages, rfl | rfl | rfl⟩, low⟩ := member
  · exact low.elim
  · obtain ⟨range, physical, permissions, cache, kind, inPlan, lower, upper⟩ := mem_pages inPages
    refine ⟨range, physical, permissions, cache, kind, page, inPlan, lower, upper, ?_, rfl⟩
    have canonical := range.canonical_of_mem lower upper
    simp only [IsLowPath, indexAt, isCanonical, lowCanonicalEnd, highCanonicalStart, wordLimit]
      at low canonical ⊢
    omega
  · exact low.elim
  · exact low.elim

/-- The low pages of a plan lie below 4 GiB, so they all hang from one entry of
the root. -/
theorem card_lowTables {mappings : MappingPlan capacity} (invariant : mappings.Invariant) :
    ((neededTables mappings.pages).filter IsLowPath).card ≤ 1 := by
  have only : (neededTables mappings.pages).filter IsLowPath ⊆ {[indexAt 0 39]} := by
    intro path member
    obtain ⟨range, _, _, _, _, page, inPlan, lower, upper, low, rfl⟩ := page_of_lowPath member
    have half := (invariant.contract.mappings _ _ _ _ _ inPlan).half
    simp only [lowCanonicalEnd, highCanonicalStart] at low half
    simp only [Finset.mem_singleton, List.cons.injEq, and_true, TableIndex.ext_iff, indexAt]
    omega
  exact Finset.card_le_card only

/-- A reachable plan that passes its validation is built, given the room its
pages can need, exactly when no granted mapping starts at physical zero. -/
theorem build_succeeds_iff {mode : PlanMode} (calls : List MappingPlan.Call)
    (slots : tableCapacity < 2 ^ 32)
    (tables : 1 + 3 * ((MappingPlan.new capacity).run calls).pages.length ≤ tableCapacity)
    (entries : 4 * ((MappingPlan.new capacity).run calls).pages.length ≤ entryCapacity)
    (removals : 1 ≤ removalCapacity)
    (validated : mode.validate ((MappingPlan.new capacity).run calls) = .ok ()) :
    (∃ plan : ConstructionPlan tableCapacity entryCapacity removalCapacity,
      build ((MappingPlan.new capacity).run calls) mode = .ok plan) ↔
    ∀ range physical permissions cache kind,
      MappingPlan.Granted capacity calls
        (.insertMapping range physical permissions cache kind) →
      physical.start.value ≠ 0 := by
  have invariant := @MappingPlan.reachable_invariant capacity calls
  constructor
  · rintro ⟨plan, built⟩ range physical permissions cache kind granted zero
    exact (build_realizes invariant built).nonzero (MappingPlan.mapping_mem_run.mpr granted) zero
  · intro nonzero
    have card := card_neededTables ((MappingPlan.new capacity).run calls).pages
    have low := card_lowTables invariant
    have never (reason : PageTablePlanError) :
        ¬ Unbuildable tableCapacity entryCapacity removalCapacity
          ((MappingPlan.new capacity).run calls).pages
          (∃ entry ∈ ((MappingPlan.new capacity).run calls).entries, entry.MapsFrameZero)
          reason := by
      rintro (exceeds | ⟨_, entry, member, zero⟩)
      · cases exceeds with
        | tables short => omega
        | slots short => omega
        | entries short => omega
        | removals short => omega
      · cases entry with
        | guard range => exact zero
        | mapping range physical permissions cache kind =>
            exact nonzero _ _ _ _ _ (MappingPlan.mapping_mem_run.mp member) zero
    obtain ⟨plan, built, _⟩ := (build_ends invariant validated).succeeds never
    exact ⟨plan, built⟩

theorem build_succeeds_iff_textPage :
    ∃ plan : ConstructionPlan 4 4 1,
      build ((MappingPlan.new 1).run [textPage]) .final = .ok plan := by
  refine (build_succeeds_iff [textPage] (by decide) (by decide) (by decide) (by decide) rfl).mpr ?_
  intro range physical permissions cache kind granted
  have member := MappingPlan.mapping_mem_run.mpr granted
  obtain ⟨rfl, rfl, rfl, rfl, rfl⟩ : range = _ ∧ physical = _ ∧ permissions = _ ∧ cache = _ ∧
    kind = _ := PlanEntry.mapping.inj (List.mem_singleton.mp member)
  decide

/-- A direct mapping of the first physical page. -/
def zeroPage : MappingPlan.Call :=
  .insertMapping
    ⟨⟨directMapStart, by decide⟩, directMapStart + 0x1000, by constructor <;> decide⟩
    ⟨⟨0, by decide⟩, 0x1000, by constructor <;> decide⟩
    .kernelRw .writeBack .directMap

/-- The mapping layer accepts the plan for its final mode, and the planner
refuses it with room to spare. -/
theorem build_refuses_zeroPage :
    (((MappingPlan.new 1).apply zeroPage).1 = .ok () ∧
      ((MappingPlan.new 1).run [zeroPage]).validateFinal = .ok () ∧
      ((MappingPlan.new 1).run [zeroPage]).pages.length = 1) ∧
    (build ((MappingPlan.new 1).run [zeroPage]) .final : Result 4 4 1) =
      .error .zeroPhysicalFrame :=
  ⟨⟨rfl, rfl, by decide⟩, rfl⟩

end ConstructionPlan

end UnnamedOS.PageTable
