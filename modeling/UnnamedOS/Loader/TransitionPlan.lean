import UnnamedOS.Layout.Validation
import UnnamedOS.Loader.PageTables
import UnnamedOS.PageTable.Completeness

namespace UnnamedOS.Loader

open UnnamedOS.Data UnnamedOS.Layout UnnamedOS.PageTable
open UnnamedOS.PageTable.ConstructionPlan

/-! # The plan of a transition

`for_transition` maps one trampoline page and one stack at their own addresses.
Sixteen stack pages straddle at most one boundary of each level, so the fixed
capacities hold every plan there is. -/

/-- The mapping `insert_identity` adds. -/
structure IdentityRange (start length : Nat) (range : VirtualRange) (physical : PhysicalRange) :
    Prop where
  virtualStart : range.start.value = start
  virtualStop : range.stop = start + length
  physicalStart : physical.start.value = start

section

variable {start length : Nat} {range : VirtualRange} {physical : PhysicalRange}
  {permissions : MappingPermissions} {capacity : Nat} {mappings : MappingPlan capacity}

theorem IdentityRange.bounds_of_contains (identity : IdentityRange start length range physical)
    {address : VirtualAddress} (inside : range.contains address) :
    start ≤ address.value ∧ address.value < start + length := by
  rw [← identity.virtualStop, ← identity.virtualStart]
  exact inside

/-- The entry `insert_identity` asks for. -/
def identityMapping (range : VirtualRange) (physical : PhysicalRange)
    (permissions : MappingPermissions) : PlanEntry :=
  .mapping range physical permissions .writeBack .transitionIdentity

/-- An identity mapping is inserted in its place, or the layout refuses it. -/
theorem insertIdentity_ends (mappings : MappingPlan capacity) (start length : Nat)
    (permissions : MappingPermissions) :
    Ends (fun inserted => ∃ range physical, IdentityRange start length range physical ∧
        inserted = (mappings.apply
          (.insertMapping range physical permissions .writeBack .transitionIdentity)).2 ∧
        inserted.entries = insertOrdered MappingPlan.startOf mappings.entries
          (identityMapping range physical permissions))
      (fun reason => ∃ source, reason = .layout source)
      (insertIdentity mappings start length permissions) := by
  unfold insertIdentity
  refine Ends.bind (.mapError (fun range => VirtualRange.fromStartAndLength_eq_ok)
    fun source _ => ⟨source, rfl⟩) ?_
  intro range _ placed
  refine Ends.bind (.mapError (fun physical => PhysicalRange.fromStartAndLength_eq_ok)
    fun source _ => ⟨source, rfl⟩) ?_
  intro physical _ backed
  split
  · rename_i reason _ _
    exact .stops ⟨reason, rfl⟩
  · rename_i done next granted
    have applied : mappings.apply
        (.insertMapping range physical permissions .writeBack .transitionIdentity) =
          (.ok (), next) := granted
    exact .returns ⟨range, physical, ⟨placed.1, placed.2, backed.1⟩, by rw [applied],
      congrArg MappingPlan.entries (MappingPlan.apply_eq_ok applied)⟩

theorem exists_identityRange (start length : Nat) (aligned : start % pageSize = 0)
    (whole : length % pageSize = 0) (nonempty : 0 < length)
    (below : start + length ≤ transitionIdentityEnd) :
    ∃ range physical, IdentityRange start length range physical ∧
      physical.stop = start + length := by
  simp only [transitionIdentityEnd, pageSize] at aligned whole below
  have supported : start < supportedPhysicalEnd := by
    simp only [supportedPhysicalEnd]
    omega
  have canonical : isCanonical start := by
    simp only [isCanonical, lowCanonicalEnd]
    omega
  refine ⟨⟨⟨start, canonical⟩, start + length, ?_⟩, ⟨⟨start, supported⟩, start + length, ?_⟩,
    ⟨rfl, rfl, rfl⟩, rfl⟩
  · constructor <;>
      simp only [isCanonical, canonicalHalf, lowCanonicalEnd, highCanonicalStart, pageSize] <;> grind
  · constructor <;> simp only [supportedPhysicalEnd, pageSize] <;> omega

theorem IdentityRange.lengths (identity : IdentityRange start length range physical)
    (backed : physical.stop = start + length) :
    range.length = length ∧ physical.length = length := by
  simp only [VirtualRange.length, PhysicalRange.length, identity.virtualStop,
    identity.virtualStart, backed, identity.physicalStart]
  omega

theorem IdentityRange.allowed (identity : IdentityRange start length range physical)
    (backed : physical.stop = start + length) (below : start + length ≤ transitionIdentityEnd)
    (known : isKernelPermissions permissions) :
    Allowed range physical permissions .writeBack .transitionIdentity := by
  obtain ⟨virtualLength, physicalLength⟩ := identity.lengths backed
  have granted : permissions ∈ MappingKind.allowedPermissions .transitionIdentity := by
    simpa [MappingKind.allowedPermissions, isKernelPermissions] using known
  exact {
    lengths := virtualLength.trans physicalLength.symm
    region := by simp [MappingKind.region]
    identity := fun _ => ⟨identity.virtualStart.trans identity.physicalStart.symm,
      identity.virtualStop.trans backed.symm, identity.virtualStop ▸ below⟩
    granted
    kernelOnly := kernelOnly_of_allowed granted
    cached := rfl
    image := by simp [MappingKind.isKernelImage]
    stack := by simp }

/-- An identity mapping below the limit is inserted when nothing in the plan
stands in its way. -/
theorem insertIdentity_succeeds (mappings : MappingPlan capacity)
    (identity : IdentityRange start length range physical)
    (backed : physical.stop = start + length) (below : start + length ≤ transitionIdentityEnd)
    (known : isKernelPermissions permissions) (room : mappings.entries.length ≠ capacity)
    (checks : ∀ existing ∈ mappings.entries,
      ¬ existing.virtualRange.overlaps range ∧
        existing.AliasCompatible (identityMapping range physical permissions)) :
    insertIdentity mappings start length permissions =
        .ok (mappings.apply
          (.insertMapping range physical permissions .writeBack .transitionIdentity)).2 ∧
      (mappings.apply
          (.insertMapping range physical permissions .writeBack .transitionIdentity)).2.entries =
        insertOrdered MappingPlan.startOf mappings.entries
          (identityMapping range physical permissions) := by
  obtain ⟨virtualLength, physicalLength⟩ := identity.lengths backed
  have allowed := identity.allowed backed below known
  have word : range.stop < wordLimit := by
    simp only [transitionIdentityEnd] at below
    simp only [identity.virtualStop, wordLimit]
    omega
  have ranged : VirtualRange.fromStartAndLength start length = .ok range := by
    rw [← identity.virtualStart, ← virtualLength]
    exact range.fromStartAndLength_range word
  have backing : PhysicalRange.fromStartAndLength start length = .ok physical := by
    rw [← identity.physicalStart, ← physicalLength]
    exact physical.fromStartAndLength_range
  have applied : mappings.apply
      (.insertMapping range physical permissions .writeBack .transitionIdentity) =
        (.ok (), _) :=
    MappingPlan.apply_succeeds
      ⟨allowed.lengths, policy_of_allowed allowed (by simp [MappingKind.region])⟩ room checks
  rw [applied]
  refine ⟨?_, rfl⟩
  rw [MappingPlan.apply] at applied
  simp only [insertIdentity, ranged, backing, applied, Except.mapError, ok_bind]

end

/-! ## The two insertions -/

/-- The mappings of a transition, as its two insertions leave them. -/
structure TransitionMappings (trampolinePage stackStart : Nat) where
  mappings : MappingPlan 2
  trampoline : VirtualRange
  trampolineBacking : PhysicalRange
  stack : VirtualRange
  stackBacking : PhysicalRange
  trampolineRange : IdentityRange trampolinePage pageSize trampoline trampolineBacking
  stackRange : IdentityRange stackStart bootstrapStackBytes stack stackBacking
  invariant : mappings.Invariant
  entries : mappings.entries = insertOrdered MappingPlan.startOf
    [identityMapping trampoline trampolineBacking .kernelRx]
    (identityMapping stack stackBacking .kernelRw)

namespace TransitionMappings

variable {trampolinePage stackStart : Nat}
  (inserted : TransitionMappings trampolinePage stackStart)

theorem mem_entries (entry : PlanEntry) :
    entry ∈ inserted.mappings.entries ↔
      entry = identityMapping inserted.stack inserted.stackBacking .kernelRw ∨
      entry = identityMapping inserted.trampoline inserted.trampolineBacking .kernelRx := by
  rw [inserted.entries, mem_insertOrdered, List.mem_singleton]

theorem entries_cases :
    inserted.mappings.entries =
      [identityMapping inserted.trampoline inserted.trampolineBacking .kernelRx,
        identityMapping inserted.stack inserted.stackBacking .kernelRw] ∨
    inserted.mappings.entries =
      [identityMapping inserted.stack inserted.stackBacking .kernelRw,
        identityMapping inserted.trampoline inserted.trampolineBacking .kernelRx] := by
  rw [inserted.entries, insertOrdered_cons, insertOrdered_nil]
  split
  · exact .inl rfl
  · exact .inr rfl

/-- What the plan's invariant says of the two ranges. -/
theorem ranges (inserted : TransitionMappings trampolinePage stackStart) :
    trampolinePage % 4096 = 0 ∧ stackStart % 4096 = 0 ∧
    trampolinePage + 4096 ≤ 2 ^ 32 ∧ stackStart + 65536 ≤ 2 ^ 32 ∧
    (trampolinePage + 4096 ≤ stackStart ∨ stackStart + 65536 ≤ trampolinePage) := by
  have contract := inserted.invariant.contract
  have trampolineMember := (inserted.mem_entries _).mpr (.inr rfl)
  have stackMember := (inserted.mem_entries _).mpr (.inl rfl)
  have trampolineBelow := ((contract.mappings _ _ _ _ _ trampolineMember).identity rfl).2.2
  have stackBelow := ((contract.mappings _ _ _ _ _ stackMember).identity rfl).2.2
  have trampolineAligned := inserted.trampoline.bounds.startAligned
  have stackAligned := inserted.stack.bounds.startAligned
  have apart : ¬ inserted.trampoline.overlaps inserted.stack := by
    rcases inserted.entries_cases with order | order
    · rw [← List.singleton_append] at order
      exact inserted.invariant.apart order _ (List.mem_singleton_self _)
    · rw [← List.singleton_append] at order
      intro shared
      exact inserted.invariant.apart order _ (List.mem_singleton_self _) ⟨shared.2, shared.1⟩
  simp only [VirtualRange.overlaps, inserted.trampolineRange.virtualStart,
    inserted.trampolineRange.virtualStop, inserted.stackRange.virtualStart,
    inserted.stackRange.virtualStop, pageSize, bootstrapStackBytes]
    at trampolineBelow stackBelow trampolineAligned stackAligned apart
  omega

theorem lengths :
    inserted.trampoline.length = pageSize ∧ inserted.stack.length = bootstrapStackBytes := by
  simp only [VirtualRange.length, inserted.trampolineRange.virtualStart,
    inserted.trampolineRange.virtualStop, inserted.stackRange.virtualStart,
    inserted.stackRange.virtualStop, Nat.add_sub_cancel_left, and_self]

/-- A transition maps seventeen pages. -/
theorem pages_perm :
    inserted.mappings.pages.Perm
      (trampolinePage :: (List.range 16).map fun page => stackStart + page * pageSize) := by
  have trampolinePages :
      (identityMapping inserted.trampoline inserted.trampolineBacking .kernelRx).pages =
        [trampolinePage] := by
    simp [identityMapping, PlanEntry.pages, VirtualRange.firstPages, inserted.lengths,
      inserted.trampolineRange.virtualStart]
  have stackPages : (identityMapping inserted.stack inserted.stackBacking .kernelRw).pages =
      (List.range 16).map fun page => stackStart + page * pageSize := by
    simp only [identityMapping, PlanEntry.pages, VirtualRange.firstPages, inserted.lengths,
      inserted.stackRange.virtualStart, bootstrapStackBytes, pageSize, Nat.reduceMul, Nat.reduceDiv]
  rcases inserted.entries_cases with order | order
  · simp [MappingPlan.pages, order, trampolinePages, stackPages]
  · simp only [MappingPlan.pages, order, List.flatMap_cons, List.flatMap_nil, trampolinePages,
      stackPages, List.append_nil]
    exact List.perm_append_singleton _ _

theorem validates : PlanMode.transitional.validate inserted.mappings = .ok () := by
  obtain ⟨_, _, trampolineBelow, stackBelow, _⟩ := inserted.ranges
  have low : inserted.trampoline.start.value < highCanonicalStart ∧
      inserted.stack.start.value < highCanonicalStart := by
    simp only [inserted.trampolineRange.virtualStart, inserted.stackRange.virtualStart,
      highCanonicalStart]
    omega
  have isTrampoline : (identityMapping inserted.trampoline inserted.trampolineBacking
      .kernelRx).IsTrampoline := ⟨low.1, rfl, rfl, inserted.lengths.1⟩
  have isStack : (identityMapping inserted.stack inserted.stackBacking
      .kernelRw).IsIdentityStack := ⟨low.2, rfl, rfl, inserted.lengths.2⟩
  rcases inserted.entries_cases with order | order
  · rw [PlanMode.validate, MappingPlan.validateTransition, order, List.foldlM_cons,
      MappingPlan.tallyTransition_of_isTrampoline isTrampoline (by decide) (by decide), ok_bind,
      List.foldlM_cons,
      MappingPlan.tallyTransition_of_isIdentityStack isStack (by decide) (by decide)]
    rfl
  · rw [PlanMode.validate, MappingPlan.validateTransition, order, List.foldlM_cons,
      MappingPlan.tallyTransition_of_isIdentityStack isStack (by decide) (by decide), ok_bind,
      List.foldlM_cons,
      MappingPlan.tallyTransition_of_isTrampoline isTrampoline (by decide) (by decide)]
    rfl

theorem length_pages : inserted.mappings.pages.length = 17 := by
  rw [inserted.pages_perm.length_eq]
  simp only [List.length_cons, List.length_map, List.length_range]

theorem mem_pages (page : Nat) : page ∈ inserted.mappings.pages ↔
    page = trampolinePage ∨ ∃ index < 16, stackStart + index * pageSize = page := by
  rw [inserted.pages_perm.mem_iff]
  simp only [List.mem_cons, List.mem_map, List.mem_range]

/-- The trampoline needs a table of each level; the stack's two ends may need
two more each. -/
theorem card_neededTables :
    4 ≤ (neededTables inserted.mappings.pages).card ∧
      (neededTables inserted.mappings.pages).card ≤ 8 := by
  obtain ⟨_, _, trampolineBelow, stackBelow, _⟩ := inserted.ranges
  constructor
  · have own : insert [] (tablePaths trampolinePage) ⊆ neededTables inserted.mappings.pages :=
      Finset.insert_subset_insert _ (Finset.subset_biUnion_of_mem tablePaths
        (List.mem_toFinset.mpr ((inserted.mem_pages _).mpr (.inl rfl))))
    refine Nat.le_trans (Nat.le_of_eq ?_) (Finset.card_le_card own)
    simp [tablePaths]
  · have within : neededTables inserted.mappings.pages ⊆
        insert [] (tablePaths trampolinePage ∪
          (tablePaths stackStart ∪ tablePaths (stackStart + 61440))) := by
      refine Finset.insert_subset_insert _ (Finset.biUnion_subset.mpr ?_)
      intro page member
      rcases (inserted.mem_pages page).mp (List.mem_toFinset.mp member) with rfl | ⟨index, below, rfl⟩
      · exact Finset.subset_union_left
      · simp only [pageSize]
        exact (tablePaths_between (by omega) (by omega) (by omega)).trans Finset.subset_union_right
    exact (Finset.card_le_card within).trans
      (card_threePages (by omega) (by omega) (by omega))

/-- Every page hangs from one entry of the root. -/
theorem card_lowTables :
    ((neededTables inserted.mappings.pages).filter IsLowPath).card = 1 := by
  obtain ⟨_, _, trampolineBelow, _⟩ := inserted.ranges
  refine Nat.le_antisymm (ConstructionPlan.card_lowTables inserted.invariant)
    (Finset.card_pos.mpr ⟨[indexAt trampolinePage 39], ?_⟩)
  simp only [neededTables, tablePaths, Finset.mem_filter, Finset.mem_insert, Finset.mem_biUnion,
    List.mem_toFinset]
  refine ⟨.inr ⟨trampolinePage, (inserted.mem_pages _).mpr (.inl rfl), .inl rfl⟩, ?_⟩
  simp only [IsLowPath, indexAt]
  omega

/-- What is left to stop the planner is a page at physical zero. -/
theorem zero_of_unbuildable {frameZero : Prop} {reason : PageTablePlanError}
    (stops : Unbuildable pageTableFrameCapacity pageTableEntryCapacity pageTableRemovalCapacity
      inserted.mappings.pages frameZero reason) :
    reason = .zeroPhysicalFrame ∧ frameZero := by
  have tables := inserted.card_neededTables
  have removals := inserted.card_lowTables
  have pages := inserted.length_pages
  simp only [pageTableFrameCapacity, pageTableEntryCapacity, pageTableRemovalCapacity] at stops
  cases stops with
  | inl exceeds =>
      cases exceeds with
      | tables short => omega
      | slots short => omega
      | entries short => omega
      | removals short => omega
  | inr refused => exact refused

end TransitionMappings

/-! ## Which transitions are planned -/

/-- Two insertions and the page tables for what they leave. -/
theorem forTransition_ends (trampolinePage stackStart : Nat) :
    Ends (fun planned => ∃ inserted : TransitionMappings trampolinePage stackStart,
        ConstructionPlan.build inserted.mappings .transitional = .ok planned.plan)
      (fun reason => reason = .zeroPhysicalFrame ∨ ∃ source, reason = .layout source)
      (PlannedPageTables.forTransition trampolinePage stackStart) := by
  unfold PlannedPageTables.forTransition
  have firstEnds := insertIdentity_ends (MappingPlan.new 2) trampolinePage pageSize .kernelRx
  refine (firstEnds.imp (fun _ _ => id) ?_).bind ?_
  · intro reason refused
    exact .inr refused
  rintro first _ ⟨trampoline, trampolineBacking, trampolineRange, firstPlan, firstEntries⟩
  have secondEnds := insertIdentity_ends first stackStart bootstrapStackBytes .kernelRw
  refine (secondEnds.imp (fun _ _ => id) ?_).bind ?_
  · intro reason refused
    exact .inr refused
  rintro second _ ⟨stack, stackBacking, stackRange, secondPlan, secondEntries⟩
  have invariant : second.Invariant := by
    rw [secondPlan, firstPlan]
    exact MappingPlan.apply_preserves_invariant
      (MappingPlan.apply_preserves_invariant MappingPlan.new_invariant _) _
  rw [firstEntries] at secondEntries
  let inserted : TransitionMappings trampolinePage stackStart :=
    ⟨second, trampoline, trampolineBacking, stack, stackBacking, trampolineRange, stackRange,
      invariant, secondEntries⟩
  refine Ends.bind ((build_ends invariant inserted.validates).imp
    (fun plan built _ => built) ?_) ?_
  · intro reason stops
    exact .inl (inserted.zero_of_unbuildable stops).1
  · intro plan _ built
    exact .returns ⟨inserted, built⟩

theorem forTransition_eq_ok {trampolinePage stackStart : Nat} {planned : PlannedPageTables}
    (accepted : PlannedPageTables.forTransition trampolinePage stackStart = .ok planned) :
    ∃ inserted : TransitionMappings trampolinePage stackStart,
      build inserted.mappings .transitional = .ok planned.plan :=
  (forTransition_ends trampolinePage stackStart).of_ok accepted

/-- The planner has a frame for every page it maps. -/
theorem nonzero_of_build {trampolinePage stackStart : Nat} {plan : RuntimePageTablePlan}
    (inserted : TransitionMappings trampolinePage stackStart)
    (built : build inserted.mappings .transitional = .ok plan) :
    trampolinePage ≠ 0 ∧ stackStart ≠ 0 := by
  have realizes := build_realizes inserted.invariant built
  have trampolineNonzero := realizes.nonzero ((inserted.mem_entries _).mpr (.inr rfl))
  have stackNonzero := realizes.nonzero ((inserted.mem_entries _).mpr (.inl rfl))
  rw [inserted.trampolineRange.physicalStart] at trampolineNonzero
  rw [inserted.stackRange.physicalStart] at stackNonzero
  exact ⟨trampolineNonzero, stackNonzero⟩

/-- Two aligned low ranges apart from each other are inserted one after the
other. -/
theorem exists_transitionMappings {trampolinePage stackStart : Nat}
    (trampolineAligned : trampolinePage % 4096 = 0) (stackAligned : stackStart % 4096 = 0)
    (trampolineBelow : trampolinePage + 4096 ≤ 2 ^ 32) (stackBelow : stackStart + 65536 ≤ 2 ^ 32)
    (apart : trampolinePage + 4096 ≤ stackStart ∨ stackStart + 65536 ≤ trampolinePage) :
    ∃ inserted : TransitionMappings trampolinePage stackStart,
      PlannedPageTables.forTransition trampolinePage stackStart =
        (build inserted.mappings .transitional).map .mk := by
  obtain ⟨trampoline, trampolineBacking, trampolineRange, trampolineStop⟩ :=
    exists_identityRange trampolinePage pageSize trampolineAligned rfl (by decide) trampolineBelow
  obtain ⟨stack, stackBacking, stackRange, stackStop⟩ :=
    exists_identityRange stackStart bootstrapStackBytes stackAligned rfl (by decide) stackBelow
  obtain ⟨first, firstEntries⟩ := insertIdentity_succeeds (MappingPlan.new 2) trampolineRange
    trampolineStop trampolineBelow (.inl rfl) (by decide) (by simp [MappingPlan.new])
  generalize firstPlan : (MappingPlan.new 2).apply (.insertMapping trampoline trampolineBacking
    .kernelRx .writeBack .transitionIdentity) = firstApplied at first firstEntries
  have invariant : firstApplied.2.Invariant := by
    rw [← firstPlan]
    exact MappingPlan.apply_preserves_invariant MappingPlan.new_invariant _
  have room : firstApplied.2.entries.length ≠ 2 := by
    rw [firstEntries, length_insertOrdered]
    decide
  have checks : ∀ existing ∈ firstApplied.2.entries, ¬ existing.virtualRange.overlaps stack ∧
      existing.AliasCompatible (identityMapping stack stackBacking .kernelRw) := by
    intro existing member
    rw [firstEntries, mem_insertOrdered] at member
    obtain rfl : existing = identityMapping trampoline trampolineBacking .kernelRx :=
      member.resolve_right List.not_mem_nil
    constructor
    · simp only [identityMapping, PlanEntry.virtualRange, VirtualRange.overlaps,
        trampolineRange.virtualStart, trampolineRange.virtualStop, stackRange.virtualStart,
        stackRange.virtualStop, pageSize, bootstrapStackBytes]
      omega
    · intro shared
      simp only [PhysicalRange.overlaps, trampolineRange.physicalStart, trampolineStop,
        stackRange.physicalStart, stackStop, pageSize, bootstrapStackBytes] at shared
      omega
  obtain ⟨second, secondEntries⟩ := insertIdentity_succeeds firstApplied.2 stackRange stackStop
    stackBelow (.inr (.inr rfl)) room checks
  rw [firstEntries] at secondEntries
  refine ⟨⟨_, trampoline, trampolineBacking, stack, stackBacking, trampolineRange, stackRange,
    MappingPlan.apply_preserves_invariant invariant _, secondEntries⟩, ?_⟩
  rw [PlannedPageTables.forTransition, first, ok_bind, second, ok_bind]
  rfl

/-- A transition is planned exactly for a nonzero page and a nonzero stack,
page aligned, below 4 GiB and apart; the capacities hold all of them. -/
theorem forTransition_succeeds_iff (trampolinePage stackStart : Nat) :
    ((∃ planned, PlannedPageTables.forTransition trampolinePage stackStart = .ok planned) ↔
      (trampolinePage ≠ 0 ∧ trampolinePage % 4096 = 0) ∧ (stackStart ≠ 0 ∧ stackStart % 4096 = 0) ∧
      trampolinePage + 4096 ≤ 2 ^ 32 ∧ stackStart + 65536 ≤ 2 ^ 32 ∧
      (trampolinePage + 4096 ≤ stackStart ∨ stackStart + 65536 ≤ trampolinePage)) ∧
    (∀ planned, PlannedPageTables.forTransition trampolinePage stackStart = .ok planned →
      4 ≤ planned.plan.tables.length ∧ planned.plan.tables.length ≤ 8 ∧
      planned.plan.entries.length = planned.plan.tables.length + 16 ∧
      planned.plan.removals.length = 1) ∧
    ∀ reason, PlannedPageTables.forTransition trampolinePage stackStart = .error reason →
      reason ≠ .tableCapacityExhausted ∧ reason ≠ .entryCapacityExhausted ∧
      reason ≠ .removalCapacityExhausted := by
  refine ⟨⟨?_, ?_⟩, ?_, ?_⟩
  · rintro ⟨planned, accepted⟩
    obtain ⟨inserted, built⟩ := forTransition_eq_ok accepted
    have nonzero := nonzero_of_build inserted built
    have ranges := inserted.ranges
    exact ⟨⟨nonzero.1, ranges.1⟩, ⟨nonzero.2, ranges.2.1⟩, ranges.2.2⟩
  · rintro ⟨⟨trampolineNonzero, trampolineAligned⟩, ⟨stackNonzero, stackAligned⟩, trampolineBelow,
      stackBelow, apart⟩
    obtain ⟨inserted, planned⟩ := exists_transitionMappings trampolineAligned stackAligned
      trampolineBelow stackBelow apart
    have never (reason : PageTablePlanError) : ¬ Unbuildable pageTableFrameCapacity
        pageTableEntryCapacity pageTableRemovalCapacity inserted.mappings.pages
        (∃ entry ∈ inserted.mappings.entries, entry.MapsFrameZero) reason := by
      intro stops
      obtain ⟨_, entry, member, zero⟩ := inserted.zero_of_unbuildable stops
      rcases (inserted.mem_entries entry).mp member with rfl | rfl
      · exact stackNonzero (inserted.stackRange.physicalStart.symm.trans zero)
      · exact trampolineNonzero (inserted.trampolineRange.physicalStart.symm.trans zero)
    obtain ⟨plan, built, _⟩ := (build_ends inserted.invariant inserted.validates).succeeds never
    exact ⟨⟨plan⟩, by rw [planned, built]; rfl⟩
  · intro planned accepted
    obtain ⟨inserted, built⟩ := forTransition_eq_ok accepted
    have tracks := build_tracks inserted.invariant built
    have tables := inserted.card_neededTables
    have entries := tracks.entries
    rw [inserted.length_pages] at entries
    rw [tracks.removalCount, inserted.card_lowTables, tracks.tables]
    omega
  · intro reason refused
    rcases (forTransition_ends trampolinePage stackStart).of_error refused with rfl | ⟨source, rfl⟩
    · simp
    · simp

end UnnamedOS.Loader
