import Mathlib.Algebra.BigOperators.Ring.List
import UnnamedOS.Loader.LoadSuccess
import UnnamedOS.Loader.TargetOwnership

namespace UnnamedOS.Loader

open UnnamedOS.Data

/-! # The geometry of a plan

`build` takes arbitrary segments.  Whatever it accepts is cut into whole pages
of the bootstrap window, so the additions that later readers of the plan make
without a check stay inside the window too. -/

structure LoadItem.Tiled (sourceLength : Nat) (item : LoadItem) : Prop where
  inFile : item.sourceOffset + item.fileSize ≤ sourceLength
  copyStart : item.pageStart + item.copyOffset = item.targetStart
  bssStart : item.bssStart = item.targetStart + item.fileSize
  paddingStart : item.paddingStart = item.bssStart + item.bssLength
  targetEnd : item.targetEnd = item.paddingStart
  pageLength : item.pageLength = item.pageCount * 4096
  tiles : item.copyOffset + item.fileSize + item.bssLength + item.paddingLength =
    item.pageCount * 4096

/-- What holds of a plan after every round of the loop. -/
structure LoadPlan.Geometry (source : SourceAllocation) (plan : LoadPlan) : Prop where
  window : ∀ item ∈ plan.items,
    0x20_0000 ≤ item.pageStart ∧ item.pageStart + item.pageLength ≤ 0x420_0000
  apart : plan.items.Pairwise
    (Apart LoadItem.pageStart fun item => item.pageStart + item.pageLength)
  clear : ∀ item ∈ plan.items, item.pageStart + item.pageLength ≤ source.pageStart ∨
    source.pageStart + source.pageCount * 4096 ≤ item.pageStart
  tiled : ∀ item ∈ plan.items, item.Tiled source.fileLength
  total : plan.totalPageBytes = (plan.items.map LoadItem.pageLength).sum

def PlanError.isTotal : PlanError → Bool
  | .totalSizeOverflow => true
  | .totalSizeExceeded => true
  | _ => false

section

variable {source : SourceAllocation} {segment : SegmentSpec} {item : LoadItem} {plan : LoadPlan}
  {sourceLength : Nat}

theorem makeItem_tiled (made : makeItem segment sourceLength = .ok item) :
    item.Tiled sourceLength := by
  have shape := makeItem_made made
  simp only [makeItem, roundUp, guard_eq_ok, bind_eq_ok, okOr_eq_ok, checkedAdd_eq_some,
    checkedSub_eq_some, Except.ok.injEq] at made
  obtain ⟨_, _, _, _, _, _, ⟨_, rfl⟩, pageEnd, _, pageLength, ⟨forward, length⟩, _, _, ⟨_, rfl⟩, _,
    ⟨inMemory, rfl⟩, _, ⟨below, offset⟩, _, ⟨inPages, padding⟩, rfl⟩ := made
  have pages := shape.pages
  simp only [LoadItem.pageLength, loadPageSize] at pages
  refine ⟨?_, ?_, rfl, ?_, rfl, pages.symm, ?_⟩
  · have inFile := shape.inFile
    omega
  · simp only
    omega
  · simp only
    omega
  · simp only [loadPageSize]
    omega

theorem okOr_ends_plainly {α : Type} {value : Option α} {error : PlanError}
    (plain : error.isTotal = false) :
    Ends (fun found => value = some found) (fun reason => reason.isTotal = false)
      (okOr value error) :=
  .okOr fun _ => plain

theorem makeItem_ends_plainly :
    Ends (fun item => item.Tiled sourceLength) (fun reason => reason.isTotal = false)
      (makeItem segment sourceLength) := by
  have rounds (value alignment : Nat) : Ends (fun _ => True)
      (fun reason => reason.isTotal = false) (roundUp value alignment) :=
    (okOr_ends_plainly rfl).bind fun _ _ _ => .returns trivial
  have plain : Ends (fun _ => True) (fun reason => reason.isTotal = false)
      (makeItem segment sourceLength) := by
    unfold makeItem
    refine .guard (fun _ => rfl) fun _ => ?_
    refine .guard (fun _ => rfl) fun _ => ?_
    refine (okOr_ends_plainly rfl).bind fun _ _ _ => ?_
    refine .guard (fun _ => rfl) fun _ => ?_
    refine (okOr_ends_plainly rfl).bind fun _ _ _ => ?_
    refine (rounds _ _).bind fun _ _ _ => ?_
    refine (okOr_ends_plainly rfl).bind fun _ _ _ => ?_
    refine .guard (fun _ => rfl) fun _ => ?_
    refine (okOr_ends_plainly rfl).bind fun _ _ _ => ?_
    refine (okOr_ends_plainly rfl).bind fun _ _ _ => ?_
    refine (okOr_ends_plainly rfl).bind fun _ _ _ => ?_
    refine (okOr_ends_plainly rfl).bind fun _ _ _ => ?_
    exact .returns trivial
  exact plain.imp (fun item made _ => makeItem_tiled made) fun _ => id

/-- A round's checks leave no room for the sum to fail. -/
theorem LoadPlan.Geometry.checkItem_ends (geometry : plan.Geometry source) :
    Ends (fun result =>
        (0x20_0000 ≤ result.1.pageStart ∧ result.1.pageStart + result.1.pageLength ≤ 0x420_0000) ∧
        (result.1.pageStart + result.1.pageLength ≤ source.pageStart ∨
          source.pageStart + source.pageCount * 4096 ≤ result.1.pageStart) ∧
        result.1.Tiled source.fileLength ∧
        result.2 = plan.totalPageBytes + result.1.pageLength)
      (fun reason => reason.isTotal = false)
      (checkItem plan source (source.pageStart + source.pageCount * loadPageSize) segment) := by
  unfold checkItem
  refine .guard (fun _ => rfl) fun _ => ?_
  refine makeItem_ends_plainly.bind ?_
  intro item _ tiled
  refine .guard (fun _ => rfl) fun above => ?_
  refine (okOr_ends_plainly rfl).bind ?_
  intro pageEnd _ added
  obtain ⟨_, rfl⟩ := checkedAdd_eq_some.mp added
  refine .guard (fun _ => rfl) fun below => ?_
  have window : bootstrapWindowStart ≤ item.pageStart ∧
      item.pageStart + item.pageLength ≤ bootstrapWindowEnd :=
    ⟨Nat.le_of_not_lt above, Nat.le_of_not_lt below⟩
  have joins : Ends (fun _ => ∀ previous ∈ plan.items, ¬ PagesMeet previous item)
      (fun reason => reason.isTotal = false)
      (checkAll (checkOverlap item (item.pageStart + item.pageLength)) plan.items) := by
    refine .checkAll fun previous _ => ?_
    refine (okOr_ends_plainly rfl).bind ?_
    intro previousEnd _ sum
    obtain ⟨_, rfl⟩ := checkedAdd_eq_some.mp sum
    exact .guard (fun _ => rfl) fun separate => .returns separate
  refine joins.bind ?_
  intro _ _ clear
  refine .guard (fun _ => rfl) fun apart => ?_
  have total := LoadPlan.total_le geometry.total
    (forall_mem_append_singleton geometry.window window) clear
  refine .step (okOr_eq_ok.mpr (checkedAdd_eq_some.mpr
    ⟨Nat.lt_of_le_of_lt total (by decide), rfl⟩)) ?_
  refine .guard (fun exceeded => absurd total (Nat.not_le_of_lt exceeded)) fun _ => ?_
  refine .returns ⟨window, ?_, tiled, rfl⟩
  simp only [KernelImage.rangesOverlap, loadPageSize] at apart ⊢
  omega

theorem LoadPlan.Geometry.add_ends (geometry : plan.Geometry source) :
    Ends (fun next => next.Geometry source ∧ next.entry = plan.entry)
      (fun reason => reason.isTotal = false)
      (LoadPlan.add source (source.pageStart + source.pageCount * loadPageSize) plan segment) := by
  refine (LoadPlan.add_ends geometry.checkItem_ends).imp ?_ fun _ => id
  intro next _ added
  obtain ⟨item, _, ⟨window, clear, tiled, sum⟩, items, total, entry⟩ := added
  have extend {holds : LoadItem → Prop} (old : ∀ other ∈ plan.items, holds other)
      (new : holds item) : ∀ other ∈ next.items, holds other := by
    rw [items]
    exact forall_mem_append_singleton old new
  refine ⟨⟨extend geometry.window window, ?_, extend geometry.clear clear,
    extend geometry.tiled tiled, ?_⟩, entry⟩
  -- The items of any plan are apart; the round only has to name it.
  · refine next.apart.imp ?_
    intro left right separate
    simp only [PagesMeet, Apart] at separate ⊢
    omega
  · rw [total.trans sum, geometry.total, items, List.map_append, List.sum_append,
      List.map_singleton, List.sum_singleton]

theorem LoadPlan.build_geometry_ends {entry : Nat} {segments : List SegmentSpec} :
    Ends (fun plan => plan.Geometry source ∧ plan.entry = entry ∧
        ∃ item ∈ plan.items, item.isExecutable = true ∧ entry ≥ item.targetStart ∧
          entry < item.targetEnd)
      (fun reason => reason.isTotal = false) (LoadPlan.build entry segments source) := by
  unfold LoadPlan.build
  have ends : Ends (fun stop => stop = source.pageStart + source.pageCount * loadPageSize)
      (fun reason => reason.isTotal = false) source.pageEnd := by
    refine (okOr_ends_plainly rfl).bind ?_
    intro bytes _ product
    obtain ⟨_, rfl⟩ := checkedMul_eq_some.mp product
    refine (okOr_ends_plainly rfl).imp ?_ fun _ => id
    intro stop _ sum
    exact (checkedAdd_eq_some.mp sum).2.symm
  refine ends.bind ?_
  rintro _ _ rfl
  refine Ends.bind (Ends.foldlM (fun _ plan => plan.Geometry source ∧ plan.entry = entry)
    ⟨⟨by simp, .nil, by simp, by simp, rfl⟩, rfl⟩ ?_) ?_
  · intro _ segment _ plan _ kept
    refine kept.1.add_ends.imp ?_ fun _ => id
    intro next _ grown
    exact ⟨grown.1, grown.2.trans kept.2⟩
  · intro plan _ kept
    refine .guard (fun _ => rfl) fun _ => ?_
    refine .guard (fun _ => rfl) fun held => ?_
    exact .returns ⟨kept.1, kept.2, not_not.mp held⟩

end

/-! ## The record of the loaded kernel -/

/-- The variables of the loop in `from_verified`. -/
structure Gathered where
  segments : List SegmentMetadata
  loadStart : Nat
  loadEnd : Nat
  totalPages : Nat
  entrySegmentIndex : Nat

/-- One iteration; `none` is an addition that overflows. -/
def Gathered.step (entry : Nat) (gathered : Gathered) (indexed : LoadItem × Nat) :
    Option Gathered := do
  let allocationEnd ← checkedAdd indexed.1.pageStart indexed.1.pageLength
  let totalPages ← checkedAdd gathered.totalPages indexed.1.pageCount
  some {
    segments := gathered.segments ++ [{
      memoryStart := indexed.1.targetStart
      memoryEnd := indexed.1.targetEnd
      allocationStart := indexed.1.pageStart
      allocationEnd
      pageCount := indexed.1.pageCount
      flags := indexed.1.flags
      fileSize := indexed.1.fileSize
      memorySize := indexed.1.memorySize }]
    loadStart := min gathered.loadStart indexed.1.pageStart
    loadEnd := max gathered.loadEnd allocationEnd
    totalPages
    entrySegmentIndex :=
      if indexed.1.isExecutable = true ∧ entry ≥ indexed.1.targetStart ∧
          entry < indexed.1.targetEnd then indexed.2
      else gathered.entrySegmentIndex }

namespace LoadedKernel

variable {β : Type}

/-- `from_verified` with its arithmetic on words. -/
def fromVerifiedChecked (plan : LoadPlan) (owner : TargetOwnership β) :
    Option (LoadedKernel β) := do
  let gathered ← plan.items.zipIdx.foldlM (Gathered.step plan.entry) ⟨[], wordLimit - 1, 0, 0, 0⟩
  some {
    entryPoint := plan.entry
    loadRange := ⟨gathered.loadStart, gathered.loadEnd⟩
    segments := gathered.segments
    totalPages := gathered.totalPages
    entrySegmentIndex := gathered.entrySegmentIndex
    owner }

theorem entryIndex_append_singleton (entry : Nat) (items : List LoadItem) (item : LoadItem) :
    entryIndex entry (items ++ [item]) =
      if item.isExecutable = true ∧ entry ≥ item.targetStart ∧ entry < item.targetEnd then
        items.length
      else entryIndex entry items := by
  simp [entryIndex, List.zipIdx_append]

theorem entryIndex_holds {entry : Nat} {items : List LoadItem}
    (held : ∃ item ∈ items, item.isExecutable = true ∧ entry ≥ item.targetStart ∧
      entry < item.targetEnd) :
    ∃ item, items[entryIndex entry items]? = some item ∧ item.isExecutable = true ∧
      entry ≥ item.targetStart ∧ entry < item.targetEnd := by
  induction items using List.reverseRecOn with
  | nil => simp at held
  | append_singleton items last ih =>
      rw [entryIndex_append_singleton]
      by_cases here : last.isExecutable = true ∧ entry ≥ last.targetStart ∧ entry < last.targetEnd
      · rw [if_pos here]
        exact ⟨last, by simp, here⟩
      · rw [if_neg here]
        obtain ⟨item, member, holds⟩ := held
        rcases List.mem_append.mp member with old | single
        · obtain ⟨found, at_, inside⟩ := ih ⟨item, old, holds⟩
          obtain ⟨bound, _⟩ := List.getElem?_eq_some_iff.mp at_
          exact ⟨found, by rw [List.getElem?_append_left bound, at_], inside⟩
        · exact absurd (List.mem_singleton.mp single ▸ holds) here

/-- Without an overflow the loop gathers what the record is made of. -/
theorem foldlM_gathered {entry : Nat} {items : List LoadItem}
    (ends : ∀ item ∈ items, item.pageStart + item.pageLength < wordLimit)
    (pages : (items.map LoadItem.pageCount).sum < wordLimit) :
    items.zipIdx.foldlM (Gathered.step entry) ⟨[], wordLimit - 1, 0, 0, 0⟩ =
      some ⟨items.map LoadItem.metadata,
        items.foldl (fun start item => min start item.pageStart) (wordLimit - 1),
        items.foldl (fun stop item => max stop (item.pageStart + item.pageLength)) 0,
        (items.map LoadItem.pageCount).sum, entryIndex entry items⟩ := by
  induction items using List.reverseRecOn with
  | nil => rfl
  | append_singleton items last ih =>
      rw [List.map_append, List.sum_append, List.map_singleton, List.sum_singleton] at pages
      have done := ih (fun item member => ends item (List.mem_append_left _ member)) (by omega)
      have stop := checkedAdd_eq_some.mpr ⟨ends last (by simp), rfl⟩
      have total := checkedAdd_eq_some.mpr ⟨pages, rfl⟩
      rw [List.zipIdx_append, List.foldlM_append, done]
      simp [Gathered.step, stop, total, entryIndex_append_singleton, LoadItem.metadata]

theorem fromVerifiedChecked_eq {plan : LoadPlan} {owner : TargetOwnership β}
    (ends : ∀ item ∈ plan.items, item.pageStart + item.pageLength < wordLimit)
    (pages : (plan.items.map LoadItem.pageCount).sum < wordLimit) :
    fromVerifiedChecked plan owner = some (fromVerified plan owner) := by
  rw [fromVerifiedChecked, foldlM_gathered ends pages]
  rfl

end LoadedKernel

section

variable {source : SourceAllocation} {plan : LoadPlan}

theorem LoadPlan.Geometry.pages (geometry : plan.Geometry source) :
    (plan.items.map LoadItem.pageCount).sum * 4096 = plan.totalPageBytes := by
  have lengths : plan.items.map LoadItem.pageLength =
      plan.items.map fun item => item.pageCount * 4096 :=
    List.map_congr_left fun item member => (geometry.tiled item member).pageLength
  rw [geometry.total, lengths, List.sum_map_mul_right]

theorem LoadItem.Tiled.covers {item : LoadItem} {sourceLength address : Nat}
    (tiled : item.Tiled sourceLength) (lower : item.targetStart ≤ address)
    (upper : address < item.targetEnd) :
    item.pageStart ≤ address ∧ address < item.pageStart + item.pageLength := by
  obtain ⟨_, copyStart, bssStart, paddingStart, targetEnd, pageLength, tiles⟩ := tiled
  omega

theorem LoadPlan.Geometry.index_unique (geometry : plan.Geometry source) {address left right : Nat}
    {item other : LoadItem} (found : plan.items[left]? = some item)
    (otherFound : plan.items[right]? = some other)
    (inside : item.targetStart ≤ address ∧ address < item.targetEnd)
    (otherInside : other.targetStart ≤ address ∧ address < other.targetEnd) : left = right := by
  have covers := (geometry.tiled item (List.mem_of_getElem? found)).covers inside.1 inside.2
  have otherCovers :=
    (geometry.tiled other (List.mem_of_getElem? otherFound)).covers otherInside.1 otherInside.2
  obtain ⟨bound, same⟩ := List.getElem?_eq_some_iff.mp found
  obtain ⟨otherBound, otherSame⟩ := List.getElem?_eq_some_iff.mp otherFound
  have apart := List.pairwise_iff_getElem.mp geometry.apart
  by_contra different
  rcases Nat.lt_or_gt_of_ne different with before | after
  · have separate := apart left right bound otherBound before
    rw [same, otherSame, Apart] at separate
    omega
  · have separate := apart right left otherBound bound after
    rw [same, otherSame, Apart] at separate
    omega

end

/-- Whatever the segments are, the sum is never what stops `build`.  A plan it
returns is cut into separate whole pages of the window, one item holds the
entry, and the record made of the plan is exact. -/
theorem LoadPlan.build_exact {β : Type} (entry : Nat) (segments : List SegmentSpec)
    (source : SourceAllocation) :
    LoadPlan.build entry segments source ≠ .error .totalSizeOverflow ∧
    LoadPlan.build entry segments source ≠ .error .totalSizeExceeded ∧
    ∀ plan, LoadPlan.build entry segments source = .ok plan →
      plan.Geometry source ∧
      ∃ index item, plan.items[index]? = some item ∧ item.isExecutable = true ∧
        (item.targetStart ≤ entry ∧ entry < item.targetEnd) ∧
        (∀ other position, plan.items[position]? = some other →
          other.targetStart ≤ entry ∧ entry < other.targetEnd → position = index) ∧
        ∀ owner : TargetOwnership β, ∃ kernel,
          LoadedKernel.fromVerifiedChecked plan owner = some kernel ∧
          IsLeast {start | ∃ item ∈ plan.items, item.pageStart = start} kernel.loadRange.start ∧
          IsGreatest {stop | ∃ item ∈ plan.items, item.pageStart + item.pageLength = stop}
            kernel.loadRange.stop ∧
          kernel.totalPages * 4096 = plan.totalPageBytes ∧
          kernel.entrySegmentIndex = index := by
  have ends := @LoadPlan.build_geometry_ends source entry segments
  refine ⟨fun failed => Bool.noConfusion (ends.of_error failed),
    fun failed => Bool.noConfusion (ends.of_error failed), ?_⟩
  intro plan built
  obtain ⟨geometry, sameEntry, held⟩ := ends.of_ok built
  obtain ⟨item, found, executable, inside⟩ := LoadedKernel.entryIndex_holds held
  have nonempty : plan.items ≠ [] := List.ne_nil_of_mem (List.mem_of_getElem? found)
  have bounded : ∀ other ∈ plan.items, other.pageStart + other.pageLength < wordLimit := by
    intro other member
    have window := (geometry.window other member).2
    simp only [wordLimit]
    omega
  have pages : (plan.items.map LoadItem.pageCount).sum < wordLimit := by
    have counted := geometry.pages
    have total := total_le_window plan.apart geometry.window
    rw [← geometry.total] at total
    simp only [bootstrapWindowBytes, wordLimit] at total ⊢
    omega
  refine ⟨geometry, _, item, found, executable, inside, ?_, ?_⟩
  · intro other position otherFound otherInside
    exact geometry.index_unique otherFound found otherInside inside
  · intro owner
    refine ⟨_, LoadedKernel.fromVerifiedChecked_eq bounded pages, ?_, ?_, geometry.pages, ?_⟩
    · refine isLeast_foldl_min LoadItem.pageStart nonempty ?_
      intro other member
      have below := bounded other member
      omega
    · exact isGreatest_foldl_max _ nonempty fun _ _ => Nat.zero_le _
    · exact congrArg (LoadedKernel.entryIndex · plan.items) sameEntry

def codeAndData : List SegmentSpec := [⟨2, 1, 0x1800, 0x20_1000, 6⟩, ⟨0, 2, 5, 0x20_0000, 5⟩]

def smallFile : SourceAllocation := ⟨0x10_0000, 1, 3⟩

theorem build_exact_codeAndData :
    ∃ plan, LoadPlan.build 0x20_0001 codeAndData smallFile = .ok plan ∧ plan.Geometry smallFile ∧
      ∃ (index : Nat) (item : LoadItem), plan.items[index]? = some item ∧
        item.isExecutable = true ∧
        item.targetStart ≤ 0x20_0001 ∧ 0x20_0001 < item.targetEnd := by
  have accepted : (LoadPlan.build 0x20_0001 codeAndData smallFile).isOk = true := by
    decide +kernel
  obtain ⟨plan, built⟩ := exists_of_isOk accepted
  obtain ⟨geometry, index, item, found, executable, inside, _⟩ :=
    (@LoadPlan.build_exact Unit 0x20_0001 codeAndData smallFile).2.2 plan built
  exact ⟨plan, built, geometry, index, item, found, executable, inside⟩

end UnnamedOS.Loader
