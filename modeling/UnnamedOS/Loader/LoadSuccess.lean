import UnnamedOS.Data.Outcome
import UnnamedOS.Data.Spans
import UnnamedOS.KernelImage.BootImages
import UnnamedOS.Loader.LoadPlan

namespace UnnamedOS.Loader

open UnnamedOS.Data

/-! # Which segments are planned

Page-aligned segments that are apart stay apart when they are rounded to whole
pages, and inside the bootstrap window they can never add up to more than it.
What is left to refuse is a segment that ends above the window or meets the
pages of the file it is loaded from. -/

/-- The end of the last page of a range. -/
def pagesEnd (start length : Nat) : Nat :=
  (start + length + (loadPageSize - 1)) / loadPageSize * loadPageSize

/-- Everything before an aligned address still ends before it in whole pages. -/
theorem pagesEnd_le {start length limit : Nat} (below : start + length ≤ limit)
    (aligned : limit % loadPageSize = 0) : pagesEnd start length ≤ limit := by
  simp only [pagesEnd, loadPageSize] at aligned ⊢
  omega

theorem lt_pagesEnd (start : Nat) {length : Nat} (nonempty : 0 < length) :
    start < pagesEnd start length := by
  simp only [pagesEnd, loadPageSize]
  omega

namespace SegmentSpec

/-- What the image validators ensure of a segment before it is planned. -/
structure Loadable (sourceLength : Nat) (segment : SegmentSpec) : Prop where
  nonempty : 0 < segment.memorySize
  aligned : segment.target % loadPageSize = 0
  fileFits : segment.fileSize ≤ segment.memorySize
  inFile : segment.fileOffset + segment.fileSize ≤ sourceLength
  fileBounded : segment.fileOffset + segment.fileSize < wordLimit
  memoryBounded : segment.target + segment.memorySize < wordLimit
  linked : bootstrapWindowStart ≤ segment.target

def Apart (left right : SegmentSpec) : Prop :=
  left.target + left.memorySize ≤ right.target ∨ right.target + right.memorySize ≤ left.target

def InWindow (segment : SegmentSpec) : Prop :=
  segment.target + segment.memorySize ≤ bootstrapWindowEnd

/-- No page of the segment is one of the source's. -/
def ClearOf (source : SourceAllocation) (segment : SegmentSpec) : Prop :=
  ∀ address, segment.InPages address → ¬ source.InPages address

variable {segment : SegmentSpec} {sourceLength : Nat}

theorem Loadable.pageStart (loadable : segment.Loadable sourceLength) :
    segment.pageStart = segment.target := by
  have aligned := loadable.aligned
  simp only [SegmentSpec.pageStart, loadPageSize] at aligned ⊢
  omega

end SegmentSpec

/-- How a planned item comes from its segment, with what the entry check reads. -/
structure Planned (sourceLength : Nat) (segment : SegmentSpec) (item : LoadItem) : Prop extends
    Made sourceLength segment item where
  flags : item.flags = segment.flags
  targetStart : item.targetStart = segment.target
  targetEnd : item.targetEnd = segment.target + segment.memorySize

theorem roundUp_of_lt {start length : Nat}
    (fits : start + length + (loadPageSize - 1) < wordLimit) :
    roundUp (start + length) loadPageSize = .ok (pagesEnd start length) := by
  have added := checkedAdd_eq_some.mpr ⟨fits, rfl⟩
  rw [roundUp, added, okOr_some, ok_bind]
  exact congrArg Except.ok (roundDown_page fits)

/-- Rounding up to a page fails only past the last page of the address space. -/
theorem roundUp_ends (start length : Nat) :
    Ends (fun rounded => rounded = pagesEnd start length)
      (fun reason => reason = .pageRoundingOverflow ∧
        wordLimit ≤ start + length + (loadPageSize - 1))
      (roundUp (start + length) loadPageSize) := by
  by_cases fits : start + length + (loadPageSize - 1) < wordLimit
  · rw [roundUp_of_lt fits]
    exact .returns rfl
  · have none : checkedAdd (start + length) (loadPageSize - 1) = none := if_neg fits
    rw [roundUp, none]
    exact .stops ⟨rfl, Nat.le_of_not_lt fits⟩

theorem makeItem_ends {segment : SegmentSpec} {sourceLength : Nat}
    (loadable : segment.Loadable sourceLength) :
    Ends (Planned sourceLength segment)
      (fun reason => reason = .pageRoundingOverflow ∧ ¬ segment.InWindow)
      (makeItem segment sourceLength) := by
  obtain ⟨nonempty, aligned, fileFits, inFile, fileBounded, memoryBounded, _⟩ := loadable
  have down := roundDown_page (Nat.lt_of_le_of_lt (Nat.le_add_right _ _) memoryBounded)
  suffices carried : Ends (fun item => item.flags = segment.flags ∧
      item.targetStart = segment.target ∧ item.targetEnd = segment.target + segment.memorySize)
      (fun reason => reason = .pageRoundingOverflow ∧ ¬ segment.InWindow)
      (makeItem segment sourceLength) by
    refine carried.imp ?_ fun _ => id
    intro item made carries
    exact ⟨makeItem_made made, carries.1, carries.2.1, carries.2.2⟩
  unfold makeItem
  refine .guard (fun zero => absurd zero (Nat.ne_of_gt nonempty)) fun _ => ?_
  refine .guard (fun unaligned => absurd aligned unaligned) fun _ => ?_
  refine .step (okOr_eq_ok.mpr (checkedAdd_eq_some.mpr ⟨fileBounded, rfl⟩)) ?_
  refine .guard (fun outside => absurd inFile (Nat.not_le_of_lt outside)) fun _ => ?_
  refine .step (okOr_eq_ok.mpr (checkedAdd_eq_some.mpr ⟨memoryBounded, rfl⟩)) ?_
  refine ((roundUp_ends _ _).imp (fun _ _ => id) ?_).bind ?_
  · rintro reason ⟨rfl, high⟩
    refine ⟨rfl, ?_⟩
    simp only [SegmentSpec.InWindow, bootstrapWindowEnd, wordLimit, loadPageSize] at high ⊢
    omega
  rintro pageEnd _ rfl
  rw [down]
  simp only [pagesEnd, loadPageSize] at aligned ⊢
  refine .step (okOr_eq_ok.mpr (checkedSub_eq_some.mpr ⟨by omega, rfl⟩)) ?_
  refine .guard (fun none => absurd none (by omega)) fun _ => ?_
  refine .step (okOr_eq_ok.mpr (checkedAdd_eq_some.mpr ⟨by omega, rfl⟩)) ?_
  refine .step (okOr_eq_ok.mpr (checkedSub_eq_some.mpr ⟨fileFits, rfl⟩)) ?_
  refine .step (okOr_eq_ok.mpr (checkedSub_eq_some.mpr ⟨by omega, rfl⟩)) ?_
  refine .step (okOr_eq_ok.mpr (checkedSub_eq_some.mpr ⟨by omega, rfl⟩)) ?_
  exact .returns ⟨rfl, rfl, rfl⟩

/-! ## One round of the loop -/

/-- The reasons left to refuse a segment. -/
inductive Unloadable (source : SourceAllocation) (segment : SegmentSpec) : PlanError → Prop where
  | rounding (outside : ¬ segment.InWindow) : Unloadable source segment .pageRoundingOverflow
  | above (outside : ¬ segment.InWindow) : Unloadable source segment .aboveWindow
  | shared (meets : ¬ segment.ClearOf source) : Unloadable source segment .sourceOverlap

/-- The plan after the segments already done. -/
structure LoadPlan.Loading (source : SourceAllocation) (done : List SegmentSpec)
    (plan : LoadPlan) : Prop where
  count : plan.items.length = done.length
  planned : ∀ segment ∈ done, ∃ item ∈ plan.items, Planned source.fileLength segment item
  wanted : ∀ item ∈ plan.items, ∃ segment ∈ done, Planned source.fileLength segment item
  accepted : ∀ segment ∈ done, segment.Loadable source.fileLength ∧ segment.InWindow ∧
    segment.ClearOf source
  total : plan.totalPageBytes = (plan.items.map LoadItem.pageLength).sum

/-- Items apart in the window never exceed its size. -/
theorem total_le_window {items : List LoadItem}
    (apart : items.Pairwise fun left right => ¬ PagesMeet left right)
    (inside : ∀ item ∈ items, bootstrapWindowStart ≤ item.pageStart ∧
      item.pageStart + item.pageLength ≤ bootstrapWindowEnd) :
    (items.map LoadItem.pageLength).sum ≤ bootstrapWindowBytes := by
  have spans : items.Pairwise (Apart LoadItem.pageStart fun item =>
      item.pageStart + item.pageLength) := by
    refine apart.imp ?_
    intro left right clear
    simp only [PagesMeet, Apart] at clear ⊢
    omega
  have size : bootstrapWindowEnd - bootstrapWindowStart = bootstrapWindowBytes := rfl
  have lengths := sum_lengths_le spans inside
  rw [size] at lengths
  simpa only [Nat.add_sub_cancel_left] using lengths

section

variable {source : SourceAllocation} {segment : SegmentSpec} {item : LoadItem}
  {done : List SegmentSpec} {plan : LoadPlan}

/-- In the window and on the pages of its segment. -/
theorem Planned.inside (planned : Planned source.fileLength segment item)
    (loadable : segment.Loadable source.fileLength) (window : segment.InWindow) :
    bootstrapWindowStart ≤ item.pageStart ∧
      item.pageStart + item.pageLength ≤ bootstrapWindowEnd := by
  rw [planned.pageEnd, planned.pageStart, loadable.pageStart]
  exact ⟨loadable.linked, pagesEnd_le window (by decide)⟩

theorem Planned.apart {other : SegmentSpec} {previous : LoadItem}
    (planned : Planned source.fileLength segment item)
    (loadable : segment.Loadable source.fileLength)
    (earlier : Planned source.fileLength other previous)
    (otherLoadable : other.Loadable source.fileLength) (clear : other.Apart segment) :
    ¬ PagesMeet previous item := by
  rw [PagesMeet, planned.pageEnd, earlier.pageEnd, planned.pageStart, earlier.pageStart,
    loadable.pageStart, otherLoadable.pageStart]
  rintro ⟨meets, met⟩
  rcases clear with before | after
  · exact absurd (pagesEnd_le before loadable.aligned) (Nat.not_le_of_lt met)
  · exact absurd (pagesEnd_le after otherLoadable.aligned) (Nat.not_le_of_lt meets)

/-- The overlap test is true exactly of ranges with a common address; both are
nonempty. -/
theorem not_clearOf_of_overlap (pages : 1 ≤ source.pageCount)
    (loadable : segment.Loadable source.fileLength)
    (overlap : KernelImage.rangesOverlap source.pageStart
      (source.pageStart + source.pageCount * loadPageSize) segment.pageStart segment.pageEnd) :
    ¬ segment.ClearOf source := by
  intro clear
  have nonempty : segment.pageStart < segment.pageEnd := by
    have positive := loadable.nonempty
    simp only [SegmentSpec.pageStart, SegmentSpec.pageEnd, loadPageSize]
    omega
  refine clear (max source.pageStart segment.pageStart) ?_ ?_
  all_goals
    simp only [SegmentSpec.InPages, SourceAllocation.InPages, KernelImage.rangesOverlap,
      loadPageSize] at overlap ⊢
    omega

/-- One more item that is apart from the others keeps the sum in the window. -/
theorem LoadPlan.total_le (total : plan.totalPageBytes = (plan.items.map LoadItem.pageLength).sum)
    (inside : ∀ other ∈ plan.items ++ [item], bootstrapWindowStart ≤ other.pageStart ∧
      other.pageStart + other.pageLength ≤ bootstrapWindowEnd)
    (clear : ∀ previous ∈ plan.items, ¬ PagesMeet previous item) :
    plan.totalPageBytes + item.pageLength ≤ bootstrapWindowBytes := by
  have together : (plan.items ++ [item]).Pairwise fun left right => ¬ PagesMeet left right := by
    refine List.pairwise_append.mpr ⟨plan.apart, List.pairwise_singleton _ _, ?_⟩
    intro previous member other single
    rw [List.mem_singleton.mp single]
    exact clear previous member
  have bounded := total_le_window together inside
  rw [List.map_append, List.sum_append, ← total, List.map_singleton,
    List.sum_singleton] at bounded
  exact bounded

theorem LoadPlan.Loading.total_le (loading : plan.Loading source done)
    (planned : Planned source.fileLength segment item)
    (loadable : segment.Loadable source.fileLength) (window : segment.InWindow)
    (clear : ∀ previous ∈ plan.items, ¬ PagesMeet previous item) :
    plan.totalPageBytes + item.pageLength ≤ bootstrapWindowBytes := by
  refine LoadPlan.total_le loading.total
    (forall_mem_append_singleton ?_ (planned.inside loadable window)) clear
  intro other old
  obtain ⟨origin, inDone, earlier⟩ := loading.wanted other old
  obtain ⟨originLoadable, originWindow, _⟩ := loading.accepted origin inDone
  exact earlier.inside originLoadable originWindow

theorem checkItem_ends (loading : plan.Loading source done) (pages : 1 ≤ source.pageCount)
    (room : done.length < maxLoadItems) (loadable : segment.Loadable source.fileLength)
    (apart : ∀ other ∈ done, other.Apart segment) :
    Ends (fun result => Planned source.fileLength segment result.1 ∧ segment.InWindow ∧
        segment.ClearOf source ∧ result.2 = plan.totalPageBytes + result.1.pageLength)
      (Unloadable source segment)
      (checkItem plan source (source.pageStart + source.pageCount * loadPageSize) segment) := by
  unfold checkItem
  refine .guard (fun full => absurd (loading.count.symm.trans full) (Nat.ne_of_lt room)) fun _ => ?_
  refine ((makeItem_ends loadable).imp (fun _ _ => id) ?_).bind ?_
  · rintro reason ⟨rfl, outside⟩
    exact .rounding outside
  intro item _ planned
  have starts : item.pageStart = segment.target := planned.pageStart.trans loadable.pageStart
  refine .guard (fun below => absurd loadable.linked ?_) fun _ => ?_
  · rw [← starts]
    exact Nat.not_le_of_lt below
  refine .step (okOr_eq_ok.mpr (checkedAdd_eq_some.mpr ⟨planned.pageEnd ▸ planned.endBounded, rfl⟩)) ?_
  refine .guard (fun high => .above ?_) fun within => ?_
  · intro window
    exact absurd (planned.inside loadable window).2 (Nat.not_le_of_lt high)
  have window : segment.InWindow := by
    rw [gt_iff_lt, Nat.not_lt, planned.pageEnd] at within
    exact Nat.le_trans planned.inPages within
  have clear : ∀ previous ∈ plan.items, ¬ PagesMeet previous item := by
    intro previous member
    obtain ⟨other, inDone, earlier⟩ := loading.wanted previous member
    exact planned.apart loadable earlier (loading.accepted other inDone).1 (apart other inDone)
  refine .step (checkAll_eq_ok.mpr ?_) ?_
  · intro previous member
    obtain ⟨other, _, earlier⟩ := loading.wanted previous member
    simp only [checkOverlap, bind_eq_ok, okOr_eq_ok, checkedAdd_eq_some, guard_eq_ok, and_true]
    exact ⟨_, ⟨earlier.pageEnd ▸ earlier.endBounded, rfl⟩, clear previous member⟩
  rw [planned.pageEnd, planned.pageStart]
  refine .guard (fun overlap => .shared (not_clearOf_of_overlap pages loadable overlap))
    fun disjoint => ?_
  have total := loading.total_le planned loadable window clear
  refine .step (okOr_eq_ok.mpr (checkedAdd_eq_some.mpr
    ⟨Nat.lt_of_le_of_lt total (by decide), rfl⟩)) ?_
  refine .guard (fun exceeded => absurd total (Nat.not_le_of_lt exceeded)) fun _ => ?_
  refine .returns ⟨planned, window, ?_, rfl⟩
  intro address inSegment inSource
  exact disjoint ⟨Nat.lt_of_le_of_lt inSource.1 inSegment.2,
    Nat.lt_of_le_of_lt inSegment.1 inSource.2⟩

/-- What `add` does with the outcome of its checks. -/
theorem LoadPlan.add_ends {sourcePageEnd : Nat} {good : LoadItem × Nat → Prop}
    {bad : PlanError → Prop}
    (checked : Ends good bad (checkItem plan source sourcePageEnd segment)) :
    Ends (fun next => ∃ item totalPageBytes, good (item, totalPageBytes) ∧
        next.items = plan.items ++ [item] ∧ next.totalPageBytes = totalPageBytes ∧
        next.entry = plan.entry)
      bad (LoadPlan.add source sourcePageEnd plan segment) := by
  unfold LoadPlan.add
  split
  · rename_i reason refused
    exact .stops (checked.of_error refused)
  · rename_i item totalPageBytes accepted
    exact .returns ⟨item, totalPageBytes, checked.of_ok accepted, rfl, rfl, rfl⟩

theorem LoadPlan.Loading.add {next : LoadPlan} (loading : plan.Loading source done)
    (planned : Planned source.fileLength segment item)
    (accepted : segment.Loadable source.fileLength ∧ segment.InWindow ∧ segment.ClearOf source)
    (items : next.items = plan.items ++ [item])
    (total : next.totalPageBytes = plan.totalPageBytes + item.pageLength) :
    next.Loading source (done ++ [segment]) := by
  refine ⟨?_, ?_, ?_, ?_, ?_⟩
  · rw [items, List.length_append, List.length_append, loading.count]
    rfl
  · rw [items]
    exact exists_mem_append_singleton loading.planned planned
  · rw [items]
    exact exists_mem_append_singleton loading.wanted planned
  · exact forall_mem_append_singleton loading.accepted accepted
  · rw [items, total, loading.total]
    simp

end

/-! ## The whole plan -/

/-- The segments of an image, with the entry point in an executable one. -/
structure LoadableSegments (entry sourceLength : Nat) (segments : List SegmentSpec) : Prop where
  nonempty : segments ≠ []
  few : segments.length ≤ maxLoadItems
  each : ∀ segment ∈ segments, segment.Loadable sourceLength
  apart : segments.Pairwise SegmentSpec.Apart
  entry : ∃ segment ∈ segments, segment.flags &&& 1 ≠ 0 ∧ segment.target ≤ entry ∧
    entry < segment.target + segment.memorySize

/-- A plan for every segment, or a segment to refuse. -/
theorem LoadPlan.build_ends {entry : Nat} {segments : List SegmentSpec}
    {source : SourceAllocation} (loadable : LoadableSegments entry source.fileLength segments)
    (pages : 1 ≤ source.pageCount)
    (bounded : source.pageStart + source.pageCount * loadPageSize < wordLimit) :
    Ends (fun plan => plan.Loading source segments)
      (fun reason => ∃ segment ∈ segments, Unloadable source segment reason)
      (LoadPlan.build entry segments source) := by
  have ended : source.pageEnd = .ok (source.pageStart + source.pageCount * loadPageSize) := by
    have bytes : source.pageCount * loadPageSize < wordLimit :=
      Nat.lt_of_le_of_lt (Nat.le_add_left _ _) bounded
    simp only [SourceAllocation.pageEnd, bind_eq_ok, okOr_eq_ok, checkedMul_eq_some,
      checkedAdd_eq_some]
    exact ⟨_, ⟨bytes, rfl⟩, bounded, rfl⟩
  unfold LoadPlan.build
  refine .step ended (Ends.bind (Ends.foldlM (fun done plan => plan.Loading source done) ?_ ?_) ?_)
  · exact ⟨rfl, by simp, by simp, by simp, rfl⟩
  · intro done segment rest plan split loading
    have member : segment ∈ segments := by simp [split]
    have room : done.length < maxLoadItems := by
      have few := loadable.few
      rw [split, List.length_append, List.length_cons] at few
      omega
    have apart : ∀ other ∈ done, other.Apart segment := by
      intro other inDone
      have pairs := loadable.apart
      rw [split] at pairs
      exact (List.pairwise_append.mp pairs).2.2 other inDone segment (by simp)
    refine (LoadPlan.add_ends (checkItem_ends loading pages room (loadable.each segment member)
      apart)).imp ?_ fun reason refused => ⟨segment, member, refused⟩
    rintro next _ ⟨item, _, ⟨planned, window, clear, sum⟩, items, total, _⟩
    exact loading.add planned ⟨loadable.each segment member, window, clear⟩ items
      (total.trans sum)
  · intro plan _ loading
    refine .guard (fun none => ?_) fun _ => ?_
    · exact absurd (List.length_eq_zero_iff.mp (loading.count.symm.trans none)) loadable.nonempty
    refine .guard (fun missing => absurd ?_ missing) fun _ => .returns loading
    obtain ⟨segment, member, executable, inside⟩ := loadable.entry
    obtain ⟨item, inPlan, planned⟩ := loading.planned segment member
    refine ⟨item, inPlan, ?_, planned.targetStart ▸ inside.1, planned.targetEnd ▸ inside.2⟩
    rw [LoadItem.isExecutable, bne_iff_ne, planned.flags]
    exact executable

/-- The plan exists exactly when every segment ends in the window and keeps off
the source. -/
theorem LoadPlan.build_accepts_iff {entry : Nat} {segments : List SegmentSpec}
    {source : SourceAllocation} (loadable : LoadableSegments entry source.fileLength segments)
    (pages : 1 ≤ source.pageCount)
    (bounded : source.pageStart + source.pageCount * loadPageSize < wordLimit) :
    (∃ plan, LoadPlan.build entry segments source = .ok plan) ↔
      ∀ segment ∈ segments, segment.InWindow ∧ segment.ClearOf source := by
  have ends := LoadPlan.build_ends loadable pages bounded
  constructor
  · rintro ⟨plan, built⟩ segment member
    exact ((ends.of_ok built).accepted segment member).2
  · intro accepted
    have never (reason : PlanError) :
        ¬ ∃ segment ∈ segments, Unloadable source segment reason := by
      rintro ⟨segment, member, refused⟩
      obtain ⟨window, clear⟩ := accepted segment member
      cases refused with
      | rounding outside => exact outside window
      | above outside => exact outside window
      | shared meets => exact meets clear
    obtain ⟨plan, built, _⟩ := ends.succeeds never
    exact ⟨plan, built⟩

/-! ## Accepted images -/

/-- What the planner is told of a load segment. -/
def specOf (segment : KernelImage.LoadSegment) : SegmentSpec where
  fileOffset := segment.fileOffset
  fileSize := segment.fileSize
  memorySize := segment.memorySize
  target := segment.physicalAddress
  flags := segment.flags

/-- A validated image has loadable segments, once they are aligned, start in the
window and one of them holds the entry. -/
theorem loadable_of_loads {bytes : Bytes} {image : KernelImage.ValidatedImage} {entry : Nat}
    (loads : image.Loads bytes)
    (aligned : ∀ segment ∈ image.loadSegments, segment.physicalAddress % loadPageSize = 0)
    (linked : ∀ segment ∈ image.loadSegments, bootstrapWindowStart ≤ segment.physicalAddress)
    (executable : ∃ segment ∈ image.loadSegments, segment.isExecutable = true ∧
      segment.physicalAddress ≤ entry ∧ entry < segment.physicalAddress + segment.memorySize) :
    LoadableSegments entry bytes.length (image.loadSegments.map specOf) where
  nonempty := by simpa using loads.nonempty
  few := by simpa using loads.few
  each := by
    intro spec member
    obtain ⟨segment, inImage, rfl⟩ := List.mem_map.mp member
    obtain ⟨program, acceptable, rfl⟩ := loads.origin segment inImage
    exact {
      nonempty := acceptable.nonempty
      aligned := aligned _ inImage
      fileFits := acceptable.fileFits
      inFile := acceptable.inFile
      fileBounded := Nat.lt_of_le_of_lt acceptable.inFile bytes.bounded
      memoryBounded := acceptable.physicalFits
      linked := linked _ inImage }
  apart := List.pairwise_map.mpr (loads.apart.imp fun apart => apart.physical)
  entry := by
    obtain ⟨segment, inImage, flagged, inside⟩ := executable
    exact ⟨_, List.mem_map_of_mem inImage, bne_iff_ne.mp flagged, inside⟩

/-- A bootstrap image is planned exactly when all its segments end in the window
and none shares a page with the file; nothing else is ever wrong with it. -/
theorem LoadPlan.fromValidated_succeeds_iff {bytes : Bytes} {image : KernelImage.ValidatedImage}
    {source : SourceAllocation} (validated : KernelImage.validateBootstrapImage bytes = .ok image)
    (pages : 1 ≤ source.pageCount)
    (bounded : source.pageStart + source.pageCount * 4096 < 2 ^ 64)
    (whole : source.fileLength = bytes.length) :
    ((∃ plan, LoadPlan.fromValidated image source = .ok plan) ↔
      ∀ segment ∈ image.loadSegments,
        segment.physicalAddress + segment.memorySize ≤ 0x0420_0000 ∧
        ∀ address, segment.InPhysicalPages address → ¬ source.InPages address) ∧
    ∀ reason, LoadPlan.fromValidated image source = .error reason →
      reason ∉ [PlanError.noSegments, .tooManySegments, .zeroMemorySize, .unalignedTarget,
        .sourceOutsideFile, .sourceRangeOverflow, .belowWindow, .roundedOverlap,
        .totalSizeOverflow, .totalSizeExceeded, .entryOutsideExecutableSegment] := by
  have bootstrap := KernelImage.validateBootstrapImage_loads validated
  have loadable : LoadableSegments image.raw.header.entry source.fileLength
      (image.loadSegments.map specOf) := by
    rw [whole]
    refine loadable_of_loads bootstrap.loads bootstrap.aligned ?_ ?_
    · intro segment member
      have start := bootstrap.loads.start segment member
      rw [bootstrap.linked] at start
      exact start
    · obtain ⟨segment, member, executable, inside⟩ := bootstrap.loads.entryExecutable
      rw [KernelImage.LoadSegment.Contains, bootstrap.identity segment member] at inside
      exact ⟨segment, member, executable, inside⟩
  constructor
  · refine (LoadPlan.build_accepts_iff loadable pages bounded).trans ?_
    simp only [List.forall_mem_map]
    rfl
  · intro reason failed
    obtain ⟨_, _, refused⟩ := (LoadPlan.build_ends loadable pages bounded).of_error failed
    cases refused <;> decide

/-- Three pages from the link address on, loaded from a file further up. -/
theorem LoadPlan.fromValidated_succeeds_iff_bootstrapImage :
    ∃ image plan, KernelImage.validateBootstrapImage KernelImage.bootstrapImage = .ok image ∧
      LoadPlan.fromValidated image ⟨0x50_0000, 1, 232⟩ = .ok plan := by
  obtain ⟨image, validated, segments⟩ := KernelImage.bootstrapImage_validated
  have accepted := (@LoadPlan.fromValidated_succeeds_iff _ image ⟨0x50_0000, 1, 232⟩ validated
    (by decide) (by decide) rfl).1
  have clear : ∀ segment ∈ image.loadSegments,
      segment.physicalAddress + segment.memorySize ≤ 0x0420_0000 ∧
      ∀ address, segment.InPhysicalPages address →
        ¬ SourceAllocation.InPages ⟨0x50_0000, 1, 232⟩ address := by
    intro segment member
    have low := KernelImage.threeSegments_low _ (segments ▸ member)
    refine ⟨Nat.le_trans low (by decide), fun address => ?_⟩
    simp only [KernelImage.LoadSegment.InPhysicalPages, SourceAllocation.InPages]
    omega
  obtain ⟨plan, planned⟩ := accepted.mpr clear
  exact ⟨image, plan, validated, planned⟩

end UnnamedOS.Loader
