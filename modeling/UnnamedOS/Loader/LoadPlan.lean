import UnnamedOS.Data.Fallible
import UnnamedOS.Data.Word
import UnnamedOS.KernelImage.Parse

namespace UnnamedOS.Loader

open UnnamedOS.Data

/-! # The plan of the kernel's segments

Every load segment becomes an item with its page range in the bootstrap
window.  A plan only exists when its page ranges are nonempty and apart from
each other. -/

@[simp] def bootstrapWindowStart : Nat := 0x0020_0000
@[simp] def bootstrapWindowEnd : Nat := 0x0420_0000
@[simp] def bootstrapWindowBytes : Nat := 64 * 1024 * 1024
@[simp] def loadPageSize : Nat := 4096
@[simp] def maxLoadItems : Nat := KernelImage.maxProgramHeaders

inductive PlanError where
  | noSegments
  | tooManySegments
  | zeroMemorySize
  | unalignedTarget
  | sourceRangeOverflow
  | rangeOverflow
  | pageRoundingOverflow
  | sourceOutsideFile
  | belowWindow
  | aboveWindow
  | totalSizeOverflow
  | totalSizeExceeded
  | roundedOverlap
  | sourceOverlap
  | entryOutsideExecutableSegment
deriving DecidableEq, Repr

structure SourceAllocation where
  pageStart : Nat
  pageCount : Nat
  fileLength : Nat
deriving DecidableEq, Repr

def SourceAllocation.pageEnd (source : SourceAllocation) : Except PlanError Nat := do
  let bytes ← okOr (checkedMul source.pageCount loadPageSize) .rangeOverflow
  okOr (checkedAdd source.pageStart bytes) .rangeOverflow

structure SegmentSpec where
  fileOffset : Nat
  fileSize : Nat
  memorySize : Nat
  target : Nat
  flags : Nat
deriving DecidableEq, Repr

structure LoadItem where
  sourceOffset : Nat
  fileSize : Nat
  memorySize : Nat
  targetStart : Nat
  targetEnd : Nat
  pageStart : Nat
  pageCount : Nat
  flags : Nat
  bssStart : Nat
  bssLength : Nat
  zeroOffset : Nat
  zeroLength : Nat
  copyOffset : Nat
  paddingStart : Nat
  paddingLength : Nat
deriving DecidableEq, Repr

namespace LoadItem

def pageLength (item : LoadItem) : Nat := item.zeroLength

def isExecutable (item : LoadItem) : Bool := item.flags &&& 1 != 0

end LoadItem

/-- `value & !(alignment - 1)`. -/
def roundDown (value alignment : Nat) : Nat := value &&& (wordLimit - alignment)

def roundUp (value alignment : Nat) : Except PlanError Nat := do
  let rounded ← okOr (checkedAdd value (alignment - 1)) .pageRoundingOverflow
  .ok (rounded &&& (wordLimit - alignment))

def makeItem (segment : SegmentSpec) (sourceLength : Nat) : Except PlanError LoadItem :=
  if segment.memorySize = 0 then .error .zeroMemorySize
  else if ¬ segment.target % loadPageSize = 0 then .error .unalignedTarget
  else do
    let sourceEnd ← okOr (checkedAdd segment.fileOffset segment.fileSize) .sourceRangeOverflow
    if sourceEnd > sourceLength then .error .sourceOutsideFile
    else do
      let targetEnd ← okOr (checkedAdd segment.target segment.memorySize) .rangeOverflow
      let pageStart := roundDown segment.target loadPageSize
      let pageEnd ← roundUp targetEnd loadPageSize
      let pageLength ← okOr (checkedSub pageEnd pageStart) .rangeOverflow
      let pageCount := pageLength / loadPageSize
      if pageCount = 0 then .error .zeroMemorySize
      else do
        let bssStart ← okOr (checkedAdd segment.target segment.fileSize) .rangeOverflow
        let bssLength ← okOr (checkedSub segment.memorySize segment.fileSize) .rangeOverflow
        let copyOffset ← okOr (checkedSub segment.target pageStart) .rangeOverflow
        let paddingLength ← okOr (checkedSub pageEnd targetEnd) .rangeOverflow
        .ok {
          sourceOffset := segment.fileOffset
          fileSize := segment.fileSize
          memorySize := segment.memorySize
          targetStart := segment.target
          targetEnd
          pageStart
          pageCount
          flags := segment.flags
          bssStart
          bssLength
          zeroOffset := 0
          zeroLength := pageLength
          copyOffset
          paddingStart := targetEnd
          paddingLength }

theorem makeItem_pageLength {segment : SegmentSpec} {sourceLength : Nat} {item : LoadItem}
    (made : makeItem segment sourceLength = .ok item) : 0 < item.pageLength := by
  simp only [makeItem, guard_eq_ok, bind_eq_ok, Except.ok.injEq] at made
  obtain ⟨_, _, _, _, _, _, _, _, _, pageLength, _, nonempty, _, _, _, _, _, _, _, _, rfl⟩ := made
  simp only [LoadItem.pageLength]
  by_contra empty
  have none : pageLength = 0 := by omega
  simp [none] at nonempty

/-- Whether two items' page ranges meet. -/
def PagesMeet (left right : LoadItem) : Prop :=
  left.pageStart < right.pageStart + right.pageLength ∧
    right.pageStart < left.pageStart + left.pageLength

/-- A plan, also while it is being built. -/
structure LoadPlan where
  items : List LoadItem
  totalPageBytes : Nat
  entry : Nat
  bounded : items.length ≤ maxLoadItems
  nonempty : ∀ item ∈ items, 0 < item.pageLength
  apart : items.Pairwise fun left right => ¬ PagesMeet left right

/-- One round of the overlap loop. -/
def checkOverlap (item : LoadItem) (pageEnd : Nat) (previous : LoadItem) :
    Except PlanError Unit := do
  let previousEnd ← okOr (checkedAdd previous.pageStart previous.pageLength) .rangeOverflow
  if KernelImage.rangesOverlap previous.pageStart previousEnd item.pageStart pageEnd then
    .error .roundedOverlap
  else .ok ()

/-- Everything `build` checks of a new item before it joins the plan. -/
def checkItem (plan : LoadPlan) (source : SourceAllocation) (sourcePageEnd : Nat)
    (segment : SegmentSpec) : Except PlanError (LoadItem × Nat) :=
  if plan.items.length = maxLoadItems then .error .tooManySegments
  else do
    let item ← makeItem segment source.fileLength
    if item.pageStart < bootstrapWindowStart then .error .belowWindow
    else do
      let pageEnd ← okOr (checkedAdd item.pageStart item.pageLength) .rangeOverflow
      if pageEnd > bootstrapWindowEnd then .error .aboveWindow
      else do
        checkAll (checkOverlap item pageEnd) plan.items
        if KernelImage.rangesOverlap source.pageStart sourcePageEnd item.pageStart pageEnd then
          .error .sourceOverlap
        else do
          let totalPageBytes ←
            okOr (checkedAdd plan.totalPageBytes item.pageLength) .totalSizeOverflow
          if totalPageBytes > bootstrapWindowBytes then .error .totalSizeExceeded
          else .ok (item, totalPageBytes)

theorem checkItem_joins {plan : LoadPlan} {source : SourceAllocation} {sourcePageEnd : Nat}
    {segment : SegmentSpec} {item : LoadItem} {totalPageBytes : Nat}
    (checked : checkItem plan source sourcePageEnd segment = .ok (item, totalPageBytes)) :
    plan.items.length < maxLoadItems ∧ 0 < item.pageLength ∧
      ∀ previous ∈ plan.items, ¬ PagesMeet previous item := by
  simp only [checkItem, guard_eq_ok, bind_eq_ok, okOr_eq_ok, checkedAdd_eq_some, Except.ok.injEq,
    Prod.mk.injEq] at checked
  obtain ⟨room, _, made, _, _, ⟨_, rfl⟩, _, _, overlaps, _, _, _, _, rfl, _⟩ := checked
  have bounded := plan.bounded
  refine ⟨by omega, makeItem_pageLength made, ?_⟩
  intro previous member meet
  have clear := checkAll_eq_ok.mp overlaps previous member
  simp only [checkOverlap, bind_eq_ok, okOr_eq_ok, checkedAdd_eq_some, guard_eq_ok] at clear
  obtain ⟨_, ⟨_, rfl⟩, separate, _⟩ := clear
  exact separate meet

def LoadPlan.add (source : SourceAllocation) (sourcePageEnd : Nat) (plan : LoadPlan)
    (segment : SegmentSpec) : Except PlanError LoadPlan :=
  match checked : checkItem plan source sourcePageEnd segment with
  | .error reason => .error reason
  | .ok (item, totalPageBytes) => .ok {
      items := plan.items ++ [item]
      totalPageBytes
      entry := plan.entry
      bounded := by
        have room := (checkItem_joins checked).1
        simp only [List.length_append, List.length_singleton]
        omega
      nonempty := by
        intro other member
        rcases List.mem_append.mp member with member | member
        · exact plan.nonempty other member
        · rw [List.mem_singleton.mp member]
          exact (checkItem_joins checked).2.1
      apart := by
        refine List.pairwise_append.mpr ⟨plan.apart, List.pairwise_singleton _ _, ?_⟩
        intro previous member other single
        rw [List.mem_singleton.mp single]
        exact (checkItem_joins checked).2.2 previous member }

def LoadPlan.build (entry : Nat) (segments : List SegmentSpec) (source : SourceAllocation) :
    Except PlanError LoadPlan := do
  let sourcePageEnd ← source.pageEnd
  let plan ← segments.foldlM (LoadPlan.add source sourcePageEnd)
    ⟨[], 0, entry, by simp, by simp, .nil⟩
  if plan.items.length = 0 then .error .noSegments
  else if ¬ ∃ item ∈ plan.items, item.isExecutable = true ∧ entry ≥ item.targetStart ∧
      entry < item.targetEnd then
    .error .entryOutsideExecutableSegment
  else .ok plan

def LoadPlan.fromValidated (image : KernelImage.ValidatedImage) (source : SourceAllocation) :
    Except PlanError LoadPlan :=
  LoadPlan.build image.raw.header.entry
    (image.loadSegments.map fun segment => {
      fileOffset := segment.fileOffset
      fileSize := segment.fileSize
      memorySize := segment.memorySize
      target := segment.physicalAddress
      flags := segment.flags })
    source

/-! ## Where the segments lie -/

/-- Clearing the low twelve bits of a word. -/
theorem roundDown_page {value : Nat} (word : value < wordLimit) :
    roundDown value loadPageSize = value / loadPageSize * loadPageSize := by
  have mask : wordLimit - loadPageSize = (2 ^ 52 - 1) <<< 12 := by decide
  rw [roundDown, mask]
  exact and_shifted_mask word

namespace SegmentSpec

/-- The first page of the segment and the end of its last one. -/
def pageStart (segment : SegmentSpec) : Nat := segment.target / loadPageSize * loadPageSize

def pageEnd (segment : SegmentSpec) : Nat :=
  (segment.target + segment.memorySize + (loadPageSize - 1)) / loadPageSize * loadPageSize

def InPages (segment : SegmentSpec) (address : Nat) : Prop :=
  segment.pageStart ≤ address ∧ address < segment.pageEnd

end SegmentSpec

def SourceAllocation.InPages (source : SourceAllocation) (address : Nat) : Prop :=
  source.pageStart ≤ address ∧ address < source.pageStart + source.pageCount * loadPageSize

/-- How an item of the plan comes from a segment. -/
structure Made (sourceLength : Nat) (segment : SegmentSpec) (item : LoadItem) : Prop where
  sourceOffset : item.sourceOffset = segment.fileOffset
  fileSize : item.fileSize = segment.fileSize
  memorySize : item.memorySize = segment.memorySize
  copyOffset : item.copyOffset = 0
  target : segment.pageStart = segment.target
  pageStart : item.pageStart = segment.pageStart
  pageEnd : item.pageStart + item.pageLength = segment.pageEnd
  pages : item.pageCount * loadPageSize = item.pageLength
  inMemory : segment.fileSize ≤ segment.memorySize
  inPages : segment.target + segment.memorySize ≤ segment.pageEnd
  inFile : segment.fileOffset + segment.fileSize ≤ sourceLength
  fileBounded : segment.fileOffset + segment.fileSize < wordLimit
  endBounded : segment.pageEnd < wordLimit

theorem makeItem_made {segment : SegmentSpec} {sourceLength : Nat} {item : LoadItem}
    (made : makeItem segment sourceLength = .ok item) : Made sourceLength segment item := by
  simp only [makeItem, roundUp, guard_eq_ok, bind_eq_ok, okOr_eq_ok, checkedAdd_eq_some,
    checkedSub_eq_some, Except.ok.injEq] at made
  obtain ⟨_, aligned, _, ⟨fileBounded, rfl⟩, inFile, _, ⟨memoryBounded, rfl⟩, pageEnd,
    ⟨_, ⟨rounds, rfl⟩, rounded⟩, pageLength, ⟨_, length⟩, _, _, _, _, ⟨inMemory, rfl⟩, _,
    ⟨_, offset⟩, _, _, rfl⟩ := made
  have target := roundDown_page (Nat.lt_of_le_of_lt (Nat.le_add_right _ _) memoryBounded)
  have stop := roundDown_page rounds
  have stopIs : pageEnd = segment.pageEnd := rounded.symm.trans stop
  have startIs : roundDown segment.target loadPageSize = segment.pageStart := target
  have alignedStart : segment.pageStart = segment.target := by
    simp only [SegmentSpec.pageStart, loadPageSize] at aligned ⊢
    omega
  have room : segment.target + segment.memorySize ≤ segment.pageEnd := by
    simp only [SegmentSpec.pageEnd, loadPageSize]
    omega
  have whole : segment.pageEnd % loadPageSize = 0 := Nat.mul_mod_left _ _
  simp only [loadPageSize] at aligned whole
  have bounded : segment.pageEnd < wordLimit :=
    Nat.lt_of_le_of_lt (Nat.div_mul_le_self _ _) rounds
  refine ⟨rfl, rfl, rfl, ?_, alignedStart, startIs, ?_, ?_, inMemory, room, ?_, fileBounded,
    bounded⟩
  · simp only
    omega
  · simp only [LoadItem.pageLength]
    omega
  · simp only [LoadItem.pageLength, loadPageSize]
    omega
  · omega

theorem checkItem_made {plan : LoadPlan} {source : SourceAllocation} {sourcePageEnd : Nat}
    {segment : SegmentSpec} {item : LoadItem} {totalPageBytes : Nat}
    (checked : checkItem plan source sourcePageEnd segment = .ok (item, totalPageBytes)) :
    Made source.fileLength segment item ∧
      ¬ (source.pageStart < item.pageStart + item.pageLength ∧ item.pageStart < sourcePageEnd) := by
  simp only [checkItem, guard_eq_ok, bind_eq_ok, okOr_eq_ok, checkedAdd_eq_some, Except.ok.injEq,
    Prod.mk.injEq] at checked
  obtain ⟨_, _, made, _, _, ⟨_, rfl⟩, _, _, _, apart, _, _, _, rfl, _⟩ := checked
  exact ⟨makeItem_made made, apart⟩

theorem LoadPlan.add_items {plan next : LoadPlan} {source : SourceAllocation} {sourcePageEnd : Nat}
    {segment : SegmentSpec} (added : LoadPlan.add source sourcePageEnd plan segment = .ok next) :
    ∃ item totalPageBytes, next.items = plan.items ++ [item] ∧
      checkItem plan source sourcePageEnd segment = .ok (item, totalPageBytes) := by
  unfold LoadPlan.add at added
  split at added
  · contradiction
  · rename_i item totalPageBytes checked
    cases added
    exact ⟨item, totalPageBytes, rfl, checked⟩

/-- Two lists whose members correspond still do with one more pair. -/
theorem exists_mem_append_singleton {α β : Type} {related : α → β → Prop} {left : List α}
    {right : List β} {first : α} {second : β} (each : ∀ a ∈ left, ∃ b ∈ right, related a b)
    (joined : related first second) :
    ∀ a ∈ left ++ [first], ∃ b ∈ right ++ [second], related a b := by
  refine forall_mem_append_singleton ?_ ⟨second, by simp, joined⟩
  intro a old
  obtain ⟨b, inRight, holds⟩ := each a old
  exact ⟨b, List.mem_append_left _ inRight, holds⟩

/-- The plan has an item for every segment and no others, all of them clear of
the source's pages. -/
structure LoadPlan.Places (source : SourceAllocation) (segments : List SegmentSpec)
    (plan : LoadPlan) : Prop where
  planned : ∀ segment ∈ segments, ∃ item ∈ plan.items, Made source.fileLength segment item
  wanted : ∀ item ∈ plan.items, ∃ segment ∈ segments, Made source.fileLength segment item
  clear : ∀ item ∈ plan.items, ∀ address, source.InPages address →
    ¬ (item.pageStart ≤ address ∧ address < item.pageStart + item.pageLength)

theorem LoadPlan.Places.add {plan next : LoadPlan} {source : SourceAllocation}
    {segments : List SegmentSpec} {segment : SegmentSpec} (places : plan.Places source segments)
    (added : LoadPlan.add source (source.pageStart + source.pageCount * loadPageSize) plan segment =
      .ok next) : next.Places source (segments ++ [segment]) := by
  obtain ⟨item, _, items, checked⟩ := LoadPlan.add_items added
  obtain ⟨made, apart⟩ := checkItem_made checked
  refine ⟨?_, ?_, ?_⟩
  · rw [items]
    exact exists_mem_append_singleton places.planned made
  · rw [items]
    exact exists_mem_append_singleton places.wanted made
  · rw [items]
    refine forall_mem_append_singleton places.clear ?_
    intro address inSource
    obtain ⟨low, high⟩ := inSource
    omega

theorem LoadPlan.build_places {entry : Nat} {segments : List SegmentSpec}
    {source : SourceAllocation} {plan : LoadPlan}
    (built : LoadPlan.build entry segments source = .ok plan) : plan.Places source segments := by
  obtain ⟨sourcePageEnd, ends, planned⟩ := bind_eq_ok.mp built
  obtain ⟨last, looped, finished⟩ := bind_eq_ok.mp planned
  simp only [SourceAllocation.pageEnd, bind_eq_ok, okOr_eq_ok, checkedMul_eq_some,
    checkedAdd_eq_some] at ends
  obtain ⟨_, ⟨_, rfl⟩, _, rfl⟩ := ends
  simp only [guard_eq_ok, Except.ok.injEq] at finished
  obtain ⟨_, _, rfl⟩ := finished
  refine foldlM_invariant (fun done plan => plan.Places source done) ?_ ?_ looped
  · exact ⟨by simp, by simp, by simp⟩
  · intro before segment after current next _ places added
    exact places.add added

end UnnamedOS.Loader
