import UnnamedOS.KernelImage.Decision

namespace UnnamedOS.KernelImage

open UnnamedOS.Data

/-! # Addresses of an accepted image

The validator looks at the first and the last address of each load segment. -/

/-- An accepted image keeps the file and its header, and where the loop saw the
first segment start. -/
theorem parse_scan {bytes : Bytes} {image : ValidatedImage}
    (parsed : ValidatedImage.parse bytes = .ok image) :
    ∃ scan, (List.range (headerOf bytes).programHeaderCount).foldlM
        (scanProgram (imageOf bytes)) {} = .ok scan ∧
      image.raw = imageOf bytes ∧ image.loadStart = scan.loadStart := by
  have acceptable := (parse_decides bytes).exact.mp ⟨image, parsed⟩
  obtain ⟨_, _, parsed⟩ := bind_eq_ok.mp parsed
  obtain ⟨raw, read, parsed⟩ := bind_eq_ok.mp parsed
  rw [parse_long acceptable.long] at read
  obtain rfl := Except.ok.inj read
  obtain ⟨_, _, parsed⟩ := bind_eq_ok.mp parsed
  obtain ⟨_, _, parsed⟩ := bind_eq_ok.mp parsed
  obtain ⟨_, _, parsed⟩ := bind_eq_ok.mp parsed
  obtain ⟨scan, looped, parsed⟩ := bind_eq_ok.mp parsed
  simp only [guard_eq_ok, Except.ok.injEq] at parsed
  exact ⟨scan, looped, by rw [← parsed.2.2], by rw [← parsed.2.2]⟩

theorem parse_raw {bytes : Bytes} {image : ValidatedImage}
    (parsed : ValidatedImage.parse bytes = .ok image) : image.raw = imageOf bytes := by
  obtain ⟨_, _, raw, _⟩ := parse_scan parsed
  exact raw

theorem parse_table {bytes : Bytes} {image : ValidatedImage}
    (parsed : ValidatedImage.parse bytes = .ok image) : TableInside bytes := by
  have acceptable := (parse_decides bytes).exact.mp ⟨image, parsed⟩
  exact ⟨acceptable.header.programHeaderSize, acceptable.programTable,
    acceptable.header.programHeaderCount⟩

/-- The iterator skips the other headers and reads every one. -/
theorem segmentsFrom_eq {bytes : Bytes} (table : TableInside bytes) {indices : List Nat}
    (listed : ∀ index ∈ indices, index < (headerOf bytes).programHeaderCount) :
    segmentsFrom (imageOf bytes) indices =
      (indices.filter fun index => (programOf bytes index).segmentType = ptLoad).map
        fun index => (programOf bytes index).loadSegment := by
  induction indices with
  | nil => rfl
  | cons index rest ih =>
      have restListed := ih fun other member => listed other (List.mem_cons_of_mem _ member)
      rw [segmentsFrom, table.programHeader (listed index (by simp))]
      by_cases load : (programOf bytes index).segmentType = ptLoad
      · simp only [load, ↓reduceIte, restListed, decide_true, List.filter_cons_of_pos,
          List.map_cons]
      · simp only [load, ↓reduceIte, restListed, decide_false, Bool.false_eq_true,
          not_false_eq_true, List.filter_cons_of_neg]

theorem loadSegments_eq {bytes : Bytes} {image : ValidatedImage}
    (parsed : ValidatedImage.parse bytes = .ok image) :
    image.loadSegments = ((List.range (headerOf bytes).programHeaderCount).filter
      fun index => (programOf bytes index).segmentType = ptLoad).map
        fun index => (programOf bytes index).loadSegment := by
  rw [ValidatedImage.loadSegments, parse_raw parsed]
  exact segmentsFrom_eq (parse_table parsed) fun index member => List.mem_range.mp member

/-- The load segments of an accepted image are its `PT_LOAD` headers. -/
theorem mem_loadSegments {bytes : Bytes} {image : ValidatedImage}
    (parsed : ValidatedImage.parse bytes = .ok image) {segment : LoadSegment} :
    segment ∈ image.loadSegments ↔
      ∃ index, IsLoad bytes index ∧ (programOf bytes index).loadSegment = segment := by
  rw [loadSegments_eq parsed]
  simp only [List.mem_map, List.mem_filter, List.mem_range, decide_eq_true_eq, IsLoad]

/-- The segment starts in the lower half and ends in the upper one. -/
def LoadSegment.SpansHole (segment : LoadSegment) : Prop :=
  segment.virtualAddress ≤ 0x0000_7fff_ffff_ffff ∧
    0xffff_8000_0000_0000 < segment.virtualAddress + segment.memorySize

def LoadSegment.Contains (segment : LoadSegment) (address : Nat) : Prop :=
  segment.virtualAddress ≤ address ∧ address < segment.virtualAddress + segment.memorySize

/-- All addresses of an accepted image's segments are canonical exactly when
no segment starts in the lower half and ends in the upper one. -/
theorem loadSegments_canonical {bytes : Bytes} {image : ValidatedImage}
    (parsed : ValidatedImage.parse bytes = .ok image) :
    (∀ segment ∈ image.loadSegments, ∀ address, segment.Contains address → isCanonical address) ↔
      ∀ segment ∈ image.loadSegments, ¬ segment.SpansHole := by
  have acceptable := (parse_decides bytes).exact.mp ⟨image, parsed⟩
  constructor
  · intro canonical segment member spans
    -- The first address of the hole is one of the segment's.
    have inside : segment.Contains 0x0000_8000_0000_0000 :=
      ⟨Nat.le_succ_of_le spans.1, Nat.lt_trans (by decide) spans.2⟩
    exact absurd (canonical segment member _ inside) (by decide)
  · intro narrow segment member address inside
    have short := narrow segment member
    obtain ⟨index, load, rfl⟩ := (mem_loadSegments parsed).mp member
    have first := (acceptable.loads index load).firstCanonical
    have last := (acceptable.loads index load).lastCanonical
    have nonempty := (acceptable.loads index load).nonempty
    simp only [LoadSegment.SpansHole, LoadSegment.Contains, RawProgramHeader.loadSegment,
      isCanonical] at *
    omega

/-- A file of one header and one executable segment that is all zero fill. -/
def oneSegment (virtualAddress memorySize : Nat) : List UInt8 :=
  elfMagic ++ [2, 1, 1, 0] ++ leBytes 8 0 ++ leBytes 2 2 ++ leBytes 2 62 ++ leBytes 4 1 ++
    leBytes 8 virtualAddress ++ leBytes 8 64 ++ leBytes 8 0 ++ leBytes 4 0 ++ leBytes 2 64 ++
    leBytes 2 56 ++ leBytes 2 1 ++ leBytes 2 64 ++ leBytes 2 0 ++ leBytes 2 0 ++
    leBytes 4 1 ++ leBytes 4 5 ++ leBytes 8 0 ++ leBytes 8 virtualAddress ++ leBytes 8 0 ++
    leBytes 8 0 ++ leBytes 8 memorySize ++ leBytes 8 1

/-- Its segment runs from `0x1000` to the upper half. -/
def holeImage : Bytes := ⟨oneSegment 0x1000 0xffff_8000_0000_0000, by decide +kernel⟩

/-- The validator accepts a segment that runs through the canonical hole. -/
theorem parse_accepts_hole :
    ∃ image, ValidatedImage.parse holeImage = .ok image ∧ ∃ segment ∈ image.loadSegments,
      segment.Contains 0x0000_8000_0000_0000 ∧ ¬ isCanonical 0x0000_8000_0000_0000 := by
  have parsed : (ValidatedImage.parse holeImage).map ValidatedImage.loadSegments =
      .ok [⟨0, 0, 0xffff_8000_0000_0000, 0, 0x1000, 1, 5⟩] := by decide +kernel
  cases run : ValidatedImage.parse holeImage with
  | error failure =>
      rw [run] at parsed
      contradiction
  | ok image =>
      rw [run] at parsed
      have segments := Except.ok.inj parsed
      exact ⟨image, rfl, _, by rw [segments]; exact List.mem_singleton_self _,
        ⟨by decide, by decide⟩, by decide⟩

def lowImage : Bytes := ⟨oneSegment 0x20_0000 0x1000, by decide +kernel⟩

/-- A segment of one page in the lower half. -/
theorem loadSegments_canonical_lowImage :
    ∃ image, ValidatedImage.parse lowImage = .ok image ∧
      ∀ segment ∈ image.loadSegments, ∀ address, segment.Contains address →
        isCanonical address := by
  have parsed : (ValidatedImage.parse lowImage).map ValidatedImage.loadSegments =
      .ok [⟨0, 0, 0x1000, 0, 0x20_0000, 1, 5⟩] := by decide +kernel
  cases run : ValidatedImage.parse lowImage with
  | error failure =>
      rw [run] at parsed
      contradiction
  | ok image =>
      rw [run] at parsed
      have segments : image.loadSegments = _ := Except.ok.inj parsed
      refine ⟨image, rfl, (loadSegments_canonical run).mpr ?_⟩
      intro segment member spans
      rw [segments] at member
      rw [List.mem_singleton.mp member] at spans
      exact absurd spans.2 (by decide)

end UnnamedOS.KernelImage
