import UnnamedOS.KernelImage.Canonical

namespace UnnamedOS.KernelImage

open UnnamedOS.Data

/-! # The two boot images

A bootstrap image runs where it is loaded; a higher-half image runs at a fixed
offset above it.  Both validators look at every load segment of an ELF image
that has already been accepted. -/

@[simp] def bootstrapLinkAddress : Nat := 0x0020_0000
@[simp] def bootstrapPageSize : Nat := 4096
@[simp] def bootstrapPhysicalEnd : Nat := 0x0420_0000
@[simp] def higherHalfVirtualOffset : Nat := 0xffff_ffff_8000_0000
@[simp] def higherHalfLinkAddress : Nat := 0xffff_ffff_8020_0000
@[simp] def kernelImageVirtualStart : Nat := 0xffff_ffff_8000_0000
@[simp] def kernelImageVirtualEnd : Nat := 0xffff_ffff_c000_0000
@[simp] def pfRead : Nat := 4

inductive BootstrapValidationError where
  | elf (error : ValidationError)
  | unexpectedEntry
  | unexpectedLoadStart
  | misalignedLoadSegment
  | missingExecuteSegment
  | missingReadOnlySegment
  | missingWritableSegment
  | missingBss
deriving DecidableEq, Repr

inductive HigherHalfValidationError where
  | elf (error : ValidationError)
  | unexpectedEntry
  | unexpectedPhysicalStart
  | unexpectedVirtualStart
  | misalignedLoadSegment
  | physicalOutsideBootstrapWindow
  | virtualOutsideKernelRegion
  | inconsistentTranslationOffset
  | invalidSegmentPermissions
  | missingExecuteSegment
  | missingReadOnlySegment
  | missingWritableSegment
  | missingBss
  | entryTranslationOverflow
  | entryWithoutPhysicalBacking
  | spanOverflow
deriving DecidableEq, Repr

/-- How one of the two validators can end without a value. -/
inductive ImageFailure (ε : Type) where
  | panic
  | rejected (error : ε)
deriving DecidableEq, Repr

/-- `.map_err(Error::Elf)`. -/
def ImageFailure.fromElf {ε : Type} (elf : ValidationError → ε) : Failure → ImageFailure ε
  | .panic => .panic
  | .rejected error => .rejected (elf error)

namespace LoadSegment

def isReadable (segment : LoadSegment) : Bool := segment.flags &&& pfRead != 0
def isWritable (segment : LoadSegment) : Bool := segment.flags &&& pfWrite != 0
def isExecutable (segment : LoadSegment) : Bool := segment.flags &&& pfExecute != 0

/-- The addresses of the whole pages around a segment's physical range. -/
def InPhysicalPages (segment : LoadSegment) (address : Nat) : Prop :=
  segment.physicalAddress / 4096 * 4096 ≤ address ∧
    address < (segment.physicalAddress + segment.memorySize + 4095) / 4096 * 4096

def InVirtualPages (segment : LoadSegment) (address : Nat) : Prop :=
  segment.virtualAddress / 4096 * 4096 ≤ address ∧
    address < (segment.virtualAddress + segment.memorySize + 4095) / 4096 * 4096

end LoadSegment

/-- The mutable locals of both loops over the load segments. -/
structure SegmentKinds where
  hasExecute : Bool := false
  hasReadOnly : Bool := false
  hasWritable : Bool := false
  hasBss : Bool := false

/-- The four checks both validators make after the loop. -/
def SegmentKinds.check {ε : Type} (kinds : SegmentKinds)
    (missingExecuteSegment missingReadOnlySegment missingWritableSegment missingBss : ε) :
    Except (ImageFailure ε) Unit :=
  if kinds.hasExecute = false then .error (.rejected missingExecuteSegment)
  else if kinds.hasReadOnly = false then .error (.rejected missingReadOnlySegment)
  else if kinds.hasWritable = false then .error (.rejected missingWritableSegment)
  else if kinds.hasBss = false then .error (.rejected missingBss)
  else .ok ()

def checkBootstrapSegment (kinds : SegmentKinds) (segment : LoadSegment) :
    Except (ImageFailure BootstrapValidationError) SegmentKinds :=
  if segment.physicalAddress ≠ segment.virtualAddress then
    .error (.rejected (.elf .physicalVirtualAddressMismatch))
  else if segment.alignment ≠ bootstrapPageSize ∨
      segment.physicalAddress % bootstrapPageSize ≠ 0 ∨
      segment.fileOffset % bootstrapPageSize ≠ 0 then
    .error (.rejected .misalignedLoadSegment)
  else .ok {
    hasExecute := kinds.hasExecute || segment.isExecutable
    hasReadOnly := kinds.hasReadOnly ||
      (segment.isReadable && !segment.isWritable && !segment.isExecutable)
    hasWritable := kinds.hasWritable || (segment.isWritable && !segment.isExecutable)
    hasBss := kinds.hasBss || decide (segment.memorySize > segment.fileSize) }

def validateBootstrapImage (bytes : Bytes) :
    Except (ImageFailure BootstrapValidationError) ValidatedImage := do
  let image ← (ValidatedImage.parse bytes).mapError (.fromElf .elf)
  if image.raw.header.entry ≠ bootstrapLinkAddress then .error (.rejected .unexpectedEntry)
  else if image.loadStart ≠ bootstrapLinkAddress then .error (.rejected .unexpectedLoadStart)
  else do
    let kinds ← image.loadSegments.foldlM checkBootstrapSegment {}
    kinds.check .missingExecuteSegment .missingReadOnlySegment .missingWritableSegment .missingBss
    .ok image

structure ValidatedHigherHalfImage where
  image : ValidatedImage
  physicalEntry : Nat

/-- The `if` over the permission flags; each kind allows one set of them. -/
def SegmentKinds.classify (kinds : SegmentKinds) (flags : Nat) :
    Except (ImageFailure HigherHalfValidationError) SegmentKinds :=
  if flags = pfRead ||| pfExecute then .ok { kinds with hasExecute := true }
  else if flags = pfRead then .ok { kinds with hasReadOnly := true }
  else if flags = pfRead ||| pfWrite then .ok { kinds with hasWritable := true }
  else .error (.rejected .invalidSegmentPermissions)

def checkHigherHalfSegment (kinds : SegmentKinds) (segment : LoadSegment) :
    Except (ImageFailure HigherHalfValidationError) SegmentKinds :=
  if segment.alignment ≠ bootstrapPageSize ∨ segment.physicalAddress % bootstrapPageSize ≠ 0 ∨
      segment.virtualAddress % bootstrapPageSize ≠ 0 ∨
      segment.fileOffset % bootstrapPageSize ≠ 0 then
    .error (.rejected .misalignedLoadSegment)
  else do
    let physicalEnd ← okOr (checkedAdd segment.physicalAddress segment.memorySize)
      (.rejected .spanOverflow)
    let virtualEnd ← okOr (checkedAdd segment.virtualAddress segment.memorySize)
      (.rejected .spanOverflow)
    if segment.physicalAddress < bootstrapLinkAddress ∨ physicalEnd > bootstrapPhysicalEnd then
      .error (.rejected .physicalOutsideBootstrapWindow)
    else if segment.virtualAddress < kernelImageVirtualStart ∨
        virtualEnd > kernelImageVirtualEnd then
      .error (.rejected .virtualOutsideKernelRegion)
    else if checkedSub segment.virtualAddress segment.physicalAddress ≠
        some higherHalfVirtualOffset then
      .error (.rejected .inconsistentTranslationOffset)
    else do
      let kinds ← kinds.classify segment.flags
      .ok { kinds with hasBss := kinds.hasBss || decide (segment.memorySize > segment.fileSize) }

/-- The segment has the entry point in its physical range and may execute it. -/
def backsEntry (physicalEntry : Nat) (segment : LoadSegment) : Prop :=
  segment.isExecutable = true ∧ physicalEntry ≥ segment.physicalAddress ∧
    ∃ physicalEnd ∈ checkedAdd segment.physicalAddress segment.memorySize,
      physicalEntry < physicalEnd

instance (physicalEntry : Nat) : DecidablePred (backsEntry physicalEntry) := fun _ =>
  inferInstanceAs (Decidable (_ ∧ _ ∧ _))

def validateHigherHalfImage (bytes : Bytes) :
    Except (ImageFailure HigherHalfValidationError) ValidatedHigherHalfImage := do
  let image ← (ValidatedImage.parse bytes).mapError (.fromElf .elf)
  if image.raw.header.entry ≠ higherHalfLinkAddress then .error (.rejected .unexpectedEntry)
  else if image.loadStart ≠ bootstrapLinkAddress then .error (.rejected .unexpectedPhysicalStart)
  else if image.virtualLoadStart ≠ higherHalfLinkAddress then
    .error (.rejected .unexpectedVirtualStart)
  else do
    let kinds ← image.loadSegments.foldlM checkHigherHalfSegment {}
    kinds.check .missingExecuteSegment .missingReadOnlySegment .missingWritableSegment .missingBss
    let physicalEntry ← okOr (checkedSub image.raw.header.entry higherHalfVirtualOffset)
      (.rejected .entryTranslationOverflow)
    if ¬ ∃ segment ∈ image.loadSegments, backsEntry physicalEntry segment then
      .error (.rejected .entryWithoutPhysicalBacking)
    else .ok ⟨image, physicalEntry⟩

/-! ## What they have established -/

/-- Neither the physical nor the virtual ranges of two segments meet. -/
structure LoadSegment.Apart (left right : LoadSegment) : Prop where
  physical : left.physicalAddress + left.memorySize ≤ right.physicalAddress ∨
    right.physicalAddress + right.memorySize ≤ left.physicalAddress
  virtual : left.virtualAddress + left.memorySize ≤ right.virtualAddress ∨
    right.virtualAddress + right.memorySize ≤ left.virtualAddress

/-- The load segments of an image the ELF validator has accepted. -/
structure ValidatedImage.Loads (bytes : Bytes) (image : ValidatedImage) : Prop where
  nonempty : image.loadSegments ≠ []
  few : image.loadSegments.length ≤ maxProgramHeaders
  origin : ∀ segment ∈ image.loadSegments,
    ∃ program, LoadAcceptable bytes program ∧ program.loadSegment = segment
  apart : image.loadSegments.Pairwise LoadSegment.Apart
  start : ∀ segment ∈ image.loadSegments, image.loadStart ≤ segment.physicalAddress
  entryCanonical : isCanonical image.raw.header.entry
  entryExecutable : ∃ segment ∈ image.loadSegments,
    segment.isExecutable = true ∧ segment.Contains image.raw.header.entry

/-- The scan never starts above a load segment it has seen. -/
theorem scanProgram_start {bytes : Bytes} (table : TableInside bytes) {scan next : LoadScan}
    {before : List Nat} {index : Nat} (listed : index < (headerOf bytes).programHeaderCount)
    (below : ∀ seen ∈ before, (programOf bytes seen).segmentType = ptLoad →
      scan.loadStart ≤ (programOf bytes seen).physicalAddress)
    (ran : scanProgram (imageOf bytes) scan index = .ok next) :
    ∀ seen ∈ before ++ [index], (programOf bytes seen).segmentType = ptLoad →
      next.loadStart ≤ (programOf bytes seen).physicalAddress := by
  rw [scanProgram, require, table.programHeader listed, okOr_some, ok_bind] at ran
  obtain ⟨_, _, _, ran⟩ : _ ∧ _ ∧ _ ∧ _ := by simpa only [guard_eq_ok] using ran
  intro seen member load
  rcases List.mem_append.mp member with earlier | here
  · have known := below seen earlier load
    split at ran
    · simp only [scanLoad, bind_eq_ok, Except.ok.injEq] at ran
      obtain ⟨_, _, _, _, _, _, rfl⟩ := ran
      exact Nat.le_trans (Nat.min_le_left _ _) known
    · cases ran
      exact known
  · rw [List.mem_singleton.mp here] at load ⊢
    rw [if_pos load] at ran
    simp only [scanLoad, bind_eq_ok, Except.ok.injEq] at ran
    obtain ⟨_, _, _, _, _, _, rfl⟩ := ran
    exact Nat.min_le_right _ _

theorem parse_loads {bytes : Bytes} {image : ValidatedImage}
    (parsed : ValidatedImage.parse bytes = .ok image) : image.Loads bytes := by
  have acceptable := (parse_decides bytes).exact.mp ⟨image, parsed⟩
  have table := parse_table parsed
  have member (segment : LoadSegment) := @mem_loadSegments _ _ parsed segment
  obtain ⟨scan, looped, raw, start⟩ := parse_scan parsed
  have entryOf : image.raw.header.entry = (headerOf bytes).entry := by rw [raw]
  refine ⟨?_, ?_, ?_, ?_, ?_, ?_, ?_⟩
  · obtain ⟨index, load⟩ := acceptable.someLoad
    exact List.ne_nil_of_mem ((member _).mpr ⟨index, load, rfl⟩)
  · rw [loadSegments_eq parsed, List.length_map]
    refine Nat.le_trans (List.length_filter_le _ _) ?_
    rw [List.length_range]
    exact table.count
  · intro segment inImage
    obtain ⟨index, load, rfl⟩ := (member segment).mp inImage
    exact ⟨_, acceptable.loads index load, rfl⟩
  · rw [loadSegments_eq parsed, List.pairwise_map]
    refine (List.pairwise_lt_range.filter _).imp_of_mem ?_
    intro first second firstMember secondMember less
    simp only [List.mem_filter, List.mem_range, decide_eq_true_eq] at firstMember secondMember
    have apart := acceptable.apart first second less firstMember secondMember
    exact ⟨apart.physical, apart.virtual⟩
  · intro segment inImage
    obtain ⟨index, load, rfl⟩ := (member segment).mp inImage
    rw [start]
    refine foldlM_invariant (fun before scan => ∀ seen ∈ before,
      (programOf bytes seen).segmentType = ptLoad →
        scan.loadStart ≤ (programOf bytes seen).physicalAddress) (by simp) ?_ looped index
      (List.mem_range.mpr load.1) load.2
    intro before index after current next split below ran
    have listed : index ∈ List.range (headerOf bytes).programHeaderCount := by simp [split]
    exact scanProgram_start table (List.mem_range.mp listed) below ran
  · rw [entryOf]
    exact acceptable.entryCanonical
  · obtain ⟨index, load, executable, inside⟩ := acceptable.entryExecutable
    refine ⟨_, (member _).mpr ⟨index, load, rfl⟩, ?_, entryOf ▸ inside⟩
    rw [LoadSegment.isExecutable, bne_iff_ne]
    exact flags_executable.mpr executable

/-- A bootstrap image runs where it is loaded, from its link address on, in whole
pages. -/
structure BootstrapLoads (bytes : Bytes) (image : ValidatedImage) : Prop where
  loads : image.Loads bytes
  entry : image.raw.header.entry = bootstrapLinkAddress
  linked : image.loadStart = bootstrapLinkAddress
  identity : ∀ segment ∈ image.loadSegments, segment.virtualAddress = segment.physicalAddress
  aligned : ∀ segment ∈ image.loadSegments, segment.physicalAddress % bootstrapPageSize = 0

theorem validateBootstrapImage_loads {bytes : Bytes} {image : ValidatedImage}
    (validated : validateBootstrapImage bytes = .ok image) : BootstrapLoads bytes image := by
  obtain ⟨parsed, ran, validated⟩ := bind_eq_ok.mp validated
  simp only [guard_eq_ok, bind_eq_ok, ne_eq, not_not, Except.ok.injEq] at validated
  obtain ⟨entry, linked, kinds, looped, _, _, rfl⟩ := validated
  have checked (segment : LoadSegment) (member : segment ∈ parsed.loadSegments) :
      segment.physicalAddress = segment.virtualAddress ∧
        segment.physicalAddress % bootstrapPageSize = 0 := by
    obtain ⟨current, next, stepped⟩ := foldlM_step_of_mem looped member
    simp only [checkBootstrapSegment, guard_eq_ok, ne_eq, not_not, not_or] at stepped
    exact ⟨stepped.1, stepped.2.1.2.1⟩
  exact {
    loads := parse_loads (mapError_eq_ok.mp ran)
    entry
    linked
    identity := fun segment member => (checked segment member).1.symm
    aligned := fun segment member => (checked segment member).2 }

/-- One segment of a higher-half image, with the permissions of one of the three
kinds. -/
structure LoadSegment.HigherHalf (segment : LoadSegment) : Prop where
  physicalAligned : segment.physicalAddress % bootstrapPageSize = 0
  virtualAligned : segment.virtualAddress % bootstrapPageSize = 0
  physicalStart : bootstrapLinkAddress ≤ segment.physicalAddress
  physicalEnd : segment.physicalAddress + segment.memorySize ≤ bootstrapPhysicalEnd
  virtualEnd : segment.virtualAddress + segment.memorySize ≤ kernelImageVirtualEnd
  offset : segment.virtualAddress = segment.physicalAddress + higherHalfVirtualOffset
  permissions : segment.flags = 5 ∨ segment.flags = 4 ∨ segment.flags = 6

theorem checkHigherHalfSegment_eq_ok {kinds next : SegmentKinds} {segment : LoadSegment}
    (checked : checkHigherHalfSegment kinds segment = .ok next) : segment.HigherHalf := by
  simp only [checkHigherHalfSegment, guard_eq_ok, bind_eq_ok, okOr_eq_ok, checkedAdd_eq_some,
    ne_eq, not_not, not_or, gt_iff_lt, Nat.not_lt, checkedSub_eq_some] at checked
  obtain ⟨⟨_, physicalAligned, virtualAligned, _⟩, _, ⟨_, rfl⟩, _, ⟨_, rfl⟩,
    ⟨physicalStart, physicalEnd⟩, ⟨_, virtualEnd⟩, ⟨below, offset⟩, _, classified, _⟩ := checked
  have permissions : segment.flags = 5 ∨ segment.flags = 4 ∨ segment.flags = 6 := by
    unfold SegmentKinds.classify at classified
    split at classified
    · rename_i execute
      exact .inl execute
    · split at classified
      · rename_i readOnly
        exact .inr (.inl readOnly)
      · split at classified
        · rename_i writable
          exact .inr (.inr writable)
        · contradiction
  exact ⟨physicalAligned, virtualAligned, physicalStart, physicalEnd, virtualEnd, by omega,
    permissions⟩

/-- A higher-half image runs a fixed offset above where it is loaded. -/
structure HigherHalfLoads (bytes : Bytes) (image : ValidatedHigherHalfImage) : Prop where
  loads : image.image.Loads bytes
  entry : image.image.raw.header.entry = higherHalfLinkAddress
  physicalEntry : image.physicalEntry + higherHalfVirtualOffset = image.image.raw.header.entry
  segments : ∀ segment ∈ image.image.loadSegments, segment.HigherHalf

theorem validateHigherHalfImage_loads {bytes : Bytes} {image : ValidatedHigherHalfImage}
    (validated : validateHigherHalfImage bytes = .ok image) : HigherHalfLoads bytes image := by
  obtain ⟨parsed, ran, validated⟩ := bind_eq_ok.mp validated
  simp only [guard_eq_ok, bind_eq_ok, okOr_eq_ok, checkedSub_eq_some, ne_eq, not_not,
    Except.ok.injEq] at validated
  obtain ⟨entry, _, _, kinds, looped, _, _, _, ⟨above, rfl⟩, _, rfl⟩ := validated
  refine ⟨parse_loads (mapError_eq_ok.mp ran), entry, Nat.sub_add_cancel above, ?_⟩
  intro segment member
  obtain ⟨current, next, stepped⟩ := foldlM_step_of_mem looped member
  exact checkHigherHalfSegment_eq_ok stepped

/-! ## An image of three pages -/

/-- A file header for three program headers right behind it. -/
def threePagesHeader (entry : Nat) : List UInt8 :=
  elfMagic ++ [2, 1, 1, 0] ++ leBytes 8 0 ++ leBytes 2 2 ++ leBytes 2 62 ++ leBytes 4 1 ++
    leBytes 8 entry ++ leBytes 8 64 ++ leBytes 8 0 ++ leBytes 4 0 ++ leBytes 2 64 ++
    leBytes 2 56 ++ leBytes 2 3 ++ leBytes 2 64 ++ leBytes 2 0 ++ leBytes 2 0

/-- A segment of one page that is all zero fill. -/
def zeroPage (flags virtualAddress physicalAddress : Nat) : List UInt8 :=
  leBytes 4 1 ++ leBytes 4 flags ++ leBytes 8 0 ++ leBytes 8 virtualAddress ++
    leBytes 8 physicalAddress ++ leBytes 8 0 ++ leBytes 8 4096 ++ leBytes 8 4096

/-- Code, constants and data, linked the given offset above where they load. -/
def threePages (offset : Nat) : List UInt8 :=
  threePagesHeader (offset + 0x20_0000) ++ zeroPage 5 (offset + 0x20_0000) 0x20_0000 ++
    zeroPage 4 (offset + 0x20_1000) 0x20_1000 ++ zeroPage 6 (offset + 0x20_2000) 0x20_2000

/-- Its load segments. -/
def threeSegments (offset : Nat) : List LoadSegment :=
  [⟨0, 0, 4096, 0x20_0000, offset + 0x20_0000, 4096, 5⟩,
    ⟨0, 0, 4096, 0x20_1000, offset + 0x20_1000, 4096, 4⟩,
    ⟨0, 0, 4096, 0x20_2000, offset + 0x20_2000, 4096, 6⟩]

theorem threeSegments_low {offset : Nat} : ∀ segment ∈ threeSegments offset,
    segment.physicalAddress + segment.memorySize ≤ 0x20_3000 := by
  intro segment member
  simp only [threeSegments, List.mem_cons, List.not_mem_nil, or_false] at member
  rcases member with rfl | rfl | rfl <;> simp only <;> omega

def bootstrapImage : Bytes := ⟨threePages 0, by decide +kernel⟩

def higherHalfImage : Bytes := ⟨threePages higherHalfVirtualOffset, by decide +kernel⟩

theorem bootstrapImage_validated :
    ∃ image, validateBootstrapImage bootstrapImage = .ok image ∧
      image.loadSegments = threeSegments 0 := by
  have segments : (validateBootstrapImage bootstrapImage).map ValidatedImage.loadSegments =
      .ok (threeSegments 0) := by decide +kernel
  cases run : validateBootstrapImage bootstrapImage with
  | error failure =>
      rw [run] at segments
      contradiction
  | ok image =>
      rw [run] at segments
      exact ⟨image, rfl, Except.ok.inj segments⟩

theorem higherHalfImage_validated :
    ∃ image, validateHigherHalfImage higherHalfImage = .ok image ∧
      image.image.loadSegments = threeSegments higherHalfVirtualOffset := by
  have segments : (validateHigherHalfImage higherHalfImage).map
      (fun image => image.image.loadSegments) = .ok (threeSegments higherHalfVirtualOffset) := by
    decide +kernel
  cases run : validateHigherHalfImage higherHalfImage with
  | error failure =>
      rw [run] at segments
      contradiction
  | ok image =>
      rw [run] at segments
      exact ⟨image, rfl, Except.ok.inj segments⟩

end UnnamedOS.KernelImage
