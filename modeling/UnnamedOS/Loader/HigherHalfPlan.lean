import UnnamedOS.Layout.History
import UnnamedOS.Loader.LoadSuccess

namespace UnnamedOS.Loader

open UnnamedOS.Data UnnamedOS.Layout

/-! # The plan of a higher-half image

A higher-half image is loaded like any other and mapped a fixed offset above.
The load plan, the mapping plan and the image validator each have their own
windows, roundings and overlap checks; an image that passed the last one passes
the other two wherever its file does not stand in the way. -/

inductive HigherHalfPlanError where
  | load (reason : PlanError)
  | layout (reason : LayoutError)
  | invalidPermissions
  | translationOverflow
  | entryTranslationMismatch
  | entryWithoutExecutableMapping
deriving DecidableEq, Repr

structure HigherHalfLoadPlan where
  load : LoadPlan
  mappings : MappingPlan maxLoadItems
  virtualEntry : Nat
  physicalEntry : Nat
  translationOffset : Nat
  virtualStart : Nat
  virtualEnd : Nat

def mappingPolicy (flags : Nat) :
    Except HigherHalfPlanError (MappingPermissions × MappingKind) :=
  match flags with
  | 5 => .ok (.kernelRx, .kernelText)
  | 4 => .ok (.kernelR, .kernelRodata)
  | 6 => .ok (.kernelRw, .kernelData)
  | _ => .error .invalidPermissions

/-- One round of the loop over the load segments. -/
def insertSegment (mappings : MappingPlan maxLoadItems) (segment : KernelImage.LoadSegment) :
    Except HigherHalfPlanError (MappingPlan maxLoadItems) := do
  let physicalStop ← okOr (checkedAdd segment.physicalAddress segment.memorySize)
    .translationOverflow
  let physicalEnd ← (roundUp physicalStop loadPageSize).mapError .load
  let virtualStop ← okOr (checkedAdd segment.virtualAddress segment.memorySize)
    .translationOverflow
  let virtualEnd ← (roundUp virtualStop loadPageSize).mapError .load
  let physical ← (PhysicalRange.new segment.physicalAddress physicalEnd).mapError .layout
  let virtualRange ← (VirtualRange.new segment.virtualAddress virtualEnd).mapError .layout
  let (permissions, kind) ← mappingPolicy segment.flags
  match mappings.insertMapping virtualRange physical permissions .writeBack kind with
  | (.error reason, _) => .error (.layout reason)
  | (.ok _, inserted) => .ok inserted

/-- The `expect` on the entry's address comes after the same conversion has
succeeded, so it is made once here. -/
def HigherHalfLoadPlan.fromValidated (image : KernelImage.ValidatedHigherHalfImage)
    (source : SourceAllocation) : Except HigherHalfPlanError HigherHalfLoadPlan := do
  let load ← (LoadPlan.build image.physicalEntry (image.image.loadSegments.map specOf)
    source).mapError .load
  let mappings ← image.image.loadSegments.foldlM insertSegment (.new maxLoadItems)
  let entry ← (VirtualAddress.new image.image.raw.header.entry).mapError .layout
  let translated ← (mappings.translate entry).mapError .layout
  if translated.value ≠ image.physicalEntry then .error .entryTranslationMismatch
  else if ¬ ∃ candidate ∈ mappings.entries, candidate.virtualRange.contains entry ∧
      candidate.permissions.any MappingPermissions.executable = true then
    .error .entryWithoutExecutableMapping
  else .ok {
    load
    mappings
    virtualEntry := image.image.raw.header.entry
    physicalEntry := image.physicalEntry
    translationOffset := KernelImage.higherHalfVirtualOffset
    virtualStart := image.image.virtualLoadStart
    virtualEnd := image.image.virtualLoadEnd }

/-! ## The mapping of a segment -/

/-- The entry covers the segment's pages, backed by the pages it is loaded to,
with the permissions its flags ask for. -/
structure MapsSegment (segment : KernelImage.LoadSegment) (range : VirtualRange)
    (physical : PhysicalRange) (permissions : MappingPermissions) (kind : MappingKind) : Prop where
  virtualStart : range.start.value = segment.virtualAddress
  virtualStop : range.stop = pagesEnd segment.virtualAddress segment.memorySize
  physicalStart : physical.start.value = segment.physicalAddress
  physicalStop : physical.stop = pagesEnd segment.physicalAddress segment.memorySize
  policy : mappingPolicy segment.flags = .ok (permissions, kind)

section

variable {segment other : KernelImage.LoadSegment} {range : VirtualRange}
  {physical : PhysicalRange} {permissions : MappingPermissions} {kind : MappingKind}

/-- The flags of a validated segment have a policy. -/
theorem mappingPolicy_cases (higher : segment.HigherHalf) :
    ∃ permissions kind, mappingPolicy segment.flags = .ok (permissions, kind) ∧
      kind.isKernelImage ∧ permissions ∈ kind.allowedPermissions := by
  rcases higher.permissions with flags | flags | flags
  · exact ⟨_, _, by rw [flags]; rfl, .inl rfl, List.mem_singleton_self _⟩
  · exact ⟨_, _, by rw [flags]; rfl, .inr (.inl rfl), List.mem_singleton_self _⟩
  · exact ⟨_, _, by rw [flags]; rfl, .inr (.inr rfl), List.mem_singleton_self _⟩

/-- The page ranges of a validated segment. -/
theorem exists_segmentRanges (higher : segment.HigherHalf) (nonempty : 0 < segment.memorySize) :
    ∃ (range : VirtualRange) (physical : PhysicalRange),
      range.start.value = segment.virtualAddress ∧
      range.stop = pagesEnd segment.virtualAddress segment.memorySize ∧
      physical.start.value = segment.physicalAddress ∧
      physical.stop = pagesEnd segment.physicalAddress segment.memorySize := by
  obtain ⟨physicalAligned, virtualAligned, physicalStart, physicalEnd, virtualEnd, offset, _⟩ :=
    higher
  simp only [KernelImage.bootstrapPageSize, KernelImage.bootstrapLinkAddress,
    KernelImage.bootstrapPhysicalEnd, KernelImage.kernelImageVirtualEnd,
    KernelImage.higherHalfVirtualOffset]
    at physicalAligned virtualAligned physicalStart physicalEnd virtualEnd offset
  have virtualStop := pagesEnd_le virtualEnd (by decide)
  have physicalStop := pagesEnd_le physicalEnd (by decide)
  have virtualBounds : VirtualBounds segment.virtualAddress
      (pagesEnd segment.virtualAddress segment.memorySize) := by
    have longer := lt_pagesEnd segment.virtualAddress nonempty
    have high : ¬ segment.virtualAddress < lowCanonicalEnd ∧
        ¬ pagesEnd segment.virtualAddress segment.memorySize - 1 < lowCanonicalEnd := by
      simp only [lowCanonicalEnd]
      omega
    have word : highCanonicalStart ≤ segment.virtualAddress ∧
        pagesEnd segment.virtualAddress segment.memorySize ≤ wordLimit := by
      simp only [highCanonicalStart, wordLimit]
      omega
    exact {
      nonempty := longer
      startCanonical := .inr (by omega)
      lastCanonical := .inr (by omega)
      sameHalf := by rw [canonicalHalf, canonicalHalf, if_neg high.1, if_neg high.2]
      startAligned := virtualAligned
      stopAligned := Nat.mul_mod_left _ _ }
  have physicalBounds : PhysicalBounds segment.physicalAddress
      (pagesEnd segment.physicalAddress segment.memorySize) := {
    nonempty := lt_pagesEnd segment.physicalAddress nonempty
    supported := Nat.le_trans physicalStop (by decide)
    startAligned := physicalAligned
    stopAligned := Nat.mul_mod_left _ _ }
  exact ⟨⟨⟨_, virtualBounds.startCanonical⟩, _, virtualBounds⟩,
    ⟨⟨_, Nat.lt_of_lt_of_le physicalBounds.nonempty physicalBounds.supported⟩, _, physicalBounds⟩,
    rfl, rfl, rfl, rfl⟩

/-- Segments that are apart are mapped apart. -/
theorem MapsSegment.apart {otherRange : VirtualRange} {otherPhysical : PhysicalRange}
    {otherPermissions : MappingPermissions} {otherKind : MappingKind}
    (maps : MapsSegment segment range physical permissions kind) (higher : segment.HigherHalf)
    (otherMaps : MapsSegment other otherRange otherPhysical otherPermissions otherKind)
    (otherHigher : other.HigherHalf) (apart : other.Apart segment) :
    ¬ otherRange.overlaps range ∧ ¬ otherPhysical.overlaps physical := by
  simp only [VirtualRange.overlaps, PhysicalRange.overlaps, maps.virtualStart, maps.virtualStop,
    maps.physicalStart, maps.physicalStop, otherMaps.virtualStart, otherMaps.virtualStop,
    otherMaps.physicalStart, otherMaps.physicalStop]
  constructor
  · rintro ⟨meets, met⟩
    rcases apart.virtual with before | after
    · exact absurd (pagesEnd_le before higher.virtualAligned) (Nat.not_le_of_lt met)
    · exact absurd (pagesEnd_le after otherHigher.virtualAligned) (Nat.not_le_of_lt meets)
  · rintro ⟨meets, met⟩
    rcases apart.physical with before | after
    · exact absurd (pagesEnd_le before higher.physicalAligned) (Nat.not_le_of_lt met)
    · exact absurd (pagesEnd_le after otherHigher.physicalAligned) (Nat.not_le_of_lt meets)

/-- Both ranges of a segment are as long, for they start at the same place of a
page. -/
theorem MapsSegment.offset (maps : MapsSegment segment range physical permissions kind)
    (higher : segment.HigherHalf) :
    range.start.value = physical.start.value + KernelImage.higherHalfVirtualOffset ∧
      range.stop = physical.stop + KernelImage.higherHalfVirtualOffset := by
  rw [maps.virtualStart, maps.virtualStop, maps.physicalStart, maps.physicalStop, higher.offset]
  refine ⟨rfl, ?_⟩
  simp only [pagesEnd, loadPageSize, KernelImage.higherHalfVirtualOffset]
  omega

theorem MapsSegment.allowed (maps : MapsSegment segment range physical permissions kind)
    (higher : segment.HigherHalf) :
    Allowed range physical permissions .writeBack kind ∧ kind.region = some .kernelImage := by
  obtain ⟨_, _, policy, isImage, granted⟩ := mappingPolicy_cases higher
  rw [maps.policy] at policy
  obtain ⟨rfl, rfl⟩ := Prod.mk.inj (Except.ok.inj policy)
  have offset := maps.offset higher
  have declared : kind.region = some .kernelImage := by
    rcases isImage with rfl | rfl | rfl <;> rfl
  have inside : (regionRange .kernelImage).containsRange range := by
    have low := higher.offset
    have high := pagesEnd_le higher.virtualEnd (by decide)
    rw [VirtualRange.containsRange, maps.virtualStart, maps.virtualStop]
    exact ⟨by rw [low]; exact Nat.le_add_left _ _, high⟩
  refine ⟨{
    lengths := ?_
    region := ?_
    identity := ?_
    granted
    kernelOnly := kernelOnly_of_allowed granted
    cached := ?_
    image := ?_
    stack := ?_ }, declared⟩
  · rw [VirtualRange.length, PhysicalRange.length, offset.1, offset.2]
    exact Nat.add_sub_add_right _ _ _
  · intro region named
    obtain rfl : AddressRegion.kernelImage = region := Option.some.inj (declared.symm.trans named)
    exact inside
  · rintro rfl
    contradiction
  · rcases isImage with rfl | rfl | rfl <;> rfl
  · intro _
    rw [maps.physicalStart, maps.physicalStop]
    exact ⟨higher.physicalStart, pagesEnd_le higher.physicalEnd (by decide)⟩
  · rintro rfl
    contradiction

end

/-! ## The loop over the segments -/

/-- The mappings of the segments already done, and no others. -/
structure Mapped (done : List KernelImage.LoadSegment) (mappings : MappingPlan maxLoadItems) :
    Prop where
  invariant : mappings.Invariant
  count : mappings.entries.length = done.length
  higher : ∀ segment ∈ done, segment.HigherHalf
  each : ∀ segment ∈ done, ∃ range physical permissions kind,
    .mapping range physical permissions .writeBack kind ∈ mappings.entries ∧
      MapsSegment segment range physical permissions kind
  only : ∀ entry ∈ mappings.entries, ∃ segment ∈ done, ∃ range physical permissions kind,
    entry = .mapping range physical permissions .writeBack kind ∧
      MapsSegment segment range physical permissions kind

section

variable {done : List KernelImage.LoadSegment} {mappings : MappingPlan maxLoadItems}
  {segment : KernelImage.LoadSegment}

/-- The round reaches its insertion with the ranges of the segment's pages. -/
theorem insertSegment_eq {range : VirtualRange} {physical : PhysicalRange}
    {permissions : MappingPermissions} {kind : MappingKind}
    (maps : MapsSegment segment range physical permissions kind) (higher : segment.HigherHalf) :
    insertSegment mappings segment =
      match mappings.insertMapping range physical permissions .writeBack kind with
      | (.error reason, _) => .error (.layout reason)
      | (.ok _, inserted) => .ok inserted := by
  have physicalEnd := higher.physicalEnd
  have virtualEnd := higher.virtualEnd
  simp only [KernelImage.bootstrapPhysicalEnd, KernelImage.kernelImageVirtualEnd]
    at physicalEnd virtualEnd
  have physicalAdded := checkedAdd_eq_some.mpr ⟨show
    segment.physicalAddress + segment.memorySize < wordLimit by
      simp only [wordLimit]; omega, rfl⟩
  have virtualAdded := checkedAdd_eq_some.mpr ⟨show
    segment.virtualAddress + segment.memorySize < wordLimit by
      simp only [wordLimit]; omega, rfl⟩
  have physicalRounded : roundUp (segment.physicalAddress + segment.memorySize) loadPageSize =
      .ok physical.stop := by
    rw [maps.physicalStop]
    refine roundUp_of_lt ?_
    simp only [wordLimit, loadPageSize]
    omega
  have virtualRounded : roundUp (segment.virtualAddress + segment.memorySize) loadPageSize =
      .ok range.stop := by
    rw [maps.virtualStop]
    refine roundUp_of_lt ?_
    simp only [wordLimit, loadPageSize]
    omega
  have backed : PhysicalRange.new segment.physicalAddress physical.stop = .ok physical := by
    rw [← maps.physicalStart]
    exact physical.new_range
  have ranged : VirtualRange.new segment.virtualAddress range.stop = .ok range := by
    rw [← maps.virtualStart]
    exact range.new_range
  simp only [insertSegment, physicalAdded, virtualAdded, okOr_some, ok_bind, physicalRounded,
    virtualRounded, backed, ranged, maps.policy, Except.mapError]

theorem Mapped.insert {range : VirtualRange} {physical : PhysicalRange}
    {permissions : MappingPermissions} {kind : MappingKind} {next : MappingPlan maxLoadItems}
    (mapped : Mapped done mappings) (higher : segment.HigherHalf)
    (maps : MapsSegment segment range physical permissions kind) (invariant : next.Invariant)
    (entries : next.entries = insertOrdered MappingPlan.startOf mappings.entries
      (.mapping range physical permissions .writeBack kind)) :
    Mapped (done ++ [segment]) next where
  invariant := invariant
  count := by rw [entries, length_insertOrdered, mapped.count, List.length_append]; rfl
  higher := forall_mem_append_singleton mapped.higher higher
  each := by
    intro other member
    simp only [entries, mem_insertOrdered]
    rcases List.mem_append.mp member with old | new
    · obtain ⟨_, _, _, _, inPlan, otherMaps⟩ := mapped.each other old
      exact ⟨_, _, _, _, .inr inPlan, otherMaps⟩
    · rw [List.mem_singleton.mp new]
      exact ⟨_, _, _, _, .inl rfl, maps⟩
  only := by
    intro entry member
    rw [entries, mem_insertOrdered] at member
    rcases member with rfl | old
    · exact ⟨segment, by simp, _, _, _, _, rfl, maps⟩
    · obtain ⟨other, inDone, otherMaps⟩ := mapped.only entry old
      exact ⟨other, List.mem_append_left _ inDone, otherMaps⟩

/-- A segment apart from those already mapped is mapped too. -/
theorem insertSegment_succeeds (mapped : Mapped done mappings) (higher : segment.HigherHalf)
    (nonempty : 0 < segment.memorySize) (room : done.length < maxLoadItems)
    (apart : ∀ other ∈ done, other.Apart segment) :
    ∃ next, insertSegment mappings segment = .ok next ∧ Mapped (done ++ [segment]) next := by
  obtain ⟨range, physical, virtualStart, virtualStop, physicalStart, physicalStop⟩ :=
    exists_segmentRanges higher nonempty
  obtain ⟨permissions, kind, policy, _⟩ := mappingPolicy_cases higher
  have maps : MapsSegment segment range physical permissions kind :=
    ⟨virtualStart, virtualStop, physicalStart, physicalStop, policy⟩
  obtain ⟨allowed, declared⟩ := maps.allowed higher
  have applied : mappings.apply (.insertMapping range physical permissions .writeBack kind) =
      (.ok (), ⟨insertOrdered MappingPlan.startOf mappings.entries
        (.mapping range physical permissions .writeBack kind)⟩) := by
    refine MappingPlan.apply_succeeds
      ⟨allowed.lengths, policy_of_allowed allowed (by simp [declared])⟩ ?_ ?_
    · rw [mapped.count]
      exact Nat.ne_of_lt room
    · intro existing member
      obtain ⟨other, inDone, _, _, _, _, rfl, otherMaps⟩ := mapped.only existing member
      have clear := maps.apart higher otherMaps (mapped.higher other inDone) (apart other inDone)
      exact ⟨clear.1, fun shared => absurd shared clear.2⟩
  have invariant := MappingPlan.apply_preserves_invariant mapped.invariant
    (.insertMapping range physical permissions .writeBack kind)
  rw [applied] at invariant
  refine ⟨_, ?_, mapped.insert higher maps invariant rfl⟩
  rw [MappingPlan.apply] at applied
  rw [insertSegment_eq maps higher, applied]

/-- All segments of a validated image are mapped. -/
theorem insertSegments_succeed {bytes : Bytes} {image : KernelImage.ValidatedHigherHalfImage}
    (validated : KernelImage.HigherHalfLoads bytes image) :
    ∃ mappings, image.image.loadSegments.foldlM insertSegment (.new maxLoadItems) = .ok mappings ∧
      Mapped image.image.loadSegments mappings := by
  refine foldlM_succeeds Mapped ?_ ?_
  · exact ⟨MappingPlan.new_invariant, rfl, by simp, by simp, by simp [MappingPlan.new]⟩
  · intro done segment rest current split mapped
    have member : segment ∈ image.image.loadSegments := by simp [split]
    have few := validated.loads.few
    have pairs := validated.loads.apart
    rw [split] at few pairs
    rw [List.length_append, List.length_cons] at few
    obtain ⟨program, acceptable, same⟩ := validated.loads.origin segment member
    have nonempty : 0 < segment.memorySize := same ▸ acceptable.nonempty
    refine insertSegment_succeeds mapped (validated.segments segment member) nonempty ?_ ?_
    · exact Nat.lt_of_lt_of_le (by omega) few
    · intro other inDone
      exact (List.pairwise_append.mp pairs).2.2 other inDone segment (by simp)

/-! ## What the mappings translate -/

/-- The pages of a segment are those of its range. -/
theorem MapsSegment.contains_iff {range : VirtualRange} {physical : PhysicalRange}
    {permissions : MappingPermissions} {kind : MappingKind}
    (maps : MapsSegment segment range physical permissions kind) (higher : segment.HigherHalf)
    (address : VirtualAddress) :
    range.contains address ↔ segment.InVirtualPages address.value := by
  have aligned := higher.virtualAligned
  rw [VirtualRange.contains, maps.virtualStart, maps.virtualStop]
  simp only [KernelImage.LoadSegment.InVirtualPages, pagesEnd, loadPageSize,
    KernelImage.bootstrapPageSize] at aligned ⊢
  omega

theorem Mapped.translate (mapped : Mapped done mappings) (member : segment ∈ done)
    {address : VirtualAddress} (inside : segment.InVirtualPages address.value) :
    ∃ translated, mappings.translate address = .ok translated ∧
      translated.value = address.value - KernelImage.higherHalfVirtualOffset := by
  obtain ⟨range, physical, _, _, inPlan, maps⟩ := mapped.each segment member
  have higher := mapped.higher segment member
  have contained := (maps.contains_iff higher address).mpr inside
  obtain ⟨translated, found, value⟩ :=
    MappingPlan.translate_mapping mapped.invariant inPlan contained
  refine ⟨translated, found, ?_⟩
  have offset := (maps.offset higher).1
  have lower := contained.1
  rw [value]
  omega

theorem Mapped.translate_elsewhere (mapped : Mapped done mappings) {address : VirtualAddress}
    (outside : ∀ segment ∈ done, ¬ segment.InVirtualPages address.value) :
    mappings.translate address = .error .unmapped := by
  refine MappingPlan.translate_unmapped ?_
  intro entry member contained
  obtain ⟨segment, inDone, _, _, _, _, rfl, maps⟩ := mapped.only entry member
  exact absurd ((maps.contains_iff (mapped.higher segment inDone) address).mp contained)
    (outside segment inDone)

/-- The image is mapped in the upper half, and no stack with it. -/
theorem Mapped.validateFinal (mapped : Mapped done mappings) : mappings.validateFinal = .ok () := by
  have checked (entry : PlanEntry) (member : entry ∈ mappings.entries) :
      MappingPlan.checkFinalEntry entry = .ok () ∧
        MappingPlan.checkStackGuard mappings.entries entry = .ok () := by
    obtain ⟨segment, inDone, range, physical, permissions, kind, rfl, maps⟩ :=
      mapped.only entry member
    obtain ⟨allowed, declared⟩ := maps.allowed (mapped.higher segment inDone)
    have high : ¬ range.start.value < highCanonicalStart := by
      have inside := (allowed.region _ declared).1
      exact Nat.not_lt.mpr (Nat.le_trans (by decide) inside)
    have notIdentity : kind ≠ .transitionIdentity := by
      rintro rfl
      contradiction
    have notStack : kind ≠ .bootstrapStack := by
      rintro rfl
      contradiction
    refine ⟨?_, if_neg notStack⟩
    rw [MappingPlan.checkFinalEntry, guard_eq_ok, guard_eq_ok]
    exact ⟨notIdentity, high, rfl⟩
  rw [MappingPlan.validateFinal,
    checkAll_eq_ok.mpr fun entry member => (checked entry member).1, ok_bind]
  exact checkAll_eq_ok.mpr fun entry member => (checked entry member).2

/-- The plan maps the physical page. -/
def MapsFrame (mappings : MappingPlan maxLoadItems) (frame : Nat) : Prop :=
  ∃ range physical permissions cache kind,
    .mapping range physical permissions cache kind ∈ mappings.entries ∧ physical.Covers frame

theorem MapsSegment.covers_iff {range : VirtualRange} {physical : PhysicalRange}
    {permissions : MappingPermissions} {kind : MappingKind}
    (maps : MapsSegment segment range physical permissions kind) (higher : segment.HigherHalf)
    (frame : Nat) : physical.Covers frame ↔ segment.InPhysicalPages (frame * 4096) := by
  have aligned := higher.physicalAligned
  rw [PhysicalRange.Covers, maps.physicalStart, maps.physicalStop]
  simp only [KernelImage.LoadSegment.InPhysicalPages, pagesEnd, loadPageSize, pageSize,
    KernelImage.bootstrapPageSize] at aligned ⊢
  omega

theorem Mapped.mapsFrame_iff (mapped : Mapped done mappings) (frame : Nat) :
    MapsFrame mappings frame ↔ ∃ segment ∈ done, segment.InPhysicalPages (frame * 4096) := by
  constructor
  · rintro ⟨range, physical, permissions, cache, kind, member, covers⟩
    obtain ⟨segment, inDone, _, _, _, _, same, maps⟩ := mapped.only _ member
    cases same
    exact ⟨segment, inDone, (maps.covers_iff (mapped.higher segment inDone) frame).mp covers⟩
  · rintro ⟨segment, inDone, inside⟩
    obtain ⟨_, _, _, _, member, maps⟩ := mapped.each segment inDone
    exact ⟨_, _, _, _, _, member,
      (maps.covers_iff (mapped.higher segment inDone) frame).mpr inside⟩

end

/-- A physical page of a load item. -/
def LoadItem.HasPage (item : LoadItem) (frame : Nat) : Prop :=
  item.pageStart ≤ frame * loadPageSize ∧
    frame * loadPageSize < item.pageStart + item.pageCount * loadPageSize

theorem LoadPlan.Loading.hasPage_iff {source : SourceAllocation} {plan : LoadPlan}
    {segments : List KernelImage.LoadSegment}
    (loading : plan.Loading source (segments.map specOf)) (frame : Nat) :
    (∃ item ∈ plan.items, item.HasPage frame) ↔
      ∃ segment ∈ segments, segment.InPhysicalPages (frame * 4096) := by
  have pages {segment : KernelImage.LoadSegment} {item : LoadItem}
      (planned : Planned source.fileLength (specOf segment) item) :
      item.HasPage frame ↔ segment.InPhysicalPages (frame * 4096) := by
    rw [LoadItem.HasPage, planned.pages, planned.pageEnd, planned.pageStart]
    rfl
  constructor
  · rintro ⟨item, member, has⟩
    obtain ⟨_, inSegments, planned⟩ := loading.wanted item member
    obtain ⟨segment, inImage, rfl⟩ := List.mem_map.mp inSegments
    exact ⟨segment, inImage, (pages planned).mp has⟩
  · rintro ⟨segment, inImage, inside⟩
    obtain ⟨item, member, planned⟩ := loading.planned _ (List.mem_map_of_mem inImage)
    exact ⟨item, member, (pages planned).mpr inside⟩

/-! ## The whole plan -/

namespace HigherHalfLoadPlan

variable {bytes : Bytes} {image : KernelImage.ValidatedHigherHalfImage}
  {source : SourceAllocation}

/-- The segments of a validated image are loadable at their physical addresses. -/
theorem loadable_of_validated (validated : KernelImage.HigherHalfLoads bytes image) :
    LoadableSegments image.physicalEntry bytes.length (image.image.loadSegments.map specOf) := by
  refine loadable_of_loads validated.loads
    (fun segment member => (validated.segments segment member).physicalAligned)
    (fun segment member => (validated.segments segment member).physicalStart) ?_
  obtain ⟨segment, member, executable, inside⟩ := validated.loads.entryExecutable
  have offset := (validated.segments segment member).offset
  have entry := validated.physicalEntry
  rw [KernelImage.LoadSegment.Contains, ← entry, offset] at inside
  exact ⟨segment, member, executable, by omega, by omega⟩

/-- An executable segment is mapped executable. -/
theorem executable_of_policy {segment : KernelImage.LoadSegment} {permissions : MappingPermissions}
    {kind : MappingKind} (higher : segment.HigherHalf) (executable : segment.isExecutable = true)
    (policy : mappingPolicy segment.flags = .ok (permissions, kind)) :
    permissions.executable = true := by
  rcases higher.permissions with flags | flags | flags
  · rw [flags] at policy
    cases policy
    decide
  · rw [KernelImage.LoadSegment.isExecutable, flags] at executable
    exact absurd executable (by decide)
  · rw [KernelImage.LoadSegment.isExecutable, flags] at executable
    exact absurd executable (by decide)

/-- The entry point translates to its physical address, through an executable
mapping. -/
theorem entry_of_mapped (validated : KernelImage.HigherHalfLoads bytes image)
    {mappings : MappingPlan maxLoadItems} (mapped : Mapped image.image.loadSegments mappings) :
    ∃ entry translated, VirtualAddress.new image.image.raw.header.entry = .ok entry ∧
      mappings.translate entry = .ok translated ∧ translated.value = image.physicalEntry ∧
      ∃ candidate ∈ mappings.entries, candidate.virtualRange.contains entry ∧
        candidate.permissions.any MappingPermissions.executable = true := by
  have canonical : isCanonical image.image.raw.header.entry := by
    rw [validated.entry]
    decide
  obtain ⟨segment, member, executable, inside⟩ := validated.loads.entryExecutable
  have inPages : segment.InVirtualPages (VirtualAddress.mk _ canonical).value := by
    simp only [KernelImage.LoadSegment.InVirtualPages, KernelImage.LoadSegment.Contains] at inside ⊢
    omega
  obtain ⟨translated, found, value⟩ := mapped.translate member inPages
  refine ⟨⟨_, canonical⟩, translated, VirtualAddress.new_eq_ok.mpr rfl, found, ?_, ?_⟩
  · exact value.trans (Nat.sub_eq_of_eq_add validated.physicalEntry.symm)
  · have higher := validated.segments segment member
    obtain ⟨_, _, permissions, kind, inPlan, maps⟩ := mapped.each segment member
    refine ⟨_, inPlan, (maps.contains_iff higher _).mpr inPages, ?_⟩
    exact executable_of_policy higher executable maps.policy

/-- Everything planning a validated image can end with. -/
theorem fromValidated_ends (validated : KernelImage.HigherHalfLoads bytes image)
    (pages : 1 ≤ source.pageCount)
    (bounded : source.pageStart + source.pageCount * loadPageSize < wordLimit)
    (whole : source.fileLength = bytes.length) :
    Ends (fun plan => plan.load.Loading source (image.image.loadSegments.map specOf) ∧
        Mapped image.image.loadSegments plan.mappings)
      (fun reason => reason = .load .sourceOverlap ∧ ∃ segment ∈ image.image.loadSegments,
        ¬ (specOf segment).ClearOf source)
      (fromValidated image source) := by
  have loadable : LoadableSegments image.physicalEntry source.fileLength
      (image.image.loadSegments.map specOf) := by
    rw [whole]
    exact loadable_of_validated validated
  have loadEnds := LoadPlan.build_ends loadable pages bounded
  obtain ⟨mappings, looped, mapped⟩ := insertSegments_succeed validated
  obtain ⟨entry, translated, converted, found, value, executable⟩ :=
    entry_of_mapped validated mapped
  unfold fromValidated
  refine (Ends.mapError (fun _ => loadEnds.of_ok) ?_).bind ?_
  · intro reason failed
    obtain ⟨spec, inSpecs, refused⟩ := loadEnds.of_error failed
    obtain ⟨segment, member, rfl⟩ := List.mem_map.mp inSpecs
    have window : (specOf segment).InWindow := (validated.segments segment member).physicalEnd
    cases refused with
    | rounding outside => exact absurd window outside
    | above outside => exact absurd window outside
    | shared meets => exact ⟨rfl, segment, member, meets⟩
  intro load _ loading
  refine .step looped (.step (mapError_eq_ok.mpr converted) (.step (mapError_eq_ok.mpr found) ?_))
  refine .guard (fun mismatch => absurd value mismatch) fun _ => ?_
  refine .guard (fun missing => absurd executable missing) fun _ => ?_
  exact .returns ⟨loading, mapped⟩

/-- A higher-half image is planned exactly when it keeps off the pages of its
file.  Its mappings then stand in the final address space, translate every page
of the image down by the link offset and nothing else, and map the pages that
are loaded. -/
theorem fromValidated_maps_image
    (validated : KernelImage.validateHigherHalfImage bytes = .ok image)
    (pages : 1 ≤ source.pageCount)
    (bounded : source.pageStart + source.pageCount * 4096 < 2 ^ 64)
    (whole : source.fileLength = bytes.length) :
    ((∃ plan, fromValidated image source = .ok plan) ↔
      ∀ segment ∈ image.image.loadSegments, ∀ address,
        segment.InPhysicalPages address → ¬ source.InPages address) ∧
    (∀ reason, fromValidated image source = .error reason → reason = .load .sourceOverlap) ∧
    ∀ plan, fromValidated image source = .ok plan →
      plan.mappings.validateFinal = .ok () ∧
      (∀ segment ∈ image.image.loadSegments, ∀ address : VirtualAddress,
        segment.InVirtualPages address.value → ∃ translated,
          plan.mappings.translate address = .ok translated ∧
          translated.value = address.value - 0xffff_ffff_8000_0000) ∧
      (∀ address : VirtualAddress,
        (∀ segment ∈ image.image.loadSegments, ¬ segment.InVirtualPages address.value) →
          plan.mappings.translate address = .error .unmapped) ∧
      ∀ frame, MapsFrame plan.mappings frame ↔ ∃ item ∈ plan.load.items, item.HasPage frame := by
  have ends := fromValidated_ends (KernelImage.validateHigherHalfImage_loads validated) pages
    bounded whole
  refine ⟨⟨?_, ?_⟩, ?_, ?_⟩
  · rintro ⟨plan, planned⟩ segment member
    have accepted := (ends.of_ok planned).1.accepted _ (List.mem_map_of_mem member)
    exact accepted.2.2
  · intro clear
    have never (reason : HigherHalfPlanError) : ¬ (reason = .load .sourceOverlap ∧
        ∃ segment ∈ image.image.loadSegments, ¬ (specOf segment).ClearOf source) := by
      rintro ⟨_, segment, member, meets⟩
      exact meets (clear segment member)
    obtain ⟨plan, planned, _⟩ := ends.succeeds never
    exact ⟨plan, planned⟩
  · intro reason failed
    exact (ends.of_error failed).1
  · intro plan planned
    obtain ⟨loading, mapped⟩ := ends.of_ok planned
    refine ⟨mapped.validateFinal, ?_, ?_, ?_⟩
    · intro segment member address inside
      exact mapped.translate member inside
    · intro address outside
      exact mapped.translate_elsewhere outside
    · intro frame
      rw [mapped.mapsFrame_iff, loading.hasPage_iff]

/-- The image of three pages, loaded from a file further up. -/
theorem fromValidated_maps_image_threePages :
    ∃ image plan, KernelImage.validateHigherHalfImage KernelImage.higherHalfImage = .ok image ∧
      fromValidated image ⟨0x50_0000, 1, 232⟩ = .ok plan ∧
      plan.mappings.validateFinal = .ok () := by
  obtain ⟨image, validated, segments⟩ := KernelImage.higherHalfImage_validated
  obtain ⟨accepted, _, maps⟩ := @fromValidated_maps_image _ image ⟨0x50_0000, 1, 232⟩ validated
    (by decide) (by decide) rfl
  have clear : ∀ segment ∈ image.image.loadSegments, ∀ address,
      segment.InPhysicalPages address →
        ¬ SourceAllocation.InPages ⟨0x50_0000, 1, 232⟩ address := by
    intro segment member address
    have low := KernelImage.threeSegments_low _ (segments ▸ member)
    simp only [KernelImage.LoadSegment.InPhysicalPages, SourceAllocation.InPages]
    omega
  obtain ⟨plan, planned⟩ := accepted.mpr clear
  exact ⟨image, plan, validated, planned, (maps plan planned).1⟩

end HigherHalfLoadPlan

end UnnamedOS.Loader
