import UnnamedOS.Loader.PostExit

namespace UnnamedOS.Loader

open UnnamedOS.Data UnnamedOS.BootProtocol UnnamedOS.MemoryMap UnnamedOS.PageTable

/-! # What the final map is

Whatever the firmware reported, a map that the conversion accepts is the
normalized report with the loader's own pages laid over it, and every number
in it is within the width of its field. -/

/-! ## The overlay stays inside its slice -/

section

variable {capacity : Nat} {live next : List MemoryDescriptor} {descriptor : MemoryDescriptor}

theorem appendDescriptor_length {allowMerge : Bool} (short : live.length ≤ capacity)
    (ran : appendDescriptor capacity live descriptor allowMerge = .ok next) :
    next.length ≤ capacity := by
  have pushed : (if live.length = capacity then Except.error MapBuildError.outputCapacity
      else Except.ok (live ++ [descriptor])) = .ok next → next.length ≤ capacity := by
    intro ran
    obtain ⟨room, ran⟩ := guard_eq_ok.mp ran
    cases ran
    rw [List.length_append, List.length_singleton]
    omega
  simp only [appendDescriptor] at ran
  by_cases empty : descriptor.pageCount = 0
  · rw [if_pos empty] at ran
    cases ran
    exact short
  rw [if_neg empty] at ran
  by_cases merge : allowMerge = true
  · rw [if_pos merge] at ran
    cases last : live.getLast? with
    | none =>
        rw [last] at ran
        exact pushed ran
    | some previous =>
        rw [last] at ran
        obtain ⟨previousEnd, _, ran⟩ := bind_eq_ok.mp ran
        by_cases joins : previousEnd = descriptor.physicalStart ∧
            previous.kind = descriptor.kind ∧ previous.attributes = descriptor.attributes
        · -- A merge replaces the last descriptor.
          rw [if_pos joins] at ran
          obtain ⟨pageCount, _, ran⟩ := bind_eq_ok.mp ran
          cases ran
          have positive : 0 < live.length :=
            List.length_pos_of_mem (List.mem_of_getLast? last)
          simp only [List.length_append, List.length_dropLast, List.length_singleton]
          omega
        · rw [if_neg joins] at ran
          exact pushed ran
  · rw [if_neg merge] at ran
    exact pushed ran

theorem appendFragment_length {cursor stop : Nat} (short : live.length ≤ capacity)
    (ran : appendFragment capacity live descriptor cursor stop = .ok next) :
    next.length ≤ capacity := by
  unfold appendFragment at ran
  split at ran
  · exact appendDescriptor_length short ran
  · cases ran
    exact short

theorem overlayReservation_length {descriptorEnd cursor covered : Nat} {reservation : Reservation}
    {result : Nat × List MemoryDescriptor × Nat} (short : live.length ≤ capacity)
    (ran : overlayReservation capacity descriptor descriptorEnd cursor live reservation covered =
      .ok result) : result.2.1.length ≤ capacity := by
  obtain ⟨reservationEnd, _, ran⟩ := bind_eq_ok.mp ran
  simp only at ran
  split at ran
  · cases ran
    exact short
  · obtain ⟨before, cut, ran⟩ := bind_eq_ok.mp ran
    obtain ⟨written, reserved, ran⟩ := bind_eq_ok.mp ran
    obtain ⟨_, _, ran⟩ := bind_eq_ok.mp ran
    cases ran
    exact appendDescriptor_length (appendFragment_length short cut) reserved

theorem overlayReservations_length {descriptorEnd cursor : Nat} {tallies : List (Reservation × Nat)}
    {result : Nat × List MemoryDescriptor × List (Reservation × Nat)}
    (short : live.length ≤ capacity)
    (ran : overlayReservations capacity descriptor descriptorEnd cursor live tallies =
      .ok result) : result.2.1.length ≤ capacity := by
  induction tallies generalizing cursor live result with
  | nil =>
      cases ran
      exact short
  | cons tally rest ih =>
      obtain ⟨first, laid, ran⟩ := bind_eq_ok.mp ran
      obtain ⟨others, later, ran⟩ := bind_eq_ok.mp ran
      have bounded := ih (overlayReservation_length short laid) later
      cases ran
      exact bounded

theorem overlayDescriptor_length
    {state result : List MemoryDescriptor × List (Reservation × Nat)}
    (short : state.1.length ≤ capacity)
    (ran : overlayDescriptor capacity state descriptor = .ok result) :
    result.1.length ≤ capacity := by
  obtain ⟨_, _, ran⟩ := bind_eq_ok.mp ran
  obtain ⟨descriptorEnd, _, ran⟩ := bind_eq_ok.mp ran
  obtain ⟨laid, looped, ran⟩ := bind_eq_ok.mp ran
  obtain ⟨written, cut, ran⟩ := bind_eq_ok.mp ran
  cases ran
  exact appendFragment_length (overlayReservations_length short looped) cut

theorem foldlM_overlayDescriptor_length {base : List MemoryDescriptor}
    {state result : List MemoryDescriptor × List (Reservation × Nat)}
    (short : state.1.length ≤ capacity)
    (ran : base.foldlM (overlayDescriptor capacity) state = .ok result) :
    result.1.length ≤ capacity := by
  induction base generalizing state with
  | nil =>
      cases ran
      exact short
  | cons descriptor rest ih =>
      obtain ⟨middle, first, later⟩ := foldlM_cons_eq_ok.mp ran
      exact ih (overlayDescriptor_length short first) later

/-- The slice keeps its length and the live part fits into it. -/
theorem applyReservations_slice {base output : List MemoryDescriptor} {list : ReservationList}
    {len : Nat} (ran : applyReservations base list capacity = .ok (len, output)) :
    output.length = capacity ∧ len ≤ capacity := by
  obtain ⟨_, _, ran⟩ := bind_eq_ok.mp ran
  obtain ⟨state, looped, ran⟩ := bind_eq_ok.mp ran
  obtain ⟨_, _, ran⟩ := bind_eq_ok.mp ran
  obtain ⟨_, _, ran⟩ := bind_eq_ok.mp ran
  have short := foldlM_overlayDescriptor_length (Nat.zero_le capacity) looped
  simp only [Except.ok.injEq, Prod.mk.injEq] at ran
  obtain ⟨rfl, rfl⟩ := ran
  simp only [filled, List.length_append, List.length_replicate]
  omega

end

/-! ## The reservations behind the boundary -/

/-- Every kind that the loader reserves with. -/
def loaderKinds : List Nat :=
  [memoryKindKernelImage, memoryKindBootInfo, memoryKindBootMemoryMap, memoryKindFramebuffer,
    memoryKindBootstrapStack, memoryKindPageTable]

/-- Reservations of two sources share no byte. -/
theorem reservations_apart {items : List Reservation}
    (ordered : Ordered Reservation.physicalStart Reservation.stop items)
    {left right : Reservation} (leftMember : left ∈ items) (rightMember : right ∈ items)
    (sources : left.source ≠ right.source) :
    left.stop ≤ right.physicalStart ∨ right.stop ≤ left.physicalStart := by
  have symmetric : Std.Symm (Apart Reservation.physicalStart Reservation.stop) :=
    ⟨fun _ _ => Apart.symm⟩
  refine ordered.apart.forall leftMember rightMember ?_
  rintro rfl
  exact sources rfl

/-- The address lies in pages that crossed, and this is the kind that they are
reserved with. -/
inductive OwnedAs (transferred : TransferredHandoff) (stack : TransferredBootstrapStack)
    (frames : List PhysicalFrame) (address : Nat) : Nat → Prop where
  | segment {segment : SegmentMetadata} (listed : segment ∈ transferred.segments)
      (inside : (segmentReservation segment).Contains address) :
      OwnedAs transferred stack frames address memoryKindKernelImage
  | bootData {reservation : Reservation}
      (listed : reservation ∈ transferred.allocations.reservations)
      (inside : reservation.Contains address) :
      OwnedAs transferred stack frames address reservation.kind
  | screen {framebuffer : Reservation}
      (rounded : framebufferReservation transferred.framebuffer.physicalAddress
        transferred.framebuffer.byteLength = .ok framebuffer)
      (inside : framebuffer.Contains address) :
      OwnedAs transferred stack frames address memoryKindFramebuffer
  | stack (inside : (stackReservation stack).Contains address) :
      OwnedAs transferred stack frames address memoryKindBootstrapStack
  | pageTable {frame : PhysicalFrame} (listed : frame ∈ frames)
      (low : frame.address ≤ address) (high : address < frame.address + memoryPageSize) :
      OwnedAs transferred stack frames address memoryKindPageTable

/-- What the finished list holds, when a stack and page tables crossed. -/
structure TransferredClaims (transferred : TransferredHandoff) (stack : TransferredBootstrapStack)
    (frames : List PhysicalFrame) (items : List Reservation) : Prop where
  wellFormed : ∀ reservation ∈ items, reservation.WellFormed
  ordered : Ordered Reservation.physicalStart Reservation.stop items
  kinds : ∀ reservation ∈ items, reservation.kind ∈ loaderKinds
  screens : ∀ reservation ∈ items, reservation.source = .framebuffer →
    reservation.kind = memoryKindFramebuffer
  segments : ∀ segment ∈ transferred.segments, segmentReservation segment ∈ items
  bootData : ∀ reservation ∈ transferred.allocations.reservations, reservation ∈ items
  stackPages : stackReservation stack ∈ items
  framesNonempty : frames ≠ []
  framesBounded : frames.length ≤ pageTableFrameCapacity
  framePages : ∀ frame ∈ frames, ∀ address, frame.address ≤ address →
    address < frame.address + memoryPageSize →
    ∃ run ∈ items, run.kind = memoryKindPageTable ∧ run.source = .pageTable ∧ run.Contains address
  owned : ∀ address kind, OwnedAs transferred stack frames address kind ↔
    ∃ reservation ∈ items, reservation.Contains address ∧ reservation.kind = kind

section

variable {transferred : TransferredHandoff} {stack : TransferredBootstrapStack}
  {tables : TransferredActivationPreparedPageTables} {list finished : ReservationList}

theorem framebufferReservation_kind {start length : Nat} {reservation : Reservation}
    (rounded : framebufferReservation start length = .ok reservation) :
    reservation.kind = memoryKindFramebuffer := by
  obtain ⟨_, _, rounded⟩ := bind_eq_ok.mp rounded
  obtain ⟨_, _, rounded⟩ := bind_eq_ok.mp rounded
  cases rounded
  rfl

theorem reservationsForTransferred_items (hasTables : transferred.pageTables = some tables)
    (ran : reservationsForTransferred transferred (some stack) = .ok list) :
    ∃ framebuffer runs, framebufferReservation transferred.framebuffer.physicalAddress
        transferred.framebuffer.byteLength = .ok framebuffer ∧
      list.items = transferred.segments.map segmentReservation ++
        transferred.allocations.reservations ++ [framebuffer] ++ [stackReservation stack] ++ runs ∧
      tables.frames ≠ [] ∧ tables.frames.length ≤ pageTableFrameCapacity ∧
      (∀ run ∈ runs, run.kind = memoryKindPageTable ∧ run.source = .pageTable) ∧
      (runs.flatMap pagesOf).Perm (tables.frames.map PhysicalFrame.address) := by
  obtain ⟨segments, pushedSegments, ran⟩ := bind_eq_ok.mp ran
  obtain ⟨buffers, pushedBuffers, ran⟩ := bind_eq_ok.mp ran
  obtain ⟨framebuffer, rounded, ran⟩ := bind_eq_ok.mp ran
  obtain ⟨screen, pushedScreen, ran⟩ := bind_eq_ok.mp ran
  obtain ⟨stacked, pushedStack, ran⟩ := bind_eq_ok.mp ran
  simp only [hasTables] at ran
  obtain ⟨nonempty, bounded, runs, items, kinds, pages⟩ :=
    appendPageTableReservations_eq_ok (appendOrFail_eq_ok.mp ran)
  refine ⟨framebuffer, runs, rounded, ?_, nonempty, bounded, kinds, pages⟩
  rw [items, pushOrFail_items pushedStack, pushOrFail_items pushedScreen,
    foldlM_pushOrFail_items pushedBuffers, foldlM_pushOrFail_items pushedSegments]
  simp [ReservationList.new]

theorem finish_transferredClaims (hasTables : transferred.pageTables = some tables)
    (ran : reservationsForTransferred transferred (some stack) = .ok list)
    (done : list.finish = (.ok (), finished)) :
    TransferredClaims transferred stack tables.frames finished.items := by
  obtain ⟨framebuffer, runs, rounded, items, nonempty, bounded, kinds, pages⟩ :=
    reservationsForTransferred_items hasTables ran
  have screen := framebufferReservation_kind rounded
  have listed : ∀ reservation, reservation ∈ finished.items ↔
      (∃ segment ∈ transferred.segments, segmentReservation segment = reservation) ∨
      reservation ∈ transferred.allocations.reservations ∨ reservation = framebuffer ∨
      reservation = stackReservation stack ∨ reservation ∈ runs := by
    intro reservation
    rw [(ReservationList.finish_perm done).mem_iff, items]
    simp only [List.mem_append, List.mem_map, List.mem_singleton, or_assoc]
  constructor
  · exact finished.wellFormed
  · exact ReservationList.finish_ordered done
  · intro reservation member
    rcases (listed reservation).mp member with ⟨segment, _, rfl⟩ | data | rfl | rfl | run
    · simp [segmentReservation, loaderKinds]
    · simp only [BootDataAllocations.reservations, List.mem_cons, List.not_mem_nil, or_false]
        at data
      rcases data with rfl | rfl | rfl | rfl
      all_goals simp [allocationReservation, loaderKinds]
    · simp [screen, loaderKinds]
    · simp [stackReservation, loaderKinds]
    · simp [(kinds reservation run).1, loaderKinds]
  · intro reservation member
    rcases (listed reservation).mp member with ⟨segment, _, rfl⟩ | data | rfl | rfl | run
    · simp [segmentReservation]
    · simp only [BootDataAllocations.reservations, List.mem_cons, List.not_mem_nil, or_false]
        at data
      rcases data with rfl | rfl | rfl | rfl
      all_goals simp [allocationReservation]
    · exact fun _ => screen
    · simp [stackReservation]
    · simp [(kinds reservation run).2]
  · intro segment member
    exact (listed _).mpr (.inl ⟨segment, member, rfl⟩)
  · intro reservation member
    exact (listed _).mpr (.inr (.inl member))
  · exact (listed _).mpr (.inr (.inr (.inr (.inl rfl))))
  · exact nonempty
  · exact bounded
  · intro frame member address low high
    obtain ⟨run, inRuns, contains⟩ := (runs_contain_iff pages).mpr ⟨frame, member, low, high⟩
    obtain ⟨kind, source⟩ := kinds run inRuns
    exact ⟨run, (listed run).mpr (.inr (.inr (.inr (.inr inRuns)))), kind, source, contains⟩
  · intro address kind
    constructor
    · intro owned
      cases owned with
      | segment member inside => exact ⟨_, (listed _).mpr (.inl ⟨_, member, rfl⟩), inside, rfl⟩
      | bootData member inside => exact ⟨_, (listed _).mpr (.inr (.inl member)), inside, rfl⟩
      | screen same inside =>
          rw [rounded] at same
          cases same
          exact ⟨framebuffer, (listed _).mpr (.inr (.inr (.inl rfl))), inside, screen⟩
      | stack inside => exact ⟨_, (listed _).mpr (.inr (.inr (.inr (.inl rfl)))), inside, rfl⟩
      | pageTable member low high =>
          obtain ⟨run, inRuns, contains⟩ :=
            (runs_contain_iff pages).mpr ⟨_, member, low, high⟩
          exact ⟨run, (listed run).mpr (.inr (.inr (.inr (.inr inRuns)))), contains,
            (kinds run inRuns).1⟩
    · rintro ⟨reservation, member, contains, rfl⟩
      rcases (listed reservation).mp member with ⟨segment, inSegments, rfl⟩ | data | rfl | rfl | run
      · exact .segment inSegments contains
      · exact .bootData data contains
      · rw [screen]
        exact .screen rounded contains
      · exact .stack contains
      · obtain ⟨frame, inFrames, low, high⟩ :=
          (runs_contain_iff pages).mp ⟨reservation, run, contains⟩
        rw [(kinds reservation run).1]
        exact .pageTable inFrames low high

namespace TransferredClaims

variable {frames : List PhysicalFrame} {items : List Reservation}

theorem rawMap (claims : TransferredClaims transferred stack frames items) :
    allocationReservation transferred.allocations.rawMap .rawMemoryMap memoryKindBootMemoryMap ∈
      items :=
  claims.bootData _ (by simp [BootDataAllocations.reservations])

theorem scratch (claims : TransferredClaims transferred stack frames items) :
    allocationReservation transferred.allocations.conversionScratch .conversionScratch
      memoryKindBootMemoryMap ∈ items :=
  claims.bootData _ (by simp [BootDataAllocations.reservations])

theorem converted (claims : TransferredClaims transferred stack frames items) :
    allocationReservation transferred.allocations.convertedMap .convertedMemoryMap
      memoryKindBootMemoryMap ∈ items :=
  claims.bootData _ (by simp [BootDataAllocations.reservations])

theorem bootInfo (claims : TransferredClaims transferred stack frames items) :
    allocationReservation transferred.allocations.bootInfo .bootInfo memoryKindBootInfo ∈ items :=
  claims.bootData _ (by simp [BootDataAllocations.reservations])

theorem apart (claims : TransferredClaims transferred stack frames items)
    {left right : Reservation} (leftMember : left ∈ items) (rightMember : right ∈ items)
    (sources : left.source ≠ right.source) :
    left.stop ≤ right.physicalStart ∨ right.stop ≤ left.physicalStart :=
  reservations_apart claims.ordered leftMember rightMember sources

end TransferredClaims

end

/-! ## The map -/

/-- The numbers of the descriptor are those of its source type. -/
def InRange (descriptor : MemoryDescriptor) : Prop :=
  descriptor.kind < 2 ^ 32 ∧ descriptor.attributes < wordLimit

theorem mapUefiMemoryKind_lt (memoryType : Nat) : mapUefiMemoryKind memoryType < 2 ^ 32 := by
  unfold mapUefiMemoryKind
  split <;> decide

theorem mapUefiMemoryKindPostExit_lt (memoryType : Nat) :
    mapUefiMemoryKindPostExit memoryType < 2 ^ 32 := by
  unfold mapUefiMemoryKindPostExit
  split
  · decide
  · decide
  · exact mapUefiMemoryKind_lt memoryType

/-- Any bytes decode to attributes of eight bytes. -/
theorem decode_att_lt (bytes : List UInt8) :
    (UefiMemoryDescriptor.record.decode bytes).att < wordLimit :=
  leValue_take_lt _ 8

section

variable {raw : List UInt8} {captured : CapturedMapMeta} {mapped : List MemoryDescriptor}

theorem convertRawMap_inRange {kindOf : Nat → Nat} (kinds : ∀ type, kindOf type < 2 ^ 32)
    (ran : convertRawMap kindOf raw captured = some mapped) :
    mapped.length = captured.rawCount ∧ mapped.length ≤ convertedDescriptorCapacity ∧
      ∀ descriptor ∈ mapped, InRange descriptor := by
  unfold convertRawMap at ran
  split at ran
  · contradiction
  · rename_i counted
    obtain ⟨length, origins⟩ := mapM_eq_some ran
    rw [List.length_range] at length
    refine ⟨length, by omega, ?_⟩
    intro descriptor member
    obtain ⟨index, _, read⟩ := origins descriptor member
    obtain ⟨found, decoded, rfl⟩ := Option.map_eq_some_iff.mp read
    refine ⟨kinds _, ?_⟩
    unfold readRawDescriptor at decoded
    split at decoded
    · contradiction
    · obtain ⟨offset, _, decoded⟩ := Option.bind_eq_some_iff.mp decoded
      obtain ⟨stop, _, decoded⟩ := Option.bind_eq_some_iff.mp decoded
      split at decoded
      · contradiction
      · cases decoded
        exact decode_att_lt _

end

/-- Normalizing keeps the kind and the attributes of every address, and so
invents none. -/
theorem normalizeMappedMemoryMap_inRange {output result : List MemoryDescriptor} {len count : Nat}
    (inRange : ∀ descriptor ∈ output.take len, InRange descriptor)
    (ran : normalizeMappedMemoryMap output len = .ok (count, result)) :
    result.length = output.length ∧ (∀ descriptor ∈ result.take count, InRange descriptor) ∧
      ∀ address kind attributes, Assigns (result.take count) address kind attributes ↔
        Assigns (output.take len) address kind attributes := by
  obtain ⟨merged, normalized, short, normal, assigns⟩ :=
    normalizeMappedMemoryMap_eq_ok (normalizable_of_ok ran)
  rw [ran, Except.ok.injEq, Prod.mk.injEq] at normalized
  obtain ⟨rfl, rfl⟩ := normalized
  rw [take_filled]
  refine ⟨?_, ?_, assigns⟩
  · simp only [filled, List.length_append, List.length_replicate]
    omega
  · intro descriptor member
    have start : descriptor.Contains descriptor.physicalStart :=
      ⟨Nat.le_refl _, (normal.ranged descriptor member).start_lt_stop⟩
    obtain ⟨source, listed, _, color⟩ :=
      (assigns descriptor.physicalStart descriptor.kind descriptor.attributes).mp
        ⟨descriptor, member, start, rfl⟩
    obtain ⟨kind, attributes⟩ := Prod.mk.inj color
    rw [InRange, ← kind, ← attributes]
    exact inRange source listed

/-- Each descriptor of an overlaid map survives the way through its bytes. -/
theorem overlay_fits {base live : List MemoryDescriptor} {items : List Reservation}
    (overlay : OverlayOf base items live)
    (kinds : ∀ reservation ∈ items, reservation.kind ∈ loaderKinds)
    (inRange : ∀ descriptor ∈ base, InRange descriptor) {descriptor : MemoryDescriptor}
    (member : descriptor ∈ live) : MemoryDescriptor.record.Fits descriptor := by
  have valid := MemoryDescriptor.validate_iff.mp (overlay.valid descriptor member)
  have start : descriptor.Contains descriptor.physicalStart := by
    have nonempty := valid.nonempty
    refine ⟨Nat.le_refl _, ?_⟩
    simp only [MemoryDescriptor.stop, memoryPageSize]
    omega
  by_cases covered : ∃ reservation ∈ items, reservation.Contains descriptor.physicalStart
  · obtain ⟨reservation, listed, contains⟩ := covered
    obtain ⟨kind, attributes⟩ :=
      overlay.reserved descriptor member reservation listed _ start contains
    have known := kinds reservation listed
    refine valid.fits ?_ (by rw [attributes]; decide)
    rw [kind]
    simp only [loaderKinds, List.mem_cons, List.not_mem_nil, or_false, memoryKindKernelImage,
      memoryKindBootInfo, memoryKindBootMemoryMap, memoryKindFramebuffer,
      memoryKindBootstrapStack, memoryKindPageTable] at known
    omega
  · obtain ⟨source, listed, contains⟩ :=
      (overlay.sameCover descriptor.physicalStart).mp ⟨descriptor, member, start⟩
    obtain ⟨kind, attributes⟩ := overlay.kept descriptor member source listed _ start contains
      fun reservation inItems covers => covered ⟨reservation, inItems, covers⟩
    obtain ⟨kindRange, attributeRange⟩ := inRange source listed
    exact valid.fits (kind ▸ kindRange) (attributes ▸ attributeRange)

/-- What `finalize_post_exit` has when the conversion went through. -/
structure FinalMapOf (transferred : TransferredHandoff) (stack : TransferredBootstrapStack)
    (frames : List PhysicalFrame) (mapped base : List MemoryDescriptor) (items : List Reservation)
    (final : FinalDescriptors) : Prop where
  claims : TransferredClaims transferred stack frames items
  overlay : OverlayOf base items final.live
  assigns : ∀ address kind attributes, Assigns base address kind attributes ↔
    Assigns mapped address kind attributes
  inRange : ∀ descriptor ∈ base, InRange descriptor
  scratchLength : final.scratch.length = convertedDescriptorCapacity
  convertedLength : final.converted.length = convertedDescriptorCapacity
  liveLength : final.live.length = final.count
  bounded : final.count ≤ convertedDescriptorCapacity
  nonempty : final.live ≠ []

section

variable {transferred : TransferredHandoff} {stack : TransferredBootstrapStack}
  {tables : TransferredActivationPreparedPageTables}

theorem finalDescriptors_spec {finalMap : CapturedMapMeta} {raw : List UInt8}
    {scratch : List MemoryDescriptor} {final : FinalDescriptors}
    (hasStack : transferred.bootstrapStack = some stack)
    (hasTables : transferred.pageTables = some tables)
    (sized : scratch.length = convertedDescriptorCapacity)
    (ran : finalDescriptors transferred finalMap raw scratch = some final) :
    ∃ mapped base items, convertRawMap mapUefiMemoryKindPostExit raw finalMap = some mapped ∧
      FinalMapOf transferred stack tables.frames mapped base items final := by
  obtain ⟨mapped, convertedRaw, ran⟩ := Option.bind_eq_some_iff.mp ran
  obtain ⟨normalized, normalizes, ran⟩ := Option.bind_eq_some_iff.mp ran
  obtain ⟨list, reserved, ran⟩ := Option.bind_eq_some_iff.mp ran
  obtain ⟨finished, done, ran⟩ := Option.bind_eq_some_iff.mp ran
  obtain ⟨⟨count, converted⟩, overlaid, ran⟩ := Option.bind_eq_some_iff.mp ran
  rw [toOption_eq_some] at normalizes reserved overlaid
  rw [finishOrFail_eq_some] at done
  rw [hasStack] at reserved
  obtain ⟨_, mappedShort, mappedRange⟩ :=
    convertRawMap_inRange mapUefiMemoryKindPostExit_lt convertedRaw
  have take : (mapped ++ scratch.drop mapped.length).take mapped.length = mapped :=
    List.take_left
  obtain ⟨scratchLength, baseRange, assigns⟩ :=
    normalizeMappedMemoryMap_inRange (take.symm ▸ mappedRange) normalizes
  rw [take] at assigns
  have overlay := applyReservations_overlayOf done overlaid
  obtain ⟨convertedLength, bounded⟩ := applyReservations_slice overlaid
  have evidence : reservationEvidence true (converted.take count) = true := by
    by_contra missing
    simp [missing] at ran
  simp only [evidence, Bool.true_eq_false, if_false] at ran
  cases ran
  refine ⟨mapped, _, _, convertedRaw, finish_transferredClaims hasTables reserved done, overlay,
    assigns, baseRange, ?_, convertedLength, applyReservations_length overlaid, bounded, ?_⟩
  · rw [scratchLength, List.length_append, List.length_drop, sized]
    omega
  · intro empty
    have live : converted.take count = [] := empty
    rw [live] at evidence
    exact absurd evidence (by decide)

namespace FinalMapOf

variable {frames : List PhysicalFrame} {mapped base : List MemoryDescriptor}
  {items : List Reservation} {final : FinalDescriptors}

theorem valid (map : FinalMapOf transferred stack frames mapped base items final)
    {descriptor : MemoryDescriptor} (member : descriptor ∈ final.live) : descriptor.Valid :=
  MemoryDescriptor.validate_iff.mp (map.overlay.valid descriptor member)

theorem fits (map : FinalMapOf transferred stack frames mapped base items final)
    {descriptor : MemoryDescriptor} (member : descriptor ∈ final.live) :
    MemoryDescriptor.record.Fits descriptor :=
  overlay_fits map.overlay map.claims.kinds map.inRange member

/-- The check that the final map reserves the page tables cannot fail. -/
theorem verifies (map : FinalMapOf transferred stack frames mapped base items final) :
    ∃ proof, verifyPageTableReservations frames final.live = .ok proof := by
  refine (verifyPageTableReservations_iff map.claims.framesNonempty
    (Nat.le_trans map.claims.framesBounded (by decide)) fun _ member => map.valid member).mpr ?_
  intro frame member
  obtain ⟨run, listed, kind, source, contains⟩ := map.claims.framePages frame member _
    (Nat.le_refl _) (Nat.lt_add_of_pos_right (by decide))
  obtain ⟨descriptor, inMap, contained, isTable⟩ :=
    isPageTable_of_run map.overlay listed kind source contains
  exact ⟨descriptor, map.overlay.ordered.find?_eq_some inMap contained, isTable⟩

end FinalMapOf

end

end UnnamedOS.Loader
