import UnnamedOS.Loader.BootData
import UnnamedOS.Loader.PublishedMemory

namespace UnnamedOS.Loader

open UnnamedOS.Data UnnamedOS.BootProtocol UnnamedOS.MemoryMap UnnamedOS.PageTable

/-! # What the pending buffers hold

When everything that can fail has been done, the four buffers are well-formed
ranges apart from each other, and the converted map reads back from memory as
it was written.  The owner's constructor checks all of this again and finds
nothing to refuse. -/

/-- The provisional map, over the normalized report. -/
structure ProvisionalMapOf (allocations : BootDataAllocations) (base : List MemoryDescriptor)
    (items : List Reservation) (final : FinalDescriptors) : Prop where
  wellFormed : ∀ reservation ∈ items, reservation.WellFormed
  ordered : Ordered Reservation.physicalStart Reservation.stop items
  bootData : ∀ reservation ∈ allocations.reservations, reservation ∈ items
  kinds : ∀ reservation ∈ items, reservation.kind ∈ loaderKinds
  overlay : OverlayOf base items final.live
  inRange : ∀ descriptor ∈ base, InRange descriptor
  convertedLength : final.converted.length = convertedDescriptorCapacity
  liveLength : final.live.length = final.count
  bounded : final.count ≤ convertedDescriptorCapacity

section

variable {κ : Type} {loaded : LoadedKernel κ} {allocations : BootDataAllocations}
  {framebuffer : FramebufferInfo} {stack : Option PageAllocation} {frames : List PhysicalFrame}
  {finished : ReservationList}

theorem allocationReservations_kind {reservation : Reservation}
    (listed : reservation ∈ allocations.reservations) : reservation.kind ∈ loaderKinds := by
  simp only [BootDataAllocations.reservations, List.mem_cons, List.not_mem_nil, or_false] at listed
  rcases listed with rfl | rfl | rfl | rfl
  all_goals simp [allocationReservation, loaderKinds]

theorem provisionalReservations_eq_some
    (ran : provisionalReservations loaded allocations framebuffer stack frames = some finished) :
    ∃ (list : ReservationList) (screen : Reservation) (runs : List Reservation),
      list.finish = (.ok (), finished) ∧
      framebufferReservation framebuffer.physicalAddress framebuffer.byteLength = .ok screen ∧
      (∀ run ∈ runs, run.kind = memoryKindPageTable) ∧
      list.items = loaded.segments.map segmentReservation ++ allocations.reservations ++ [screen] ++
        (stack.toList.map fun stack =>
          allocationReservation stack .bootstrapStack memoryKindBootstrapStack) ++ runs := by
  obtain ⟨reservations, reserved, ran⟩ := Option.bind_eq_some_iff.mp ran
  rw [toOption_eq_some] at reserved
  obtain ⟨screen, rounded, items⟩ := reservationsFor_items reserved
  simp only [] at ran
  split at ran
  · exact ⟨reservations, screen, [], finishOrFail_eq_some.mp ran, rounded, by simp,
      by rw [items, List.append_nil]⟩
  · obtain ⟨list, added, done⟩ := Option.bind_eq_some_iff.mp ran
    rw [toOption_eq_some, appendOrFail_eq_ok] at added
    obtain ⟨_, _, runs, appended, kinds, _⟩ := appendPageTableReservations_eq_ok added
    exact ⟨list, screen, runs, finishOrFail_eq_some.mp done, rounded,
      fun run member => (kinds run member).1, by rw [appended, items]⟩

theorem provisionalReservations_kinds
    (ran : provisionalReservations loaded allocations framebuffer stack frames = some finished) :
    ∀ reservation ∈ finished.items, reservation.kind ∈ loaderKinds := by
  obtain ⟨list, screen, runs, done, rounded, kinds, items⟩ := provisionalReservations_eq_some ran
  intro reservation member
  rw [(ReservationList.finish_perm done).mem_iff, items] at member
  simp only [List.mem_append, List.mem_map, List.mem_singleton, or_assoc] at member
  rcases member with ⟨segment, _, rfl⟩ | data | rfl | ⟨stack, _, rfl⟩ | run
  · simp [segmentReservation, loaderKinds]
  · exact allocationReservations_kind data
  · simp [framebufferReservation_kind rounded, loaderKinds]
  · simp [allocationReservation, loaderKinds]
  · simp [kinds reservation run, loaderKinds]

theorem provisionalDescriptors_spec {captured : CapturedMapMeta} {raw : List UInt8}
    {scratch : List MemoryDescriptor} {final : FinalDescriptors}
    (reserved : provisionalReservations loaded allocations framebuffer stack frames =
      some finished)
    (ran : provisionalDescriptors finished captured raw scratch = .ok final) :
    ∃ base, ProvisionalMapOf allocations base finished.items final := by
  obtain ⟨list, screen, runs, done, rounded, _, items⟩ := provisionalReservations_eq_some reserved
  obtain ⟨mapped, convertedRaw, ran⟩ := bind_eq_ok.mp ran
  obtain ⟨normalized, normalizes, ran⟩ := bind_eq_ok.mp ran
  obtain ⟨⟨count, converted⟩, overlaid, ran⟩ := bind_eq_ok.mp ran
  rw [okOr_eq_ok] at convertedRaw
  rw [mapError_eq_ok] at normalizes overlaid
  cases ran
  obtain ⟨_, _, mappedRange⟩ := convertRawMap_inRange mapUefiMemoryKind_lt convertedRaw
  have take : (mapped ++ scratch.drop mapped.length).take mapped.length = mapped :=
    List.take_left
  obtain ⟨_, baseRange, _⟩ :=
    normalizeMappedMemoryMap_inRange (take.symm ▸ mappedRange) normalizes
  obtain ⟨convertedLength, bounded⟩ := applyReservations_slice overlaid
  refine ⟨_, finished.wellFormed, ReservationList.finish_ordered done, ?_,
    provisionalReservations_kinds reserved, applyReservations_overlayOf done overlaid, baseRange,
    convertedLength, applyReservations_length overlaid, bounded⟩
  intro reservation member
  rw [(ReservationList.finish_perm done).mem_iff, items]
  simp only [List.mem_append, member, true_or, or_true]

end

/-! ## The owner's constructor -/

namespace ProvisionalMapOf

variable {allocations : BootDataAllocations} {base : List MemoryDescriptor}
  {items : List Reservation} {final : FinalDescriptors}

/-- The boot data's ranges pass the check of a range. -/
theorem validateRange_eq_ok (map : ProvisionalMapOf allocations base items final)
    (allocation : PageAllocation) (listed : allocation ∈ allocations.ordered) :
    validateRange allocation.pageStart allocation.pageCount = .ok () := by
  have each (source : ReservationSource) (kind : Nat)
      (reserved : allocationReservation allocation source kind ∈ allocations.reservations) :
      validateRange allocation.pageStart allocation.pageCount = .ok () :=
    map.wellFormed _ (map.bootData _ reserved)
  simp only [BootDataAllocations.ordered, List.mem_cons, List.not_mem_nil, or_false] at listed
  rcases listed with rfl | rfl | rfl | rfl
  · exact each .rawMemoryMap memoryKindBootMemoryMap (by simp [BootDataAllocations.reservations])
  · exact each .conversionScratch memoryKindBootMemoryMap
      (by simp [BootDataAllocations.reservations])
  · exact each .convertedMemoryMap memoryKindBootMemoryMap
      (by simp [BootDataAllocations.reservations])
  · exact each .bootInfo memoryKindBootInfo (by simp [BootDataAllocations.reservations])

theorem loadAll_save (map : ProvisionalMapOf allocations base items final)
    (room : allocations.convertedMap.pageCount = convertedMapPages) (memory : Nat → UInt8)
    (bootInfo : BootInfo) :
    MemoryDescriptor.record.loadAll
      (BootInfo.record.save (savedBuffers allocations memory final) allocations.bootInfo.pageStart
        bootInfo)
      allocations.convertedMap.pageStart final.count = final.live := by
  have apart := reservations_apart map.ordered
    (map.bootData (allocationReservation allocations.convertedMap .convertedMemoryMap
      memoryKindBootMemoryMap) (by simp [BootDataAllocations.reservations]))
    (map.bootData (allocationReservation allocations.bootInfo .bootInfo memoryKindBootInfo)
      (by simp [BootDataAllocations.reservations])) (by simp [allocationReservation])
  obtain ⟨page, _, _⟩ := MemoryMap.validateRange_eq_ok.mp (map.validateRange_eq_ok
    allocations.bootInfo (by simp [BootDataAllocations.ordered]))
  have bounded := map.bounded
  have sizes : MemoryDescriptor.record.size = 32 ∧ BootInfo.record.size = 128 := ⟨rfl, rfl⟩
  simp only [Reservation.stop, allocationReservation, memoryPageSize, room, convertedMapPages,
    convertedDescriptorCapacity] at apart bounded
  rw [Record.save, Record.loadAll_store, savedBuffers,
    Record.loadAll_saveAll (by rw [map.convertedLength]; exact map.bounded)]
  · rfl
  · intro descriptor member
    exact overlay_fits map.overlay map.kinds map.inRange member
  · rw [Record.length_encode, sizes.1, sizes.2]
    omega

/-- The block that was built for the map is one that the constructor accepts. -/
theorem admissible (map : ProvisionalMapOf allocations base items final)
    (room : allocations.convertedMap.pageCount = convertedMapPages) {version : Nat}
    {framebuffer : FramebufferInfo} {bootInfo : BootInfo}
    (built : buildBootInfo allocations.convertedMap.pageStart final.live version framebuffer =
      .ok bootInfo) :
    PreparedBootInfo.Admissible allocations bootInfo final.live := by
  obtain ⟨rfl, validated, wire⟩ := buildBootInfo_eq_ok built
  have bounded := map.bounded
  rw [← map.liveLength] at bounded
  refine ⟨⟨validated, wire⟩, rfl, ?_, map.validateRange_eq_ok, Nat.le_refl _, ?_⟩
  · intro descriptor member
    exact MemoryDescriptor.validate_iff.mp (map.overlay.valid descriptor member)
  · simp only [BootInfo.new, memoryMapInfo, room, convertedMapPages, convertedDescriptorCapacity,
      memoryDescriptorSize, memoryPageSize] at bounded ⊢
    omega

end ProvisionalMapOf

/-! ## The framebuffer -/

/-- Every number of a described framebuffer is within its type. -/
theorem describeFramebuffer_fits {mode : GraphicsMode} {framebuffer : FramebufferInfo}
    (described : describeFramebuffer mode = some framebuffer) : framebuffer.Fits := by
  obtain ⟨format, _, described⟩ := Option.bind_eq_some_iff.mp described
  obtain ⟨narrow, converted⟩ := Option.ite_none_right_eq_some.mp described
  simp only [toOption_eq_some, convertFramebuffer, guard_eq_ok, bind_eq_ok, okOr_eq_ok,
    checkedAdd_eq_some, Except.ok.injEq] at converted
  obtain ⟨_, _, _, wire, known, _, _, _, _, ⟨bounded, _⟩, rfl⟩ := converted
  obtain ⟨width, height, stride⟩ := narrow
  have small : wire < 2 ^ 32 := by
    rcases wireFormat_known known with rfl | rfl
    · decide
    · decide
  have zero : 0 < wordLimit := by decide
  refine ⟨?_, ?_, width, height, stride, small, zero⟩
  · exact Nat.lt_of_le_of_lt (Nat.le_add_right _ _) bounded
  · exact Nat.lt_of_le_of_lt (Nat.le_add_left _ _) bounded

/-! ## What a completed stage leaves -/

section

variable {φ κ : Type} {firmware : Firmware φ} {machine after : Machine φ}
  {allocations : BootDataAllocations} {captured : CapturedMapMeta} {final : FinalDescriptors}

theorem convertProvisional_eq_ok {reservations : ReservationList}
    (ran : convertProvisional allocations reservations captured machine = (.ok final, after)) :
    ∃ raw scratch, provisionalDescriptors reservations captured raw scratch = .ok final ∧
      after.hardware.memory = savedBuffers allocations machine.hardware.memory final := by
  obtain ⟨rawLength, _, measured, ran⟩ := Program.bind_eq_ok.mp ran
  obtain ⟨_, rfl⟩ := orReturn_eq_ok.mp measured
  rw [Program.bind_of_ok readMemory_run] at ran
  cases converted : provisionalDescriptors reservations captured
      (window machine.hardware.memory allocations.rawMap.pageStart rawLength)
      (MemoryDescriptor.record.loadAll machine.hardware.memory
        allocations.conversionScratch.pageStart convertedDescriptorCapacity) with
  | error reason =>
      rw [converted] at ran
      cases ran
  | ok found =>
      rw [converted] at ran
      cases ran
      exact ⟨_, _, converted, rfl⟩

theorem proveReservations_hardware {handoffTest : Bool} {frames : List PhysicalFrame}
    {descriptors : List MemoryDescriptor} {proof : Option PageTableReservationProof}
    (ran : proveReservations handoffTest frames descriptors machine = (.ok proof, after)) :
    after.hardware = machine.hardware := by
  obtain ⟨_, _, evident, ran⟩ := Program.bind_eq_ok.mp ran
  obtain ⟨_, rfl⟩ := orReturn_eq_ok.mp evident
  simp only [] at ran
  split at ran
  · cases ran
    rfl
  · obtain ⟨_, _, verifies, ran⟩ := Program.bind_eq_ok.mp ran
    obtain ⟨_, rfl⟩ := orReturn_eq_ok.mp verifies
    cases ran
    rfl

theorem writeBootInfo_eq_ok {descriptors : List MemoryDescriptor} {framebuffer : FramebufferInfo}
    {bootInfo : BootInfo}
    (ran : writeBootInfo allocations captured descriptors framebuffer machine =
      (.ok bootInfo, after)) :
    buildBootInfo allocations.convertedMap.pageStart descriptors captured.descriptorVersion
        framebuffer = .ok bootInfo ∧
      after.hardware.memory = BootInfo.record.save machine.hardware.memory
        allocations.bootInfo.pageStart bootInfo := by
  obtain ⟨version, _, checked, ran⟩ := Program.bind_eq_ok.mp ran
  obtain ⟨narrow, rfl⟩ := orReturn_eq_ok.mp checked
  obtain ⟨_, same⟩ := Option.ite_none_right_eq_some.mp narrow
  cases same
  obtain ⟨block, _, builds, ran⟩ := Program.bind_eq_ok.mp ran
  obtain ⟨built, rfl⟩ := orReturn_eq_ok.mp builds
  obtain ⟨_, _, validates, ran⟩ := Program.bind_eq_ok.mp ran
  obtain ⟨_, rfl⟩ := orReturn_eq_ok.mp validates
  cases ran
  exact ⟨toOption_eq_some.mp built, rfl⟩

/-- The staged block, its map, and the memory with both. -/
structure StagedOn (pending : PendingBuffers) (staged : StagedBootInfo) (memory : Nat → UInt8) :
    Prop where
  buffers : pending.bootAllocations = some staged.allocations
  written : ∃ base items final framebuffer earlier,
    ProvisionalMapOf staged.allocations base items final ∧ staged.count = final.count ∧
      (∃ mode, describeFramebuffer mode = some framebuffer) ∧
      buildBootInfo staged.allocations.convertedMap.pageStart final.live
        staged.captured.descriptorVersion framebuffer = .ok staged.bootInfo ∧
      memory = BootInfo.record.save (savedBuffers staged.allocations earlier final)
        staged.allocations.bootInfo.pageStart staged.bootInfo

theorem stageBootInfo_eq_ok {handoffTest : Bool} {loaded : LoadedKernel κ}
    {stack : Option PageAllocation} {frames : List PhysicalFrame} {pending : PendingBuffers}
    {staged : StagedBootInfo}
    (ran : stageBootInfo firmware handoffTest loaded stack frames pending machine =
      (.ok staged, after)) : StagedOn pending staged after.hardware.memory := by
  obtain ⟨reply, _, _, ran⟩ := Program.bind_eq_ok.mp ran
  obtain ⟨mode, _, opened, ran⟩ := Program.bind_eq_ok.mp ran
  obtain ⟨_, rfl⟩ := orReturn_eq_ok.mp opened
  obtain ⟨framebuffer, _, describes, ran⟩ := Program.bind_eq_ok.mp ran
  obtain ⟨described, rfl⟩ := orReturn_eq_ok.mp describes
  rw [Program.bind_of_ok writeLine_run] at ran
  obtain ⟨allocations, _, named, ran⟩ := Program.bind_eq_ok.mp ran
  obtain ⟨buffers, rfl⟩ := orReturn_eq_ok.mp named
  obtain ⟨reservations, _, reserves, ran⟩ := Program.bind_eq_ok.mp ran
  obtain ⟨reserved, rfl⟩ := orReturn_eq_ok.mp reserves
  rw [Program.bind_of_ok writeLine_run] at ran
  obtain ⟨captured, _, _, ran⟩ := Program.bind_eq_ok.mp ran
  obtain ⟨final, converted, converts, ran⟩ := Program.bind_eq_ok.mp ran
  obtain ⟨proof, _, proves, ran⟩ := Program.bind_eq_ok.mp ran
  obtain ⟨bootInfo, _, builds, ran⟩ := Program.bind_eq_ok.mp ran
  cases ran
  obtain ⟨_, _, provisional, saved⟩ := convertProvisional_eq_ok converts
  obtain ⟨built, memory⟩ := writeBootInfo_eq_ok builds
  obtain ⟨base, map⟩ := provisionalDescriptors_spec reserved provisional
  rw [proveReservations_hardware proves, saved] at memory
  exact ⟨buffers, base, _, final, framebuffer, _, map, rfl, ⟨mode, described⟩, built, memory⟩

end

end UnnamedOS.Loader
