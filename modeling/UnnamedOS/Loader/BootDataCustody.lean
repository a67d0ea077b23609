import UnnamedOS.Loader.HandoffResources
import UnnamedOS.Loader.ProvisionalMap

namespace UnnamedOS.Loader

open UnnamedOS.Data UnnamedOS.BootProtocol UnnamedOS.MemoryMap UnnamedOS.PageTable

/-! # The pages of the boot data

The four buffers belong to the pending array first and to their owner later.
Between the two an error would lose them; there is none. -/

section

variable {φ κ : Type} (firmware : Firmware φ)

/-! ## The pending array -/

namespace PendingBuffers

def held (pending : PendingBuffers) : List OwnedAllocation :=
  pending.allocations.map PageAllocation.pages

theorem heldResources_slots (pending : PendingBuffers) :
    heldResources pending.slots = pending.held := by
  simp [heldResources_eq, slots, held, List.filter_map, Function.comp_def]

theorem drops (pending : PendingBuffers) : Drops (pending.drop firmware) pending.held := by
  intro rest machine leaves
  have gives := BootstrapStack.bootBackend_gives firmware
  rw [← heldResources_slots] at leaves
  have released := gives.releaseSlots 0 leaves
  unfold drop
  cases ran : releaseSlots (uefiBootBackend firmware).freeAllocation 0 machine pending.slots with
  | mk result left =>
      rw [ran] at released
      cases result with
      | ok done =>
          rw [heldResources_released ran] at released
          exact released
      | error refusal => exact gives.dropSlots released

theorem allocateNext_custody (pending : PendingBuffers) (pages : Nat) :
    Custody pending.held
      (unwinding (pending.drop firmware) (allocateNext firmware pending pages)) held := by
  refine @Custody.unwinds _ _ _ [] _ _ _ _ (pending.drops firmware) fun rest => ?_
  refine (Custody.allocatePages firmware .anyPages pages (pending.held ++ rest)).bind fun reply => ?_
  cases reply with
  | error status => exact .stop fun machine owes => owes.leaves
  | ok pointer =>
      have zeroing : Custody [⟨pointer.val, pages⟩]
          (writeMemory fun memory => fill memory pointer.val (pages * 4096) 0 :
            Program (Machine φ) (Stop BufferError) Unit) fun _ => [⟨pointer.val, pages⟩] :=
        .writeMemory _
      refine (zeroing (pending.held ++ rest)).bind fun _ => .pure ?_
      intro machine owes
      refine owes.perm ?_
      rw [held, held, List.map_append, List.append_assoc]
      exact List.perm_append_comm_assoc _ _ _

theorem allocate_custody : Custody [] (allocate firmware) held :=
  Custody.foldlM (fun pending pages => allocateNext_custody firmware pending pages) _ ⟨[]⟩

theorem allocateNext_pages {pending next : PendingBuffers} {pages : Nat} {machine after : Machine φ}
    (ran : allocateNext firmware pending pages machine = (.ok next, after)) :
    next.allocations.map PageAllocation.pageCount =
      pending.allocations.map PageAllocation.pageCount ++ [pages] := by
  obtain ⟨reply, _, _, ran⟩ := Program.bind_eq_ok.mp ran
  obtain ⟨pointer, _, lends, ran⟩ := Program.bind_eq_ok.mp ran
  cases ran
  simp

/-- The sizes are those of the list. -/
theorem allocate_pages {pending : PendingBuffers} {machine after : Machine φ}
    (ran : allocate firmware machine = (.ok pending, after)) :
    pending.allocations.map PageAllocation.pageCount =
      [rawMapPages, convertedMapPages, convertedMapPages, bootInfoPages] := by
  have loop (sizes : List Nat) {start final : PendingBuffers} {before after : Machine φ}
      (ran : sizes.foldlM (fun pending pages =>
        unwinding (pending.drop firmware) (allocateNext firmware pending pages)) start before =
          (.ok final, after)) :
      final.allocations.map PageAllocation.pageCount =
        start.allocations.map PageAllocation.pageCount ++ sizes := by
    induction sizes generalizing start before with
    | nil =>
        cases ran
        simp
    | cons pages sizes ih =>
        obtain ⟨next, middle, first, later⟩ := Program.bind_eq_ok.mp ran
        rw [ih later, allocateNext_pages firmware (unwinding_eq_ok.mp first), List.append_assoc,
          List.singleton_append]
  exact loop _ ran

/-- Four buffers are the boot data, in this order. -/
theorem bootAllocations_eq_some {pending : PendingBuffers} {allocations : BootDataAllocations}
    (buffers : pending.bootAllocations = some allocations) :
    pending.allocations = allocations.ordered := by
  unfold bootAllocations at buffers
  split at buffers
  · rename_i listed
    cases buffers
    exact listed
  · cases buffers

end PendingBuffers

/-! ## The quiet part -/

theorem quiet_captureFrom (start length : Nat) (attempts : List Nat) :
    Quiet (captureFrom firmware start length attempts) := by
  induction attempts with
  | nil => exact .stop _
  | cons attempt later ih =>
      refine .bind (.look _) fun systemTable => ?_
      split
      · exact .stop _
      · have plain : (Request.getMemoryMap start length).Plain := trivial
        refine .bind (.ask plain) fun reply => ?_
        split
        · split
          · exact .stop _
          · exact .pure _
        · split
          · exact .stop _
          · exact ih

theorem quiet_captureProvisional (allocations : BootDataAllocations) :
    Quiet (captureProvisional firmware allocations) :=
  .bind (.orReturn _ _) fun _ =>
    .bind (.attempt (quiet_captureFrom firmware _ _ _)) fun _ =>
    .bind (.orReturn _ _) fun _ => .bind (.writeLine _) fun _ => .pure _

theorem quiet_convertProvisional (allocations : BootDataAllocations)
    (reservations : ReservationList) (captured : CapturedMapMeta) :
    Quiet (convertProvisional allocations reservations captured :
      Program (Machine φ) BootStop _) := by
  refine .bind (.orReturn _ _) fun _ => .bind .readMemory fun _ => ?_
  split
  · exact .stop _
  · exact .bind (.writeMemory _) fun _ => .bind (.writeMemory _) fun _ =>
      .bind (.writeLine _) fun _ => .pure _

theorem quiet_proveReservations (handoffTest : Bool) (frames : List PhysicalFrame)
    (descriptors : List MemoryDescriptor) :
    Quiet (proveReservations handoffTest frames descriptors : Program (Machine φ) BootStop _) := by
  refine .bind (.orReturn _ _) fun _ => ?_
  simp only []
  split
  · exact .bind (.pure _) fun _ => .bind (.writeLine _) fun _ => .pure _
  · exact .bind (.orReturn _ _) fun _ => .bind (.pure _) fun _ =>
      .bind (.writeLine _) fun _ => .pure _

theorem quiet_writeBootInfo (allocations : BootDataAllocations) (captured : CapturedMapMeta)
    (descriptors : List MemoryDescriptor) (framebuffer : FramebufferInfo) :
    Quiet (writeBootInfo allocations captured descriptors framebuffer :
      Program (Machine φ) BootStop _) :=
  .bind (.orReturn _ _) fun _ => .bind (.orReturn _ _) fun _ => .bind (.orReturn _ _) fun _ =>
    .bind (.writeMemory _) fun _ => .bind (.writeLine _) fun _ => .pure _

theorem quiet_stageBootInfo (handoffTest : Bool) (loaded : LoadedKernel κ)
    (stack : Option PageAllocation) (frames : List PhysicalFrame) (pending : PendingBuffers) :
    Quiet (stageBootInfo firmware handoffTest loaded stack frames pending) := by
  have plain : Request.openGraphicsOutput.Plain := trivial
  exact .bind (.ask plain) fun _ => .bind (.orReturn _ _) fun _ => .bind (.orReturn _ _) fun _ =>
    .bind (.writeLine _) fun _ => .bind (.orReturn _ _) fun _ => .bind (.orReturn _ _) fun _ =>
    .bind (.writeLine _) fun _ => .bind (quiet_captureProvisional firmware _) fun _ =>
    .bind (quiet_convertProvisional _ _ _) fun _ => .bind (quiet_proveReservations _ _ _) fun _ =>
    .bind (quiet_writeBootInfo _ _ _ _) fun _ => .pure _

theorem quiet_checkPrepared (prepared : PreparedBootInfo Unit) :
    Quiet (checkPrepared prepared : Program (Machine φ) BootStop Unit) := by
  unfold checkPrepared
  split
  · exact .stop _
  · exact .pure _

/-! ## The owner -/

namespace PreparedBootInfo

def held (prepared : PreparedBootInfo Unit) : List OwnedAllocation :=
  heldResources prepared.slots

theorem drops (prepared : PreparedBootInfo Unit) : Drops (prepared.dropOn firmware) prepared.held :=
  .slots (BootstrapStack.bootBackend_gives firmware) _

end PreparedBootInfo

/-- What the staged buffers become; nothing is checked that could still fail. -/
theorem StagedOn.fromValidated {pending : PendingBuffers} {staged : StagedBootInfo}
    {memory : Nat → UInt8} (stagedOn : StagedOn pending staged memory)
    (sizes : pending.allocations.map PageAllocation.pageCount =
      [rawMapPages, convertedMapPages, convertedMapPages, bootInfoPages])
    (provisionalMap : ProvisionalMapMetadata) :
    ∃ prepared, PreparedBootInfo.fromValidated () staged.allocations staged.bootInfo
        (MemoryDescriptor.record.loadAll memory staged.allocations.convertedMap.pageStart
          staged.count) provisionalMap = .ok prepared ∧ prepared.held = pending.held := by
  obtain ⟨buffers, base, items, final, framebuffer, earlier, map, count, _, built, rfl⟩ := stagedOn
  have listed := PendingBuffers.bootAllocations_eq_some buffers
  have room : staged.allocations.convertedMap.pageCount = convertedMapPages := by
    rw [listed] at sizes
    simp only [BootDataAllocations.ordered, List.map_cons, List.cons.injEq] at sizes
    exact sizes.2.2.1
  rw [count, map.loadAll_save room]
  refine ⟨_, PreparedBootInfo.fromValidated_eq_ok.mpr ⟨map.admissible room built, rfl⟩, ?_⟩
  rw [PendingBuffers.held, listed]
  rfl

/-- After the pending array is given up, the owner has the same ranges. -/
theorem prepare_custody (handoffTest : Bool) (loaded : LoadedKernel κ)
    (stack : Option PageAllocation) (frames : List PhysicalFrame) :
    Custody [] (prepare firmware handoffTest loaded stack frames)
      fun prepared => prepared.1.held := by
  refine (Custody.returning (PendingBuffers.allocate_custody firmware)).bind
    fun _ pending _ allocates => ?_
  have sizes := PendingBuffers.allocate_pages firmware (returning_eq_ok.mp allocates)
  have staging : Custody pending.held (unwinding (pending.drop firmware)
      (stageBootInfo firmware handoffTest loaded stack frames pending)) fun _ => pending.held :=
    Custody.unwinding (pending.drops firmware)
      (.quiet (quiet_stageBootInfo firmware handoffTest loaded stack frames pending))
  refine staging.bind_from fun _ staged after stages => ?_
  obtain ⟨prepared, accepted, held⟩ :=
    (stageBootInfo_eq_ok (unwinding_eq_ok.mp stages)).fromValidated sizes {
      mapSize := staged.captured.mapSize
      descriptorStride := staged.captured.descriptorStride
      descriptorVersion := staged.captured.descriptorVersion
      mapKey := staged.captured.mapKey
      status := .provisional }
  rw [CustodyFrom, Program.bind_of_ok readMemory_run]
  simp only [accepted]
  have owning : Custody prepared.held
      (unwinding (prepared.dropOn firmware) (checkPrepared prepared) >>= fun _ => do
        writeLine "UNOS:P1G:OWNERSHIP_READY"
        pure (prepared, staged.proof)) fun prepared => prepared.1.held :=
    (Custody.unwinding (prepared.drops firmware) (.quiet (quiet_checkPrepared prepared))).bind
      fun _ _ _ _ => (Custody.writeLine _).bind fun _ _ _ _ => .pure rfl
  rw [← held]
  exact fun rest => owning rest after

variable {firmware} in
theorem prepare_framebuffer {handoffTest : Bool} {loaded : LoadedKernel κ}
    {stack : Option PageAllocation} {frames : List PhysicalFrame} {machine after : Machine φ}
    {prepared : PreparedBootInfo Unit × Option PageTableReservationProof}
    (ran : prepare firmware handoffTest loaded stack frames machine = (.ok prepared, after)) :
    prepared.1.framebuffer.Fits := by
  obtain ⟨pending, _, _, ran⟩ := Program.bind_eq_ok.mp ran
  obtain ⟨staged, _, stages, ran⟩ := Program.bind_eq_ok.mp ran
  rw [Program.bind_of_ok readMemory_run] at ran
  obtain ⟨owner, _, owns, ran⟩ := Program.bind_eq_ok.mp ran
  obtain ⟨accepted, rfl⟩ := orReturn_eq_ok.mp owns
  obtain ⟨_, _, _, ran⟩ := Program.bind_eq_ok.mp ran
  cases ran
  obtain ⟨_, _, _, _, framebuffer, _, _, _, ⟨mode, described⟩, built, _⟩ :=
    stageBootInfo_eq_ok (unwinding_eq_ok.mp stages)
  obtain ⟨_, rfl⟩ := PreparedBootInfo.fromValidated_eq_ok.mp (toOption_eq_some.mp accepted)
  simp only [PreparedBootInfo.framebuffer]
  rw [(buildBootInfo_eq_ok built).1]
  exact describeFramebuffer_fits described

end

end UnnamedOS.Loader
