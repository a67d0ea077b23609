import UnnamedOS.Loader.FinalMap

namespace UnnamedOS.Loader

open UnnamedOS.Data UnnamedOS.BootProtocol UnnamedOS.MemoryMap UnnamedOS.PageTable

/-! # Every way through the finalization

One lemma for each stage says how it can end; chained, they leave five places
where a run can stop, and one machine that the kernel is started on. -/

/-- The two buffers as the conversion leaves them in memory. -/
def savedBuffers (allocations : BootDataAllocations) (memory : Nat → UInt8)
    (final : FinalDescriptors) : Nat → UInt8 :=
  MemoryDescriptor.record.saveAll
    (MemoryDescriptor.record.saveAll memory allocations.conversionScratch.pageStart final.scratch)
    allocations.convertedMap.pageStart final.converted

/-- The memory that the kernel finds. -/
def publishedMemory (transferred : TransferredHandoff) (memory : Nat → UInt8)
    (final : FinalDescriptors) (bootInfo : BootInfo) : Nat → UInt8 :=
  BootInfo.record.save (savedBuffers transferred.allocations memory final)
    transferred.bootInfoAddress bootInfo

/-- What the loader writes from the end of boot services to the jump. -/
def finalizeLines : List String :=
  ["UNOS:P1H:FINAL_MAP_CONVERTED", "UNOS:P1J:FINAL_MAP_RESERVED", "UNOS:P1J:CR3_UNCHANGED",
    "UNOS:P1H:BOOTINFO_FINAL", "UNOS:P1J:ACTIVATION_PREPARED_INACTIVE",
    "UNOS:P1H:OWNERSHIP_TRANSFERRED", "UNOS:P1J:OWNERSHIP_TRANSFERRED", "UNOS:P1H:PASS",
    "UNOS:P1I:HANDOFF_READY"]

/-- Where a finalization can stop: after how many of its lines, and with which. -/
def finalizeFailures : List (Nat × String) :=
  [(0, "UNOS:P1H:FAIL:FINAL_MAP"), (2, "UNOS:P1H:FAIL:BOOTINFO"),
    (2, "UNOS:P1J:FAIL:CR3_STABILITY"), (3, "UNOS:P1H:FAIL:BOOTINFO"),
    (8, "UNOS:P1I:FAIL:STACK")]

section

variable {φ : Type} {transferred : TransferredHandoff} {finalMap : CapturedMapMeta}
  {rawStart rawLength : Nat} {machine : Machine φ}

theorem convertFinalMap_cases (transferred : TransferredHandoff) (finalMap : CapturedMapMeta)
    (rawStart rawLength : Nat) (machine : Machine φ) :
    FailsWith machine ["UNOS:P1H:FAIL:FINAL_MAP"]
        (convertFinalMap transferred finalMap rawStart rawLength machine) ∨
      ∃ final, checkBuffers transferred.allocations = some () ∧
        finalDescriptors transferred finalMap (window machine.hardware.memory rawStart rawLength)
          (MemoryDescriptor.record.loadAll machine.hardware.memory
            transferred.allocations.conversionScratch.pageStart convertedDescriptorCapacity) =
          some final ∧
        convertFinalMap transferred finalMap rawStart rawLength machine =
          (.ok final, (machine.withMemory (savedBuffers transferred.allocations
            machine.hardware.memory final)).say ["UNOS:P1H:FINAL_MAP_CONVERTED"]) := by
  rcases orFail_cases (checkBuffers transferred.allocations) "UNOS:P1H:FAIL:FINAL_MAP" machine with
    fails | ⟨_, buffers, checked⟩
  · exact .inl fails.bind
  rw [convertFinalMap, Program.bind_of_ok checked, Program.bind_of_ok readMemory_run]
  rcases orFail_cases (finalDescriptors transferred finalMap
      (window machine.hardware.memory rawStart rawLength)
      (MemoryDescriptor.record.loadAll machine.hardware.memory
        transferred.allocations.conversionScratch.pageStart convertedDescriptorCapacity))
      "UNOS:P1H:FAIL:FINAL_MAP" machine with fails | ⟨final, converted, ran⟩
  · exact .inl fails.bind
  · exact .inr ⟨final, buffers, converted, Program.bind_of_ok ran⟩

theorem confirmPageTables_run {tables : TransferredActivationPreparedPageTables}
    {descriptors : List MemoryDescriptor} {proof : PageTableReservationProof}
    (hasTables : transferred.pageTables = some tables)
    (verified : verifyPageTableReservations tables.frames descriptors = .ok proof) :
    confirmPageTables transferred descriptors machine =
      (.ok tables, machine.say ["UNOS:P1J:FINAL_MAP_RESERVED"]) := by
  rw [confirmPageTables, hasTables, Program.bind_of_ok orFail_some, verified]
  rfl

theorem publishBootInfo_cases (transferred : TransferredHandoff) (finalMap : CapturedMapMeta)
    (descriptors : List MemoryDescriptor) (machine : Machine φ) :
    FailsWith machine ["UNOS:P1H:FAIL:BOOTINFO"]
        (publishBootInfo transferred finalMap descriptors machine) ∨
      ∃ bootInfo metadata postExit, finalMap.descriptorVersion < 2 ^ 16 ∧
        buildBootInfo transferred.allocations.convertedMap.pageStart descriptors
          finalMap.descriptorVersion transferred.framebuffer = .ok bootInfo ∧
        PostExitState.fromFinalMap transferred bootInfo descriptors metadata = .ok postExit ∧
        publishBootInfo transferred finalMap descriptors machine =
          (.ok postExit, machine.withMemory (BootInfo.record.save machine.hardware.memory
            transferred.bootInfoAddress bootInfo)) := by
  rcases orFail_cases (if finalMap.descriptorVersion < 2 ^ 16 then
      some finalMap.descriptorVersion else none) "UNOS:P1H:FAIL:BOOTINFO" machine with
    fails | ⟨version, narrow, checked⟩
  · exact .inl fails.bind
  rw [publishBootInfo, Program.bind_of_ok checked]
  obtain ⟨small, same⟩ := Option.ite_none_right_eq_some.mp narrow
  cases same
  rcases orFail_cases (buildBootInfo transferred.allocations.convertedMap.pageStart descriptors
      finalMap.descriptorVersion transferred.framebuffer).toOption "UNOS:P1H:FAIL:BOOTINFO"
      machine with fails | ⟨bootInfo, built, ran⟩
  · exact .inl fails.bind
  rw [Program.bind_of_ok ran, Program.bind_of_ok writeMemory_run]
  rcases orFail_cases (PostExitState.fromFinalMap transferred bootInfo descriptors
      ⟨finalMap.mapSize, finalMap.descriptorStride, finalMap.descriptorVersion,
        finalMap.mapKey⟩).toOption "UNOS:P1H:FAIL:BOOTINFO"
      (machine.withMemory (BootInfo.record.save machine.hardware.memory
        transferred.bootInfoAddress bootInfo)) with fails | ⟨postExit, accepted, ran⟩
  · obtain ⟨memory, stopped⟩ := fails
    exact .inl ⟨memory, stopped⟩
  · exact .inr ⟨bootInfo, _, postExit, small, toOption_eq_some.mp built,
      toOption_eq_some.mp accepted, ran⟩

theorem checkPostExit_cases {postExit : PostExitState}
    {tables : TransferredActivationPreparedPageTables}
    (hasTables : postExit.transferred.pageTables = some tables) (machine : Machine φ) :
    FailsWith machine ["UNOS:P1J:FAIL:CR3_STABILITY"]
        (checkPostExit postExit tables.rootFrame tables.frameCount machine) ∨
      FailsWith machine ["UNOS:P1J:CR3_UNCHANGED", "UNOS:P1H:FAIL:BOOTINFO"]
        (checkPostExit postExit tables.rootFrame tables.frameCount machine) ∨
      tables.readiness.stability.cr3 = machine.hardware.cpu.cr3 ∧
        postExit.transferred.bootInfoAddress ≠ 0 ∧ postExit.transferred.kernelEntry ≠ 0 ∧
        checkPostExit postExit tables.rootFrame tables.frameCount machine =
          (.ok (), machine.say ((finalizeLines.drop 2).take 6)) := by
  have readiness : postExit.activationReadiness = some tables.readiness := by
    rw [PostExitState.activationReadiness, hasTables, Option.map_some]
  rw [checkPostExit, readiness, Program.bind_of_ok orFail_some,
    Program.bind_of_ok (Program.look_run _ _)]
  rcases orFail_cases (tables.readiness.stability.verify machine.hardware.cpu.cr3).toOption
      "UNOS:P1J:FAIL:CR3_STABILITY" machine with fails | ⟨_, stable, ran⟩
  · exact .inl fails.bind
  rw [Program.bind_of_ok ran, Program.bind_of_ok writeLine_run]
  split
  · refine .inr (.inl ⟨machine.hardware.memory, ?_⟩)
    rw [postExitFailure_run, say_say]
    rfl
  · rename_i passed
    push Not at passed
    obtain ⟨_, address, entry, _⟩ := passed
    rw [toOption_eq_some, Cr3StabilityToken.verify, ite_eq_left_iff] at stable
    refine .inr (.inr ⟨?_, address, entry, ?_⟩)
    · by_contra changed
      exact absurd (stable changed) (by simp)
    · simp only [Program.bind_of_ok writeLine_run, writeLine_run, say_say]
      rfl

theorem fromFinalMap_eq_ok {bootInfo : BootInfo} {descriptors : List MemoryDescriptor}
    {metadata : FinalMapMetadata} {postExit : PostExitState}
    (ran : PostExitState.fromFinalMap transferred bootInfo descriptors metadata = .ok postExit) :
    postExit.transferred = transferred ∧
      transferred.bootInfoAddress = transferred.allocations.bootInfo.pageStart ∧
      ∃ validated, bootInfo.validate = .ok validated := by
  unfold PostExitState.fromFinalMap at ran
  split at ran
  · contradiction
  · rename_i shape
    split at ran
    · contradiction
    · split at ran
      · contradiction
      · rename_i addresses
        split at ran
        · contradiction
        · cases ran
          push Not at shape addresses
          exact ⟨rfl, addresses.1, exists_of_isOk (by simpa using shape.1)⟩

end

/-- What the kernel is started with, and what is known by then. -/
structure Finalized {φ : Type} (transferred : TransferredHandoff)
    (stack : TransferredBootstrapStack) (tables : TransferredActivationPreparedPageTables)
    (finalMap : CapturedMapMeta) (machine : Machine φ) (final : FinalDescriptors)
    (bootInfo : BootInfo) : Prop where
  buffers : checkBuffers transferred.allocations = some ()
  version : finalMap.descriptorVersion < 2 ^ 16
  built : buildBootInfo transferred.allocations.convertedMap.pageStart final.live
    finalMap.descriptorVersion transferred.framebuffer = .ok bootInfo
  address : transferred.bootInfoAddress = transferred.allocations.bootInfo.pageStart
  addressNonzero : transferred.bootInfoAddress ≠ 0
  entryNonzero : transferred.kernelEntry ≠ 0
  cr3 : tables.readiness.stability.cr3 = machine.hardware.cpu.cr3
  canary : loadWord (publishedMemory transferred machine.hardware.memory final bootInfo)
    stack.canaryAddress = stack.canaryValue

/-- What every record that left a `PageTableHandoffReady` has. -/
structure Delivered (transferred : TransferredHandoff) (stack : TransferredBootstrapStack)
    (tables : TransferredActivationPreparedPageTables) : Prop where
  hasStack : transferred.bootstrapStack = some stack
  hasTables : transferred.pageTables = some tables
  stackRange : validateBootstrapStack stack.bottom bootstrapStackPages =
    .ok ⟨stack.bottom, stack.top⟩
  canaryAddress : stack.canaryAddress = stack.bottom
  canaryValue : stack.canaryValue = bootstrapStackCanary

theorem delivered_cross {κ β σ φ ε : Type} (frameOps : FrameBackend φ ε)
    (ready : PageTableHandoffReady κ β σ φ) :
    Delivered (ready.crossExitBoundary frameOps).1 ready.stack.transfer.1
      (ready.pageTables.transfer frameOps).1 where
  hasStack := rfl
  hasTables := rfl
  stackRange := by
    have aligned := ready.stack.aligned
    have limit := ready.stack.limit
    simp only [validateBootstrapStack, guard_eq_ok, not_not, bind_eq_ok, okOr_eq_ok,
      checkedAdd_eq_some]
    refine ⟨trivial, aligned, _, ⟨?_, rfl⟩, Nat.not_lt.mpr limit, rfl⟩
    exact Nat.lt_of_le_of_lt limit (by decide)
  canaryAddress := rfl
  canaryValue := rfl

section

variable {φ : Type} {transferred : TransferredHandoff} {stack : TransferredBootstrapStack}
  {tables : TransferredActivationPreparedPageTables} {frames : List PhysicalFrame}
  {mapped base : List MemoryDescriptor} {items : List Reservation} {final : FinalDescriptors}

theorem Delivered.stackBounds (delivered : Delivered transferred stack tables) :
    stack.bottom % 4096 = 0 ∧ stack.top = stack.bottom + 65536 := by
  have range := delivered.stackRange
  obtain ⟨_, aligned, _⟩ := validateBootstrapStack_eq_ok range
  simp only [validateBootstrapStack, guard_eq_ok, bind_eq_ok, okOr_eq_ok, checkedAdd_eq_some,
    Except.ok.injEq] at range
  obtain ⟨_, _, stop, ⟨_, rfl⟩, _, same⟩ := range
  exact ⟨aligned, (congrArg StackRange.stop same).symm⟩

/-- The boot information stands at the start of a page. -/
theorem FinalMapOf.bootInfo_aligned
    (map : FinalMapOf transferred stack frames mapped base items final) :
    transferred.allocations.bootInfo.pageStart % 4096 = 0 :=
  (map.claims.wellFormed _ map.claims.bootInfo).spec.2.1

/-- The checks of the jump repeat what is already known. -/
theorem jumpToKernel_run (delivered : Delivered transferred stack tables) {entry bootInfo : Nat}
    (entryNonzero : entry ≠ 0) (bootInfoNonzero : bootInfo ≠ 0) (aligned : bootInfo % 4096 = 0)
    (machine : Machine φ) :
    jumpToKernel ⟨entry, bootInfo, stack.bottom, stack.top⟩ machine =
      (.ok ⟨entry, bootInfo, stack.bottom, stack.top⟩,
        machine.say ["UNOS:P1I:HANDOFF_READY"]) := by
  obtain ⟨bottom, top⟩ := delivered.stackBounds
  have accepted : validateHandoffArguments entry bootInfo stack.bottom stack.top = .ok () := by
    rw [validateHandoffArguments, if_neg (by omega), delivered.stackRange]
    exact if_neg (by simp only [ne_eq, not_true_eq_false, false_or]; omega)
  rw [jumpToKernel, accepted]
  rfl

theorem finalizePostExit_cases (delivered : Delivered transferred stack tables)
    (finalMap : CapturedMapMeta) (rawStart rawLength : Nat) (machine : Machine φ) :
    (∃ failure ∈ finalizeFailures,
      FailsWith machine (finalizeLines.take failure.1 ++ [failure.2])
        (finalizePostExit transferred finalMap rawStart rawLength machine)) ∨
    ∃ final bootInfo mapped base items,
      convertRawMap mapUefiMemoryKindPostExit (window machine.hardware.memory rawStart rawLength)
        finalMap = some mapped ∧
      FinalMapOf transferred stack tables.frames mapped base items final ∧
      Finalized transferred stack tables finalMap machine final bootInfo ∧
      finalizePostExit transferred finalMap rawStart rawLength machine =
        (.ok ⟨transferred.kernelEntry, transferred.bootInfoAddress, stack.bottom, stack.top⟩,
          (machine.withMemory (publishedMemory transferred machine.hardware.memory final
            bootInfo)).say finalizeLines) := by
  rcases convertFinalMap_cases transferred finalMap rawStart rawLength machine with
    fails | ⟨final, buffers, described, converted⟩
  · exact .inl ⟨(0, "UNOS:P1H:FAIL:FINAL_MAP"), by simp [finalizeFailures], fails.bind⟩
  obtain ⟨mapped, base, items, reported, map⟩ := finalDescriptors_spec delivered.hasStack delivered.hasTables
    Record.length_loadAll described
  obtain ⟨proof, verified⟩ := map.verifies
  have firstTwo : ["UNOS:P1H:FINAL_MAP_CONVERTED"] ++ ["UNOS:P1J:FINAL_MAP_RESERVED"] =
      finalizeLines.take 2 := rfl
  rw [finalizePostExit, Program.bind_of_ok converted,
    Program.bind_of_ok (confirmPageTables_run delivered.hasTables verified), say_say, firstTwo]
  rcases publishBootInfo_cases transferred finalMap final.live
      ((machine.withMemory (savedBuffers transferred.allocations machine.hardware.memory
        final)).say (finalizeLines.take 2)) with
    fails | ⟨bootInfo, metadata, postExit, version, built, accepted, published⟩
  · exact .inl ⟨(2, "UNOS:P1H:FAIL:BOOTINFO"), by simp [finalizeFailures], fails.bind.later⟩
  obtain ⟨same, address, _⟩ := fromFinalMap_eq_ok accepted
  have written : publishBootInfo transferred finalMap final.live
      ((machine.withMemory (savedBuffers transferred.allocations machine.hardware.memory
        final)).say (finalizeLines.take 2)) =
      (.ok postExit, (machine.withMemory (publishedMemory transferred machine.hardware.memory final
        bootInfo)).say (finalizeLines.take 2)) := published
  rw [Program.bind_of_ok written]
  rcases checkPostExit_cases (same ▸ delivered.hasTables)
      ((machine.withMemory (publishedMemory transferred machine.hardware.memory final
        bootInfo)).say (finalizeLines.take 2)) with
    fails | fails | ⟨cr3, addressNonzero, entryNonzero, checked⟩
  · exact .inl ⟨(2, "UNOS:P1J:FAIL:CR3_STABILITY"), by simp [finalizeFailures], fails.bind.later⟩
  · exact .inl ⟨(3, "UNOS:P1H:FAIL:BOOTINFO"), by simp [finalizeFailures], fails.bind.later⟩
  rw [same] at addressNonzero entryNonzero
  rw [Program.bind_of_ok checked, delivered.hasStack, Program.bind_of_ok orFail_some,
    Program.bind_of_ok readMemory_run, say_say]
  split
  · exact .inl ⟨(8, "UNOS:P1I:FAIL:STACK"), by simp [finalizeFailures],
      (FailsWith.later ⟨_, postExitFailure_run⟩ : FailsWith machine _ _)⟩
  · rename_i intact
    rw [same, jumpToKernel_run delivered entryNonzero addressNonzero
      (address ▸ map.bootInfo_aligned), say_say]
    exact .inr ⟨final, bootInfo, mapped, base, items, reported, map,
      ⟨buffers, version, built, address, addressNonzero, entryNonzero, cr3, not_not.mp intact⟩,
      rfl⟩

end

end UnnamedOS.Loader
