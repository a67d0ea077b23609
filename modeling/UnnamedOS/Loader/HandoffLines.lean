import UnnamedOS.Loader.Finalization
import UnnamedOS.Loader.LoadLines

namespace UnnamedOS.Loader

open UnnamedOS.Data UnnamedOS.PageTable UnnamedOS.MemoryMap UnnamedOS.BootProtocol

/-! # The lines of the way to the kernel -/

section

variable {φ α : Type} (firmware : Firmware φ)

/-! ## The stack and the page tables -/

/-- The owner is made of the machine it is handed; making it asks for nothing. -/
theorem ownStack_reports (allocation : PageAllocation) (forbidden : List StackRange) :
    Reports (ownStack firmware allocation forbidden) [] := by
  intro said machine same
  unfold ownStack
  split
  · exact ⟨by simp, fun reason after ran => by cases ran; trivial⟩
  · rename_i stack owned
    refine ⟨?_, by simp⟩
    intro value after ran
    cases ran
    have kept : stack.backend = machine := by
      unfold BootstrapStack.fromInitialized at owned
      split at owned
      · contradiction
      · split at owned
        · contradiction
        · cases owned
          rfl
    rw [kept, same, List.append_nil]

theorem allocateBootstrapStack_reports (loaded : LoadedKernel Unit) :
    Reports (allocateBootstrapStack firmware loaded) [] := by
  refine .silent (.ask _) fun _ => .silent (.orReturn _ _) fun _ => ?_
  refine .silent (.writeMemory _) fun _ => .silent (.writeMemory _) fun _ => ?_
  split
  · exact .panicked
  · exact ownStack_reports firmware _ _

/-- A table's frame is allocated, checked, recorded and zeroed, all without a line. -/
theorem serial_acquire {failureTest : Bool} {capacity slot : Nat}
    {owner next : IncompleteFrameOwner (Machine φ × Nat) capacity}
    (ran : owner.acquire (uefiPageTableBackend firmware failureTest) slot = .ok next) :
    next.backend.1.serial = owner.backend.1.serial := by
  have asked := @serial_asked φ firmware owner.backend.1 (.allocatePages .anyPages 1)
  have allocates : ((uefiPageTableBackend firmware failureTest).allocateFrame
      owner.backend).2.1.serial = owner.backend.1.serial := by
    unfold uefiPageTableBackend
    simp only
    split
    · rfl
    · split
      · rename_i answered
        rw [answered] at asked
        exact asked
      · rename_i answered
        rw [answered] at asked
        exact asked
  have zeroes (state : Machine φ × Nat) (frame : PhysicalFrame) :
      ((uefiPageTableBackend firmware failureTest).zeroFrame state frame).2.1.serial =
        state.1.serial := by
    unfold uefiPageTableBackend
    simp only
    split
    · rfl
    · rfl
  unfold IncompleteFrameOwner.acquire at ran
  split at ran
  · contradiction
  · rename_i answered
    rw [answered] at allocates
    simp only at ran
    split at ran
    · contradiction
    · split at ran
      · obtain ⟨_, _, impossible⟩ := bind_eq_ok.mp ran
        contradiction
      · obtain ⟨pushed, taken, ran⟩ := bind_eq_ok.mp ran
        have same : pushed.backend.1.serial = owner.backend.1.serial := by
          unfold IncompleteFrameOwner.push at taken
          split at taken
          · cases taken
            exact allocates
          · contradiction
        split at ran
        · contradiction
        · rename_i zeroed
          cases ran
          have kept := zeroes pushed.backend
          rw [← same, ← kept, zeroed]

theorem serial_allocateFrames {failureTest : Bool} {capacity : Nat} {backend : Machine φ × Nat}
    {plan : RuntimePageTablePlan} {owner : PageTableFrameOwner (Machine φ × Nat) capacity}
    (ran : PageTableFrameOwner.allocate (uefiPageTableBackend firmware failureTest) plan backend =
      .ok owner) : owner.backend.1.serial = backend.1.serial := by
  simp only [PageTableFrameOwner.allocate, guard_eq_ok, bind_eq_ok, mapError_eq_ok,
    Except.ok.injEq] at ran
  obtain ⟨_, incomplete, acquired, frames, _, rfl⟩ := ran
  exact foldlM_range_invariant
    (fun _ (current : IncompleteFrameOwner (Machine φ × Nat) capacity) =>
      current.backend.1.serial = backend.1.serial) rfl
    (fun _ _ _ _ kept stepped => (serial_acquire firmware stepped).trans kept) acquired

theorem allocateTables_reports (features : TestFeatures) (planned : PlannedPageTables) :
    Reports (allocateTables firmware features planned) [] := by
  intro said machine same
  unfold allocateTables
  split
  · rename_i tables allocated
    refine ⟨?_, by simp⟩
    intro value after ran
    cases ran
    obtain ⟨owner, owned, made⟩ := bind_eq_ok.mp allocated
    cases made
    exact (serial_allocateFrames firmware owned).trans (same.trans (List.append_nil said).symm)
  · exact Reports.panicked said machine same
  · exact ⟨by simp, fun reason after ran => by cases ran; trivial⟩

/-- Three loops write the entries, each through the one access to memory. -/
theorem serial_materialize {tables : AllocatedPageTables Nat} {machine after : Machine φ}
    {materialized : MaterializedPageTables Nat}
    (ran : tables.materialize uefiPageTableMemory idleFrames machine = .ok (materialized, after)) :
    after.serial = machine.serial := by
  have writes (state : Machine φ) (frame : PhysicalFrame) (index : TableIndex) (value : Nat) :
      (uefiPageTableMemory.writeEntry state frame index value).2.serial = state.serial := by
    unfold uefiPageTableMemory
    simp only
    split
    · rfl
    · split
      · rfl
      · rfl
  -- An entry, a table, the hierarchy.
  have entry {slot : Nat} {frame : PhysicalFrame} {state next : Machine φ} {index : TableIndex}
      (written : writeTableEntry uefiPageTableMemory tables.plan tables.owner.assignments slot frame
        state index = .ok next) : next.serial = state.serial := by
    unfold writeTableEntry at written
    split at written
    · contradiction
    · rename_i value _
      have kept := writes state frame index value
      split at written
      · contradiction
      · rename_i stored
        cases written
        rw [stored] at kept
        exact kept
  have table {state next : Machine φ} {planned : PlannedTable}
      (written : writeTable uefiPageTableMemory tables.plan tables.owner.assignments state planned =
        .ok next) : next.serial = state.serial := by
    unfold writeTable at written
    split at written
    · contradiction
    · exact foldlM_invariant (fun _ current => current.serial = state.serial) rfl
        (fun _ _ _ _ _ _ kept stepped => (entry stepped).trans kept) written
  unfold AllocatedPageTables.materialize at ran
  split at ran
  · contradiction
  · rename_i written
    cases ran
    exact foldlM_invariant (fun _ current => current.serial = machine.serial) rfl
      (fun _ _ _ _ _ _ kept stepped => (table stepped).trans kept) written

theorem materializeTables_reports (features : TestFeatures) (tables : AllocatedPageTables Nat) :
    Reports (materializeTables firmware features tables) [] := by
  intro said machine same
  unfold materializeTables
  split
  · rename_i written
    refine ⟨?_, by simp⟩
    intro value after ran
    cases ran
    rw [serial_materialize written, same, List.append_nil]
  · exact ⟨by simp, fun reason after ran => by cases ran; trivial⟩

theorem verifyTables_reports (features : TestFeatures) (tables : MaterializedPageTables Nat) :
    Reports (verifyTables firmware features tables) [] := by
  intro said machine same
  unfold verifyTables
  split
  · refine ⟨?_, by simp⟩
    intro value after ran
    cases ran
    rw [same, List.append_nil]
  · exact Reports.panicked said machine same
  · exact ⟨by simp, fun reason after ran => by cases ran; trivial⟩

/-- The lines of `construct_inactive`, one after each stage. -/
def tableLines : List String :=
  ["UNOS:P1J:PLAN_ACCEPTED", "UNOS:P1J:FRAMES_ALLOCATED", "UNOS:P1J:HIERARCHY_MATERIALIZED",
    "UNOS:P1J:HIERARCHY_VERIFIED"]

theorem constructInactive_reports (features : TestFeatures) (loaded : LoadedKernel Unit)
    (stack : BootstrapStack Unit) :
    Reports (constructInactive firmware features loaded stack) tableLines := by
  refine .silent (.orReturn _ _) fun planned => .line _ fun _ => ?_
  refine .silent (allocateTables_reports firmware features planned) fun allocated =>
    .line _ fun _ => ?_
  refine .silent (materializeTables_reports firmware features allocated) fun materialized =>
    .line _ fun _ => ?_
  exact .silent (verifyTables_reports firmware features materialized) fun _ => .line _ fun _ =>
    .pure _

/-! ## Boot data -/

/-- None of the attempts writes a line, whatever the sizes. -/
theorem mute_captureMemoryMap (start length : Nat) :
    Mute (captureMemoryMap firmware start length) := by
  have every (attempts : List Nat) : Mute (captureFrom firmware start length attempts) := by
    induction attempts with
    | nil => exact .stop _
    | cons attempt later inner =>
        refine .bind (.look _) fun systemTable => ?_
        split
        · exact .stop _
        · refine .bind (Mute.ask _) fun reply => ?_
          split
          · cases reply.accept length with
            | none => exact .stop _
            | some captured => exact .pure _
          · split
            · exact .stop _
            · exact inner
  exact every _

/-- Each buffer is requested on its own, and the earlier ones are dropped if it is
refused. -/
theorem pendingAllocate_reports : Reports (PendingBuffers.allocate firmware) [] := by
  have each (sizes : List Nat) (pending : PendingBuffers) :
      Reports (sizes.foldlM (fun pending pages => unwinding (pending.drop firmware)
        (PendingBuffers.allocateNext firmware pending pages)) pending) [] := by
    induction sizes generalizing pending with
    | nil => exact .pure pending
    | cons size sizes inner =>
        rw [List.foldlM_cons]
        refine .silent (.unwinding ?_) inner
        exact .silent (.ask _) fun _ => .silent (.orReturn _ _) fun _ =>
          .silent (.writeMemory _) fun _ => .pure _
  exact each _ _

theorem captureProvisional_reports (allocations : BootDataAllocations) :
    Reports (captureProvisional firmware allocations) ["UNOS:P1G:MAP_CAPTURED"] :=
  .silent (.orReturn _ _) fun _ => .silent (mute_captureMemoryMap firmware _ _).attempt fun _ =>
    .silent (.orReturn _ _) fun _ => .line _ fun _ => .pure _

theorem convertProvisional_reports (allocations : BootDataAllocations)
    (reservations : ReservationList) (captured : CapturedMapMeta) :
    Reports (convertProvisional allocations reservations captured : Program (Machine φ) BootStop _)
      ["UNOS:P1G:MAP_CONVERTED"] := by
  refine .silent (.orReturn _ _) fun _ => .silent .readMemory fun _ => ?_
  split
  · exact .returned _
  · exact .silent (.writeMemory _) fun _ => .silent (.writeMemory _) fun _ => .line _ fun _ =>
      .pure _

theorem proveReservations_reports (handoffTest : Bool) (frames : List PhysicalFrame)
    (descriptors : List MemoryDescriptor) :
    Reports (proveReservations handoffTest frames descriptors : Program (Machine φ) BootStop _)
      ["UNOS:P1G:RESERVATIONS_VALID"] := by
  refine .silent (.orReturn _ _) fun _ => ?_
  simp only []
  split
  · exact .silent (.pure _) fun _ => .line _ fun _ => .pure _
  · exact .silent (.orReturn _ _) fun _ => .silent (.pure _) fun _ => .line _ fun _ => .pure _

theorem writeBootInfo_reports (allocations : BootDataAllocations) (captured : CapturedMapMeta)
    (descriptors : List MemoryDescriptor) (framebuffer : FramebufferInfo) :
    Reports (writeBootInfo allocations captured descriptors framebuffer :
      Program (Machine φ) BootStop _) ["UNOS:P1G:BOOTINFO_VALID"] :=
  .silent (.orReturn _ _) fun _ => .silent (.orReturn _ _) fun _ => .silent (.orReturn _ _) fun _ =>
    .silent (.writeMemory _) fun _ => .line _ fun _ => .pure _

def bootDataLines : List String :=
  ["UNOS:P1G:GOP_READY", "UNOS:P1G:BUFFERS_READY", "UNOS:P1G:MAP_CAPTURED",
    "UNOS:P1G:MAP_CONVERTED", "UNOS:P1G:RESERVATIONS_VALID", "UNOS:P1G:BOOTINFO_VALID",
    "UNOS:P1G:OWNERSHIP_READY"]

/-- The first six lines are written while the buffers are still pending. -/
theorem prepare_reports {κ : Type} (handoffTest : Bool) (loaded : LoadedKernel κ)
    (stack : Option PageAllocation) (frames : List PhysicalFrame) :
    Reports (prepare firmware handoffTest loaded stack frames) bootDataLines := by
  refine .silent (.returning (pendingAllocate_reports firmware)) fun pending => ?_
  have staged : Reports (stageBootInfo firmware handoffTest loaded stack frames pending)
      (bootDataLines.take 6) := by
    refine .silent (.ask _) fun _ => .silent (.orReturn _ _) fun _ => ?_
    refine .silent (.orReturn _ _) fun _ => .line _ fun _ => .silent (.orReturn _ _) fun _ => ?_
    refine .silent (.orReturn _ _) fun _ => .line _ fun _ => ?_
    refine .bind (captureProvisional_reports firmware _) fun _ => ?_
    refine .bind (convertProvisional_reports _ _ _) fun _ => ?_
    refine .bind (proveReservations_reports _ _ _) fun _ => ?_
    exact .bind (writeBootInfo_reports _ _ _ _) fun _ => .pure _
  refine .bind (.unwinding staged) fun _ => .silent .readMemory fun _ => ?_
  refine .silent (.orReturn _ _) fun prepared => ?_
  refine .silent (.unwinding ?_) fun _ => .line _ fun _ => .pure _
  unfold checkPrepared
  split
  · exact .returned _
  · exact .pure _

/-! ## The processor -/

variable (features : TestFeatures)

/-- Both handlers of a refused processor return, one of them after three frees. -/
theorem refuseCpu_givesUp (loaded : LoadedKernel Unit) (stack : BootstrapStack Unit)
    (tables : VerifiedInactivePageTables Nat) :
    GivesUp (refuseCpu firmware features loaded stack tables : Program (Machine φ) BootStop α) := by
  unfold refuseCpu
  split
  · refine .after (.call _) fun released => .after (.call _) fun unstacked => ?_
    refine .after (.call _) fun unloaded => ?_
    simp only []
    split
    · exact .after (.change _) fun _ => .after (.change _) fun _ => .returned _
    · exact .after (.change _) fun _ => .returned _
  · exact Program.Triple.onStop (GivesUp.returned _) fun reason _ alarmed => by
      cases reason with
      | returned error => exact trivial
      | failed => exact alarmed

def cpuLines : List String :=
  ["UNOS:P1J:CPU_CAPABILITIES_VALIDATED", "UNOS:P1J:ACTIVATION_REQUIREMENTS_CLASSIFIED",
    "UNOS:P1J:HIERARCHY_CPU_COMPATIBLE"]

theorem checkCr3_reports (readiness : ActivationReadiness) :
    Reports (checkCr3 readiness : Program (Machine φ) BootStop Unit) [] :=
  .silent (.look _) fun _ => .orReturn _ _

theorem classifyReadiness_reports (validated : ValidatedCpuSnapshot) (loaded : LoadedKernel Unit)
    (stack : BootstrapStack Unit) (tables : VerifiedInactivePageTables Nat) :
    Reports (classifyReadiness validated loaded stack tables : Program (Machine φ) BootStop _)
      cpuLines := by
  unfold classifyReadiness BootStop
  refine .line _ fun _ => .silent (.orReturn _ _) fun _ => .silent (.orReturn _ _) fun _ => ?_
  exact .line _ fun _ => .silent (checkCr3_reports _) fun _ => .line _ fun _ => .pure _

theorem activateTables_reports (validated : ValidatedCpuSnapshot) (loaded : LoadedKernel Unit)
    (stack : BootstrapStack Unit) (tables : VerifiedInactivePageTables Nat) :
    Reports (activateTables validated loaded stack tables : Program (Machine φ) BootStop _)
      cpuLines := by
  unfold activateTables BootStop
  exact .bind (classifyReadiness_reports validated loaded stack tables) fun _ => .orReturn _ _

theorem confirmTables_reports (activation : ActivationPreparedPageTables Nat)
    (proof : Option PageTableReservationProof) :
    Reports (confirmTables activation proof : Program (Machine φ) BootStop _) [] :=
  .silent (.orReturn _ _) fun _ => .silent (.orReturn _ _) fun _ =>
    .silent (checkCr3_reports _) fun _ => .pure _

/-- The second look at CR3, with the map in hand, adds no line. -/
theorem prepareResources_reports (validated : ValidatedCpuSnapshot) (loaded : LoadedKernel Unit)
    (stack : BootstrapStack Unit) (tables : VerifiedInactivePageTables Nat) :
    Reports (prepareResources firmware features validated loaded stack tables)
      (cpuLines ++ bootDataLines) := by
  unfold prepareResources BootStop
  refine .bind (.unwinding (activateTables_reports validated loaded stack tables)) fun _ => ?_
  refine .bind (.unwinding (prepare_reports firmware _ _ _ _)) fun _ => ?_
  exact .silent (.unwinding (confirmTables_reports _ _)) fun _ => .pure _

theorem collectOwners_reports (loaded : LoadedKernel Unit) (prepared : PreparedBootInfo Unit)
    (stack : BootstrapStack Unit) (tables : ActivationFinalMapReservedPageTables Nat) :
    Reports (collectOwners firmware features loaded prepared stack tables) [] :=
  .silent (.unwinding (.orReturn _ _)) fun _ => .silent (.unwinding (.orReturn _ _)) fun _ =>
    .unwinding (.orReturn _ _)

/-! ## Leaving -/

theorem attemptExit_reports (policy : ExitRetryPolicy) (finalMap : CapturedMapMeta) :
    Reports (attemptExit firmware policy finalMap) [] := by
  unfold attemptExit
  split
  · exact (alarmed_failWith (by decide)).reports
  · exact .silent (.ask _) fun _ => .pure _

/-- A retried exit writes the same line as one that succeeds at once. -/
theorem exitWithRetry_reports (rawStart rawLength : Nat) (finalMap : CapturedMapMeta) :
    Reports (exitWithRetry firmware rawStart rawLength finalMap)
      ["UNOS:P1H:BOOT_SERVICES_EXITED"] := by
  refine .silent (attemptExit_reports firmware _ _) fun first => ?_
  have retried : Reports (lastExit firmware rawStart rawLength first finalMap) [] := by
    unfold lastExit
    split
    · refine .silent (mute_captureMemoryMap firmware _ _).attempt fun captured => ?_
      cases captured with
      | error _ => exact (alarmed_failWith (by decide)).reports
      | ok retryMap => exact .silent (attemptExit_reports firmware _ _) fun _ => .pure _
    · exact .pure _
  refine .silent retried fun last => ?_
  split
  · exact (alarmed_failWith (by decide)).reports
  · exact .line _ fun _ => .pure _

/-- After the exit every failure is an alarm: there is nobody to return to. -/
theorem finalizePostExit_reports (transferred : TransferredHandoff) (finalMap : CapturedMapMeta)
    (rawStart rawLength : Nat) :
    Reports (finalizePostExit transferred finalMap rawStart rawLength :
      Program (Machine φ) BootStop _) finalizeLines := by
  have converted : Reports (convertFinalMap transferred finalMap rawStart rawLength :
      Program (Machine φ) BootStop _) ["UNOS:P1H:FINAL_MAP_CONVERTED"] :=
    .silent (.orFail (by decide) _) fun _ => .silent .readMemory fun _ =>
      .silent (.orFail (by decide) _) fun _ => .silent (.writeMemory _) fun _ =>
      .silent (.writeMemory _) fun _ => .line _ fun _ => .pure _
  refine .bind converted fun final => ?_
  have confirmed : Reports (confirmPageTables transferred final.live :
      Program (Machine φ) BootStop _) ["UNOS:P1J:FINAL_MAP_RESERVED"] :=
    .silent (.orFail (by decide) _) fun _ => .silent (.orFail (by decide) _) fun _ =>
      .line _ fun _ => .pure _
  refine .bind confirmed fun pageTables => ?_
  have published : Reports (publishBootInfo transferred finalMap final.live :
      Program (Machine φ) BootStop _) [] :=
    .silent (.orFail (by decide) _) fun _ => .silent (.orFail (by decide) _) fun _ =>
      .silent (.writeMemory _) fun _ => .orFail (by decide) _
  refine .silent published fun postExit => ?_
  have checked : Reports (checkPostExit postExit pageTables.rootFrame pageTables.frameCount :
      Program (Machine φ) BootStop _) ["UNOS:P1J:CR3_UNCHANGED", "UNOS:P1H:BOOTINFO_FINAL",
        "UNOS:P1J:ACTIVATION_PREPARED_INACTIVE", "UNOS:P1H:OWNERSHIP_TRANSFERRED",
        "UNOS:P1J:OWNERSHIP_TRANSFERRED", "UNOS:P1H:PASS"] := by
    refine .silent (.orFail (by decide) _) fun _ => .silent (.look _) fun _ => ?_
    refine .silent (.orFail (by decide) _) fun _ => .line _ fun _ => ?_
    split
    · exact (alarmed_failWith (by decide)).reports
    · exact .line _ fun _ => .line _ fun _ => .line _ fun _ => .line _ fun _ => .writeLine _
  refine .bind checked fun _ => .silent (.orFail (by decide) _) fun stack => ?_
  refine .silent .readMemory fun memory => ?_
  split
  · exact (alarmed_failWith (by decide)).reports
  · exact .silent (.orFail (by decide) _) fun _ => .line _ fun _ => .pure _

def exitLines : List String := ["UNOS:P1H:EXIT_READY", "UNOS:P1H:BOOT_SERVICES_EXITED"]

/-- Up to `EXIT_READY` a failure is returned; past it, it is an alarm. -/
theorem leaveBootServices_reports (ready : PageTableHandoffReady Unit Unit Unit Nat) :
    Reports (leaveBootServices firmware idleFrames ready) (exitLines ++ finalizeLines) := by
  refine .silent (.ask _) fun timer => ?_
  split
  · exact .returned _
  · simp only []
    split
    · exact .returned _
    · refine .silent (.look _) fun systemTable => ?_
      split
      · exact .returned _
      · refine .silent (mute_captureMemoryMap firmware _ _).attempt fun captured => ?_
        split
        · exact .returned _
        · refine .line _ fun _ => .bind (exitWithRetry_reports firmware _ _ _) fun finalMap => ?_
          have finalized := @finalizePostExit_reports φ (ready.crossExitBoundary idleFrames).1
            finalMap
          exact .bind (finalized _ _) fun _ => .pure _

/-! ## The whole loader -/

def handoffLines : List String :=
  "UNOS:P1J:CPU_STATE_CAPTURED" ::
    (tableLines ++ ((cpuLines ++ bootDataLines) ++ (exitLines ++ finalizeLines)))

theorem prepareAndExit_reports (loaded : LoadedKernel Unit) :
    Reports (prepareAndExit firmware features loaded) handoffLines := by
  unfold prepareAndExit BootStop
  refine .silent (.unwinding (allocateBootstrapStack_reports firmware loaded)) fun stack => ?_
  refine .silent (.look _) fun cpu => .line _ fun _ => ?_
  refine .bind (.unwinding (.returning (constructInactive_reports firmware features loaded stack)))
    fun tables => ?_
  cases (policyCpu features cpu).validate with
  | error _ => exact (refuseCpu_givesUp firmware features loaded stack tables).reports
  | ok validated =>
      refine .bind (.unwinding (prepareResources_reports firmware features validated loaded stack
        tables)) fun resources => ?_
      refine .silent (collectOwners_reports firmware features loaded _ stack _) fun ready => ?_
      exact .unwinding (leaveBootServices_reports firmware ready)

def segmentLines : List String :=
  ["UNOS:P1E:PLAN_VALID"] ++ ((targetLines ++ ["UNOS:P1E:LOAD_VERIFIED"]) ++
    (["UNOS:P1F:OWNERSHIP_READY", "UNOS:P1F:METADATA_VALID"] ++
      (["UNOS:P1F:SOURCE_RELEASED"] ++ (["UNOS:P1F:OWNERSHIP_PROVEN"] ++ handoffLines))))

theorem loadVerifyAndRelease_reports (kernel : ValidatedKernel) :
    Reports (loadVerifyAndRelease firmware features kernel) segmentLines := by
  refine .bind (planSegments_reports firmware kernel) fun plan => ?_
  refine .bind (loadSegments_reports firmware kernel plan) fun loaded => ?_
  refine .bind (.unwinding (checkLoaded_reports loaded plan)) fun _ => ?_
  refine .bind (releaseSource_reports firmware kernel loaded) fun _ => ?_
  refine .bind (.unwinding (proveOwnership_reports firmware loaded)) fun _ => ?_
  exact .returning (prepareAndExit_reports firmware features loaded)

/-- What the loader writes on its way to the kernel. -/
def loaderLines : List String :=
  "UNOS:P1C:ENTRY" :: "UNOS:P1C:UEFI_OK" :: "UNOS:P1C:PASS" ::
    (fileLines ++ "UNOS:P1D:PASS" :: segmentLines)

theorem loadKernel_reports : Reports (loadKernel firmware features) loaderLines := by
  refine .line _ fun _ => .line _ fun _ => .line _ fun _ => ?_
  refine .bind (.returning (loadAndValidate_reports firmware)) fun kernel => .line _ fun _ => ?_
  exact .returning (loadVerifyAndRelease_reports firmware features kernel)

/-- An error that is returned is the last line. -/
theorem main_reports : Reports (main firmware features) loaderLines := by
  intro said
  refine (loadKernel_reports firmware features said).attempt_bind (fun started => ?_)
    fun reason => ?_
  · exact .pure fun _ same => same
  · cases reason with
    | failed => exact .stop fun _ alarmed => alarmed
    | returned error => exact (alarmed_failWith error.marker_mem).triple

end

end UnnamedOS.Loader
