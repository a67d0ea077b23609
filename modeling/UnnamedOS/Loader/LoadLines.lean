import UnnamedOS.Loader.SerialTrace

namespace UnnamedOS.Loader

open UnnamedOS.Data

/-! # The lines of the kernel's way into memory -/

section

variable {φ ε δ α : Type} (firmware : Firmware φ)

/-! ## The file -/

theorem mute_attemptRequest (request : Request) (result : request.Reply → Except ε α) :
    Mute (attemptRequest firmware request result) := by
  refine .bind (Mute.ask request) fun reply => ?_
  cases result reply with
  | error error => exact .stop error
  | ok value => exact .pure value

theorem mute_measureAndRewind : Mute (measureAndRewind (uefiFile firmware)) := by
  refine .bind (.mapStop (mute_attemptRequest firmware _ _)) fun _ => ?_
  refine .bind (.mapStop (mute_attemptRequest firmware _ _)) fun length => ?_
  refine .bind (.mapStop (mute_attemptRequest firmware _ _)) fun _ => ?_
  cases checkedKernelSize length with
  | error error => exact .stop _
  | ok size => exact .pure size

theorem openKernel_reports : Reports (openKernel firmware) ["UNOS:P1D:KERNEL_OPEN"] := by
  refine .silent (.ask _) fun _ => .silent (.orReturn _ _) fun _ => ?_
  refine .silent (.ask _) fun _ => .silent (.orReturn _ _) fun _ => ?_
  refine .silent (.ask _) fun _ => .silent (.orReturn _ _) fun _ => ?_
  refine .silent (.ask _) fun _ => .silent (.orReturn _ _) fun type => ?_
  split
  · exact .returned _
  · exact .writeLine _

theorem ScratchPages.allocate_reports (byteLen : Nat) :
    Reports (ScratchPages.allocate firmware byteLen) [] := by
  unfold ScratchPages.allocate
  split
  · exact .returned _
  · exact .silent (.ask _) fun _ => .silent (.orReturn _ _) fun _ =>
      .silent (.writeMemory _) fun _ => .pure _

/-- The reads ask the firmware through the reader, so the serial port is what each
read keeps. -/
theorem readPages_reports (scratch : ScratchPages) :
    Reports (readPages firmware scratch : Program (Machine φ) (Stop ε) _) [] := by
  refine .call fun machine => ?_
  have keeps : ∀ state slice, state.serial = machine.serial →
      ((uefiReader firmware).read state slice).2.2.serial = machine.serial :=
    fun state slice same => (serial_asked _).trans same
  exact readExactAndCheckEof_keeps keeps scratch.byteLen (scratch.bytes machine).data rfl

theorem readAndValidate_reports (scratch : ScratchPages) :
    Reports (readAndValidate firmware scratch)
      ["UNOS:P1D:KERNEL_READ", "UNOS:P1D:KERNEL_VALID"] := by
  refine .silent (readPages_reports firmware scratch) fun outcome => ?_
  have checked : Reports (checkRead outcome : Program (Machine φ) _ Unit) [] := by
    unfold checkRead
    split
    · exact .pure _
    · exact .returned _
    · exact .returned _
    · exact .returned _
    · exact .panicked
    · exact .panicked
  refine .silent checked fun _ => .line _ fun _ => .silent (.look _) fun bytes => ?_
  split
  · exact .panicked
  · exact .returned _
  · exact .line _ fun _ => .pure _

theorem serial_freePages {refused range : ε} {machine : Machine φ} {start pages : Nat} :
    (freePages firmware refused range machine start pages).2.serial = machine.serial := by
  unfold freePages
  split
  · rfl
  · exact serial_asked _

theorem ScratchPages.release_reports (scratch : ScratchPages) :
    Reports (scratch.release firmware : Program (Machine φ) (Stop ε) _) [] := by
  unfold ScratchPages.release
  split
  · exact .pure _
  · exact .call fun _ => serial_freePages firmware

theorem ScratchPages.release_tame (scratch : ScratchPages) :
    Tame (scratch.release firmware : Program (Machine φ) (Stop ε) _) := by
  unfold ScratchPages.release
  split
  · exact .pure _
  · exact .call _

/-- What the loader writes before it has a kernel. -/
def fileLines : List String :=
  ["UNOS:P1D:KERNEL_OPEN", "UNOS:P1D:KERNEL_READ", "UNOS:P1D:KERNEL_VALID"]

/-- Whatever fails after the allocation is attempted, and the pages are freed
before the error is returned. -/
theorem loadAndValidate_reports : Reports (loadAndValidate firmware) fileLines := by
  refine .bind (openKernel_reports firmware) fun _ => ?_
  refine .silent (mute_measureAndRewind firmware).returned fun byteLen => ?_
  refine .silent (ScratchPages.allocate_reports firmware byteLen) fun pages => ?_
  intro said
  -- Past this point an error is held back until the pages are freed.
  refine (readAndValidate_reports firmware pages said).attempt_bind (fun metadata => ?_)
    fun reason => ?_
  · exact .pure fun _ same => same
  · cases reason with
    | failed => exact .stop fun _ alarmed => alarmed
    | returned error =>
        refine (GivesUp.after (pages.release_tame firmware) fun released => ?_).triple
        cases released with
        | error _ => exact .returned _
        | ok _ => exact .returned _

/-! ## The segments -/

/-- The handlers of the failures return an error, whatever the firmware answers
to the frees. -/
theorem releaseSourceAfterError_givesUp (kernel : ValidatedKernel) (primary : SegmentLoadError) :
    GivesUp (releaseSourceAfterError firmware kernel primary : Program (Machine φ) _ α) :=
  .after (kernel.scratch.release_tame firmware) fun _ => .returned _

theorem releaseBothAfterError_givesUp (kernel : ValidatedKernel) (owner : TargetOwnership Unit)
    (primary : SegmentLoadError) :
    GivesUp (releaseBothAfterError firmware kernel owner primary : Program (Machine φ) _ α) :=
  .after (.call _) fun _ => .after (kernel.scratch.release_tame firmware) fun _ =>
    .after (.change _) fun _ => .returned _

theorem planSegments_reports (kernel : ValidatedKernel) :
    Reports (planSegments firmware kernel) ["UNOS:P1E:PLAN_VALID"] := by
  refine .silent (.look _) fun bytes => ?_
  split
  · exact .panicked
  · exact (releaseSourceAfterError_givesUp firmware kernel _).reports
  · split
    · exact (releaseSourceAfterError_givesUp firmware kernel _).reports
    · exact (releaseSourceAfterError_givesUp firmware kernel _).reports
    · exact .line _ fun _ => .pure _

/-- Each target is one request; a run that returned has been refused none. -/
theorem serial_allocateTargets {machine : Machine φ} {done : List (OwnedAllocation × Bool)}
    {items : List OwnedAllocation} {owner : TargetOwnership (Machine φ)}
    (ran : allocateTargets (uefiTargetPages firmware) machine done items = .ok owner) :
    owner.backend.serial = machine.serial := by
  induction items generalizing machine done with
  | nil =>
      cases ran
      rfl
  | cons item rest inner =>
      have kept : ((uefiTargetPages firmware).allocateAt machine item.pageStart
          item.pageCount).1 = .ok () →
          ((uefiTargetPages firmware).allocateAt machine item.pageStart
            item.pageCount).2.serial = machine.serial := by
        have asked := @serial_asked φ firmware machine
          (.allocatePages (.address item.pageStart) item.pageCount)
        unfold uefiTargetPages
        simp only
        split
        · simp
        · rename_i answered
          rw [answered] at asked
          split
          · split
            · simp
            · simp
          · exact fun _ => asked
      unfold allocateTargets at ran
      split at ran
      · contradiction
      · rename_i answered
        rw [answered] at kept
        exact (inner ran).trans (kept rfl)

theorem serial_workTargets {kind : LoadWorkKind}
    {work : Machine φ → LoadItem → Except BackendError Unit × Machine φ}
    (silent : ∀ machine item, (work machine item).2.serial = machine.serial) {items : List LoadItem}
    {owner ended : TargetOwnership (Machine φ)}
    (ran : workTargets kind work owner items = .ok ended) :
    ended.backend.serial = owner.backend.serial := by
  induction items generalizing owner with
  | nil =>
      cases ran
      rfl
  | cons item rest inner =>
      have kept := silent owner.backend item
      unfold workTargets at ran
      split at ran
      · contradiction
      · rename_i answered
        rw [answered] at kept
        exact (inner ran).trans kept

/-- The lines of the stages of the copies. -/
def targetLines : List String :=
  ["UNOS:P1E:SEGMENTS_ALLOCATED", "UNOS:P1E:SEGMENTS_ZEROED", "UNOS:P1E:SEGMENTS_COPIED"]

/-- A loop of a stage keeps its machine in the owner it returns, so what it says is
read there. -/
theorem onMachine_lines {said : List String}
    {loop : Machine φ → Except (LoadWorkFailure (Machine φ) δ) (TargetOwnership (Machine φ))}
    (silent : ∀ machine owner, loop machine = .ok owner → owner.backend.serial = machine.serial) :
    Program.Triple (fun machine => machine.serial = said) (onMachine loop)
      (fun _ machine => machine.serial = said) fun _ _ => True := by
  intro machine same
  refine ⟨?_, fun _ _ _ => trivial⟩
  intro value after ran
  unfold onMachine at ran
  split at ran
  · cases ran
  · rename_i owner looped
    cases ran
    exact (silent machine owner looped).trans same

theorem writeLine_lines {said : List String} (text : String) {unused : ε → Machine φ → Prop} :
    Program.Triple (fun machine => machine.serial = said)
      (writeLine text : Program (Machine φ) ε Unit)
      (fun _ machine => machine.serial = said ++ [text]) unused := by
  refine .change fun machine same => ?_
  exact (serial_say [text]).trans (congrArg (· ++ [text]) same)

/-- The verification after the last line is silent. -/
theorem loadTargets_lines (kernel : ValidatedKernel) (plan : LoadPlan) (said : List String) :
    Program.Triple (fun machine => machine.serial = said) (loadTargets firmware kernel plan)
      (fun _ machine => machine.serial = said ++ targetLines) fun _ _ => True := by
  have copies (source : Machine φ → List UInt8) (machine : Machine φ) (item : LoadItem) :
      ((uefiTargetBackend firmware source).copy machine item []).2.serial = machine.serial := by
    unfold uefiTargetBackend
    simp only
    split
    · rfl
    · rfl
  refine .bind (onMachine_lines fun _ _ ran => serial_allocateTargets firmware ran) fun _ => ?_
  refine .bind (writeLine_lines _) fun _ => ?_
  refine .bind (onMachine_lines fun _ _ ran => serial_workTargets (fun _ _ => rfl) ran) fun _ => ?_
  refine .bind (writeLine_lines _) fun _ => ?_
  refine .bind (onMachine_lines fun _ _ ran => serial_workTargets (copies _) ran) fun _ => ?_
  refine .bind (writeLine_lines _) fun _ => ?_
  refine (onMachine_lines fun _ _ ran => serial_workTargets (fun _ _ => rfl) ran).imp
    (fun _ same => same) (fun _ _ same => ?_) fun _ _ => id
  rw [same]
  simp [targetLines]

theorem sourceUnchanged_reports (kernel : ValidatedKernel) (plan : LoadPlan) (before : Nat) :
    Reports (sourceUnchanged kernel plan before : Program (Machine φ) _ Bool) [] := by
  refine .silent (.look _) fun bytes => ?_
  split
  · exact .pure _
  · split
    · exact .panicked
    · exact .pure _
    · exact .pure _

theorem loadSegments_reports (kernel : ValidatedKernel) (plan : LoadPlan) :
    Reports (loadSegments firmware kernel plan) (targetLines ++ ["UNOS:P1E:LOAD_VERIFIED"]) := by
  refine .silent (.look _) fun before => ?_
  intro said
  -- A failed stage has its own handler; the source is compared only after them all.
  refine (loadTargets_lines firmware kernel plan said).attempt_bind (fun owner => ?_) fun failure =>
    (releaseBothAfterError_givesUp firmware kernel _ _).triple
  have verified : Reports (do
      let unchanged ← sourceUnchanged kernel plan before
      if unchanged = true then do
        writeLine "UNOS:P1E:LOAD_VERIFIED"
        pure (LoadedKernel.fromVerified plan owner)
      else releaseBothAfterError firmware kernel owner .verify) ["UNOS:P1E:LOAD_VERIFIED"] := by
    refine .silent (sourceUnchanged_reports kernel plan before) fun unchanged => ?_
    split
    · exact .line _ fun _ => .pure _
    · exact (releaseBothAfterError_givesUp firmware kernel _ _).reports
  rw [← List.append_assoc]
  exact verified _

theorem checkLoaded_reports (loaded : LoadedKernel Unit) (plan : LoadPlan) :
    Reports (checkLoaded loaded plan : Program (Machine φ) _ Unit)
      ["UNOS:P1F:OWNERSHIP_READY", "UNOS:P1F:METADATA_VALID"] := by
  unfold checkLoaded
  split
  · exact .returned _
  · refine .line _ fun _ => ?_
    split
    · exact .returned _
    · exact .writeLine _

theorem releaseSource_reports (kernel : ValidatedKernel) (loaded : LoadedKernel Unit) :
    Reports (releaseSource firmware kernel loaded) ["UNOS:P1F:SOURCE_RELEASED"] := by
  refine .silent (kernel.scratch.release_reports firmware) fun released => ?_
  split
  · exact .writeLine _
  · exact (GivesUp.after (.call _) fun _ => .after (.change _) fun _ => .returned _).reports

theorem ownershipProbe_reports (pageStart : Nat) :
    Reports (ownershipProbe firmware pageStart : Program (Machine φ) (Stop ε) Bool) [] := by
  refine .silent (.ask _) fun reply => ?_
  cases reply with
  | error _ => exact .pure _
  | ok allocated =>
      exact .silent (.call fun _ => serial_freePages firmware) fun _ => .pure _

theorem proveOwnership_reports (loaded : LoadedKernel Unit) :
    Reports (proveOwnership firmware loaded) ["UNOS:P1F:OWNERSHIP_PROVEN"] := by
  unfold proveOwnership
  split
  · exact .returned _
  · refine .silent (ownershipProbe_reports firmware _) fun owned => ?_
    split
    · exact .returned _
    · exact .writeLine _

end

end UnnamedOS.Loader
