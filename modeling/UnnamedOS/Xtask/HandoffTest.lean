import UnnamedOS.Data.Lines
import UnnamedOS.Kernel.Bootstrap
import UnnamedOS.Loader.HandoffLines

namespace UnnamedOS.Xtask

open UnnamedOS.Data UnnamedOS.Loader UnnamedOS.Kernel

/-! # The handoff test

The harness boots the loader and the kernel in a virtual machine and reads
their serial log.  It sees nothing of the run but the log and the exit code of
the machine, and decides by them whether the handoff has worked.  The firmware
writes to the same port. -/

/-- `KERNEL_HANDOFF_MARKERS`. -/
def kernelHandoffMarkers : List String :=
  ["UNOS:P1C:ENTRY", "UNOS:P1C:UEFI_OK", "UNOS:P1C:PASS", "UNOS:P1D:KERNEL_OPEN",
    "UNOS:P1D:KERNEL_READ", "UNOS:P1D:KERNEL_VALID", "UNOS:P1D:PASS", "UNOS:P1E:PLAN_VALID",
    "UNOS:P1E:SEGMENTS_ALLOCATED", "UNOS:P1E:SEGMENTS_ZEROED", "UNOS:P1E:SEGMENTS_COPIED",
    "UNOS:P1E:LOAD_VERIFIED", "UNOS:P1F:OWNERSHIP_READY", "UNOS:P1F:METADATA_VALID",
    "UNOS:P1F:SOURCE_RELEASED", "UNOS:P1F:OWNERSHIP_PROVEN", "UNOS:P1J:CPU_STATE_CAPTURED",
    "UNOS:P1J:PLAN_ACCEPTED", "UNOS:P1J:FRAMES_ALLOCATED", "UNOS:P1J:HIERARCHY_MATERIALIZED",
    "UNOS:P1J:HIERARCHY_VERIFIED", "UNOS:P1J:CPU_CAPABILITIES_VALIDATED",
    "UNOS:P1J:ACTIVATION_REQUIREMENTS_CLASSIFIED", "UNOS:P1J:HIERARCHY_CPU_COMPATIBLE",
    "UNOS:P1G:GOP_READY", "UNOS:P1G:BUFFERS_READY", "UNOS:P1G:MAP_CAPTURED",
    "UNOS:P1G:MAP_CONVERTED", "UNOS:P1G:RESERVATIONS_VALID", "UNOS:P1G:BOOTINFO_VALID",
    "UNOS:P1G:OWNERSHIP_READY", "UNOS:P1H:EXIT_READY", "UNOS:P1H:BOOT_SERVICES_EXITED",
    "UNOS:P1H:FINAL_MAP_CONVERTED", "UNOS:P1J:FINAL_MAP_RESERVED", "UNOS:P1J:CR3_UNCHANGED",
    "UNOS:P1H:BOOTINFO_FINAL", "UNOS:P1J:ACTIVATION_PREPARED_INACTIVE",
    "UNOS:P1H:OWNERSHIP_TRANSFERRED", "UNOS:P1J:OWNERSHIP_TRANSFERRED", "UNOS:P1H:PASS",
    "UNOS:P1I:HANDOFF_READY", "UNOS:P1I:KERNEL_ENTRY", "UNOS:P1I:STACK_OK",
    "UNOS:P1I:BOOTINFO_OK", "UNOS:P1I:MEMORY_MAP_OK", "UNOS:P1I:PASS"]

def qemuSuccessExitCode : Int := 33
def qemuFailureExitCode : Int := 35

inductive MarkerError where
  | panic
  | badLineEnding
  | missing
  | duplicateOrUnexpected
  | wrongOrder
deriving DecidableEq, Repr

inductive WaitOutcome where
  | exited (code : Option Int)
  | timeout
deriving DecidableEq, Repr

/-! ## The log -/

def markerTag : List Char := ['U', 'N', 'O', 'S', ':']
def lineEnd : List Char := ['\r', '\n']

/-- `trim_end_matches("\r\n")`, on the reversed text. -/
def dropLineEnds : List Char → List Char
  | '\n' :: '\r' :: rest => dropLineEnds rest
  | text => text

/-- The body of the loop over the lines of the log. -/
def observeMarker (observed : List (List Char)) (segment : List Char) :
    Except MarkerError (List (List Char)) :=
  if markerTag <:+: segment then
    if lineEnd <:+ segment then
      .ok (observed ++ [(dropLineEnds segment.reverse).reverse])
    else .error .badLineEnding
  else .ok observed

def validateMarkers (serial : List Char) (expected : List String) : Except MarkerError Unit := do
  let observed ← (splitInclusive '\n' serial).foldlM observeMarker []
  if "UNOS:P1C:PANIC".toList <:+: serial then .error .panic
  else if observed = expected.map String.toList then .ok ()
  else if observed.length < expected.length then .error .missing
  else if observed.length > expected.length then .error .duplicateOrUnexpected
  else .error .wrongOrder

/-- A line that the firmware writes. -/
structure OtherLine where
  text : List Char
  oneLine : '\n' ∉ text
  untagged : ¬ markerTag <:+: text

/-- What stands before the newlines: `write_line` puts a `\r` there, and
`others` says which lines come before each line of the boot, and after the
last. -/
def logLines (others : Nat → List OtherLine) : List String → List (List Char)
  | [] => (others 0).map OtherLine.text
  | line :: lines =>
      (others 0).map OtherLine.text ++
        (line.toList ++ ['\r']) :: logLines (fun index => others (index + 1)) lines

/-- The log when no byte is lost on the way. -/
def serialLog (others : Nat → List OtherLine) (lines : List String) : List Char :=
  (logLines others lines).flatMap fun line => line ++ ['\n']

/-! ## The verdict -/

/-- `char::is_whitespace`. -/
def isWhitespace (char : Char) : Bool :=
  let code := char.toNat
  decide (9 ≤ code ∧ code ≤ 13 ∨ code = 0x20 ∨ code = 0x85 ∨ code = 0xa0 ∨ code = 0x1680 ∨
    0x2000 ≤ code ∧ code ≤ 0x200a ∨ code = 0x2028 ∨ code = 0x2029 ∨ code = 0x202f ∨
    code = 0x205f ∨ code = 0x3000)

def startupFailure (outcome : WaitOutcome) (serial : List Char) : Option String :=
  match outcome with
  | .exited (some code) =>
      if code ≠ qemuSuccessExitCode ∧ code ≠ qemuFailureExitCode ∧
          serial.all isWhitespace = true then
        some ("QEMU startup failure: exit code " ++ toString code ++ " with an empty serial log")
      else none
  | _ => none

/-- What a marker error is reported as; `panic` is reported before. -/
def MarkerError.report : MarkerError → String
  | .panic => "UEFI panic marker observed"
  | .badLineEnding => "serial marker did not use CRLF"
  | .missing => "one or more serial milestones are missing"
  | .duplicateOrUnexpected => "duplicate or unexpected serial milestone observed"
  | .wrongOrder => "serial milestones are in the wrong order"

def classifyTestResult (outcome : WaitOutcome) (expectedExitCode : Int)
    (markers : Except MarkerError Unit) : Except String Unit :=
  if markers = .error .panic then .error MarkerError.panic.report
  else if outcome = .timeout then
    .error "UEFI boot timed out after 20 seconds; QEMU was terminated"
  else
    match markers with
    | .error error => .error error.report
    | .ok _ =>
        if outcome = .exited (some expectedExitCode) then .ok ()
        else
          let code := match outcome with
            | .exited (some code) => toString code
            | _ => "unavailable"
          .error ("unexpected QEMU exit code " ++ code ++ "; expected " ++
            toString expectedExitCode)

/-- What the harness finds when it opens a file and reads it to the end. -/
inductive HostFile where
  | unopened (error : String)
  | unread (error : String)
  | contents (bytes : List UInt8)
deriving DecidableEq, Repr

/-- The part of `RunState` that is used after the run. -/
structure RunState where
  varsSource : String
  varsSourceHash : Nat
deriving DecidableEq, Repr

/-- The hash is the loader's. -/
def fileHash (path : String) : HostFile → Except String Nat
  | .unopened error => .error ("could not open " ++ path ++ " for hashing: " ++ error)
  | .unread error => .error ("could not hash " ++ path ++ ": " ++ error)
  | .contents bytes => .ok (fingerprint bytes)

def verifyVarsSourceUnchanged (run : RunState) (vars : HostFile) : Except String Unit := do
  let after ← fileHash run.varsSource vars
  if after = run.varsSourceHash then .ok ()
  else .error "source OVMF VARS template changed during QEMU execution"

/-- `read_to_string` of a log, where `failure` is the reason that it cannot be read. -/
def readToString (failure : Option String) (serial : List Char) : Except String (List Char) :=
  match failure with
  | some error => .error error
  | none => .ok serial

/-- `test_kernel_handoff` from the answer of `wait_for_child` on. -/
def testKernelHandoff (run : RunState) (waited : Except String WaitOutcome) (vars : HostFile)
    (log : Except String (List Char)) : Except String Unit := do
  let outcome ← waited
  verifyVarsSourceUnchanged run vars
  let serial ← log.mapError fun error => "handoff serial log is unavailable: " ++ error
  match startupFailure outcome serial with
  | some error => .error error
  | none =>
      classifyTestResult outcome qemuSuccessExitCode (validateMarkers serial kernelHandoffMarkers)

theorem classifyTestResult_eq_ok {outcome : WaitOutcome} {code : Int}
    {markers : Except MarkerError Unit} :
    classifyTestResult outcome code markers = .ok () ↔
      markers = .ok () ∧ outcome = .exited (some code) := by
  unfold classifyTestResult
  cases markers with
  | error error =>
      simp only [reduceCtorEq, false_and, iff_false]
      split
      · simp
      · split
        · simp
        · simp
  | ok _ =>
      simp only [reduceCtorEq, if_false, true_and]
      by_cases exit : outcome = .exited (some code)
      · simp [exit]
      · simp [exit]

theorem verifyVarsSourceUnchanged_eq_ok {run : RunState} {vars : HostFile} :
    verifyVarsSourceUnchanged run vars = .ok () ↔
      ∃ bytes, vars = .contents bytes ∧ fingerprint bytes = run.varsSourceHash := by
  cases vars with
  | unopened error => simp [verifyVarsSourceUnchanged, fileHash]
  | unread error => simp [verifyVarsSourceUnchanged, fileHash]
  | contents bytes => simp [verifyVarsSourceUnchanged, fileHash]

theorem testKernelHandoff_eq_ok {run : RunState} {waited : Except String WaitOutcome}
    {vars : HostFile} {log : Except String (List Char)} :
    testKernelHandoff run waited vars log = .ok () ↔
      waited = .ok (.exited (some qemuSuccessExitCode)) ∧
      (∃ bytes, vars = .contents bytes ∧ fingerprint bytes = run.varsSourceHash) ∧
      ∃ serial, log = .ok serial ∧ validateMarkers serial kernelHandoffMarkers = .ok () := by
  simp only [testKernelHandoff, bind_eq_ok, mapError_eq_ok]
  rw [← verifyVarsSourceUnchanged_eq_ok]
  constructor
  · rintro ⟨outcome, rfl, _, unchanged, serial, rfl, decided⟩
    split at decided
    · contradiction
    · obtain ⟨accepted, rfl⟩ := classifyTestResult_eq_ok.mp decided
      exact ⟨rfl, unchanged, serial, rfl, accepted⟩
  · rintro ⟨rfl, unchanged, serial, rfl, accepted⟩
    have started : startupFailure (.exited (some qemuSuccessExitCode)) serial = none := by
      simp [startupFailure]
    refine ⟨_, rfl, (), unchanged, serial, rfl, ?_⟩
    rw [started]
    exact classifyTestResult_eq_ok.mpr ⟨accepted, rfl⟩

/-! ## What the log shows -/

/-- A line as the loader and the kernel write them. -/
def IsMarker (line : String) : Prop := '\n' ∉ line.toList ∧ markerTag <+: line.toList

instance : DecidablePred IsMarker := fun line =>
  inferInstanceAs (Decidable ('\n' ∉ line.toList ∧ markerTag <+: line.toList))

theorem kernelHandoffMarkers_markers :
    ∀ line ∈ kernelHandoffMarkers, IsMarker line ∧
      ¬ "UNOS:P1C:PANIC".toList <:+: line.toList ++ ['\r'] := by
  decide +kernel

/-- No failure looks like the end of a boot. -/
theorem failureMarkers_markers :
    ∀ marker ∈ failureMarkers, IsMarker marker ∧ marker.toList ≠ "UNOS:P1I:PASS".toList := by
  decide +kernel

theorem dropLineEnds_line {line : List Char} (oneLine : '\n' ∉ line) :
    (dropLineEnds (line ++ lineEnd).reverse).reverse = line := by
  have ends : (line ++ lineEnd).reverse = '\n' :: '\r' :: line.reverse := by
    simp [lineEnd]
  have stays : dropLineEnds line.reverse = line.reverse := by
    rw [← List.mem_reverse] at oneLine
    unfold dropLineEnds
    split
    · rename_i same
      exact absurd (same ▸ List.mem_cons_self) oneLine
    · rfl
  rw [ends, dropLineEnds, stays, List.reverse_reverse]

theorem observeMarker_line {line : String} (marker : IsMarker line) (observed : List (List Char)) :
    observeMarker observed (line.toList ++ ['\r'] ++ ['\n']) =
      .ok (observed ++ [line.toList]) := by
  obtain ⟨oneLine, marked⟩ := marker
  have ending : line.toList ++ ['\r'] ++ ['\n'] = line.toList ++ lineEnd := by simp [lineEnd]
  have found : markerTag <:+: line.toList ++ lineEnd :=
    marked.isInfix.trans (List.prefix_append _ _).isInfix
  rw [ending, observeMarker, if_pos found, if_pos (List.suffix_append _ _),
    dropLineEnds_line oneLine]

theorem IsMarker.oneLine {line : String} (marker : IsMarker line) :
    '\n' ∉ line.toList ++ ['\r'] := by
  have plain := marker.1
  simp [plain]

/-- The loop passes over what the firmware writes. -/
theorem observed_others (others : List OtherLine) (observed : List (List Char)) :
    ((others.map OtherLine.text).map fun line => line ++ ['\n']).foldlM observeMarker observed =
      .ok observed := by
  induction others with
  | nil => rfl
  | cons other others inner =>
      have absent : ¬ markerTag <:+: other.text ++ ['\n'] := by
        intro found
        rcases infix_or_infix_of_append (by decide) found with here | later
        · exact other.untagged here
        · exact absurd (List.infix_nil.mp later) (by decide)
      simp only [List.map_cons, List.foldlM_cons]
      rw [observeMarker, if_neg absent]
      exact inner

theorem mem_logLines {others : Nat → List OtherLine} {lines : List String} {text : List Char}
    (member : text ∈ logLines others lines) :
    (∃ other : OtherLine, text = other.text) ∨ ∃ line ∈ lines, text = line.toList ++ ['\r'] := by
  induction lines generalizing others with
  | nil =>
      obtain ⟨other, _, rfl⟩ := List.mem_map.mp member
      exact .inl ⟨other, rfl⟩
  | cons line lines inner =>
      rcases List.mem_append.mp member with before | after
      · obtain ⟨other, _, rfl⟩ := List.mem_map.mp before
        exact .inl ⟨other, rfl⟩
      · rcases List.mem_cons.mp after with rfl | later
        · exact .inr ⟨line, List.mem_cons_self, rfl⟩
        · rcases inner later with other | ⟨found, listed, same⟩
          · exact .inl other
          · exact .inr ⟨found, List.mem_cons_of_mem line listed, same⟩

/-- The last line of the boot, and what follows it. -/
theorem logLines_concat (others : Nat → List OtherLine) (lines : List String) (marker : String) :
    logLines others (lines ++ [marker]) = logLines others lines ++
      (marker.toList ++ ['\r']) :: (others (lines.length + 1)).map OtherLine.text := by
  induction lines generalizing others with
  | nil => rfl
  | cons line lines inner =>
      rw [List.cons_append, logLines, logLines, inner, List.append_assoc]
      rfl

/-- The loop finds each line of a boot that writes markers. -/
theorem observed_logLines {others : Nat → List OtherLine} {lines : List String}
    (markers : ∀ line ∈ lines, IsMarker line) (observed : List (List Char)) :
    ((logLines others lines).map fun line => line ++ ['\n']).foldlM observeMarker observed =
      .ok (observed ++ lines.map String.toList) := by
  induction lines generalizing others observed with
  | nil =>
      rw [List.map_nil, List.append_nil]
      exact observed_others (others 0) observed
  | cons line lines inner =>
      rw [List.forall_mem_cons] at markers
      rw [logLines, List.map_append, List.foldlM_append]
      refine bind_eq_ok.mpr ⟨observed, observed_others _ _, ?_⟩
      rw [List.map_cons, List.foldlM_cons]
      refine bind_eq_ok.mpr ⟨_, observeMarker_line markers.1 observed, ?_⟩
      rw [inner markers.2, List.append_assoc]
      rfl

/-- Only the first of the four tests after the loop accepts. -/
theorem validateMarkers_eq_ok {serial : List Char} {expected : List String} :
    validateMarkers serial expected = .ok () ↔
      (splitInclusive '\n' serial).foldlM observeMarker [] = .ok (expected.map String.toList) ∧
        ¬ "UNOS:P1C:PANIC".toList <:+: serial := by
  rw [validateMarkers, bind_eq_ok]
  constructor
  · rintro ⟨observed, loop, decided⟩
    split at decided
    · contradiction
    · rename_i calm
      split at decided
      · rename_i same
        exact ⟨same ▸ loop, calm⟩
      · split at decided
        · contradiction
        · split at decided
          · contradiction
          · contradiction
  · rintro ⟨loop, calm⟩
    refine ⟨_, loop, ?_⟩
    rw [if_neg calm, if_pos rfl]

/-- A log of markers without a panic is accepted when its lines are the expected ones. -/
theorem validateMarkers_serialLog (others : Nat → List OtherLine) {lines : List String}
    (markers : ∀ line ∈ lines, IsMarker line)
    (calm : ∀ line ∈ lines, ¬ "UNOS:P1C:PANIC".toList <:+: line.toList ++ ['\r']) :
    validateMarkers (serialLog others lines) lines = .ok () := by
  have quiet : ¬ "UNOS:P1C:PANIC".toList <:+: serialLog others lines := by
    intro found
    obtain ⟨text, member, here⟩ := infix_of_lines (by decide) found (by decide)
    rcases mem_logLines member with ⟨other, rfl⟩ | ⟨line, listed, rfl⟩
    · have tagged : markerTag <:+: "UNOS:P1C:PANIC".toList := by decide
      exact other.untagged (tagged.trans here)
    · exact calm line listed here
  have unmarked : ∀ text ∈ logLines others lines, '\n' ∉ text := by
    intro text member
    rcases mem_logLines member with ⟨other, rfl⟩ | ⟨line, listed, rfl⟩
    · exact other.oneLine
    · exact (markers line listed).oneLine
  have loop : (splitInclusive '\n' (serialLog others lines)).foldlM observeMarker [] =
      .ok (lines.map String.toList) := by
    rw [serialLog, splitInclusive_flatMap unmarked, observed_logLines markers, List.nil_append]
  exact validateMarkers_eq_ok.mpr ⟨loop, quiet⟩

/-- A log in which the boot's last line is a failure is not accepted, whatever
stands before it. -/
theorem validateMarkers_failure (others : Nat → List OtherLine) {lines : List String}
    {marker : String} (last : lines.getLast? = some marker) (failure : marker ∈ failureMarkers) :
    validateMarkers (serialLog others lines) kernelHandoffMarkers ≠ .ok () := by
  obtain ⟨before, rfl⟩ := List.getLast?_eq_some_iff.mp last
  obtain ⟨isMarker, noPass⟩ := failureMarkers_markers marker failure
  have unmarked : ∀ text ∈ (marker.toList ++ ['\r']) ::
      (others (before.length + 1)).map OtherLine.text, '\n' ∉ text := by
    refine List.forall_mem_cons.mpr ⟨isMarker.oneLine, ?_⟩
    intro text member
    obtain ⟨other, _, rfl⟩ := List.mem_map.mp member
    exact other.oneLine
  intro accepted
  obtain ⟨loop, _⟩ := validateMarkers_eq_ok.mp accepted
  rw [serialLog, logLines_concat, List.flatMap_append, splitInclusive_lines,
    splitInclusive_flatMap unmarked, List.foldlM_append] at loop
  obtain ⟨earlier, _, ended⟩ := bind_eq_ok.mp loop
  rw [List.map_cons, List.foldlM_cons] at ended
  obtain ⟨found, here, after⟩ := bind_eq_ok.mp ended
  rw [observeMarker_line isMarker] at here
  cases here
  rw [observed_others, Except.ok.injEq] at after
  have ends : (kernelHandoffMarkers.map String.toList).getLast? =
      some "UNOS:P1I:PASS".toList := rfl
  rw [← after, List.getLast?_concat] at ends
  exact noPass (Option.some.inj ends)

/-! ## The boot under test -/

section

variable {φ : Type} (firmware : Firmware φ) (features : TestFeatures) (kernel : PhysicalRange)

/-- The loader and the kernel, of which the harness has put the file on the
disk; the result is the kernel's exit code. -/
def bootForTest : Program (Machine φ) BootStop Nat := do
  let started ← main firmware features
  startKernel (start kernel) started.2

theorem kernelBootstrap_reports (inputs : HandoffInputs) :
    Reports (kernelBootstrap kernel inputs : Program (Machine φ) BootStop Nat) kernelLines := by
  have checks {α : Type} (value : Option α) :
      Reports (orFail value "UNOS:P1I:FAIL" : Program (Machine φ) BootStop α) [] :=
    .orFail (by decide) value
  unfold kernelBootstrap BootStop
  refine .line _ fun _ => .silent (checks _) fun _ => .silent .readMemory fun memory => ?_
  refine .silent (checks _) fun _ => ?_
  refine .line _ fun _ => .silent (checks _) fun _ => ?_
  refine .line _ fun _ => .ite (alarmed_failWith (by decide)).reports ?_
  refine .silent (checks _) fun _ => ?_
  exact .silent (checks _) fun _ => .line _ fun _ => .line _ fun _ => .pure _

theorem bootForTest_reports :
    Reports (bootForTest firmware features kernel) kernelHandoffMarkers :=
  .bind (main_reports firmware features) fun _ =>
    .silent (.writeMemory _) fun _ => kernelBootstrap_reports kernel _

theorem postExitFailure_decides {α : Type} (marker : String) {returns : α → Machine φ → Prop} :
    Program.Triple (fun _ => True) (postExitFailure marker : Program (Machine φ) BootStop α) returns
      fun reason _ => reason = .failed := by
  intro machine _
  rw [postExitFailure_run]
  refine ⟨by simp, ?_⟩
  intro reason after ran
  cases ran
  rfl

theorem orFail_decides {α : Type} (value : Option α) (marker : String) :
    Program.Triple (fun _ => True) (orFail value marker : Program (Machine φ) BootStop α)
      (fun _ _ => True) fun reason _ => reason = .failed := by
  cases value with
  | none => exact postExitFailure_decides marker
  | some found => exact .pure fun _ _ => trivial

/-- The kernel has one good result, and no caller to return an error to. -/
theorem kernelBootstrap_decides (inputs : HandoffInputs) :
    Program.Triple (fun _ => True)
      (kernelBootstrap kernel inputs : Program (Machine φ) BootStop Nat) (fun code _ => code = 0x10)
      fun reason _ => reason = .failed := by
  have speaks (text : String) : Program.Triple (fun _ => True)
      (writeLine text : Program (Machine φ) BootStop Unit) (fun _ _ => True)
      fun reason _ => reason = .failed := .change fun _ _ => trivial
  have reads : Program.Triple (fun _ => True) (readMemory : Program (Machine φ) BootStop _)
      (fun _ _ => True) fun reason _ => reason = .failed := .look fun _ _ => trivial
  unfold kernelBootstrap BootStop
  refine .bind (speaks _) fun _ => .bind (orFail_decides _ _) fun _ => ?_
  refine .bind reads fun memory => .bind (orFail_decides _ _) fun _ => ?_
  refine .bind (speaks _) fun _ => .bind (orFail_decides _ _) fun _ => ?_
  refine .bind (speaks _) fun _ => .ite (postExitFailure_decides _) ?_
  refine .bind (orFail_decides _ _) fun _ => .bind (orFail_decides _ _) fun _ => ?_
  exact .bind (speaks _) fun _ => .bind (speaks _) fun _ => .pure fun _ _ => rfl

theorem main_decides : Program.Triple (fun _ => True) (main firmware features)
    (fun _ _ => True) fun reason _ => reason = .failed := by
  have runs : Program.Triple (fun _ => True) (loadKernel firmware features) (fun _ _ => True)
      fun _ _ => True := fun _ _ => ⟨fun _ _ _ => trivial, fun _ _ _ => trivial⟩
  refine runs.attempt_bind (fun started => .pure fun _ _ => trivial) fun reason => ?_
  cases reason with
  | failed => exact .stop fun _ _ => rfl
  | returned error => exact postExitFailure_decides _

theorem bootForTest_decides : Program.Triple (fun _ => True) (bootForTest firmware features kernel)
    (fun code _ => code = 0x10) fun reason _ => reason = .failed := by
  have calls (registers : EntryRegisters) : Program.Triple (fun _ => True)
      (writeMemory (calledMemory registers) : Program (Machine φ) BootStop Unit) (fun _ _ => True)
      fun reason _ => reason = .failed := .change fun _ _ => trivial
  exact (main_decides firmware features).bind fun _ =>
    (calls _).bind fun _ => kernelBootstrap_decides kernel _

/-- Under any firmware, and with any lines of its own between those of the boot,
the log is accepted exactly when the kernel has passed all its checks.  The test
passes when the virtual machine reports that as well, the log can be read and
the file that must not change has not changed. -/
theorem testKernelHandoff_verdict (state : φ) (hardware : Hardware) (systemTable : Bool)
    (others : Nat → List OtherLine) :
    let ended := bootForTest firmware features kernel ⟨state, hardware, systemTable, []⟩
    let serial := serialLog others ended.2.serial
    (validateMarkers serial kernelHandoffMarkers = .ok () ↔ ended.1 = .ok 0x10) ∧
    ∀ run waited vars failure,
      testKernelHandoff run waited vars (readToString failure serial) = .ok () ↔
        ended.1 = .ok 0x10 ∧ waited = .ok (.exited (some qemuSuccessExitCode)) ∧
        (∃ bytes, vars = .contents bytes ∧ fingerprint bytes = run.varsSourceHash) ∧
        failure = none := by
  intro ended serial
  have accepted : validateMarkers serial kernelHandoffMarkers = .ok () ↔ ended.1 = .ok 0x10 := by
    obtain ⟨written, alarmed⟩ :=
      bootForTest_reports firmware features kernel [] ⟨state, hardware, systemTable, []⟩ rfl
    obtain ⟨passes, fails⟩ :=
      bootForTest_decides firmware features kernel ⟨state, hardware, systemTable, []⟩ trivial
    simp only [serial]
    cases ran : ended with
    | mk outcome after =>
        cases outcome with
        | ok code =>
            have lines : after.serial = kernelHandoffMarkers := written code after ran
            rw [lines, passes code after ran]
            exact iff_of_true (validateMarkers_serialLog others
              (fun line member => (kernelHandoffMarkers_markers line member).1)
              fun line member => (kernelHandoffMarkers_markers line member).2) rfl
        | error reason =>
            have failed := fails reason after ran
            subst failed
            obtain ⟨marker, failure, last⟩ := alarmed .failed after ran
            exact iff_of_false (validateMarkers_failure others last failure) (by simp)
  refine ⟨accepted, fun run waited vars failure => ?_⟩
  rw [testKernelHandoff_eq_ok]
  cases failure with
  | some error => simp [readToString]
  | none =>
      simp only [readToString, Except.ok.injEq, exists_eq_left', accepted, and_true]
      tauto

end

end UnnamedOS.Xtask
