import UnnamedOS.Loader.Finalization
import UnnamedOS.Loader.UefiFirmware
import UnnamedOS.PageTable.TransferredFrames

namespace UnnamedOS.Loader

open UnnamedOS.Data UnnamedOS.BootProtocol UnnamedOS.PageTable

/-! # Leaving boot services

The firmware ends boot services only for the key of its current memory map, and
may change the map at any time before.  The loader therefore asks for the map
and leaves at once; when the key is refused it does both a second time, and
after the first refusal it may ask for nothing else. -/

def exitBootServicesAttemptLimit : Nat := 2

structure ExitRetryPolicy where
  attempts : Nat
deriving DecidableEq, Repr

namespace ExitRetryPolicy

def new : ExitRetryPolicy := ⟨0⟩

def beginAttempt (policy : ExitRetryPolicy) : Bool × ExitRetryPolicy :=
  if policy.attempts = exitBootServicesAttemptLimit then (false, policy)
  else (true, ⟨policy.attempts + 1⟩)

def retryInvalidKey (policy : ExitRetryPolicy) (invalidKey : Bool) : Bool :=
  invalidKey && decide (policy.attempts < exitBootServicesAttemptLimit)

end ExitRetryPolicy

section

variable {φ : Type} (firmware : Firmware φ) (rawStart rawLength : Nat)

/-- One call of `ExitBootServices`, where the policy still allows it. -/
def attemptExit (policy : ExitRetryPolicy) (finalMap : CapturedMapMeta) :
    Program (Machine φ) BootStop (Status × ExitRetryPolicy) :=
  match policy.beginAttempt with
  | (false, _) => postExitFailure "UNOS:P1H:FAIL:EXIT"
  | (true, begun) => do
      let status ← ask firmware (.exitBootServices finalMap.mapKey)
      pure (status, begun)

/-- The retry after a refused key, with the map that belongs to the status. -/
def retryExit (policy : ExitRetryPolicy) :
    Program (Machine φ) BootStop (Status × CapturedMapMeta) := do
  let captured ← (captureMemoryMap firmware rawStart rawLength).attempt
  match captured with
  | .error _ => postExitFailure "UNOS:P1H:FAIL:FINAL_MAP"
  | .ok retryMap => do
      let (status, _) ← attemptExit firmware policy retryMap
      pure (status, retryMap)

/-- The status of the last call and the map that belongs to it. -/
def lastExit (first : Status × ExitRetryPolicy) (finalMap : CapturedMapMeta) :
    Program (Machine φ) BootStop (Status × CapturedMapMeta) :=
  if first.2.retryInvalidKey (decide (first.1 = .invalidParameter)) then
    retryExit firmware rawStart rawLength first.2
  else pure (first.1, finalMap)

/-- The body of the callback of `cross_exit_boundary` up to the finalization. -/
def exitWithRetry (finalMap : CapturedMapMeta) :
    Program (Machine φ) BootStop CapturedMapMeta := do
  let first ← attemptExit firmware .new finalMap
  let last ← lastExit firmware rawStart rawLength first finalMap
  if last.1 ≠ .success then postExitFailure "UNOS:P1H:FAIL:EXIT"
  else do
    writeLine "UNOS:P1H:BOOT_SERVICES_EXITED"
    pure last.2

/-- What follows the first call lets only a success through. -/
theorem exitWithRetry_ok {finalMap : CapturedMapMeta} {first : Status × ExitRetryPolicy}
    {machine middle : Machine φ}
    (exited : attemptExit firmware .new finalMap machine = (.ok first, middle)) :
    (∃ lastMap after, exitWithRetry firmware rawStart rawLength finalMap machine =
      (.ok lastMap, after)) ↔
      ∃ lastMap after, lastExit firmware rawStart rawLength first finalMap middle =
        (.ok (.success, lastMap), after) := by
  rw [exitWithRetry, Program.bind_of_ok exited]
  simp only [Program.bind_eq_ok]
  constructor
  · rintro ⟨lastMap, after, ⟨status, retryMap⟩, left, last, ended⟩
    split at ended
    · cases ended
    · rename_i success
      obtain rfl : status = .success := not_not.mp success
      exact ⟨retryMap, left, last⟩
  · rintro ⟨lastMap, after, last⟩
    exact ⟨lastMap, _, (.success, lastMap), after, last, rfl⟩

variable {κ β σ ψ ε : Type}

/-- `prepare_and_exit` from the moment all owners are in one state.  An error
that is returned before the boundary drops that state. -/
def leaveBootServices (frameOps : FrameBackend ψ ε) (ready : PageTableHandoffReady κ β σ ψ) :
    Program (Machine φ) BootStop (CapturedMapMeta × KernelArguments) := do
  let timer ← ask firmware .setWatchdogTimer
  match timer with
  | .error _ => .stop (.returned .bootInfo)
  | .ok _ => do
      let rawMap := ready.exit.bootInfo.allocations.rawMap
      match allocationByteLength rawMap with
      | none => .stop (.returned .map)
      | some rawLength => do
          let systemTable ← .look Machine.systemTable
          if systemTable = false then .stop (.returned .map)
          else do
            let captured ← (captureMemoryMap firmware rawMap.pageStart rawLength).attempt
            match captured with
            | .error _ => .stop (.returned .map)
            | .ok firstMap => do
                writeLine "UNOS:P1H:EXIT_READY"
                let transferred := (ready.crossExitBoundary frameOps).1
                let finalMap ← exitWithRetry firmware rawMap.pageStart rawLength firstMap
                let arguments ←
                  finalizePostExit transferred finalMap rawMap.pageStart rawLength
                pure (finalMap, arguments)

end

/-! ## A small boot -/

def lowTableFrame : PhysicalFrame := ⟨0x7_0000, by decide, by decide, by decide⟩

/-- A kernel of one segment, with everything else below it. -/
def lowReady : PageTableHandoffReady Unit Unit Unit Unit where
  exit := {
    kernel := oneSegmentKernel
    bootInfo := {
      backend := ()
      allocations := ⟨⟨0x3_0000, 1⟩, ⟨0x4_0000, 16⟩, ⟨0x5_0000, 16⟩, ⟨0x6_0000, 1⟩⟩
      owned := .replicate 4 true
      bootInfo := BootInfo.new ⟨0x5_0000, 1, 32, 1, 0, 32, 0⟩ ⟨0x8000_0000, 3072, 32, 24, 32, 1, 0⟩
      bootInfoAddress := 0x6_0000
      provisionalMap := ⟨40, 40, 1, 7, .provisional⟩
      four := rfl } }
  stack := ⟨(), ⟨0x1_8000, 16⟩, true, rfl, rfl, by decide⟩
  pageTables := {
    hierarchy := ⟨1, ⟨(), [lowTableFrame], some lowTableFrame, true⟩⟩
    readiness := ⟨⟨0x20_0000, 0, .disabled⟩, 0x7_0000, .enabled, .enabled, .disabled, .disabled,
      40, 48, 0, ⟨0x20_0000⟩⟩ }

/-- A machine around it, before the timer is set. -/
def lowBoot {φ : Type} (firmware : φ) : Machine φ where
  firmware
  hardware := {
    memory := store (fun _ => 0) 0x1_8000 (leBytes 8 bootstrapStackCanary)
    cpu := { uncachedRootCpu with cr3 := 0x20_0000, registers := by decide } }
  systemTable := true
  events := []

/-- One range of conventional memory; just before the first key is used, it is
cut in two. -/
def restless : UefiState where
  map := [⟨⟨7, 0x1000, 0, 0x1000, 15⟩, by decide⟩]
  key := 7
  changes := [none, none, some [⟨⟨7, 0x1000, 0, 0x7f, 15⟩, by decide⟩,
    ⟨⟨4, 0x8_0000, 0, 0xf80, 15⟩, by decide⟩]]

/-- What a report of the first range looks like. -/
def lowMap : CapturedMapMeta := ⟨40, 40, 1, 7, by decide, by decide, by decide⟩

/-! ## Every schedule of map changes -/

section

variable {φ : Type} {firmware : Firmware φ} {keyOf sizeOf : φ → Nat} {start length : Nat}
  {machine : Machine φ}

/-- The loop reads the pointers and asks once; the answer decides. -/
theorem captureMemoryMap_first {reply : MapReply} {state : φ} {hardware : Hardware}
    (table : machine.systemTable = true)
    (answered : firmware (.getMemoryMap start length) machine.firmware machine.hardware =
      (reply, state, hardware)) :
    captureMemoryMap firmware start length machine =
      (if reply.status = .success then
        match reply.accept length with
        | none => .stop .compromisedData
        | some captured => pure captured
      else if reply.status ≠ .bufferTooSmall ∨ reply.mapSize > length ∨
          retryIsAllowed 0 = false then
        .stop reply.status
      else captureFrom firmware start length [1, 2, 3]) { machine with
        firmware := state
        hardware
        events := machine.events ++ [.asked (.getMemoryMap start length) reply] } := by
  have looked : (Program.look Machine.systemTable : Program (Machine φ) Status Bool)
      machine = (.ok true, machine) := by rw [Program.look_run, table]
  have attempts : List.range (rawMemoryMapRetryLimit + 1) = [0, 1, 2, 3] := rfl
  rw [captureMemoryMap, attempts, captureFrom, Program.bind_of_ok looked, if_neg (by decide)]
  exact Program.bind_of_ok (ask_run answered)

/-- The answer to the next request for the map. -/
def nextReport (firmware : Firmware φ) (start length : Nat) (machine : Machine φ) :
    MapReply × φ × Hardware :=
  firmware (.getMemoryMap start length) machine.firmware machine.hardware

theorem captureMemoryMap_fits (responsive : Responsive firmware keyOf sizeOf start length)
    (table : machine.systemTable = true)
    (nonempty : 0 < sizeOf (nextReport firmware start length machine).2.1)
    (fits : sizeOf (nextReport firmware start length machine).2.1 ≤ length) :
    ∃ captured after, captureMemoryMap firmware start length machine = (.ok captured, after) ∧
      captured.mapKey = (nextReport firmware start length machine).1.mapKey ∧
      (after.firmware, after.hardware) = (nextReport firmware start length machine).2 := by
  obtain ⟨success, _, size, wide, whole⟩ := responsive.reports _ _ fits
  unfold nextReport at nonempty fits ⊢
  generalize answered : firmware (.getMemoryMap start length) machine.firmware machine.hardware =
    answer at *
  have checks : uefiDescriptorSize ≤ answer.1.descriptorStride ∧ answer.1.mapSize ≠ 0 ∧
      answer.1.mapSize ≤ length ∧ answer.1.mapSize % answer.1.descriptorStride = 0 :=
    ⟨wide, by omega, by omega, whole⟩
  rw [captureMemoryMap_first table answered, if_pos success, MapReply.accept, dif_pos checks]
  exact ⟨_, _, rfl, rfl, rfl⟩

theorem captureMemoryMap_misfit (responsive : Responsive firmware keyOf sizeOf start length)
    (table : machine.systemTable = true)
    (misfit : ¬ (0 < sizeOf (nextReport firmware start length machine).2.1 ∧
      sizeOf (nextReport firmware start length machine).2.1 ≤ length)) :
    ∃ status after, captureMemoryMap firmware start length machine = (.error status, after) := by
  have reports := responsive.reports machine.firmware machine.hardware
  have tooSmall := responsive.tooSmall machine.firmware machine.hardware
  unfold nextReport at misfit
  generalize answered : firmware (.getMemoryMap start length) machine.firmware machine.hardware =
    answer at *
  rw [captureMemoryMap_first table answered]
  by_cases fits : sizeOf answer.2.1 ≤ length
  · obtain ⟨success, _, size, _⟩ := reports fits
    have empty : answer.1.mapSize = 0 := by omega
    rw [if_pos success, MapReply.accept, dif_neg fun checks => checks.2.1 empty]
    exact ⟨_, _, rfl⟩
  · obtain ⟨refused, size⟩ := tooSmall (Nat.lt_of_not_le fits)
    rw [refused, if_neg Status.noConfusion, if_pos (.inr (.inl (by omega)))]
    exact ⟨_, _, rfl⟩

/-- One call, while the policy allows it. -/
theorem attemptExit_answer {policy : ExitRetryPolicy} (finalMap : CapturedMapMeta)
    (allowed : policy.attempts ≠ exitBootServicesAttemptLimit) :
    let answer := firmware (.exitBootServices finalMap.mapKey) machine.firmware machine.hardware
    ∃ after, attemptExit firmware policy finalMap machine =
        (.ok (answer.1, ⟨policy.attempts + 1⟩), after) ∧
      (after.firmware, after.hardware) = answer.2 ∧ after.systemTable = machine.systemTable := by
  intro answer
  rw [attemptExit, ExitRetryPolicy.beginAttempt, if_neg allowed]
  exact ⟨_, Program.bind_of_ok (ask_run rfl), rfl, rfl⟩

/-- The retry succeeds for a map that is reported and then left alone. -/
theorem retryExit_iff (responsive : Responsive firmware keyOf sizeOf start length)
    {policy : ExitRetryPolicy} (table : machine.systemTable = true)
    (allowed : policy.attempts ≠ exitBootServicesAttemptLimit) :
    let report := nextReport firmware start length machine
    let exit := firmware (.exitBootServices report.1.mapKey) report.2.1 report.2.2
    (∃ lastMap after, retryExit firmware start length policy machine =
      (.ok (.success, lastMap), after)) ↔
      (0 < sizeOf report.2.1 ∧ sizeOf report.2.1 ≤ length) ∧
        keyOf exit.2.1 = keyOf report.2.1 := by
  intro report exit
  by_cases fits : 0 < sizeOf report.2.1 ∧ sizeOf report.2.1 ≤ length
  · obtain ⟨retryMap, middle, captured, key, same⟩ :=
      captureMemoryMap_fits responsive table fits.1 fits.2
    obtain ⟨state, hardware⟩ := Prod.mk.inj same
    obtain ⟨after, exited, _⟩ :=
      @attemptExit_answer _ firmware middle policy retryMap allowed
    rw [key, state, hardware] at exited
    have ran : retryExit firmware start length policy machine =
        (.ok (exit.1, retryMap), after) := by
      rw [retryExit, Program.bind_of_ok (Program.attempt_run _ _), captured]
      exact Program.bind_of_ok exited
    have current : report.1.mapKey = keyOf report.2.1 := (responsive.reports _ _ fits.2).2.1
    have decided : exit.1 = if report.1.mapKey = keyOf exit.2.1 then .success
        else .invalidParameter := responsive.exits _ _ _
    rw [ran, decided, current]
    simp [fits, eq_comm]
  · obtain ⟨status, after, stopped⟩ := captureMemoryMap_misfit responsive table fits
    have ran : retryExit firmware start length policy machine =
        (.error .failed, after.say ["UNOS:P1H:FAIL:FINAL_MAP"]) := by
      rw [retryExit, Program.bind_of_ok (Program.attempt_run _ _), stopped]
      rfl
    simp [ran, fits]

/-- Boot services end exactly when the firmware leaves its map alone between
one of the two reports and the call that uses the key of that report. -/
theorem exitWithRetry_schedule (responsive : Responsive firmware keyOf sizeOf start length)
    {finalMap : CapturedMapMeta} (table : machine.systemTable = true)
    (current : finalMap.mapKey = keyOf machine.firmware) :
    let first := firmware (.exitBootServices finalMap.mapKey) machine.firmware machine.hardware
    let report := firmware (.getMemoryMap start length) first.2.1 first.2.2
    let second := firmware (.exitBootServices report.1.mapKey) report.2.1 report.2.2
    (∃ lastMap after,
      exitWithRetry firmware start length finalMap machine = (.ok lastMap, after)) ↔
      keyOf first.2.1 = keyOf machine.firmware ∨
        (0 < sizeOf report.2.1 ∧ sizeOf report.2.1 ≤ length) ∧
          keyOf second.2.1 = keyOf report.2.1 := by
  intro first report second
  obtain ⟨middle, exited, same, kept⟩ :=
    @attemptExit_answer _ firmware machine .new finalMap (by decide)
  have decided : first.1 = if finalMap.mapKey = keyOf first.2.1 then .success
      else .invalidParameter := responsive.exits _ _ _
  rw [exitWithRetry_ok firmware start length exited, lastExit]
  by_cases undisturbed : keyOf first.2.1 = keyOf machine.firmware
  · rw [current, if_pos undisturbed.symm] at decided
    rw [decided]
    simp [undisturbed, ExitRetryPolicy.retryInvalidKey]
  · rw [current, if_neg (Ne.symm undisturbed)] at decided
    have again : (⟨ExitRetryPolicy.new.attempts + 1⟩ : ExitRetryPolicy).retryInvalidKey
        (decide (Status.invalidParameter = .invalidParameter)) = true := by decide
    obtain ⟨state, hardware⟩ := Prod.mk.inj same
    have retried := retryExit_iff responsive (kept.trans table)
      (by decide : (⟨ExitRetryPolicy.new.attempts + 1⟩ : ExitRetryPolicy).attempts ≠
        exitBootServicesAttemptLimit)
    rw [nextReport, state, hardware] at retried
    rw [decided, if_pos again, or_iff_right undisturbed]
    exact retried

/-- The map changes once, before the first call. -/
theorem exitWithRetry_schedule_restless :
    ∃ lastMap after, exitWithRetry uefiFirmware 0x3_0000 4096 lowMap
      (lowBoot { restless with changes := restless.changes.drop 2 }) = (.ok lastMap, after) := by
  refine (exitWithRetry_schedule (uefiFirmware_responsive _ _) rfl rfl).mpr (.inr ⟨?_, rfl⟩)
  decide

end

end UnnamedOS.Loader
