import UnnamedOS.Loader.ExitProtocol

namespace UnnamedOS.Loader

open UnnamedOS.Data UnnamedOS.PageTable

/-! # The rules for leaving boot services

The rules are about the whole trace of requests.  A monitor reads the trace
event by event; every step of the loader is one that the monitor allows, under
any firmware, and an allowed trace keeps the rules. -/

/-! ## A monitor of the requests -/

/-- What a trace has come to: the number of refused exits and, where the last
request was answered with a map, its key; or the key that boot services ended
with. -/
inductive Phase where
  | serving (refused : Nat) (key : Option Nat)
  | left (key : Nat)
deriving DecidableEq, Repr

namespace Phase

def next : Phase → Event → Option Phase
  | phase, .line _ => some phase
  | .left _, .asked _ _ => none
  | .serving refused _, .asked (.getMemoryMap _ _) reply =>
      some (.serving refused (if reply.status = .success then some reply.mapKey else none))
  | .serving refused key, .asked (.exitBootServices asked) status =>
      if key = some asked ∧ refused < exitBootServicesAttemptLimit then
        some (if status = .success then .left asked else .serving (refused + 1) none)
      else none
  | .serving refused _, .asked _ _ =>
      if refused = 0 then some (.serving 0 none) else none

/-- The phase after a trace, if every step of it was allowed. -/
def after (events : List Event) : Option Phase := events.foldlM next (.serving 0 none)

theorem after_append {events later : List Event} :
    after (events ++ later) = (after events).bind fun phase => later.foldlM next phase := by
  simp [after, List.foldlM_append]

theorem foldlM_lines (phase : Phase) (texts : List String) :
    (texts.map Event.line).foldlM next phase = some phase := by
  induction texts with
  | nil => rfl
  | cons text texts ih => exact ih

end Phase

/-! ## Every step of the loader is allowed -/

section

variable {φ α ε : Type} {firmware : Firmware φ}

/-- The trace so far was allowed and has come to this phase. -/
def InPhase (phase : Phase) (machine : Machine φ) : Prop :=
  Phase.after machine.events = some phase

/-- Boot services are there, with so many exits refused. -/
def Serving (refused : Nat) (machine : Machine φ) : Prop :=
  ∃ key, InPhase (.serving refused key) machine

def Orderly (machine : Machine φ) : Prop := ∃ phase, InPhase phase machine

theorem InPhase.orderly {phase : Phase} {machine : Machine φ} (reached : InPhase phase machine) :
    Orderly machine := ⟨phase, reached⟩

theorem Serving.orderly {refused : Nat} {machine : Machine φ} (serving : Serving refused machine) :
    Orderly machine := by
  obtain ⟨key, reached⟩ := serving
  exact reached.orderly

theorem InPhase.say {phase : Phase} {machine : Machine φ} (reached : InPhase phase machine)
    (texts : List String) : InPhase phase (machine.say texts) := by
  rw [InPhase, Machine.say, Phase.after_append, reached, Option.bind_some, Phase.foldlM_lines]

/-- A request brings the trace to where the monitor's step leads. -/
theorem ask_triple {before : Machine φ → Prop} {request : Request}
    {returns : request.Reply → Machine φ → Prop} {stops : ε → Machine φ → Prop}
    (holds : ∀ machine reply asked, before machine →
      asked.events = machine.events ++ [.asked request reply] → returns reply asked) :
    Program.Triple before (ask firmware request) returns stops :=
  Program.Triple.call fun machine start => holds machine _ _ start rfl

theorem InPhase.asked {phase : Phase} {machine asked : Machine φ} {request : Request}
    {reply : request.Reply} (reached : InPhase phase machine)
    (appended : asked.events = machine.events ++ [.asked request reply]) :
    Phase.after asked.events = phase.next (.asked request reply) := by
  rw [appended, Phase.after_append, reached, Option.bind_some]
  exact bind_pure _

theorem postExitFailure_triple {phase : Phase} {marker : String}
    {returns : α → Machine φ → Prop} :
    Program.Triple (InPhase phase) (postExitFailure marker : Program (Machine φ) BootStop α)
      returns fun _ => InPhase phase := by
  intro machine reached
  refine ⟨by simp [postExitFailure_run], ?_⟩
  intro reason after ran
  cases ran
  exact reached.say [marker]

/-- A request for the map holds the key of a map that it is answered with. -/
theorem askMap_triple (refused start length : Nat) :
    Program.Triple (Serving refused) (ask firmware (.getMemoryMap start length))
      (fun reply => InPhase (.serving refused
        (if reply.status = .success then some reply.mapKey else none)))
      fun (_ : ε) => Serving refused := by
  refine ask_triple ?_
  intro machine reply asked serving appended
  obtain ⟨key, reached⟩ := serving
  exact reached.asked appended

theorem writeLine_triple {phase : Phase} (text : String) {stops : ε → Machine φ → Prop} :
    Program.Triple (InPhase phase) (writeLine text) (fun _ => InPhase phase) stops :=
  .change fun _ reached => reached.say [text]

/-- A failure adds its line and no request. -/
theorem fails_orderly {marker : String} {returns : α → Machine φ → Prop} :
    Program.Triple Orderly (postExitFailure marker : Program (Machine φ) BootStop α) returns
      fun _ => Orderly := by
  intro machine orderly
  obtain ⟨phase, reached⟩ := orderly
  exact (postExitFailure_triple.imp (fun _ => id) (fun _ _ => id) fun _ _ => InPhase.orderly)
    machine reached

theorem captureFrom_triple (refused start length : Nat) (attempts : List Nat) :
    Program.Triple (Serving refused) (captureFrom firmware start length attempts)
      (fun captured => InPhase (.serving refused (some captured.mapKey)))
      fun _ => Serving refused := by
  induction attempts with
  | nil => exact .stop fun _ serving => serving
  | cons attempt later ih =>
      have looks : Program.Triple (Serving refused)
          (.look Machine.systemTable : Program (Machine φ) Status Bool)
          (fun _ => Serving refused) fun _ => Serving refused := .look fun _ serving => serving
      refine looks.bind ?_
      intro present
      split
      · exact .stop fun _ serving => serving
      refine (askMap_triple refused start length).bind ?_
      intro reply
      by_cases success : reply.status = .success
      · simp only [if_pos success]
        cases accepted : reply.accept length with
        | none => exact .stop fun _ reached => ⟨_, reached⟩
        | some captured =>
            have same : captured.mapKey = reply.mapKey := by
              unfold MapReply.accept at accepted
              split at accepted
              · cases accepted
                rfl
              · contradiction
            rw [← same]
            exact .pure fun _ reached => reached
      · simp only [if_neg success]
        split
        · exact .stop fun _ reached => ⟨_, reached⟩
        · exact ih.imp (fun _ reached => ⟨_, reached⟩) (fun _ _ => id) fun _ _ => id

theorem attemptExit_triple {policy : ExitRetryPolicy} {finalMap : CapturedMapMeta} {refused : Nat}
    (below : refused < exitBootServicesAttemptLimit) :
    Program.Triple (InPhase (.serving refused (some finalMap.mapKey)))
      (attemptExit firmware policy finalMap)
      (fun result machine => policy.beginAttempt = (true, result.2) ∧
        InPhase (if result.1 = .success then .left finalMap.mapKey
          else .serving (refused + 1) none) machine)
      fun _ => Orderly := by
  rw [attemptExit]
  split
  · exact fails_orderly.imp (fun _ => InPhase.orderly) (fun _ _ => id) fun _ _ => id
  · rename_i begun started
    have asks : Program.Triple (InPhase (.serving refused (some finalMap.mapKey)))
        (ask firmware (.exitBootServices finalMap.mapKey))
        (fun status => InPhase (if status = .success then .left finalMap.mapKey
          else .serving (refused + 1) none))
        fun (_ : BootStop) => Orderly := by
      refine ask_triple ?_
      intro machine status asked reached appended
      rw [InPhase, reached.asked appended]
      exact if_pos ⟨rfl, below⟩
    refine asks.bind ?_
    intro status
    exact .pure fun _ reached => ⟨started, reached⟩

/-- The retry asks for a fresh map and leaves with its key. -/
theorem retryExit_triple {policy : ExitRetryPolicy} {rawStart rawLength refused : Nat}
    (below : refused < exitBootServicesAttemptLimit) :
    Program.Triple (Serving refused) (retryExit firmware rawStart rawLength policy)
      (fun result => InPhase
        (if result.1 = .success then .left result.2.mapKey else .serving (refused + 1) none))
      fun _ => Orderly := by
  have captures : Program.Triple (Serving refused)
      (captureMemoryMap firmware rawStart rawLength).attempt
      (fun outcome machine => match outcome with
        | .ok captured => InPhase (.serving refused (some captured.mapKey)) machine
        | .error _ => Serving refused machine)
      fun (_ : BootStop) => Orderly :=
    Program.Triple.attempt (captureFrom_triple refused rawStart rawLength _)
  refine captures.bind ?_
  intro outcome
  cases outcome with
  | error reason =>
      exact fails_orderly.imp (fun _ => Serving.orderly) (fun _ _ => id) fun _ _ => id
  | ok retryMap =>
      refine (attemptExit_triple below).bind ?_
      intro result
      exact .pure fun _ reached => reached.2

theorem lastExit_triple (rawStart rawLength : Nat) (first : Status × ExitRetryPolicy)
    (finalMap : CapturedMapMeta) :
    Program.Triple
      (InPhase (if first.1 = .success then .left finalMap.mapKey else .serving 1 none))
      (lastExit firmware rawStart rawLength first finalMap)
      (fun last machine => Orderly machine ∧
        (last.1 = .success → InPhase (.left last.2.mapKey) machine))
      fun _ => Orderly := by
  rw [lastExit]
  by_cases again : first.2.retryInvalidKey (decide (first.1 = .invalidParameter)) = true
  · rw [if_pos again]
    have refused : first.1 ≠ .success := by
      intro success
      rw [success] at again
      contradiction
    rw [if_neg refused]
    refine (retryExit_triple (by decide)).imp (fun _ reached => ⟨none, reached⟩) ?_ fun _ _ => id
    intro last machine reached
    refine ⟨reached.orderly, ?_⟩
    intro success
    rwa [if_pos success] at reached
  · rw [if_neg again]
    refine .pure ?_
    intro machine reached
    refine ⟨reached.orderly, ?_⟩
    intro success
    rwa [if_pos success] at reached

theorem exitWithRetry_triple (rawStart rawLength : Nat) (finalMap : CapturedMapMeta) :
    Program.Triple (InPhase (.serving 0 (some finalMap.mapKey)))
      (exitWithRetry firmware rawStart rawLength finalMap)
      (fun lastMap => InPhase (.left lastMap.mapKey)) fun _ => Orderly := by
  refine (attemptExit_triple (by decide)).bind ?_
  intro first
  refine ((lastExit_triple rawStart rawLength first finalMap).imp (fun _ => And.right) (fun _ _ => id) fun _ _ => id).bind ?_
  intro last
  split
  · exact fails_orderly.imp (fun _ => And.left) (fun _ _ => id) fun _ _ => id
  · rename_i success
    have ends : Program.Triple (InPhase (.left last.2.mapKey))
        (do
          writeLine "UNOS:P1H:BOOT_SERVICES_EXITED"
          pure last.2 : Program (Machine φ) BootStop CapturedMapMeta)
        (fun lastMap => InPhase (.left lastMap.mapKey)) fun _ => Orderly :=
      (writeLine_triple _).bind fun _ => .pure fun _ reached => reached
    refine ends.imp ?_ (fun _ _ => id) fun _ _ => id
    intro machine ended
    exact ended.2 (not_not.mp success)

/-- The finalization asks for nothing. -/
theorem finalizePostExit_triple {transferred : TransferredHandoff}
    {stack : TransferredBootstrapStack} {tables : TransferredActivationPreparedPageTables}
    (delivered : Delivered transferred stack tables) (finalMap : CapturedMapMeta)
    (rawStart rawLength : Nat) {phase : Phase} :
    Program.Triple (InPhase phase)
      (finalizePostExit transferred finalMap rawStart rawLength : Program (Machine φ) _ _)
      (fun _ => InPhase phase) fun _ => Orderly := by
  intro machine reached
  rcases finalizePostExit_cases delivered finalMap rawStart rawLength machine with
    ⟨failure, _, memory, ran⟩ | ⟨final, bootInfo, _, _, _, _, _, _, ran⟩
  · rw [ran]
    refine ⟨by simp, ?_⟩
    intro reason after same
    cases same
    have kept : InPhase phase (machine.withMemory memory) := reached
    exact (kept.say _).orderly
  · rw [ran]
    refine ⟨?_, by simp⟩
    intro arguments after same
    cases same
    have kept : InPhase phase (machine.withMemory
      (publishedMemory transferred machine.hardware.memory final bootInfo)) := reached
    exact kept.say _

variable {κ β σ ψ δ : Type}

/-- Under any firmware and in whatever state it is entered, the loader leaves
an allowed trace; where it jumps, boot services have ended. -/
theorem leaveBootServices_triple (firmware : Firmware φ) (frameOps : FrameBackend ψ δ)
    (ready : PageTableHandoffReady κ β σ ψ) :
    Program.Triple (Serving 0) (leaveBootServices firmware frameOps ready)
      (fun result => InPhase (.left result.1.mapKey)) fun _ => Orderly := by
  have sets : Program.Triple (Serving 0) (ask firmware .setWatchdogTimer)
      (fun _ => Serving 0) fun (_ : BootStop) => Orderly := by
    refine ask_triple ?_
    intro machine reply asked serving appended
    obtain ⟨key, reached⟩ := serving
    exact ⟨none, reached.asked appended⟩
  refine sets.bind ?_
  intro timer
  cases timer with
  | error reason => exact .stop fun _ => Serving.orderly
  | ok done =>
      cases length : allocationByteLength ready.exit.bootInfo.allocations.rawMap with
      | none =>
          simp only [length]
          exact .stop fun _ => Serving.orderly
      | some rawLength =>
          simp only [length]
          have looks : Program.Triple (Serving 0)
              (.look Machine.systemTable : Program (Machine φ) BootStop Bool)
              (fun _ => Serving 0) fun _ => Orderly := .look fun _ serving => serving
          refine looks.bind ?_
          intro present
          split
          · exact .stop fun _ => Serving.orderly
          have captures : Program.Triple (Serving 0)
              (captureMemoryMap firmware ready.exit.bootInfo.allocations.rawMap.pageStart
                rawLength).attempt
              (fun outcome machine => match outcome with
                | .ok captured => InPhase (.serving 0 (some captured.mapKey)) machine
                | .error _ => Serving 0 machine)
              fun (_ : BootStop) => Orderly :=
            Program.Triple.attempt (captureFrom_triple 0 _ rawLength _)
          refine captures.bind ?_
          intro outcome
          cases outcome with
          | error reason => exact .stop fun _ => Serving.orderly
          | ok firstMap =>
              refine (writeLine_triple _).bind fun _ =>
                (exitWithRetry_triple _ rawLength firstMap).bind ?_
              intro finalMap
              refine (finalizePostExit_triple (delivered_cross frameOps ready) finalMap _
                rawLength).bind ?_
              intro arguments
              exact .pure fun _ reached => reached

end

/-! ## What an allowed trace looks like -/

/-- The requests of a trace, with their replies. -/
def requests (events : List Event) : List ((request : Request) × request.Reply) :=
  events.filterMap fun event => match event with
    | .line _ => none
    | .asked request reply => some ⟨request, reply⟩

/-- `GetMemoryMap` and `ExitBootServices`. -/
def Request.isLeaving : Request → Bool
  | .getMemoryMap _ _ => true
  | .exitBootServices _ => true
  | _ => false

def Event.isExit : Event → Bool
  | .asked (.exitBootServices _) _ => true
  | _ => false

/-- The rules of the firmware's interface for leaving boot services, and the
loader's own bound on the attempts. -/
structure ExitDiscipline (events : List Event) : Prop where
  fresh : ∀ earlier key status later,
    events = earlier ++ .asked (.exitBootServices key) status :: later →
      ∃ start length reply,
        (requests earlier).getLast? = some ⟨.getMemoryMap start length, reply⟩ ∧
          reply.status = .success ∧ reply.mapKey = key
  quiet : ∀ earlier key status later,
    events = earlier ++ .asked (.exitBootServices key) status :: later →
      ∀ request reply, .asked request reply ∈ later → request.isLeaving = true
  silent : ∀ earlier key later,
    events = earlier ++ .asked (.exitBootServices key) .success :: later →
      ∀ request reply, .asked request reply ∉ later
  attempts : events.countP Event.isExit ≤ exitBootServicesAttemptLimit

namespace Phase

theorem after_concat {events : List Event} {event : Event} {phase : Phase} :
    after (events ++ [event]) = some phase ↔
      ∃ before, after events = some before ∧ before.next event = some phase := by
  rw [after_append, Option.bind_eq_some_iff]
  simp [List.foldlM_cons]

/-- Everything that the monitor lets happen. -/
theorem next_cases {phase further : Phase} {event : Event}
    (step : phase.next event = some further) :
    (∃ text, event = .line text ∧ further = phase) ∨
    ∃ refused key, phase = .serving refused key ∧
      ((∃ start length reply, event = .asked (.getMemoryMap start length) reply ∧
        further = .serving refused (if reply.status = .success then some reply.mapKey else none)) ∨
      (∃ asked status, event = .asked (.exitBootServices asked) status ∧ key = some asked ∧
        refused < exitBootServicesAttemptLimit ∧
        further = if status = .success then .left asked else .serving (refused + 1) none) ∨
      ∃ request reply, event = .asked request reply ∧ request.isLeaving = false ∧ refused = 0 ∧
        further = .serving 0 none) := by
  cases event with
  | line text => exact .inl ⟨text, rfl, (Option.some.inj step).symm⟩
  | asked request reply =>
      cases phase with
      | left key => simp [next] at step
      | serving refused key =>
          refine .inr ⟨refused, key, rfl, ?_⟩
          cases request with
          | getMemoryMap start length =>
              exact .inl ⟨start, length, reply, rfl, (Option.some.inj step).symm⟩
          | exitBootServices asked =>
              obtain ⟨⟨held, below⟩, same⟩ := Option.ite_none_right_eq_some.mp step
              exact .inr (.inl ⟨asked, reply, rfl, held, below, (Option.some.inj same).symm⟩)
          | _ =>
              obtain ⟨first, same⟩ := Option.ite_none_right_eq_some.mp step
              exact .inr (.inr ⟨_, _, rfl, rfl, first, (Option.some.inj same).symm⟩)

theorem isExit_eq_false {request : Request} (plain : request.isLeaving = false)
    (reply : request.Reply) : (Event.asked request reply).isExit = false := by
  cases request with
  | exitBootServices key => contradiction
  | getMemoryMap start length => contradiction
  | _ => rfl

/-- What a held key says about the last request. -/
theorem after_key {events : List Event} {refused key : Nat}
    (reached : after events = some (.serving refused (some key))) :
    ∃ start length reply,
      (requests events).getLast? = some ⟨.getMemoryMap start length, reply⟩ ∧
        reply.status = .success ∧ reply.mapKey = key := by
  induction events using List.reverseRecOn with
  | nil => simp [after] at reached
  | append_singleton events event ih =>
      obtain ⟨before, earlier, step⟩ := after_concat.mp reached
      rcases next_cases step with ⟨text, rfl, rfl⟩ | ⟨count, held, rfl, mapped | left | other⟩
      · obtain ⟨start, length, reply, last, answered⟩ := ih earlier
        exact ⟨start, length, reply, by simpa [requests] using last, answered⟩
      · obtain ⟨start, length, reply, rfl, same⟩ := mapped
        obtain ⟨_, held⟩ := Phase.serving.inj same
        obtain ⟨success, keyed⟩ := Option.ite_none_right_eq_some.mp held.symm
        exact ⟨start, length, reply, by simp [requests], success, Option.some.inj keyed⟩
      · obtain ⟨asked, status, rfl, _, _, same⟩ := left
        split at same
        · contradiction
        · simp at same
      · obtain ⟨request, reply, rfl, _, _, same⟩ := other
        simp at same

/-- The exits that were asked for by a phase. -/
def Counts (count : Nat) : Phase → Prop
  | .serving refused _ => count = refused ∧ refused ≤ exitBootServicesAttemptLimit
  | .left _ => count ≤ exitBootServicesAttemptLimit

theorem after_counts {events : List Event} {phase : Phase} (reached : after events = some phase) :
    phase.Counts (events.countP Event.isExit) := by
  induction events using List.reverseRecOn generalizing phase with
  | nil =>
      cases reached
      exact ⟨rfl, by decide⟩
  | append_singleton events event ih =>
      obtain ⟨before, earlier, step⟩ := after_concat.mp reached
      have counted := ih earlier
      rw [List.countP_append]
      rcases next_cases step with ⟨text, rfl, rfl⟩ | ⟨refused, held, rfl, mapped | left | other⟩
      · exact counted
      · obtain ⟨start, length, reply, rfl, rfl⟩ := mapped
        exact counted
      · obtain ⟨asked, status, rfl, _, below, rfl⟩ := left
        have more : events.countP Event.isExit +
            [Event.asked (.exitBootServices asked) status].countP Event.isExit = refused + 1 :=
          congrArg (· + 1) counted.1
        rw [more]
        split
        · exact below
        · exact ⟨rfl, below⟩
      · obtain ⟨request, reply, rfl, plain, rfl, rfl⟩ := other
        rw [List.countP_singleton, isExit_eq_false plain]
        exact counted

theorem silent_of_left {key : Nat} {later : List Event} {phase : Phase}
    (allowed : later.foldlM next (.left key) = some phase) :
    ∃ texts : List String, later = texts.map Event.line := by
  induction later with
  | nil => exact ⟨[], rfl⟩
  | cons event later ih =>
      obtain ⟨middle, step, rest⟩ := Option.bind_eq_some_iff.mp allowed
      rcases next_cases step with ⟨text, rfl, rfl⟩ | ⟨_, _, same, _⟩
      · obtain ⟨texts, rfl⟩ := ih rest
        exact ⟨text :: texts, rfl⟩
      · contradiction

/-- Once an exit was refused, nothing but the way out is allowed. -/
theorem quiet_of_refused {refused : Nat} {key : Option Nat} {later : List Event} {phase : Phase}
    (allowed : later.foldlM next (.serving (refused + 1) key) = some phase) :
    ∀ request reply, .asked request reply ∈ later → request.isLeaving = true := by
  induction later generalizing refused key with
  | nil => simp
  | cons event later ih =>
      obtain ⟨middle, step, rest⟩ := Option.bind_eq_some_iff.mp allowed
      intro request reply member
      rcases next_cases step with ⟨text, rfl, rfl⟩ | ⟨count, held, same, mapped | left | other⟩
      · exact ih rest request reply (by simpa using member)
      · obtain ⟨start, length, answer, rfl, rfl⟩ := mapped
        cases same
        rcases List.mem_cons.mp member with first | inLater
        · cases first
          rfl
        · exact ih rest request reply inLater
      · obtain ⟨asked, status, rfl, _, _, rfl⟩ := left
        cases same
        rcases List.mem_cons.mp member with first | inLater
        · cases first
          rfl
        · split at rest
          · obtain ⟨texts, rfl⟩ := silent_of_left rest
            simp at inLater
          · exact ih rest request reply inLater
      · obtain ⟨_, _, _, _, first, _⟩ := other
        cases same
        contradiction

/-- The monitor's step at an exit. -/
theorem split_exit {earlier later : List Event} {key : Nat} {status : Status} {phase : Phase}
    (reached : after (earlier ++ .asked (.exitBootServices key) status :: later) = some phase) :
    ∃ refused, after earlier = some (.serving refused (some key)) ∧
      later.foldlM next (if status = .success then .left key else .serving (refused + 1) none) =
        some phase := by
  rw [after_append, Option.bind_eq_some_iff] at reached
  obtain ⟨before, start, rest⟩ := reached
  obtain ⟨middle, step, rest⟩ := Option.bind_eq_some_iff.mp rest
  cases before with
  | left old => simp [next] at step
  | serving refused held =>
      simp only [next, Option.ite_none_right_eq_some, Option.some.injEq] at step
      obtain ⟨⟨rfl, _⟩, rfl⟩ := step
      exact ⟨refused, start, rest⟩

theorem discipline {events : List Event} {phase : Phase} (reached : after events = some phase) :
    ExitDiscipline events where
  fresh := by
    rintro earlier key status later rfl
    obtain ⟨refused, start, _⟩ := split_exit reached
    exact after_key start
  quiet := by
    rintro earlier key status later rfl
    obtain ⟨refused, _, rest⟩ := split_exit reached
    split at rest
    · obtain ⟨texts, rfl⟩ := silent_of_left rest
      simp
    · exact quiet_of_refused rest
  silent := by
    rintro earlier key later rfl
    obtain ⟨refused, _, rest⟩ := split_exit reached
    obtain ⟨texts, rfl⟩ := silent_of_left rest
    simp
  attempts := by
    have counted := after_counts reached
    cases phase with
    | serving refused key =>
        obtain ⟨same, bounded⟩ := counted
        rw [same]
        exact bounded
    | left key => exact counted

/-- Where boot services ended, only lines follow the exit that succeeded. -/
theorem after_left {events : List Event} {key : Nat} (reached : after events = some (.left key)) :
    ∃ (earlier : List Event) (texts : List String), events =
      earlier ++ .asked (.exitBootServices key) .success :: texts.map Event.line := by
  induction events using List.reverseRecOn with
  | nil => simp [after] at reached
  | append_singleton events event ih =>
      obtain ⟨before, earlier, step⟩ := after_concat.mp reached
      rcases next_cases step with ⟨text, rfl, rfl⟩ | ⟨refused, held, rfl, mapped | left | other⟩
      · obtain ⟨start, texts, rfl⟩ := ih earlier
        exact ⟨start, texts ++ [text], by simp⟩
      · obtain ⟨_, _, _, _, same⟩ := mapped
        contradiction
      · obtain ⟨asked, status, rfl, _, _, same⟩ := left
        split at same
        · rename_i success
          cases same
          cases success
          exact ⟨events, [], rfl⟩
        · contradiction
      · obtain ⟨_, _, _, _, _, same⟩ := other
        contradiction

/-- Before the first exit every request is allowed. -/
theorem after_of_no_exit {events : List Event} (early : ∀ event ∈ events, event.isExit = false) :
    ∃ key, after events = some (.serving 0 key) := by
  induction events using List.reverseRecOn with
  | nil => exact ⟨none, rfl⟩
  | append_singleton events event ih =>
      obtain ⟨key, reached⟩ := ih fun other member => early other (by simp [member])
      have plain := early event (by simp)
      cases event with
      | line text => exact ⟨key, after_concat.mpr ⟨_, reached, rfl⟩⟩
      | asked request reply =>
          cases request with
          | exitBootServices asked => contradiction
          | _ => exact ⟨_, after_concat.mpr ⟨_, reached, rfl⟩⟩

end Phase

/-- Whatever the firmware answers, does to its map and does to memory, the
loader keeps the rules for leaving boot services; and where it goes on to the
kernel, it does so with the map whose key ended them. -/
theorem leaveBootServices_discipline {φ κ β σ ψ ε : Type} (firmware : Firmware φ)
    (frameOps : FrameBackend ψ ε) (ready : PageTableHandoffReady κ β σ ψ) (machine : Machine φ)
    (inside : ∀ event ∈ machine.events, event.isExit = false) :
    let ended := leaveBootServices firmware frameOps ready machine
    ExitDiscipline ended.2.events ∧
      ∀ finalMap arguments, ended.1 = .ok (finalMap, arguments) →
        ∃ (earlier : List Event) (texts : List String), ended.2.events = earlier ++
          .asked (.exitBootServices finalMap.mapKey) .success :: texts.map Event.line := by
  intro ended
  obtain ⟨returns, stops⟩ :=
    leaveBootServices_triple firmware frameOps ready machine (Phase.after_of_no_exit inside)
  cases outcome : ended.1 with
  | error reason =>
      obtain ⟨phase, reached⟩ := stops reason ended.2 (Prod.ext outcome rfl)
      exact ⟨Phase.discipline reached, by simp⟩
  | ok result =>
      have reached := returns result ended.2 (Prod.ext outcome rfl)
      refine ⟨Phase.discipline reached, ?_⟩
      intro finalMap arguments same
      cases same
      exact Phase.after_left reached

/-- A boot that needs its second attempt. -/
theorem leaveBootServices_discipline_restless :
    ∃ finalMap arguments after,
      leaveBootServices uefiFirmware oneFrame lowReady (lowBoot restless) =
        (.ok (finalMap, arguments), after) ∧ finalMap.mapKey = 8 ∧ ExitDiscipline after.events := by
  have obeyed := leaveBootServices_discipline uefiFirmware oneFrame lowReady (lowBoot restless)
    (List.forall_mem_nil _)
  have returned : (leaveBootServices uefiFirmware oneFrame lowReady (lowBoot restless)).1.toOption.map
      (fun result => result.1.mapKey) = some 8 := by decide +kernel
  cases ended : leaveBootServices uefiFirmware oneFrame lowReady (lowBoot restless) with
  | mk outcome after =>
      rw [ended] at obeyed returned
      cases outcome with
      | error reason => contradiction
      | ok result => exact ⟨result.1, result.2, after, rfl, Option.some.inj returned, obeyed.1⟩

end UnnamedOS.Loader
