import UnnamedOS.Loader.Main

namespace UnnamedOS.Loader

open UnnamedOS.Data UnnamedOS.PageTable UnnamedOS.MemoryMap UnnamedOS.BootProtocol

/-! # The serial port

What a run writes to the serial port is settled by how it ends.  A run that
reaches the kernel has written the line of each stage, in order; a run that
ends through the debug port has a failure for its last line. -/

def Event.text : Event → Option String
  | .line text => some text
  | .asked _ _ => none

def Machine.serial {φ : Type} (machine : Machine φ) : List String :=
  machine.events.filterMap Event.text

/-- The lines behind which nothing more is written. -/
def failureMarkers : List String :=
  ["UNOS:P1C:PANIC",
    "UNOS:P1D:FAIL:OPEN", "UNOS:P1D:FAIL:SIZE", "UNOS:P1D:FAIL:ALLOC", "UNOS:P1D:FAIL:READ",
    "UNOS:P1D:FAIL:SHORT_READ", "UNOS:P1D:FAIL:ELF", "UNOS:P1D:FAIL:FREE",
    "UNOS:P1E:FAIL:PLAN", "UNOS:P1E:FAIL:SOURCE_OVERLAP", "UNOS:P1E:FAIL:ALLOC",
    "UNOS:P1E:FAIL:ZERO", "UNOS:P1E:FAIL:COPY", "UNOS:P1E:FAIL:VERIFY", "UNOS:P1E:FAIL:FREE",
    "UNOS:P1F:FAIL:OWNERSHIP", "UNOS:P1F:FAIL:METADATA", "UNOS:P1F:FAIL:SOURCE_FREE",
    "UNOS:P1F:FAIL:OWNERSHIP_PROBE",
    "UNOS:P1G:FAIL:GOP", "UNOS:P1G:FAIL:ALLOC", "UNOS:P1G:FAIL:MAP", "UNOS:P1G:FAIL:CONVERT",
    "UNOS:P1G:FAIL:RESERVATION", "UNOS:P1G:FAIL:FRAMEBUFFER", "UNOS:P1G:FAIL:BOOTINFO",
    "UNOS:P1H:FAIL:EXIT", "UNOS:P1H:FAIL:FINAL_MAP", "UNOS:P1H:FAIL:BOOTINFO",
    "UNOS:P1I:FAIL:STACK", "UNOS:P1I:FAIL:HANDOFF", "UNOS:P1I:FAIL",
    "UNOS:P1J:FAIL:PLAN", "UNOS:P1J:FAIL:ALLOC", "UNOS:P1J:FAIL:MATERIALIZE",
    "UNOS:P1J:FAIL:VERIFY", "UNOS:P1J:FAIL:RESERVATION", "UNOS:P1J:FAIL:CPU_POLICY",
    "UNOS:P1J:FAIL:CR3_STABILITY"]

theorem KernelLoadError.marker_mem (error : KernelLoadError) : error.marker ∈ failureMarkers := by
  cases error with
  | _ => simp only [KernelLoadError.marker]; decide

theorem PageTableLoadError.marker_mem (error : PageTableLoadError) :
    error.marker ∈ failureMarkers := by
  cases error with
  | _ => simp only [PageTableLoadError.marker]; decide

theorem BootInfoLoadError.marker_mem (error : BootInfoLoadError) :
    error.marker ∈ failureMarkers := by
  cases error with
  | pageTable error => exact error.marker_mem
  | _ => simp only [BootInfoLoadError.marker]; decide

theorem SegmentLoadError.marker_mem (error : SegmentLoadError) : error.marker ∈ failureMarkers := by
  cases error with
  | bootInfo error => exact error.marker_mem
  | _ => simp only [SegmentLoadError.marker]; decide

theorem LoaderError.marker_mem (error : LoaderError) : error.marker ∈ failureMarkers := by
  cases error with
  | kernel error => exact error.marker_mem
  | segments error => exact error.marker_mem

section

variable {φ ε δ α β : Type} {firmware : Firmware φ} {machine : Machine φ}

@[simp] theorem serial_say (texts : List String) :
    (machine.say texts).serial = machine.serial ++ texts := by
  have spoken : (texts.map Event.line).filterMap Event.text = texts := by
    simp [List.filterMap_map, Function.comp_def, Event.text]
  simp only [Machine.serial, Machine.say, List.filterMap_append, spoken]

@[simp] theorem serial_asked (request : Request) :
    (machine.asked firmware request).2.serial = machine.serial := by
  have events : (machine.asked firmware request).2.events =
      machine.events ++ [.asked request (machine.asked firmware request).1] := rfl
  rw [Machine.serial, Machine.serial, events, List.filterMap_append]
  exact List.append_nil _

/-- Where the run ends through the debug port, the last line says why. -/
def Alarmed : Stop ε → Machine φ → Prop
  | .returned _, _ => True
  | .failed, machine => ∃ marker ∈ failureMarkers, machine.serial.getLast? = some marker

/-- A run that returns has written these lines and no others. -/
def Reports (program : Program (Machine φ) (Stop ε) α) (lines : List String) : Prop :=
  ∀ said, Program.Triple (fun machine => machine.serial = said) program
    (fun _ machine => machine.serial = said ++ lines) Alarmed

/-- A run whose lines do not matter, because it is given up afterwards. -/
def Tame (program : Program (Machine φ) (Stop ε) α) : Prop :=
  Program.Triple (fun _ => True) program (fun _ _ => True) Alarmed

def GivesUp (program : Program (Machine φ) (Stop ε) α) : Prop :=
  Program.Triple (fun _ => True) program (fun _ _ => False) Alarmed

namespace Reports

variable {program : Program (Machine φ) (Stop ε) α} {next : α → Program (Machine φ) (Stop ε) β}
  {lines later : List String} {marker : String}

theorem pure (value : α) : Reports (Pure.pure value : Program (Machine φ) (Stop ε) α) [] := by
  intro said
  exact .pure fun _ same => same.trans (List.append_nil said).symm

theorem returned (error : ε) :
    Reports (.stop (.returned error) : Program (Machine φ) (Stop ε) α) lines :=
  fun _ => .stop fun _ _ => trivial

theorem look (observe : Machine φ → α) :
    Reports (.look observe : Program (Machine φ) (Stop ε) α) [] := by
  intro said
  exact .look fun _ same => same.trans (List.append_nil said).symm

theorem call {answer : Machine φ → α × Machine φ}
    (silent : ∀ machine, (answer machine).2.serial = machine.serial) :
    Reports (.call answer : Program (Machine φ) (Stop ε) α) [] := by
  intro said
  exact .call fun machine same => (silent machine).trans (same.trans (List.append_nil said).symm)

theorem ask (request : Request) :
    Reports (ask firmware request : Program (Machine φ) (Stop ε) _) [] :=
  call fun _ => serial_asked request

theorem writeLine (text : String) :
    Reports (writeLine text : Program (Machine φ) (Stop ε) Unit) [text] := by
  intro said
  refine .change fun machine same => ?_
  exact (serial_say [text]).trans (congrArg (· ++ [text]) same)

theorem writeMemory (update : (Nat → UInt8) → Nat → UInt8) :
    Reports (writeMemory update : Program (Machine φ) (Stop ε) Unit) [] := by
  intro said
  exact .change fun _ same => same.trans (List.append_nil said).symm

theorem readMemory : Reports (readMemory : Program (Machine φ) (Stop ε) _) [] := look _

theorem orReturn (outcome : Option α) (error : ε) :
    Reports (orReturn outcome error : Program (Machine φ) (Stop ε) α) [] := by
  cases outcome with
  | none => exact returned error
  | some value => exact pure value

theorem bind (first : Reports program lines) (second : ∀ value, Reports (next value) later) :
    Reports (program >>= next) (lines ++ later) := by
  intro said
  have continued := fun value => second value (said ++ lines)
  simp only [List.append_assoc] at continued
  exact (first said).bind continued

/-- A stage that is not heard of. -/
theorem silent (first : Reports program []) (second : ∀ value, Reports (next value) lines) :
    Reports (program >>= next) lines :=
  bind first second

theorem line {next : Unit → Program (Machine φ) (Stop ε) β} (text : String)
    (second : ∀ value, Reports (next value) lines) :
    Reports (Loader.writeLine text >>= next) (text :: lines) :=
  bind (writeLine text) second

theorem ite {condition : Prop} [Decidable condition] {other : Program (Machine φ) (Stop ε) α}
    (yes : Reports program lines) (no : Reports other lines) :
    Reports (if condition then program else other) lines := by
  split
  · exact yes
  · exact no

theorem returning {convert : ε → δ} (reports : Reports program lines) :
    Reports (returning convert program) lines := by
  intro said
  refine Program.Triple.mapStop ((reports said).imp (fun _ => id) (fun _ _ => id) ?_)
  intro reason machine alarmed
  cases reason with
  | returned error => exact trivial
  | failed => exact alarmed

theorem unwinding {drop : Machine φ → Machine φ} (reports : Reports program lines) :
    Reports (unwinding drop program) lines := by
  intro said
  refine (reports said).onStop ?_
  intro reason machine alarmed
  cases reason with
  | returned error => exact trivial
  | failed => exact alarmed

end Reports

theorem alarmed_failWith {marker : String} (listed : marker ∈ failureMarkers) :
    GivesUp (failWith marker : Program (Machine φ) (Stop ε) α) := by
  refine .bind (.change fun machine _ => ?_) fun _ => .stop fun machine alarmed => alarmed
  have last : (machine.say [marker]).serial.getLast? = some marker := by simp
  exact ⟨marker, listed, last⟩

namespace GivesUp

variable {program : Program (Machine φ) (Stop ε) α} {next : α → Program (Machine φ) (Stop ε) β}
  {lines : List String}

theorem triple {before : Machine φ → Prop} {returns : α → Machine φ → Prop}
    (gives : GivesUp program) : Program.Triple before program returns Alarmed :=
  gives.imp (fun _ _ => trivial) (fun _ _ => False.elim) fun _ _ => id

theorem reports (gives : GivesUp program) : Reports program lines := fun _ => gives.triple

theorem returned (error : ε) :
    GivesUp (.stop (.returned error) : Program (Machine φ) (Stop ε) α) :=
  .stop fun _ _ => trivial

theorem after (first : Tame program) (second : ∀ value, GivesUp (next value)) :
    GivesUp (program >>= next) :=
  Program.Triple.bind first second

end GivesUp

namespace Tame

theorem call (answer : Machine φ → α × Machine φ) :
    Tame (.call answer : Program (Machine φ) (Stop ε) α) :=
  Program.Triple.call fun _ _ => trivial

theorem change (update : Machine φ → Machine φ) :
    Tame (.change update : Program (Machine φ) (Stop ε) Unit) :=
  Program.Triple.change fun _ _ => trivial

theorem pure (value : α) : Tame (Pure.pure value : Program (Machine φ) (Stop ε) α) :=
  Program.Triple.pure fun _ _ => trivial

end Tame

theorem Reports.panicked {lines : List String} :
    Reports (panicked : Program (Machine φ) (Stop ε) α) lines :=
  (alarmed_failWith (by decide)).reports

theorem Reports.orFail {marker : String} (listed : marker ∈ failureMarkers) (value : Option α) :
    Reports (orFail value marker : Program (Machine φ) BootStop α) [] := by
  cases value with
  | none => exact (alarmed_failWith listed).reports
  | some found => exact .pure found

/-! ## Programs with errors of their own -/

/-- Nothing is written, however the program ends. -/
abbrev Mute (program : Program (Machine φ) ε α) : Prop := Program.Keeps Machine.serial program

namespace Mute

variable {program : Program (Machine φ) ε α}

theorem ask (request : Request) : Mute (ask firmware request : Program (Machine φ) ε _) :=
  fun _ => serial_asked request

theorem leaves (mute : Mute program) {outcome : Except ε α} {machine after : Machine φ}
    {said : List String} (same : machine.serial = said) (ran : program machine = (outcome, after)) :
    after.serial = said ++ [] := by
  have kept := mute machine
  rw [ran, same] at kept
  rw [List.append_nil]
  exact kept

/-- Its outcome is a value for what follows. -/
theorem attempt (mute : Mute program) :
    Reports (program.attempt : Program (Machine φ) (Stop δ) (Except ε α)) [] :=
  fun _ => .attempt fun _ same =>
    ⟨fun _ _ ran => mute.leaves same ran, fun _ _ ran => mute.leaves same ran⟩

theorem returned {convert : ε → δ} (mute : Mute program) :
    Reports (program.mapStop fun reason => Stop.returned (convert reason)) [] :=
  fun _ => .mapStop fun _ same => ⟨fun _ _ ran => mute.leaves same ran, fun _ _ _ => trivial⟩

end Mute

end

end UnnamedOS.Loader
