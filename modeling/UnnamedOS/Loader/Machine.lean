import UnnamedOS.Data.Program
import UnnamedOS.Loader.BootInformation
import UnnamedOS.Loader.RawMap
import UnnamedOS.PageTable.CpuReadiness

namespace UnnamedOS.Loader

open UnnamedOS.Data UnnamedOS.PageTable

/-! # The machine the loader runs on

Until boot services end, the firmware answers requests.  It is an arbitrary
function: it may change its own state, the memory and the processor at every
request.  What the loader asks and what it writes to the serial port are kept
in one list, in their order. -/

/-- The status codes that the loader tells apart. -/
inductive Status where
  | success
  | invalidParameter
  | bufferTooSmall
  | notReady
  | compromisedData
  | aborted
  | other (code : Nat)
deriving DecidableEq, Repr

inductive AllocateType where
  | anyPages
  | maxAddress (limit : Nat)
  | address (start : Nat)
deriving DecidableEq, Repr

/-- `NonNull<u8>`: `allocate_pages` has no other pointers. -/
abbrev NonNull : Type := { address : Nat // address ≠ 0 }

inductive FileType where
  | regular
  | dir
deriving DecidableEq, Repr

/-- The answer to `GetMemoryMap`; the descriptors are in the buffer. -/
structure MapReply where
  status : Status
  mapSize : Nat
  mapKey : Nat
  descriptorStride : Nat
  descriptorVersion : Nat
deriving DecidableEq, Repr

/-- `PixelFormat`, with the bitmask that the mode may lack. -/
inductive PixelFormat where
  | rgb
  | bgr
  | bitmask (masks : Option (Nat × Nat × Nat × Nat))
  | bltOnly
deriving DecidableEq, Repr

/-- The current mode and the framebuffer of the graphics output. -/
structure GraphicsMode where
  width : Nat
  height : Nat
  stride : Nat
  pixelFormat : PixelFormat
  frameBufferStart : Nat
  frameBufferSize : Nat
deriving DecidableEq, Repr

inductive Request where
  | getImageFileSystem
  | openVolume
  | openFile (path : String)
  | intoType
  | setPosition (position : Nat)
  | getPosition
  | readFile (length : Nat)
  | allocatePages (type : AllocateType) (pages : Nat)
  | freePages (start pages : Nat)
  | openGraphicsOutput
  | setWatchdogTimer
  | getMemoryMap (start length : Nat)
  | exitBootServices (mapKey : Nat)
deriving DecidableEq, Repr

/-- What a request is answered with.  A read reports a count, and what it wrote
to the front of the buffer. -/
abbrev Request.Reply : Request → Type
  | getImageFileSystem => Except Status Unit
  | openVolume => Except Status Unit
  | openFile _ => Except Status Unit
  | intoType => Except Status FileType
  | setPosition _ => Except Status Unit
  | getPosition => Except Status Nat
  | readFile _ => Except Status Nat × List UInt8
  | allocatePages _ _ => Except Status NonNull
  | freePages _ _ => Except Status Unit
  | openGraphicsOutput => Except Status GraphicsMode
  | setWatchdogTimer => Except Status Unit
  | getMemoryMap _ _ => MapReply
  | exitBootServices _ => Status

inductive Event where
  | line (text : String)
  | asked (request : Request) (reply : request.Reply)

/-- What the loader and the firmware share. -/
structure Hardware where
  memory : Nat → UInt8
  cpu : RawCpuSnapshot

abbrev Firmware (φ : Type) : Type :=
  (request : Request) → φ → Hardware → request.Reply × φ × Hardware

/-- `systemTable` says whether the pointers to the table and to boot services
are set. -/
structure Machine (φ : Type) where
  firmware : φ
  hardware : Hardware
  systemTable : Bool
  events : List Event

/-- How a run ends without a result: with an error for the caller, or through
the debug port. -/
inductive Stop (ε : Type) where
  | returned (error : ε)
  | failed
deriving DecidableEq, Repr

def Stop.map {ε δ : Type} (convert : ε → δ) : Stop ε → Stop δ
  | .returned error => .returned (convert error)
  | .failed => .failed

variable {φ ε δ α : Type}

def Machine.asked (firmware : Firmware φ) (machine : Machine φ) (request : Request) :
    request.Reply × Machine φ :=
  let (reply, state, hardware) := firmware request machine.firmware machine.hardware
  (reply, { machine with
    firmware := state
    hardware
    events := machine.events ++ [.asked request reply] })

def ask (firmware : Firmware φ) (request : Request) : Program (Machine φ) ε request.Reply :=
  .call fun machine => machine.asked firmware request

/-- `serial.write_line`. -/
def writeLine (text : String) : Program (Machine φ) ε Unit :=
  .change fun machine => { machine with events := machine.events ++ [.line text] }

/-- A line, and then the end of the run. -/
def failWith (marker : String) : Program (Machine φ) (Stop ε) α := do
  writeLine marker
  .stop .failed

/-- The panic handler. -/
def panicked : Program (Machine φ) (Stop ε) α := failWith "UNOS:P1C:PANIC"

/-- `map_err(|_| error)?`. -/
def orReturn (outcome : Option α) (error : ε) : Program (Machine φ) (Stop ε) α :=
  match outcome with
  | some value => pure value
  | none => .stop (.returned error)

/-- `map_err(convert)` on a whole function. -/
def returning (convert : ε → δ) (program : Program (Machine φ) (Stop ε) α) :
    Program (Machine φ) (Stop δ) α :=
  program.mapStop (Stop.map convert)

/-- An error that is returned past an owner drops it; the end of the run drops
nothing. -/
def unwinding (drop : Machine φ → Machine φ) (program : Program (Machine φ) (Stop ε) α) :
    Program (Machine φ) (Stop ε) α :=
  program.onStop fun reason machine =>
    match reason with
    | .returned _ => drop machine
    | .failed => machine

def writeMemory (update : (Nat → UInt8) → Nat → UInt8) : Program (Machine φ) ε Unit :=
  .change fun machine => { machine with
    hardware := { machine.hardware with memory := update machine.hardware.memory } }

def readMemory : Program (Machine φ) ε (Nat → UInt8) :=
  .look fun machine => machine.hardware.memory

/-- The machine with more lines on its serial port. -/
def Machine.say (machine : Machine φ) (texts : List String) : Machine φ :=
  { machine with events := machine.events ++ texts.map .line }

def Machine.withMemory (machine : Machine φ) (memory : Nat → UInt8) : Machine φ :=
  { machine with hardware := { machine.hardware with memory } }

section

variable {machine : Machine φ} {memory other : Nat → UInt8} {text : String}
  {texts later : List String}

@[simp] theorem writeLine_run :
    (writeLine text : Program (Machine φ) ε Unit) machine = (.ok (), machine.say [text]) := rfl

@[simp] theorem say_say : (machine.say texts).say later = machine.say (texts ++ later) := by
  simp [Machine.say]

@[simp] theorem say_hardware : (machine.say texts).hardware = machine.hardware := rfl

@[simp] theorem withMemory_memory : (machine.withMemory memory).hardware.memory = memory := rfl

@[simp] theorem withMemory_cpu : (machine.withMemory memory).hardware.cpu = machine.hardware.cpu :=
  rfl

@[simp] theorem withMemory_withMemory :
    (machine.withMemory memory).withMemory other = machine.withMemory other := rfl

@[simp] theorem withMemory_same : machine.withMemory machine.hardware.memory = machine := rfl

theorem say_withMemory :
    (machine.say texts).withMemory memory = (machine.withMemory memory).say texts := rfl

end

theorem ask_run {firmware : Firmware φ} {request : Request} {reply : request.Reply} {state : φ}
    {hardware : Hardware} {machine : Machine φ}
    (answered : firmware request machine.firmware machine.hardware = (reply, state, hardware)) :
    (ask firmware request : Program (Machine φ) ε request.Reply) machine =
      (.ok reply, { machine with
        firmware := state
        hardware
        events := machine.events ++ [.asked request reply] }) := by
  rw [ask, Program.call_run, Machine.asked, answered]

section

variable {outcome : Option α} {error : ε} {program : Program (Machine φ) (Stop ε) α}
  {convert : ε → δ} {drop : Machine φ → Machine φ} {machine after : Machine φ} {value : α}

theorem orReturn_eq_ok :
    (orReturn outcome error : Program (Machine φ) (Stop ε) α) machine = (.ok value, after) ↔
      outcome = some value ∧ machine = after := by
  cases outcome with
  | none => simp [orReturn]
  | some found => simp [orReturn]

theorem returning_eq_ok :
    returning convert program machine = (.ok value, after) ↔
      program machine = (.ok value, after) := by
  unfold returning Program.mapStop
  cases program machine with
  | mk outcome middle =>
      cases outcome with
      | ok found => simp [Except.mapError]
      | error reason => simp [Except.mapError]

theorem unwinding_eq_ok :
    unwinding drop program machine = (.ok value, after) ↔ program machine = (.ok value, after) := by
  unfold unwinding Program.onStop
  cases program machine with
  | mk outcome middle =>
      cases outcome with
      | ok found => simp
      | error reason => simp

end

/-! ## Capturing the memory map -/

def retryIsAllowed (attempt : Nat) : Bool := decide (attempt < rawMemoryMapRetryLimit)

/-- The checks on a successful reply; what passes them is a captured map. -/
def MapReply.accept (reply : MapReply) (length : Nat) : Option CapturedMapMeta :=
  if checks : uefiDescriptorSize ≤ reply.descriptorStride ∧ reply.mapSize ≠ 0 ∧
      reply.mapSize ≤ length ∧ reply.mapSize % reply.descriptorStride = 0 then
    some {
      mapSize := reply.mapSize
      descriptorStride := reply.descriptorStride
      descriptorVersion := reply.descriptorVersion
      mapKey := reply.mapKey
      wide := checks.1
      nonempty := checks.2.1
      whole := checks.2.2.2 }
  else none

/-- The loop of `capture_memory_map` over the attempts left, on the buffer of
`length` bytes at `start`. -/
def captureFrom (firmware : Firmware φ) (start length : Nat) :
    List Nat → Program (Machine φ) Status CapturedMapMeta
  | [] => .stop .aborted
  | attempt :: later => do
      let systemTable ← .look Machine.systemTable
      if systemTable = false then .stop .notReady
      else do
        let reply ← ask firmware (.getMemoryMap start length)
        if reply.status = .success then
          match reply.accept length with
          | none => .stop .compromisedData
          | some captured => pure captured
        else if reply.status ≠ .bufferTooSmall ∨ reply.mapSize > length ∨
            retryIsAllowed attempt = false then
          .stop reply.status
        else captureFrom firmware start length later

def captureMemoryMap (firmware : Firmware φ) (start length : Nat) :
    Program (Machine φ) Status CapturedMapMeta :=
  captureFrom firmware start length (List.range (rawMemoryMapRetryLimit + 1))

end UnnamedOS.Loader
