import UnnamedOS.Loader.Machine

namespace UnnamedOS.Loader

open UnnamedOS.Data

/-! # What the firmware promises

The memory map belongs to the firmware, which may change it at any time; its
key tells one map from the next.  `Honest` is the part of the interface that
the loader relies on, `Responsive` the part that lets it get anywhere, and
`uefiFirmware` a firmware that keeps both while its map changes under the
loader at arbitrary moments. -/

/-- The bytes are a map of this stride and size, with anything behind it. -/
def LaysOut (map : List UefiMemoryDescriptor) (stride size : Nat) (raw : List UInt8) : Prop :=
  stride % uefiDescriptorAlignment = 0 ∧ ∃ entries rest, entries.map Prod.fst = map ∧
    (∀ entry ∈ entries, uefiDescriptorSize + entry.2.length = stride) ∧
    (∀ entry ∈ entries, UefiMemoryDescriptor.record.Fits entry.1) ∧
    size = (rawMapBytes entries).length ∧ raw = rawMapBytes entries ++ rest

/-- The loop over the raw buffer finds the map that is laid out there. -/
theorem LaysOut.convertRawMap {map : List UefiMemoryDescriptor} {captured : CapturedMapMeta}
    {raw : List UInt8} {kindOf : Nat → Nat} {mapped : List BootProtocol.MemoryDescriptor}
    (laid : LaysOut map captured.descriptorStride captured.mapSize raw)
    (bounded : raw.length < wordLimit)
    (ran : Loader.convertRawMap kindOf raw captured = some mapped) :
    mapped = map.map (mappedDescriptor kindOf) := by
  obtain ⟨_, entries, rest, rfl, filled, fits, size, rfl⟩ := laid
  have counted : captured.rawCount ≤ convertedDescriptorCapacity := by
    by_contra large
    rw [Loader.convertRawMap, if_pos (.inr (Nat.lt_of_not_le large))] at ran
    contradiction
  have sized : ∀ entry ∈ entries, (UefiMemoryDescriptor.record.encode entry.1 ++ entry.2).length =
      captured.descriptorStride := fun entry member => length_rawMapEntry (filled entry member)
  have room : entries.length ≤ convertedDescriptorCapacity := by
    have wide := captured.wide
    rw [CapturedMapMeta.rawCount, size, rawMapBytes, length_flatMap_sized sized,
      Nat.mul_div_cancel _ (Nat.lt_of_lt_of_le (by decide) wide)] at counted
    exact counted
  rw [convertRawMap_rawMapBytes kindOf filled fits size room bounded] at ran
  rw [List.map_map, ← Option.some.inj ran]
  rfl

section

variable {φ : Type}

/-- The promise, for a buffer of `length` bytes at `start`. -/
structure Honest (firmware : Firmware φ) (mapOf : φ → List UefiMemoryDescriptor)
    (keyOf : φ → Nat) (start length : Nat) : Prop where
  /-- A map that is reported stands in the buffer, and the key is its key. -/
  reports : ∀ state hardware,
    let answer := firmware (.getMemoryMap start length) state hardware
    answer.1.status = .success → answer.1.mapKey = keyOf answer.2.1 ∧
      LaysOut (mapOf answer.2.1) answer.1.descriptorStride answer.1.mapSize
        (window answer.2.2.memory start length)
  /-- Boot services end for the current key only, and leave the buffer alone. -/
  exits : ∀ key state hardware,
    let answer := firmware (.exitBootServices key) state hardware
    answer.1 = .success → key = keyOf answer.2.1 ∧
      window answer.2.2.memory start length = window hardware.memory start length
  /-- Another map has another key. -/
  keyed : ∀ request state hardware,
    let answer := firmware request state hardware
    keyOf answer.2.1 = keyOf state → mapOf answer.2.1 = mapOf state

/-- The firmware answers by its map as it is when it answers; `sizeOf` is the
number of bytes that the map takes. -/
structure Responsive (firmware : Firmware φ) (keyOf sizeOf : φ → Nat) (start length : Nat) :
    Prop where
  /-- A map that fits the buffer is reported. -/
  reports : ∀ state hardware,
    let answer := firmware (.getMemoryMap start length) state hardware
    sizeOf answer.2.1 ≤ length → answer.1.status = .success ∧
      answer.1.mapKey = keyOf answer.2.1 ∧ answer.1.mapSize = sizeOf answer.2.1 ∧
      uefiDescriptorSize ≤ answer.1.descriptorStride ∧
      answer.1.mapSize % answer.1.descriptorStride = 0
  /-- Of a map that does not fit, only the size is. -/
  tooSmall : ∀ state hardware,
    let answer := firmware (.getMemoryMap start length) state hardware
    length < sizeOf answer.2.1 →
      answer.1.status = .bufferTooSmall ∧ answer.1.mapSize = sizeOf answer.2.1
  /-- Boot services end for the current key; another one is an invalid parameter. -/
  exits : ∀ key state hardware,
    let answer := firmware (.exitBootServices key) state hardware
    answer.1 = if key = keyOf answer.2.1 then .success else .invalidParameter

end

/-! ## A firmware whose map changes -/

/-- The firmware describes memory in numbers of its own types. -/
abbrev FirmwareDescriptor : Type :=
  { descriptor : UefiMemoryDescriptor // UefiMemoryDescriptor.record.Fits descriptor }

/-- `changes` says, request by request, whether the map is replaced just before
the request is answered. -/
structure UefiState where
  map : List FirmwareDescriptor
  key : Nat
  changes : List (Option (List FirmwareDescriptor))

namespace UefiState

def tick (state : UefiState) : UefiState :=
  match state.changes with
  | [] => state
  | none :: later => { state with changes := later }
  | some map :: later => ⟨map, state.key + 1, later⟩

def descriptors (state : UefiState) : List UefiMemoryDescriptor := state.map.map Subtype.val

/-- The map as it is reported, with eight bytes behind each descriptor. -/
def entries (state : UefiState) : List (UefiMemoryDescriptor × List UInt8) :=
  state.map.map fun descriptor => (descriptor.val, List.replicate 8 0)

def bytes (state : UefiState) : List UInt8 := rawMapBytes state.entries

theorem length_bytes (state : UefiState) :
    state.bytes.length = state.map.length * (uefiDescriptorSize + 8) := by
  have sized : ∀ entry ∈ state.entries,
      (UefiMemoryDescriptor.record.encode entry.1 ++ entry.2).length = uefiDescriptorSize + 8 := by
    intro entry member
    obtain ⟨descriptor, _, rfl⟩ := List.mem_map.mp member
    exact length_rawMapEntry rfl
  rw [bytes, rawMapBytes, length_flatMap_sized sized, entries, List.length_map]

theorem tick_keyed {state : UefiState} (same : state.tick.key = state.key) :
    state.tick.descriptors = state.descriptors := by
  unfold tick at same ⊢
  split
  · rfl
  · rfl
  · rename_i map later next
    simp [next] at same

theorem laysOut_bytes (state : UefiState) (rest : List UInt8) :
    LaysOut state.descriptors (uefiDescriptorSize + 8) state.bytes.length
      (state.bytes ++ rest) := by
  refine ⟨rfl, state.entries, rest, ?_, ?_, ?_, rfl, rfl⟩
  · rw [entries, List.map_map]
    rfl
  · intro entry member
    obtain ⟨descriptor, _, rfl⟩ := List.mem_map.mp member
    rfl
  · intro entry member
    obtain ⟨descriptor, _, rfl⟩ := List.mem_map.mp member
    exact descriptor.property

end UefiState

/-- Only what leaving boot services needs is answered. -/
def uefiFirmware : Firmware UefiState := fun request before hardware =>
  let state := before.tick
  match request with
  | .getMemoryMap start length =>
      if state.bytes.length ≤ length then
        (⟨.success, state.bytes.length, state.key, uefiDescriptorSize + 8, 1⟩, state,
          { hardware with memory := store hardware.memory start state.bytes })
      else (⟨.bufferTooSmall, state.bytes.length, 0, uefiDescriptorSize + 8, 1⟩, state, hardware)
  | .exitBootServices key =>
      (if key = state.key then .success else .invalidParameter, state, hardware)
  | .setWatchdogTimer => (.ok (), state, hardware)
  | .getImageFileSystem => (.error .notReady, state, hardware)
  | .openVolume => (.error .notReady, state, hardware)
  | .openFile _ => (.error .notReady, state, hardware)
  | .intoType => (.error .notReady, state, hardware)
  | .setPosition _ => (.error .notReady, state, hardware)
  | .getPosition => (.error .notReady, state, hardware)
  | .readFile _ => ((.error .notReady, []), state, hardware)
  | .allocatePages _ _ => (.error .notReady, state, hardware)
  | .freePages _ _ => (.error .notReady, state, hardware)
  | .openGraphicsOutput => (.error .notReady, state, hardware)

theorem uefiFirmware_state (request : Request) (state : UefiState) (hardware : Hardware) :
    (uefiFirmware request state hardware).2.1 = state.tick := by
  cases request with
  | getMemoryMap start length =>
      simp only [uefiFirmware]
      split
      · rfl
      · rfl
  | _ => rfl

section

variable {state : UefiState} {hardware : Hardware} {start length : Nat}

theorem uefiFirmware_fits (fits : state.tick.bytes.length ≤ length) :
    uefiFirmware (.getMemoryMap start length) state hardware =
      (⟨.success, state.tick.bytes.length, state.tick.key, uefiDescriptorSize + 8, 1⟩, state.tick,
        { hardware with memory := store hardware.memory start state.tick.bytes }) :=
  if_pos fits

theorem uefiFirmware_tooSmall (large : length < state.tick.bytes.length) :
    uefiFirmware (.getMemoryMap start length) state hardware =
      (⟨.bufferTooSmall, state.tick.bytes.length, 0, uefiDescriptorSize + 8, 1⟩, state.tick,
        hardware) :=
  if_neg (Nat.not_le.mpr large)

end

theorem uefiFirmware_honest (start length : Nat) :
    Honest uefiFirmware UefiState.descriptors UefiState.key start length where
  reports := by
    intro state hardware answer success
    rcases Nat.lt_or_ge length state.tick.bytes.length with large | fits
    · have same : answer = _ := uefiFirmware_tooSmall large
      rw [same] at success
      contradiction
    · have same : answer = _ := uefiFirmware_fits fits
      rw [same]
      refine ⟨rfl, ?_⟩
      rw [window_store_front fits]
      exact state.tick.laysOut_bytes _
  exits := by
    intro key state hardware answer success
    refine ⟨?_, rfl⟩
    by_contra other
    have refused : answer.1 = .invalidParameter := if_neg other
    rw [refused] at success
    contradiction
  keyed := by
    intro request state hardware answer same
    have next : answer.2.1 = state.tick := uefiFirmware_state request state hardware
    rw [next] at same ⊢
    exact UefiState.tick_keyed same

theorem uefiFirmware_responsive (start length : Nat) :
    Responsive uefiFirmware UefiState.key (fun state => state.bytes.length) start length where
  reports := by
    intro state hardware answer fits
    have next : answer.2.1 = state.tick := uefiFirmware_state _ state hardware
    rw [next] at fits
    have same : answer = _ := uefiFirmware_fits fits
    rw [same]
    refine ⟨rfl, rfl, rfl, Nat.le_add_right _ _, ?_⟩
    simp only [UefiState.length_bytes, Nat.mul_mod_left]
  tooSmall := by
    intro state hardware answer large
    have next : answer.2.1 = state.tick := uefiFirmware_state _ state hardware
    rw [next] at large
    have same : answer = _ := uefiFirmware_tooSmall large
    rw [same]
    exact ⟨rfl, rfl⟩
  exits := fun _ _ _ => rfl

end UnnamedOS.Loader
