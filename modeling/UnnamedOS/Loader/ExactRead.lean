import UnnamedOS.Data.Fallible

namespace UnnamedOS.Loader

open UnnamedOS.Data

/-! # Reading a file of known length

`read_exact_and_check_eof` fills a buffer from a reader that may return as
little as it likes at a time, and then asks for one more byte to see that
there is none. -/

inductive ReadError where
  | shortRead
  | tooManyBytes
deriving DecidableEq, Repr

/-- `ReadProgress`; its constructor and `record` keep the count inside. -/
structure ReadProgress where
  expected : Nat
  completed : Nat
  bounded : completed ≤ expected

namespace ReadProgress

def new (expected : Nat) : ReadProgress := ⟨expected, 0, Nat.zero_le _⟩

def remaining (progress : ReadProgress) : Nat := progress.expected - progress.completed

def record (progress : ReadProgress) (bytes : Nat) : Except ReadError ReadProgress :=
  if bytes = 0 ∧ progress.remaining ≠ 0 then .error .shortRead
  else if inside : bytes > progress.remaining then .error .tooManyBytes
  else .ok {
    expected := progress.expected
    completed := progress.completed + bytes
    bounded := by
      have bounded := progress.bounded
      simp only [remaining] at inside
      omega }

def finish (progress : ReadProgress) : Except ReadError Unit :=
  if progress.completed = progress.expected then .ok () else .error .shortRead

end ReadProgress

/-- `ByteReader`: a read gets a slice, reports a count of its own choosing and
leaves bytes in the slice, whose length it cannot change. -/
structure ByteReader (ρ ε : Type) where
  read : ρ → List UInt8 → Except ε Nat × List UInt8 × ρ
  sized : ∀ state slice, (read state slice).2.1.length = slice.length

inductive ExactReadError (ε : Type) where
  | source (error : ε)
  | shortRead
  | extraData
deriving DecidableEq, Repr

/-- How the function ends without success.  A model run may also be cut off. -/
inductive ReadStop (ε : Type) where
  | failed (error : ExactReadError ε)
  | panicked
  | cutOff
deriving DecidableEq, Repr

def ReadError.exact {ε : Type} : ReadError → ExactReadError ε
  | .shortRead => .shortRead
  | .tooManyBytes => .extraData

variable {ρ ε : Type}

/-- The body of the loop.  The slice `buffer[completed..]` is all the reader
sees; it panics where the counter is past the buffer. -/
def readOnce (reader : ByteReader ρ ε) (progress : ReadProgress) (buffer : List UInt8) (state : ρ) :
    Except (ReadStop ε) ReadProgress × List UInt8 × ρ :=
  if progress.completed > buffer.length then (.error .panicked, buffer, state)
  else
    match reader.read state (buffer.drop progress.completed) with
    | (.error source, slice, state) =>
        (.error (.failed (.source source)), buffer.take progress.completed ++ slice, state)
    | (.ok read, slice, state) =>
        ((progress.record read).mapError fun error => .failed error.exact,
          buffer.take progress.completed ++ slice, state)

/-- The loop, for at most `fuel` iterations. -/
def readLoop (reader : ByteReader ρ ε) :
    Nat → ReadProgress → List UInt8 → ρ → Except (ReadStop ε) ReadProgress × List UInt8 × ρ
  | 0, progress, buffer, state =>
      (if progress.remaining = 0 then .ok progress else .error .cutOff, buffer, state)
  | fuel + 1, progress, buffer, state =>
      if progress.remaining = 0 then (.ok progress, buffer, state)
      else
        match readOnce reader progress buffer state with
        | (.error stop, buffer, state) => (.error stop, buffer, state)
        | (.ok progress, buffer, state) => readLoop reader fuel progress buffer state

/-- The end of the function: a read of one byte more. -/
def checkEof (reader : ByteReader ρ ε) (buffer : List UInt8) (state : ρ) :
    Except (ReadStop ε) Unit × List UInt8 × ρ :=
  match reader.read state [0] with
  | (.error source, _, state) => (.error (.failed (.source source)), buffer, state)
  | (.ok 0, _, state) => (.ok (), buffer, state)
  | (.ok _, _, state) => (.error (.failed .extraData), buffer, state)

def readExactAndCheckEof (reader : ByteReader ρ ε) (fuel : Nat) (buffer : List UInt8) (state : ρ) :
    Except (ReadStop ε) Unit × List UInt8 × ρ :=
  match readLoop reader fuel (.new buffer.length) buffer state with
  | (.error stop, buffer, state) => (.error stop, buffer, state)
  | (.ok progress, buffer, state) =>
      match progress.finish with
      | .error _ => (.error (.failed .shortRead), buffer, state)
      | .ok _ => checkEof reader buffer state

/-- The same reader, with its reads counted. -/
def ByteReader.counted (reader : ByteReader ρ ε) : ByteReader (ρ × Nat) ε where
  read state slice :=
    match reader.read state.1 slice with
    | (result, slice, next) => (result, slice, next, state.2 + 1)
  sized state slice := reader.sized state.1 slice

/-! ## Any reader -/

theorem ReadProgress.record_ends (progress : ReadProgress) (bytes : Nat) :
    Ends (fun next => next.expected = progress.expected ∧
        next.completed = progress.completed + bytes ∧ bytes ≤ progress.remaining ∧
        (progress.remaining ≠ 0 → 0 < bytes))
      (fun reason => reason = .shortRead ∧ bytes = 0 ∨
        reason = .tooManyBytes ∧ progress.remaining < bytes)
      (progress.record bytes) := by
  unfold record
  refine .guard (fun stalled => .inl ⟨rfl, stalled.1⟩) ?_
  intro moves
  split
  · rename_i beyond
    exact .stops (.inr ⟨rfl, beyond⟩)
  · rename_i inside
    refine .returns ⟨rfl, rfl, Nat.le_of_not_lt inside, ?_⟩
    intro unfinished
    exact Nat.pos_of_ne_zero fun none => moves ⟨none, unfinished⟩

section

variable (reader : ByteReader ρ ε) {progress : ReadProgress} {buffer : List UInt8}

/-- Whatever the reader does, an iteration moves the counter and stays inside
the buffer, or ends the function with an error of its own. -/
theorem readOnce_safe (state : ρ) (sized : buffer.length = progress.expected)
    (unfinished : progress.remaining ≠ 0) :
    Ends (fun next => next.expected = progress.expected ∧ next.remaining < progress.remaining)
      (fun stop => ∃ error, stop = .failed error) (readOnce reader progress buffer state).1 ∧
    (readOnce reader progress buffer state).2.1.length = buffer.length := by
  have inside : ¬ progress.completed > buffer.length := by
    have bounded := progress.bounded
    omega
  have same := reader.sized state (buffer.drop progress.completed)
  unfold readOnce
  rw [if_neg inside]
  cases called : reader.read state (buffer.drop progress.completed) with
  | mk result rest =>
      obtain ⟨slice, next⟩ := rest
      rw [called, List.length_drop] at same
      have length : (buffer.take progress.completed ++ slice).length = buffer.length := by
        simp only [List.length_append, List.length_take, same]
        omega
      cases result with
      | error source => exact ⟨.stops ⟨_, rfl⟩, length⟩
      | ok read =>
          refine ⟨.mapError ?_ fun reason _ => ⟨_, rfl⟩, length⟩
          intro advanced recorded
          obtain ⟨expected, completed, within, moved⟩ :=
            (progress.record_ends read).of_ok recorded
          have positive := moved unfinished
          simp only [ReadProgress.remaining] at within ⊢
          exact ⟨expected, by omega⟩

theorem readLoop_safe (fuel : Nat) (state : ρ) (sized : buffer.length = progress.expected) :
    Ends (fun final => final.completed = final.expected)
      (fun stop => (∃ error, stop = .failed error) ∨ stop = .cutOff ∧ fuel < progress.remaining)
      (readLoop reader fuel progress buffer state).1 := by
  -- Each iteration uses one unit of fuel and shortens what remains.
  induction fuel generalizing progress buffer state with
  | zero =>
      have bounded := progress.bounded
      unfold readLoop
      split
      · rename_i done
        simp only [ReadProgress.remaining] at done
        exact .returns (by omega)
      · rename_i unfinished
        exact .stops (.inr ⟨rfl, Nat.pos_of_ne_zero unfinished⟩)
  | succ fuel ih =>
      have bounded := progress.bounded
      unfold readLoop
      split
      · rename_i done
        simp only [ReadProgress.remaining] at done
        exact .returns (by omega)
      · rename_i unfinished
        obtain ⟨ends, length⟩ := readOnce_safe reader state sized unfinished
        cases ran : readOnce reader progress buffer state with
        | mk result rest =>
            obtain ⟨filled, next⟩ := rest
            rw [ran] at ends length
            cases ends with
            | stops failed => exact .stops (.inl failed)
            | returns moved =>
                refine (ih next (length.trans (sized.trans moved.1.symm))).imp (fun _ _ => id) ?_
                intro stop reason
                refine reason.imp_right fun cut => ⟨cut.1, ?_⟩
                have shorter := moved.2
                have short := cut.2
                omega

theorem readOnce_counted (state : ρ × Nat) :
    (readOnce reader.counted progress buffer state).2.2.2 ≤ state.2 + 1 := by
  unfold readOnce
  split
  · exact Nat.le_succ _
  · cases called : reader.read state.1 (buffer.drop progress.completed) with
    | mk result rest => cases result <;> simp [ByteReader.counted, called]

/-- The loop reads at most once for each byte that is missing. -/
theorem readLoop_counted (fuel : Nat) (state : ρ × Nat)
    (sized : buffer.length = progress.expected) :
    (readLoop reader.counted fuel progress buffer state).2.2.2 ≤ state.2 + progress.remaining := by
  induction fuel generalizing progress buffer state with
  | zero => exact Nat.le_add_right _ _
  | succ fuel ih =>
      unfold readLoop
      split
      · exact Nat.le_add_right _ _
      · rename_i unfinished
        have once : (readOnce reader.counted progress buffer state).2.2.2 ≤ state.2 + 1 :=
          readOnce_counted reader state
        obtain ⟨ends, length⟩ := readOnce_safe reader.counted state sized unfinished
        cases ran : readOnce reader.counted progress buffer state with
        | mk result rest =>
            obtain ⟨filled, next⟩ := rest
            rw [ran] at ends length once
            cases ends with
            | stops failed => exact Nat.le_trans once (by omega)
            | returns moved =>
                have later := ih next (length.trans (sized.trans moved.1.symm))
                have shorter := moved.2
                simp only at once
                exact Nat.le_trans later (by omega)

theorem checkEof_cases (buffer : List UInt8) (state : ρ) :
    ∃ result next, checkEof reader buffer state = (result, buffer, next) ∧
      next = (reader.read state [0]).2.2 ∧
      (result = .ok () ∨ ∃ error, result = .error (.failed error)) := by
  unfold checkEof
  cases called : reader.read state [0] with
  | mk result rest =>
      cases result with
      | error source => exact ⟨_, _, rfl, rfl, .inr ⟨_, rfl⟩⟩
      | ok count =>
          cases count with
          | zero => exact ⟨_, _, rfl, rfl, .inl rfl⟩
          | succ count => exact ⟨_, _, rfl, rfl, .inr ⟨_, rfl⟩⟩

/-- No slice is ever taken past the buffer's end, and `length` iterations are
always enough. -/
theorem readExactAndCheckEof_safe (fuel : Nat) (buffer : List UInt8) (state : ρ) :
    (readExactAndCheckEof reader fuel buffer state).1 ≠ .error .panicked ∧
      (buffer.length ≤ fuel →
        (readExactAndCheckEof reader fuel buffer state).1 ≠ .error .cutOff) := by
  have loop : Ends _ _ (readLoop reader fuel (.new buffer.length) buffer state).1 :=
    readLoop_safe reader fuel state rfl
  unfold readExactAndCheckEof
  cases ran : readLoop reader fuel (.new buffer.length) buffer state with
  | mk result rest =>
      obtain ⟨filled, next⟩ := rest
      rw [ran] at loop
      cases loop with
      | stops reason =>
          rcases reason with ⟨error, rfl⟩ | ⟨rfl, short⟩
          · exact ⟨nofun, fun _ => nofun⟩
          · refine ⟨nofun, fun enough => ?_⟩
            simp only [ReadProgress.remaining, ReadProgress.new] at short
            omega
      | returns complete =>
          obtain ⟨result, _, probed, _, outcome⟩ := checkEof_cases reader filled next
          simp only [ReadProgress.finish, if_pos complete, probed]
          rcases outcome with rfl | ⟨error, rfl⟩
          · exact ⟨nofun, fun _ => nofun⟩
          · exact ⟨nofun, fun _ => nofun⟩

theorem readExactAndCheckEof_counted (fuel : Nat) (buffer : List UInt8) (state : ρ × Nat) :
    (readExactAndCheckEof reader.counted fuel buffer state).2.2.2 ≤
      state.2 + buffer.length + 1 := by
  have loop : (readLoop reader.counted fuel (.new buffer.length) buffer state).2.2.2 ≤
      state.2 + buffer.length := readLoop_counted reader fuel state rfl
  unfold readExactAndCheckEof
  cases ran : readLoop reader.counted fuel (.new buffer.length) buffer state with
  | mk result rest =>
      obtain ⟨filled, next⟩ := rest
      rw [ran] at loop
      simp only at loop
      cases result with
      | error stop => exact Nat.le_succ_of_le loop
      | ok final =>
          cases finished : final.finish with
          | error reason =>
              simp only [finished]
              exact Nat.le_succ_of_le loop
          | ok _ =>
              obtain ⟨_, after, probed, rfl, _⟩ := checkEof_cases reader.counted filled next
              simp only [finished, probed]
              exact Nat.succ_le_succ loop

end

/-! ## A reader of a fixed string -/

/-- The reader has the bytes `left` still to deliver whenever `pending` says
so: it gives at least one of them to every non-empty slice, as many as it
likes, and nothing once none is left. -/
structure Delivers (reader : ByteReader ρ ε) (pending : ρ → List UInt8 → Prop) : Prop where
  chunk : ∀ state left slice, pending state left → left ≠ [] → slice ≠ [] →
    ∃ count filled next, reader.read state slice = (.ok count, filled, next) ∧ 1 ≤ count ∧
      count ≤ min slice.length left.length ∧ filled.take count = left.take count ∧
      pending next (left.drop count)
  ended : ∀ state slice, pending state [] → slice ≠ [] →
    ∃ filled next, reader.read state slice = (.ok 0, filled, next) ∧ pending next []

theorem Delivers.counted {reader : ByteReader ρ ε} {pending : ρ → List UInt8 → Prop}
    (delivers : Delivers reader pending) :
    Delivers reader.counted (fun state left => pending state.1 left) where
  chunk state left slice holds some room := by
    obtain ⟨count, filled, next, called, rest⟩ := delivers.chunk state.1 left slice holds some room
    exact ⟨count, filled, (next, state.2 + 1), by simp only [ByteReader.counted, called], rest⟩
  ended state slice holds room := by
    obtain ⟨filled, next, called, rest⟩ := delivers.ended state.1 slice holds room
    exact ⟨filled, (next, state.2 + 1), by simp only [ByteReader.counted, called], rest⟩

section

variable {reader : ByteReader ρ ε} {pending : ρ → List UInt8 → Prop} {progress : ReadProgress}
  {buffer left : List UInt8} {state : ρ}

/-- An unfinished read offers the reader a slice with room in it. -/
theorem ReadProgress.offers (sized : buffer.length = progress.expected)
    (unfinished : progress.remaining ≠ 0) :
    buffer.drop progress.completed ≠ [] ∧ ¬ progress.completed > buffer.length := by
  have bounded := progress.bounded
  simp only [remaining] at unfinished
  simp only [ne_eq, List.drop_eq_nil_iff]
  omega

theorem readOnce_ended (delivers : Delivers reader pending)
    (sized : buffer.length = progress.expected) (unfinished : progress.remaining ≠ 0)
    (holds : pending state []) :
    (readOnce reader progress buffer state).1 = .error (.failed .shortRead) := by
  obtain ⟨room, inside⟩ := ReadProgress.offers sized unfinished
  obtain ⟨filled, next, called, _⟩ := delivers.ended state _ holds room
  simp only [readOnce, if_neg inside, called, ReadProgress.record, unfinished, ne_eq,
    not_false_eq_true, and_self, if_true]
  rfl

/-- One iteration moves a chunk from the string to the buffer. -/
theorem readOnce_chunk (delivers : Delivers reader pending)
    (sized : buffer.length = progress.expected) (unfinished : progress.remaining ≠ 0)
    (holds : pending state left) (some : left ≠ []) :
    ∃ count next filled after, readOnce reader progress buffer state = (.ok next, filled, after) ∧
      0 < count ∧ count ≤ progress.remaining ∧ count ≤ left.length ∧
      next.expected = progress.expected ∧ next.completed = progress.completed + count ∧
      filled.length = buffer.length ∧
      filled.take next.completed = buffer.take progress.completed ++ left.take count ∧
      pending after (left.drop count) := by
  obtain ⟨room, inside⟩ := ReadProgress.offers sized unfinished
  obtain ⟨count, slice, after, called, positive, small, copied, rest⟩ :=
    delivers.chunk state left _ holds some room
  have same := reader.sized state (buffer.drop progress.completed)
  rw [called] at same
  simp only [List.length_drop] at same small
  have within : count ≤ progress.remaining := by
    simp only [ReadProgress.remaining]
    omega
  obtain ⟨next, recorded, advanced⟩ := (progress.record_ends count).succeeds (by
    intro reason stopped
    rcases stopped with ⟨_, none⟩ | ⟨_, beyond⟩
    · omega
    · omega)
  have before : (buffer.take progress.completed).length = progress.completed := by
    rw [List.length_take]
    omega
  refine ⟨count, next, buffer.take progress.completed ++ slice, after, ?_, positive, within,
    by omega, advanced.1, advanced.2.1, ?_, ?_, rest⟩
  · simp only [readOnce, if_neg inside, called, recorded, mapError_ok]
  · rw [List.length_append, before, same]
    omega
  · rw [advanced.2.1, List.take_append, before, Nat.add_sub_cancel_left, copied,
      List.take_of_length_le (by omega)]

/-- A finished counter stands at the end of the buffer. -/
theorem readLoop_finished (reader : ByteReader ρ ε) (fuel : Nat) (state : ρ)
    (sized : buffer.length = progress.expected) (done : progress.remaining = 0) :
    readLoop reader fuel progress buffer state =
        (.ok progress, buffer.take progress.completed, state) ∧
      progress.completed = progress.expected := by
  have bounded := progress.bounded
  have atEnd : progress.completed = progress.expected := by
    simp only [ReadProgress.remaining] at done
    omega
  rw [atEnd, ← sized, List.take_length]
  cases fuel with
  | zero => simp only [readLoop, if_pos done, and_self]
  | succ fuel => simp only [readLoop, if_pos done, and_self]

/-- With enough fuel the loop takes what it needs from the string, or finds
the string too short, in whatever chunks the bytes come. -/
theorem readLoop_delivers (delivers : Delivers reader pending) {fuel : Nat}
    (sized : buffer.length = progress.expected) (enough : progress.remaining ≤ fuel)
    (holds : pending state left) :
    (left.length < progress.remaining →
      (readLoop reader fuel progress buffer state).1 = .error (.failed .shortRead)) ∧
    (progress.remaining ≤ left.length →
      ∃ final after, readLoop reader fuel progress buffer state =
          (.ok final, buffer.take progress.completed ++ left.take progress.remaining, after) ∧
        final.completed = final.expected ∧ pending after (left.drop progress.remaining)) := by
  induction fuel generalizing progress buffer left state with
  | zero =>
      have done : progress.remaining = 0 := Nat.le_zero.mp enough
      obtain ⟨ran, complete⟩ := readLoop_finished reader 0 state sized done
      refine ⟨fun short => by omega, fun _ => ⟨progress, state, ?_, complete, ?_⟩⟩
      · rw [ran, done, List.take_zero, List.append_nil]
      · rwa [done]
  | succ fuel ih =>
      by_cases done : progress.remaining = 0
      · obtain ⟨ran, complete⟩ := readLoop_finished reader (fuel + 1) state sized done
        refine ⟨fun short => by omega, fun _ => ⟨progress, state, ?_, complete, ?_⟩⟩
        · rw [ran, done, List.take_zero, List.append_nil]
        · rwa [done]
      · by_cases exhausted : left = []
        · subst exhausted
          have stopped := readOnce_ended delivers sized done holds
          refine ⟨fun _ => ?_, fun none => absurd (Nat.le_zero.mp none) done⟩
          cases ran : readOnce reader progress buffer state with
          | mk result rest =>
              rw [ran] at stopped
              simp only at stopped
              simp only [readLoop, if_neg done, ran, stopped]
        · obtain ⟨count, next, filled, after, ran, positive, within, available, expected, completed,
            length, copied, rest⟩ := readOnce_chunk delivers sized done holds exhausted
          have left' : next.remaining = progress.remaining - count := by
            simp only [ReadProgress.remaining, expected, completed]
            omega
          have later := ih (length.trans (sized.trans expected.symm)) (by omega) rest
          rw [List.length_drop, left', copied] at later
          simp only [readLoop, if_neg done, ran]
          refine ⟨fun short => later.1 (by omega), fun fits => ?_⟩
          obtain ⟨final, last, looped, complete, pends⟩ := later.2 (by omega)
          refine ⟨final, last, ?_, complete, ?_⟩
          · rw [looped, List.append_assoc, ← List.take_add, Nat.add_sub_cancel' within]
          · rwa [List.drop_drop, Nat.add_sub_cancel' within] at pends

theorem checkEof_delivers (delivers : Delivers reader pending) (holds : pending state left) :
    (left = [] → ∃ after, checkEof reader buffer state = (.ok (), buffer, after)) ∧
      (left ≠ [] → (checkEof reader buffer state).1 = .error (.failed .extraData)) := by
  constructor
  · intro exhausted
    obtain ⟨_, after, called, _⟩ := delivers.ended state [0] (exhausted ▸ holds) (by simp)
    exact ⟨after, by simp only [checkEof, called]⟩
  · intro some
    obtain ⟨count, filled, after, called, positive, _⟩ :=
      delivers.chunk state left [0] holds some (by simp)
    cases count with
    | zero => contradiction
    | succ count => simp only [checkEof, called]

/-- The lengths alone decide how the function ends. -/
theorem readExactAndCheckEof_delivers (delivers : Delivers reader pending) {fuel : Nat}
    (enough : buffer.length ≤ fuel) (holds : pending state left) :
    (left.length < buffer.length →
      (readExactAndCheckEof reader fuel buffer state).1 = .error (.failed .shortRead)) ∧
    (left.length = buffer.length →
      ∃ after, readExactAndCheckEof reader fuel buffer state = (.ok (), left, after)) ∧
    (buffer.length < left.length →
      (readExactAndCheckEof reader fuel buffer state).1 = .error (.failed .extraData)) := by
  obtain ⟨short, long⟩ := @readLoop_delivers _ _ reader pending (.new buffer.length) buffer left
    state delivers fuel rfl enough holds
  simp only [ReadProgress.remaining, ReadProgress.new, Nat.sub_zero, List.take_zero,
    List.nil_append] at short long
  have complete (fits : buffer.length ≤ left.length) : ∃ after,
      readExactAndCheckEof reader fuel buffer state =
        checkEof reader (left.take buffer.length) after ∧
      pending after (left.drop buffer.length) := by
    obtain ⟨final, after, looped, complete, pends⟩ := long fits
    refine ⟨after, ?_, pends⟩
    simp only [readExactAndCheckEof, ReadProgress.new, looped, ReadProgress.finish, if_pos complete]
  refine ⟨?_, ?_, ?_⟩
  · intro less
    have stopped := short less
    cases ran : readLoop reader fuel (.new buffer.length) buffer state with
    | mk result rest =>
        simp only [ReadProgress.new] at ran
        rw [ran] at stopped
        simp only at stopped
        simp only [readExactAndCheckEof, ReadProgress.new, ran, stopped]
  · intro equal
    obtain ⟨after, ran, pends⟩ := complete (by omega)
    rw [ran, ← equal, List.take_length]
    exact (checkEof_delivers delivers pends).1 (by rw [← equal, List.drop_length])
  · intro more
    obtain ⟨after, ran, pends⟩ := complete (by omega)
    rw [ran]
    refine (checkEof_delivers delivers pends).2 ?_
    rw [ne_eq, List.drop_eq_nil_iff]
    omega

end

/-- A reader of a fixed string, in chunks of any size, leads to success exactly
where the string has the buffer's length.  No reader at all leads out of the
buffer. -/
theorem readExactAndCheckEof_exact :
    (∀ {ρ ε : Type} {reader : ByteReader ρ ε} {pending : ρ → List UInt8 → Prop},
      Delivers reader pending → ∀ {state : ρ} {bytes : List UInt8}, pending state bytes →
      ∀ (buffer : List UInt8) {fuel : Nat}, buffer.length ≤ fuel →
      ∃ result filled after reads,
        readExactAndCheckEof reader.counted fuel buffer (state, 0) =
          (result, filled, after, reads) ∧
        reads ≤ buffer.length + 1 ∧
        (result = .ok () ↔ bytes.length = buffer.length) ∧ (result = .ok () → filled = bytes) ∧
        (bytes.length < buffer.length → result = .error (.failed .shortRead)) ∧
        (buffer.length < bytes.length → result = .error (.failed .extraData))) ∧
    ∀ {ρ ε : Type} (reader : ByteReader ρ ε) (fuel : Nat) (buffer : List UInt8) (state : ρ),
      (readExactAndCheckEof reader fuel buffer state).1 ≠ .error .panicked := by
  refine ⟨?_, fun reader fuel buffer state =>
    (readExactAndCheckEof_safe reader fuel buffer state).1⟩
  intro _ _ reader _ delivers state bytes holds buffer fuel enough
  have reads := readExactAndCheckEof_counted reader fuel buffer (state, 0)
  have ends := @readExactAndCheckEof_delivers _ _ reader.counted _ buffer bytes (state, 0)
    delivers.counted fuel enough holds
  cases ran : readExactAndCheckEof reader.counted fuel buffer (state, 0) with
  | mk result rest =>
      obtain ⟨filled, after, count⟩ := rest
      rw [ran] at reads ends
      obtain ⟨short, exact, extra⟩ := ends
      have equal (done : result = .ok ()) : bytes.length = buffer.length := by
        rcases Nat.lt_trichotomy bytes.length buffer.length with less | equal | more
        · exact absurd (done.symm.trans (short less)) nofun
        · exact equal
        · exact absurd (done.symm.trans (extra more)) nofun
      refine ⟨result, filled, after, count, rfl, by simpa using reads, ⟨equal, ?_⟩, ?_, short, extra⟩
      · intro same
        obtain ⟨_, whole⟩ := exact same
        exact congrArg Prod.fst whole
      · intro done
        obtain ⟨_, whole⟩ := exact (equal done)
        exact congrArg (fun outcome => outcome.2.1) whole

/-- A file that returns at most `limit` bytes at a time. -/
def limitedReader (limit : Nat) : ByteReader (List UInt8) Empty where
  read left slice :=
    let count := min limit (min slice.length left.length)
    (.ok count, left.take count ++ slice.drop count, left.drop count)
  sized left slice := by
    simp only [List.length_append, List.length_take, List.length_drop]
    omega

theorem limitedReader_delivers {limit : Nat} (positive : 0 < limit) :
    Delivers (limitedReader limit) Eq where
  chunk state left slice holds some room := by
    subst holds
    have leftPositive := List.length_pos_iff.mpr some
    have roomPositive := List.length_pos_iff.mpr room
    refine ⟨_, _, _, rfl, by omega, by omega, ?_, rfl⟩
    rw [List.take_append_of_le_length (by rw [List.length_take]; omega), List.take_take, Nat.min_self]
  ended state slice holds room := by
    subst holds
    exact ⟨slice, [], by simp [limitedReader], rfl⟩

theorem readExactAndCheckEof_exact_limited :
    ∃ filled after reads,
      readExactAndCheckEof (limitedReader 2).counted 6 [0, 0, 0, 0, 0, 0]
        ([107, 101, 114, 110, 101, 108], 0) = (.ok (), filled, after, reads) ∧
      filled = [107, 101, 114, 110, 101, 108] ∧ reads ≤ 7 := by
  obtain ⟨result, filled, after, reads, ran, few, done, copied, _⟩ :=
    readExactAndCheckEof_exact.1 (limitedReader_delivers (by decide : 0 < 2))
      (rfl : ([107, 101, 114, 110, 101, 108] : List UInt8) = [107, 101, 114, 110, 101, 108])
      [0, 0, 0, 0, 0, 0] (Nat.le_refl 6)
  obtain rfl := done.mpr rfl
  exact ⟨filled, after, reads, ran, copied rfl, few⟩

/-! ## What every read keeps -/

section

variable {ρ ε : Type} {reader : ByteReader ρ ε} {holds : ρ → Prop}

theorem readOnce_keeps (keeps : ∀ state slice, holds state → holds (reader.read state slice).2.2)
    (progress : ReadProgress) (buffer : List UInt8) {state : ρ} (start : holds state) :
    holds (readOnce reader progress buffer state).2.2 := by
  have next := keeps state (buffer.drop progress.completed) start
  unfold readOnce
  split
  · exact start
  · split
    · rename_i called
      rw [called] at next
      exact next
    · rename_i called
      rw [called] at next
      exact next

theorem readLoop_keeps (keeps : ∀ state slice, holds state → holds (reader.read state slice).2.2)
    (fuel : Nat) (progress : ReadProgress) (buffer : List UInt8) {state : ρ} (start : holds state) :
    holds (readLoop reader fuel progress buffer state).2.2 := by
  induction fuel generalizing progress buffer state with
  | zero => exact start
  | succ fuel ih =>
      have next := readOnce_keeps keeps progress buffer start
      unfold readLoop
      split
      · exact start
      · split
        · rename_i called
          rw [called] at next
          exact next
        · rename_i called
          rw [called] at next
          exact ih _ _ next

/-- What every read keeps, the whole function keeps. -/
theorem readExactAndCheckEof_keeps
    (keeps : ∀ state slice, holds state → holds (reader.read state slice).2.2)
    (fuel : Nat) (buffer : List UInt8) {state : ρ} (start : holds state) :
    holds (readExactAndCheckEof reader fuel buffer state).2.2 := by
  have looped := readLoop_keeps keeps fuel (.new buffer.length) buffer start
  unfold readExactAndCheckEof
  split
  · rename_i called
    rw [called] at looped
    exact looped
  · rename_i after called
    rw [called] at looped
    split
    · exact looped
    · have last := keeps _ [0] looped
      unfold checkEof
      split
      · rename_i called
        rw [called] at last
        exact last
      · rename_i called
        rw [called] at last
        exact last
      · rename_i called
        rw [called] at last
        exact last

end

end UnnamedOS.Loader
