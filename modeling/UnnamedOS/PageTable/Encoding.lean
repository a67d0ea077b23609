import UnnamedOS.Data.Output
import UnnamedOS.PageTable.Links

namespace UnnamedOS.PageTable

open UnnamedOS.Data UnnamedOS.Layout

/-! # The abstract encoding of a plan

`encode_abstract` writes a header with three counts and then the records of
the plan, each at its own stride, over a zeroed slice.  Two plans can so be
compared byte by byte. -/

def abstractPlanHeaderSize : Nat := 32
def abstractTableSize : Nat := 16
def abstractEntrySize : Nat := 32
def abstractRemovalSize : Nat := 24

/-- `level as u8`. -/
def TableLevel.code : TableLevel → UInt8
  | .pt => 1
  | .pd => 2
  | .pdpt => 3
  | .pml4 => 4

/-- `mode as u8`. -/
def PlanMode.code : PlanMode → UInt8
  | .transitional => 1
  | .final => 2

/-- `EntryTargetKind` as a byte, and the word stored with it. -/
def EntryTarget.code : EntryTarget → UInt8
  | .tableSlot _ => 1
  | .physicalFrame _ => 2

def EntryTarget.value : EntryTarget → Nat
  | .tableSlot slot => slot
  | .physicalFrame frame => frame.address

/-! ## The fields of each record, in the order they are written -/

/-- What `put_u16`, `put_u32` and `put_u64` copy. -/
def u16Bytes (value : Nat) : List UInt8 := leBytes 2 value
def u32Bytes (value : Nat) : List UInt8 := leBytes 4 value
def u64Bytes (value : Nat) : List UInt8 := leBytes 8 value

def PlannedTable.fields (table : PlannedTable) : List (Nat × List UInt8) :=
  [(0, [table.level.code]), (4, u32Bytes table.frameSlot), (8, u32Bytes table.parentSlot),
    (12, u16Bytes table.parentIndex.value)]

def PlannedEntry.fields (entry : PlannedEntry) : List (Nat × List UInt8) :=
  [(0, u32Bytes entry.tableSlot), (4, u16Bytes entry.index.value), (6, [entry.target.code]),
    (8, u64Bytes entry.target.value), (16, u64Bytes entry.flags.bits)]

def TransitionRemoval.fields (removal : TransitionRemoval) : List (Nat × List UInt8) :=
  [(0, u32Bytes removal.tableSlot), (4, u16Bytes removal.index.value),
    (8, u32Bytes removal.expectedTarget), (16, u64Bytes removal.expectedFlags.bits)]

/-! ## The encoder -/

/-- How the encoder stops. -/
inductive EncodeStop where
  | failed (error : PageTablePlanError)
  | panicked
deriving DecidableEq, Repr

/-- `u32::try_from`. -/
def countWord (count : Nat) : Option Nat := if count < 2 ^ 32 then some count else none

/-- One write; a stop keeps what has been written. -/
def putBytes (output : Output) (offset : Nat) (data : List UInt8) :
    Except (EncodeStop × Output) Output :=
  okOr (output.put offset data) (.panicked, output)

/-- A count of the header, once it is known to fit. -/
def putCount (output : Output) (offset count : Nat) : Except (EncodeStop × Output) Output := do
  let count ← okOr (countWord count) (.failed .arithmeticOverflow, output)
  putBytes output offset (u32Bytes count)

/-- The body of the record loops: the fields, and the offset moved on. -/
def putRecord {α : Type} (size : Nat) (fields : α → List (Nat × List UInt8))
    (state : Output × Nat) (record : α) : Except (EncodeStop × Output) (Output × Nat) := do
  let output ← okOr (state.1.putFields state.2 (fields record)) (.panicked, state.1)
  .ok (output, state.2 + size)

namespace ConstructionPlan

variable {tableCapacity entryCapacity removalCapacity : Nat}
  (plan : ConstructionPlan tableCapacity entryCapacity removalCapacity)

def abstractByteLen : Except PageTablePlanError Nat := do
  let tables ← okOr (checkedMul plan.tables.length abstractTableSize) .arithmeticOverflow
  okOr (do
    let value ← checkedAdd abstractPlanHeaderSize tables
    let size ← checkedMul plan.entries.length abstractEntrySize
    let value ← checkedAdd value size
    let size ← checkedMul plan.removals.length abstractRemovalSize
    checkedAdd value size) .arithmeticOverflow

/-- The header, with the three counts checked as they are written. -/
def putHeader (output : Output) : Except (EncodeStop × Output) Output := do
  let output ← putBytes output 0 (u16Bytes 1)
  let output ← putBytes output 2 [plan.mode.code]
  let output ← putCount output 4 plan.tables.length
  let output ← putCount output 8 plan.entries.length
  let output ← putCount output 12 plan.removals.length
  putBytes output 16 (u32Bytes frameSlotRoot)

/-- The part of `encode_abstract` that writes. -/
def encodeInto (required : Nat) (output : Output) : Except (EncodeStop × Output) Output := do
  let output ← putBytes output 0 (List.replicate required 0)
  let output ← plan.putHeader output
  let state ← plan.tables.foldlM (putRecord abstractTableSize PlannedTable.fields)
    (output, abstractPlanHeaderSize)
  let state ← plan.entries.foldlM (putRecord abstractEntrySize PlannedEntry.fields) state
  let state ← plan.removals.foldlM (putRecord abstractRemovalSize TransitionRemoval.fields) state
  .ok state.1

def encodeAbstract (output : Output) : Except EncodeStop Nat × Output :=
  match plan.abstractByteLen with
  | .error reason => (.error (.failed reason), output)
  | .ok required =>
      if output.bytes.length < required then (.error (.failed .outputTooSmall), output)
      else
        match plan.encodeInto required output with
        | .error (stop, output) => (.error stop, output)
        | .ok output => (.ok required, output)

end ConstructionPlan

/-! ## What stands in the slice -/

/-- A record's area after its fields have been written over zeros. -/
def recordBytes (size : Nat) (fields : List (Nat × List UInt8)) : List UInt8 :=
  patch (List.replicate size 0) fields

def PlannedTable.bytes (table : PlannedTable) : List UInt8 :=
  recordBytes abstractTableSize table.fields

def PlannedEntry.bytes (entry : PlannedEntry) : List UInt8 :=
  recordBytes abstractEntrySize entry.fields

def TransitionRemoval.bytes (removal : TransitionRemoval) : List UInt8 :=
  recordBytes abstractRemovalSize removal.fields

namespace ConstructionPlan

variable {tableCapacity entryCapacity removalCapacity : Nat}
  (plan : ConstructionPlan tableCapacity entryCapacity removalCapacity)

/-- The header's fields. -/
def headerFields : List (Nat × List UInt8) :=
  [(0, u16Bytes 1), (2, [plan.mode.code]), (4, u32Bytes plan.tables.length),
    (8, u32Bytes plan.entries.length), (12, u32Bytes plan.removals.length),
    (16, u32Bytes frameSlotRoot)]

def headerBytes : List UInt8 := recordBytes abstractPlanHeaderSize plan.headerFields

/-- The bytes an encoding consists of. -/
def abstractBytes : List UInt8 :=
  plan.headerBytes ++ (plan.tables.flatMap PlannedTable.bytes ++
    (plan.entries.flatMap PlannedEntry.bytes ++ plan.removals.flatMap TransitionRemoval.bytes))

end ConstructionPlan

theorem length_recordBytes {size : Nat} {fields : List (Nat × List UInt8)}
    (fit : FieldsFit size fields) : (recordBytes size fields).length = size := by
  rw [recordBytes, length_patch (by rwa [List.length_replicate]), List.length_replicate]

theorem PlannedTable.fields_fit (table : PlannedTable) :
    FieldsFit abstractTableSize table.fields := by
  simp [FieldsFit, fields, abstractTableSize, u16Bytes, u32Bytes]

theorem PlannedEntry.fields_fit (entry : PlannedEntry) :
    FieldsFit abstractEntrySize entry.fields := by
  simp [FieldsFit, fields, abstractEntrySize, u16Bytes, u32Bytes, u64Bytes]

theorem TransitionRemoval.fields_fit (removal : TransitionRemoval) :
    FieldsFit abstractRemovalSize removal.fields := by
  simp [FieldsFit, fields, abstractRemovalSize, u16Bytes, u32Bytes, u64Bytes]

theorem ConstructionPlan.headerFields_fit {tableCapacity entryCapacity removalCapacity : Nat}
    (plan : ConstructionPlan tableCapacity entryCapacity removalCapacity) :
    FieldsFit abstractPlanHeaderSize plan.headerFields := by
  simp [FieldsFit, headerFields, abstractPlanHeaderSize, u16Bytes, u32Bytes]

theorem PlannedTable.length_bytes (table : PlannedTable) : table.bytes.length = 16 :=
  length_recordBytes table.fields_fit

theorem PlannedEntry.length_bytes (entry : PlannedEntry) : entry.bytes.length = 32 :=
  length_recordBytes entry.fields_fit

theorem TransitionRemoval.length_bytes (removal : TransitionRemoval) : removal.bytes.length = 24 :=
  length_recordBytes removal.fields_fit

theorem ConstructionPlan.length_headerBytes {tableCapacity entryCapacity removalCapacity : Nat}
    (plan : ConstructionPlan tableCapacity entryCapacity removalCapacity) :
    plan.headerBytes.length = 32 :=
  length_recordBytes plan.headerFields_fit

/-! ## The writes -/

section

variable {output : Output} {limit : Nat}

/-- One more field over an area that began as zeros. -/
theorem putBytes_field {size offset : Nat} {done : List (Nat × List UInt8)}
    {data back : List UInt8} {bad : EncodeStop × Output → Prop}
    (laid : output.bytes = recordBytes size done ++ back)
    (fit : FieldsFit size (done ++ [(offset, data)])) (below : size ≤ limit) :
    Ends (fun next => output.Advances next (recordBytes size (done ++ [(offset, data)]) ++ back)
      limit) bad (putBytes output offset data) := by
  have length : (recordBytes size done).length = size :=
    length_recordBytes fun field member => fit field (List.mem_append_left _ member)
  have inside : offset + data.length ≤ (recordBytes size done).length := by
    rw [length]
    exact fit (offset, data) (by simp)
  have framed : output.bytes = [] ++ recordBytes size done ++ back := laid
  obtain ⟨next, put, advances⟩ := Output.put_area framed inside (by simpa [length] using below)
  rw [List.length_nil, Nat.zero_add] at put
  rw [putBytes, put, okOr_some]
  refine .returns ?_
  rw [recordBytes, patch_append]
  exact advances

theorem putCount_field {size offset count : Nat} {done : List (Nat × List UInt8)}
    {back : List UInt8} (laid : output.bytes = recordBytes size done ++ back)
    (fit : FieldsFit size (done ++ [(offset, u32Bytes count)])) (below : size ≤ limit) :
    Ends (fun next => count < 2 ^ 32 ∧
        output.Advances next (recordBytes size (done ++ [(offset, u32Bytes count)]) ++ back) limit)
      (fun stop => stop.1 = .failed .arithmeticOverflow) (putCount output offset count) := by
  by_cases fits : count < 2 ^ 32
  · simp only [putCount, countWord, if_pos fits, okOr_some, ok_bind]
    refine (putBytes_field laid fit below).imp ?_ fun _ => id
    intro next _ advances
    exact ⟨fits, advances⟩
  · simp only [putCount, countWord, if_neg fits, okOr_none, error_bind]
    exact .stops rfl

/-- A record loop fills the zeros in front of it, one stride at a time. -/
theorem putRecords_area {α : Type} {size offset : Nat} {fields : α → List (Nat × List UInt8)}
    {encode : α → List UInt8} {records : List α} {front back : List UInt8}
    (layout : ∀ record, encode record = recordBytes size (fields record))
    (fit : ∀ record, FieldsFit size (fields record)) (starts : front.length = offset)
    (laid : output.bytes = front ++ (List.replicate (records.length * size) 0 ++ back))
    (below : offset + records.length * size ≤ limit) :
    ∃ next, records.foldlM (putRecord size fields) (output, offset) =
        .ok (next, offset + records.length * size) ∧
      (front ++ records.flatMap encode).length = offset + records.length * size ∧
      output.Advances next (front ++ records.flatMap encode ++ back) limit := by
  induction records generalizing output front offset with
  | nil => exact ⟨output, by simp [pure, Except.pure], by simpa using starts, by simpa using laid, id⟩
  | cons record records ih =>
      rw [List.length_cons, Nat.add_mul, Nat.one_mul, Nat.add_comm _ size] at laid below ⊢
      have split : output.bytes = front ++ List.replicate size 0 ++
          (List.replicate (records.length * size) 0 ++ back) := by
        rw [laid, List.replicate_add]
        simp only [List.append_assoc]
      have room : front.length + (List.replicate size (0 : UInt8)).length ≤ limit := by
        rw [List.length_replicate]
        omega
      obtain ⟨middle, put, filled, kept⟩ := Output.putFields_area split
        (by rw [List.length_replicate]; exact fit record) room
      have moved : (front ++ encode record).length = offset + size := by
        rw [List.length_append, layout, length_recordBytes (fit record), starts]
      have shifted : middle.bytes = (front ++ encode record) ++
          (List.replicate (records.length * size) 0 ++ back) := by
        rw [filled, layout, recordBytes]
      obtain ⟨next, looped, length, written, within⟩ := ih moved shifted (by omega)
      have joined : front ++ encode record ++ records.flatMap encode =
          front ++ (record :: records).flatMap encode := by
        rw [List.flatMap_cons, List.append_assoc]
      rw [joined] at length written
      rw [Nat.add_assoc] at looped length
      refine ⟨next, ?_, length, written, fun before => within (kept before)⟩
      rw [starts] at put
      simp only [List.foldlM_cons, putRecord, put, okOr_some, ok_bind, looped]

end

theorem putBytes_zeros {output : Output} {required : Nat} {bad : EncodeStop × Output → Prop}
    (room : required ≤ output.bytes.length) :
    Ends (fun next => output.Advances next
        (List.replicate required 0 ++ output.bytes.drop required) required) bad
      (putBytes output 0 (List.replicate required 0)) := by
  have area : (output.bytes.take required).length = required := by
    rw [List.length_take]
    omega
  have framed : output.bytes = [] ++ output.bytes.take required ++ output.bytes.drop required := by
    rw [List.nil_append, List.take_append_drop]
  have inside : 0 + (List.replicate required (0 : UInt8)).length ≤
      (output.bytes.take required).length := by
    rw [area, List.length_replicate, Nat.zero_add]
  have below : ([] : List UInt8).length + (output.bytes.take required).length ≤ required := by
    rw [area, List.length_nil, Nat.zero_add]
  obtain ⟨next, put, advances⟩ := Output.put_area framed inside below
  rw [splice_whole (by rw [area, List.length_replicate])] at advances
  rw [List.length_nil, Nat.zero_add] at put
  rw [putBytes, put, okOr_some]
  exact .returns advances

namespace ConstructionPlan

variable {tableCapacity entryCapacity removalCapacity : Nat}
  (plan : ConstructionPlan tableCapacity entryCapacity removalCapacity)

def CountsFit : Prop :=
  plan.tables.length < 2 ^ 32 ∧ plan.entries.length < 2 ^ 32 ∧ plan.removals.length < 2 ^ 32

/-- The length of the encoding, without the checks for overflow. -/
def encodedLength : Nat :=
  32 + plan.tables.length * 16 + plan.entries.length * 32 + plan.removals.length * 24

theorem putHeader_ends {output : Output} {back : List UInt8} {limit : Nat}
    (laid : output.bytes = recordBytes 32 [] ++ back) (below : 32 ≤ limit) :
    Ends (fun next => plan.CountsFit ∧ output.Advances next (plan.headerBytes ++ back) limit)
      (fun stop => stop.1 = .failed .arithmeticOverflow) (plan.putHeader output) := by
  unfold putHeader
  refine (putBytes_field laid (by simp [FieldsFit, u16Bytes]) below).bind ?_
  intro versioned _ first
  refine (putBytes_field first.bytes (by simp [FieldsFit, u16Bytes]) below).bind ?_
  intro moded _ second
  refine (putCount_field second.bytes (by simp [FieldsFit, u16Bytes, u32Bytes]) below).bind ?_
  intro tabled _ third
  refine (putCount_field third.2.bytes (by simp [FieldsFit, u16Bytes, u32Bytes]) below).bind ?_
  intro entered _ fourth
  refine (putCount_field fourth.2.bytes (by simp [FieldsFit, u16Bytes, u32Bytes]) below).bind ?_
  intro removed _ fifth
  refine (putBytes_field fifth.2.bytes (by simp [FieldsFit, u16Bytes, u32Bytes]) below).imp ?_
    fun _ => id
  intro rooted _ sixth
  exact ⟨⟨third.1, fourth.1, fifth.1⟩,
    first.trans (second.trans (third.2.trans (fourth.2.trans (fifth.2.trans sixth))))⟩

theorem abstractByteLen_ends : Ends (fun required => required = plan.encodedLength)
    (fun reason => reason = .arithmeticOverflow) plan.abstractByteLen := by
  have overflow {value : Option Nat} : Ends (fun found => value = some found)
      (fun reason => reason = .arithmeticOverflow)
      (okOr value PageTablePlanError.arithmeticOverflow) :=
    Ends.okOr fun _ => rfl
  refine overflow.bind ?_
  intro tables _ multiplied
  refine overflow.imp ?_ fun _ => id
  intro required _ added
  simp only [Option.bind_eq_bind, Option.bind_eq_some_iff, checkedMul_eq_some,
    checkedAdd_eq_some] at multiplied added
  obtain ⟨_, rfl⟩ := multiplied
  obtain ⟨_, ⟨_, rfl⟩, _, ⟨_, rfl⟩, _, ⟨_, rfl⟩, _, ⟨_, rfl⟩, _, rfl⟩ := added
  rfl

theorem length_abstractBytes : plan.abstractBytes.length = plan.encodedLength := by
  simp only [abstractBytes, List.length_append, plan.length_headerBytes,
    length_flatMap_of_sized PlannedTable.length_bytes,
    length_flatMap_of_sized PlannedEntry.length_bytes,
    length_flatMap_of_sized TransitionRemoval.length_bytes]
  rw [encodedLength]
  omega

/-- The writes end with the encoding in front of what stood behind it, or
with a count that does not fit. -/
theorem encodeInto_ends {output : Output} (room : plan.encodedLength ≤ output.bytes.length) :
    Ends (fun next => plan.CountsFit ∧ output.Advances next
        (plan.abstractBytes ++ output.bytes.drop plan.encodedLength) plan.encodedLength)
      (fun stop => stop.1 = .failed .arithmeticOverflow)
      (plan.encodeInto plan.encodedLength output) := by
  have split : plan.encodedLength = 32 + (plan.tables.length * 16 + (plan.entries.length * 32 +
      plan.removals.length * 24)) := by
    rw [encodedLength]
    omega
  refine (putBytes_zeros room).bind ?_
  intro zeroed _ cleared
  -- The zeros are split at the borders of the four areas, and each writer fills its own.
  have laid := cleared.bytes
  rw [split, List.replicate_add, List.replicate_add, List.replicate_add, ← split] at laid
  simp only [List.append_assoc] at laid
  have headRoom : 32 ≤ plan.encodedLength := by omega
  refine (plan.putHeader_ends laid headRoom).bind ?_
  intro headed _ header
  obtain ⟨counts, header⟩ := header
  have tableRoom : 32 + plan.tables.length * 16 ≤ plan.encodedLength := by omega
  obtain ⟨tabled, ranTables, tableEnd, tables⟩ := putRecords_area
    (fun table => (rfl : PlannedTable.bytes table = _)) PlannedTable.fields_fit
    plan.length_headerBytes header.bytes tableRoom
  refine .step ranTables ?_
  have entryRoom : 32 + plan.tables.length * 16 + plan.entries.length * 32 ≤
      plan.encodedLength := by omega
  obtain ⟨entered, ranEntries, entryEnd, entries⟩ := putRecords_area
    (fun entry => (rfl : PlannedEntry.bytes entry = _)) PlannedEntry.fields_fit
    tableEnd tables.bytes entryRoom
  refine .step ranEntries ?_
  have removalRoom : 32 + plan.tables.length * 16 + plan.entries.length * 32 +
      plan.removals.length * 24 ≤ plan.encodedLength := Nat.le_refl _
  obtain ⟨removed, ranRemovals, _, removals⟩ := putRecords_area
    (fun removal => (rfl : TransitionRemoval.bytes removal = _)) TransitionRemoval.fields_fit
    entryEnd entries.bytes removalRoom
  refine .step ranRemovals (.returns ⟨counts, ?_⟩)
  have last := cleared.trans (header.trans (tables.trans (entries.trans removals)))
  simpa only [abstractBytes, List.append_assoc] using last

/-- The ways in which a call ends. -/
theorem encodeAbstract_cases (output : Output) :
    (∃ next, plan.encodeAbstract output = (.ok plan.encodedLength, next) ∧ plan.CountsFit ∧
      output.Advances next (plan.abstractBytes ++ output.bytes.drop plan.encodedLength)
        plan.encodedLength) ∨
    plan.encodeAbstract output = (.error (.failed .outputTooSmall), output) ∨
    (plan.encodeAbstract output).1 = .error (.failed .arithmeticOverflow) := by
  unfold encodeAbstract
  cases sized : plan.abstractByteLen with
  | error reason =>
      rw [plan.abstractByteLen_ends.of_error sized]
      exact .inr (.inr rfl)
  | ok required =>
      obtain rfl := plan.abstractByteLen_ends.of_ok sized
      by_cases small : output.bytes.length < plan.encodedLength
      · exact .inr (.inl (if_pos small))
      · simp only [if_neg small]
        have ends := plan.encodeInto_ends (Nat.le_of_not_lt small)
        cases run : plan.encodeInto plan.encodedLength output with
        | error stop =>
            have reason := ends.of_error run
            exact .inr (.inr (congrArg Except.error reason))
        | ok next => exact .inl ⟨next, rfl, ends.of_ok run⟩

theorem encodeAbstract_eq_ok {output : Output} {length : Nat}
    (encoded : (plan.encodeAbstract output).1 = .ok length) :
    length = plan.encodedLength ∧ plan.CountsFit ∧
      output.Advances (plan.encodeAbstract output).2
        (plan.abstractBytes ++ output.bytes.drop length) length := by
  rcases plan.encodeAbstract_cases output with
    ⟨next, ran, counts, advances⟩ | ran | stopped
  · rw [ran] at encoded ⊢
    cases encoded
    exact ⟨rfl, counts, advances⟩
  · rw [ran] at encoded
    contradiction
  · rw [stopped] at encoded
    contradiction

/-- The returned bytes are the encoding. -/
theorem take_encodeAbstract {output : Output} {length : Nat}
    (encoded : (plan.encodeAbstract output).1 = .ok length) :
    (plan.encodeAbstract output).2.bytes.take length = plan.abstractBytes := by
  obtain ⟨rfl, _, advances⟩ := plan.encodeAbstract_eq_ok encoded
  rw [advances.bytes, List.take_append_of_le_length (Nat.le_of_eq plan.length_abstractBytes.symm),
    List.take_of_length_le (Nat.le_of_eq plan.length_abstractBytes)]

end ConstructionPlan

end UnnamedOS.PageTable
