import Mathlib.Tactic.MkIffOfInductiveProp
import UnnamedOS.BootProtocol.Extensions
import UnnamedOS.Data.Validator

namespace UnnamedOS.BootProtocol

open UnnamedOS.Data

/-! # The grammar of the extension area

An area is a sequence of records.  A record names its own length, so the bytes
determine the sequence, and the validator's cursor follows it. -/

/-- A little-endian field of a record. -/
def field (record : List UInt8) (offset width : Nat) : Nat :=
  leValue ((record.drop offset).take width)

def headerOf (record : List UInt8) : ExtensionHeader where
  kind := field record 0 4
  version := field record 4 2
  headerSize := field record 6 2
  totalSize := field record 8 4
  flags := field record 12 4

def ownershipOf (payload : List UInt8) : PageTableOwnership where
  hierarchyVersion := field payload 0 2
  pagingLevelCount := field payload 2 1
  state := field payload 3 1
  pageSize := field payload 4 4
  rootPhysicalFrame := field payload 8 8
  ownedFrameListPhysicalAddress := field payload 16 8
  ownedFrameCount := field payload 24 4
  descriptorStride := field payload 28 4
  physicalAddressCap := field payload 32 8
  reserved0 := field payload 40 8
  reserved1 := field payload 48 8
  reserved2 := field payload 56 8

def IsOwnership (record : List UInt8) : Prop :=
  (headerOf record).kind = 1 ∧ (headerOf record).version = 1

instance (record : List UInt8) : Decidable (IsOwnership record) :=
  inferInstanceAs (Decidable (_ ∧ _))

/-- One record, on its own. -/
structure WellFormed (record : List UInt8) : Prop where
  headerSize : (headerOf record).headerSize = 16
  totalSize : (headerOf record).totalSize = record.length
  long : 16 ≤ record.length
  aligned : record.length % 8 = 0
  flags : (headerOf record).flags = 0 ∨ (headerOf record).flags = 1
  unknown : (headerOf record).kind ≠ 1 → (headerOf record).flags = 0
  newer : (headerOf record).kind = 1 → (headerOf record).version ≠ 1 →
    (headerOf record).flags = 0
  ownership : IsOwnership record → record.length = 80 ∧
    ∃ validated, (ownershipOf (record.drop 16)).validate = .ok validated

/-- The validated payload of the ownership record, if there is one. -/
def ownershipIn (records : List (List UInt8)) : Option ValidatedPageTableOwnership :=
  (records.find? fun record => IsOwnership record).bind
    fun record => (ownershipOf (record.drop 16)).validate.toOption

/-! ## Fields -/

theorem field_append {record : List UInt8} (rest : List UInt8) {offset width : Nat}
    (inside : offset + width ≤ record.length) :
    field (record ++ rest) offset width = field record offset width := by
  rw [field, field, List.drop_append_of_le_length (by omega), List.take_append_of_le_length]
  rw [List.length_drop]
  omega

theorem headerOf_append {record : List UInt8} (rest : List UInt8) (long : 16 ≤ record.length) :
    headerOf (record ++ rest) = headerOf record := by
  simp only [headerOf]
  rw [field_append rest (by omega), field_append rest (by omega), field_append rest (by omega),
    field_append rest (by omega), field_append rest (by omega)]

theorem field_lt (record : List UInt8) (offset width : Nat) :
    field record offset width < 256 ^ width := by
  have general : ∀ bytes : List UInt8, leValue bytes < 256 ^ bytes.length := by
    intro bytes
    induction bytes with
    | nil => simp [leValue]
    | cons byte bytes ih =>
        have bound := byte.toNat_lt
        simp only [leValue, List.length_cons, Nat.pow_succ]
        omega
  refine Nat.lt_of_lt_of_le (general _) (Nat.pow_le_pow_right (by decide) ?_)
  simp only [List.length_take]
  omega

theorem readField_eq {bytes : Bytes} {width offset : Nat}
    (inside : offset + width ≤ bytes.data.length) :
    readField width bytes offset = .ok (field bytes.data offset width) := by
  rw [readField, Bytes.read_inside inside]
  rfl

theorem parseExtensionHeader_eq {bytes : Bytes} (long : 16 ≤ bytes.data.length) :
    parseExtensionHeader bytes = .ok (headerOf bytes.data) := by
  unfold parseExtensionHeader
  rw [readField_eq (by omega), readField_eq (by omega), readField_eq (by omega),
    readField_eq (by omega), readField_eq (by omega)]
  rfl

theorem parsePageTableOwnership_eq {bytes : Bytes} (long : 64 ≤ bytes.data.length) :
    parsePageTableOwnership bytes = .ok (ownershipOf bytes.data) := by
  unfold parsePageTableOwnership
  rw [readField_eq (by omega), readField_eq (by omega), readField_eq (by omega),
    readField_eq (by omega), readField_eq (by omega), readField_eq (by omega),
    readField_eq (by omega), readField_eq (by omega), readField_eq (by omega),
    readField_eq (by omega), readField_eq (by omega), readField_eq (by omega)]
  rfl

/-! ## One record -/

/-- How a record changes the ownership found so far. -/
def Takes (found : Option ValidatedPageTableOwnership) (record : List UInt8)
    (next : Option ValidatedPageTableOwnership) : Prop :=
  if IsOwnership record then
    found = none ∧ ∃ validated, (ownershipOf (record.drop 16)).validate = .ok validated ∧
      next = some validated
  else next = found

theorem takes_ownership {found next : Option ValidatedPageTableOwnership} {record : List UInt8}
    (owns : IsOwnership record) :
    Takes found record next ↔ found = none ∧
      ∃ validated, (ownershipOf (record.drop 16)).validate = .ok validated ∧
        next = some validated := by
  rw [Takes, if_pos owns]

theorem takes_other {found next : Option ValidatedPageTableOwnership} {record : List UInt8}
    (other : ¬ IsOwnership record) : Takes found record next ↔ next = found := by
  rw [Takes, if_neg other]

theorem flags_known {flags : Nat} (word : flags < 2 ^ 32) :
    flags &&& (2 ^ 32 - 1 - extensionFlagRequired) = 0 ↔ flags = 0 ∨ flags = 1 := by
  have mask : 2 ^ 32 - 1 - extensionFlagRequired = (2 ^ 31 - 1) <<< 1 := by decide
  rw [mask, and_shifted_mask word]
  omega

section

variable {bytes : Bytes} {offset : Nat} {record rest : List UInt8}
  {found next : Option ValidatedPageTableOwnership}

/-- The bytes of a record past its header. -/
theorem slice_payload (split : bytes.data.drop offset = record ++ rest)
    (long : 16 ≤ record.length) :
    ∃ piece, bytes.slice (offset + 16) (offset + record.length) = some piece ∧
      piece.data = record.drop 16 := by
  have bound : offset + record.length ≤ bytes.length := by
    have lengths := congrArg List.length split
    simp only [List.length_drop, List.length_append] at lengths
    simp only [Bytes.length]
    omega
  obtain ⟨piece, sliced, data⟩ :=
    Bytes.slice_eq_some (show offset + 16 ≤ offset + record.length by omega) bound
  refine ⟨piece, sliced, ?_⟩
  rw [data, ← List.drop_drop, split, List.drop_append_of_le_length long]
  rw [show offset + record.length - (offset + 16) = (record.drop 16).length by
    rw [List.length_drop]; omega]
  exact List.take_left

theorem acceptRecord_computes (split : bytes.data.drop offset = record ++ rest)
    (long : 16 ≤ record.length) (totalSize : (headerOf record).totalSize = record.length)
    (flags : (headerOf record).flags = 0 ∨ (headerOf record).flags = 1) :
    Computes .panic
      (acceptRecord bytes (offset + 16) (offset + record.length) (headerOf record) found)
      fun next => ((headerOf record).kind ≠ 1 → (headerOf record).flags = 0) ∧
        ((headerOf record).kind = 1 → (headerOf record).version ≠ 1 →
          (headerOf record).flags = 0) ∧
        (IsOwnership record → record.length = 80) ∧ Takes found record next := by
  have required : (headerOf record).flags &&& extensionFlagRequired ≠ 0 ↔
      ¬ (headerOf record).flags = 0 := by
    cases flags with
    | inl zero => simp [zero]
    | inr one => simp [one]
  unfold acceptRecord
  simp only [extensionKindPageTableOwnership, extensionVersion1, pageTableOwnershipSize, required,
    totalSize]
  by_cases owns : IsOwnership record
  · obtain ⟨kind, version⟩ := owns
    have owns : IsOwnership record := ⟨kind, version⟩
    simp only [kind, version, owns, takes_ownership owns, if_true, ne_eq, not_true_eq_false,
      if_false]
    by_cases sized : record.length = 80
    · obtain ⟨piece, sliced, data⟩ := slice_payload split long
      have parsed : parsePageTableOwnership piece = .ok (ownershipOf (record.drop 16)) := by
        rw [parsePageTableOwnership_eq (by rw [data, List.length_drop]; omega), data]
      rw [sized] at sliced
      simp only [sized, not_true_eq_false, if_false]
      cases found with
      | some earlier => exact .reject (by simp) (by simp)
      | none =>
          simp only [Option.isSome_none, Bool.false_eq_true, if_false, sliced, parsed, okOr_some,
            ok_bind]
          cases validated : (ownershipOf (record.drop 16)).validate with
          | error reason => exact .reject (by simp) (by simp)
          | ok value => exact .accept (by simp)
    · rw [if_pos sized]
      exact .reject (by simp) (by simp [sized])
  · have foreign : ¬ ((headerOf record).kind = 1 ∧ (headerOf record).version = 1) := owns
    simp only [owns, takes_other owns, false_implies, true_and]
    by_cases kind : (headerOf record).kind = 1
    · have version : (headerOf record).version ≠ 1 := fun same => foreign ⟨kind, same⟩
      simp only [kind, version, if_true, ne_eq, not_true_eq_false, not_false_eq_true, false_implies,
        forall_true_left, true_and]
      cases flags with
      | inl zero => simpa [zero] using Computes.accept (by simp)
      | inr one => simpa [one] using Computes.reject (by simp) (by simp)
    · simp only [kind, if_false, ne_eq, not_false_eq_true, false_implies, forall_true_left,
        true_and]
      cases flags with
      | inl zero => simpa [zero] using Computes.accept (by simp)
      | inr one => simpa [one] using Computes.reject (by simp) (by simp)

/-- What the header at the cursor has to say before the record is looked at. -/
structure Framed (bytes : Bytes) (offset : Nat) (header : ExtensionHeader) : Prop where
  headerSize : header.headerSize = 16
  long : 16 ≤ header.totalSize
  aligned : header.totalSize % 8 = 0
  flags : header.flags = 0 ∨ header.flags = 1
  inside : offset + header.totalSize ≤ bytes.length

theorem parseExtensionHeader_slice (reach : offset + 16 ≤ bytes.length) :
    ∃ piece, bytes.slice offset (offset + 16) = some piece ∧
      parseExtensionHeader piece = .ok (headerOf (bytes.data.drop offset)) := by
  obtain ⟨piece, sliced, data⟩ := Bytes.slice_eq_some (Nat.le_add_right offset 16) reach
  have long : 16 ≤ (bytes.data.drop offset).length := by
    simp only [Bytes.length] at reach
    rw [List.length_drop]
    omega
  have sized : ((bytes.data.drop offset).take 16).length = 16 := List.length_take_of_le long
  refine ⟨piece, sliced, ?_⟩
  rw [Nat.add_sub_cancel_left] at data
  rw [parseExtensionHeader_eq (by rw [data]; omega), data]
  conv_rhs => rw [← List.take_append_drop 16 (bytes.data.drop offset)]
  rw [headerOf_append _ (by omega)]

/-- With a framed header in reach, reading is accepting the record. -/
theorem readRecord_framed {header : ExtensionHeader}
    (same : headerOf (bytes.data.drop offset) = header) (reach : offset + 16 ≤ bytes.length)
    (framed : Framed bytes offset header) :
    readRecord bytes offset found =
      (acceptRecord bytes (offset + 16) (offset + header.totalSize) header found).map
        (offset + header.totalSize, ·) := by
  have bounded : bytes.length < wordLimit := bytes.bounded
  obtain ⟨piece, sliced, parsed⟩ := parseExtensionHeader_slice reach
  rw [same] at parsed
  obtain ⟨headerSize, long, aligned, flags, inside⟩ := framed
  have word : header.flags < 2 ^ 32 := by omega
  have headerEnd : checkedAdd offset 16 = some (offset + 16) :=
    checkedAdd_eq_some.mpr ⟨by omega, rfl⟩
  have recordEnd : checkedAdd offset header.totalSize = some (offset + header.totalSize) :=
    checkedAdd_eq_some.mpr ⟨by omega, rfl⟩
  have sized : ¬ (header.totalSize < 16 ∨ ¬ header.totalSize % 8 = 0) := by omega
  have known := (flags_known word).mpr flags
  simp only [readRecord, extensionHeaderSize, headerEnd, okOr_some, ok_bind, sliced, parsed,
    headerSize, recordEnd, ne_eq, known, not_true_eq_false, if_false, if_neg sized,
    if_neg (Nat.not_lt.mpr reach), if_neg (Nat.not_lt.mpr inside)]
  cases acceptRecord bytes (offset + 16) (offset + header.totalSize) header found <;> rfl

theorem readRecord_unframed {header : ExtensionHeader}
    (same : headerOf (bytes.data.drop offset) = header)
    (unframed : ¬ (offset + 16 ≤ bytes.length ∧ Framed bytes offset header)) :
    ∃ error, readRecord bytes offset found = .error (.refused error) := by
  have bounded : bytes.length < wordLimit := bytes.bounded
  have word : header.flags < 2 ^ 32 := by
    rw [← same]
    exact field_lt _ 12 4
  by_cases reach : offset + 16 ≤ bytes.length
  · obtain ⟨piece, sliced, parsed⟩ := parseExtensionHeader_slice reach
    rw [same] at parsed
    have headerEnd : checkedAdd offset 16 = some (offset + 16) :=
      checkedAdd_eq_some.mpr ⟨by omega, rfl⟩
    simp only [readRecord, extensionHeaderSize, headerEnd, okOr_some, ok_bind, sliced, parsed,
      if_neg (Nat.not_lt.mpr reach)]
    by_cases headerSize : header.headerSize = 16
    · by_cases sized : header.totalSize < 16 ∨ ¬ header.totalSize % 8 = 0
      · simp [headerSize, sized]
      · by_cases known : header.flags &&& (2 ^ 32 - 1 - extensionFlagRequired) = 0
        · have outside : ¬ offset + header.totalSize ≤ bytes.length := by
            intro inside
            exact unframed ⟨reach, headerSize, by omega, by omega, (flags_known word).mp known,
              inside⟩
          simp only [headerSize, ne_eq, not_true_eq_false, if_false, if_neg sized, known]
          by_cases fits : offset + header.totalSize < wordLimit
          · rw [show checkedAdd offset header.totalSize = some (offset + header.totalSize) from
              checkedAdd_eq_some.mpr ⟨fits, rfl⟩]
            simp only [okOr_some, ok_bind, if_pos (Nat.lt_of_not_le outside)]
            exact ⟨_, rfl⟩
          · simp [checkedAdd, fits]
        · simp only [headerSize, ne_eq, not_true_eq_false, if_false, if_neg sized, known,
            not_false_eq_true, if_true]
          exact ⟨_, rfl⟩
    · simp [headerSize]
  · by_cases fits : offset + 16 < wordLimit
    · have headerEnd : checkedAdd offset 16 = some (offset + 16) :=
        checkedAdd_eq_some.mpr ⟨fits, rfl⟩
      simp only [readRecord, extensionHeaderSize, headerEnd, okOr_some, ok_bind,
        if_pos (Nat.lt_of_not_le reach)]
      exact ⟨_, rfl⟩
    · simp [readRecord, checkedAdd, fits]

/-- A well-formed record is framed by its own header. -/
theorem WellFormed.framed (wellFormed : WellFormed record)
    (split : bytes.data.drop offset = record ++ rest) :
    headerOf (bytes.data.drop offset) = headerOf record ∧ offset + 16 ≤ bytes.length ∧
      Framed bytes offset (headerOf record) := by
  have lengths := congrArg List.length split
  simp only [List.length_drop, List.length_append] at lengths
  have long := wellFormed.long
  refine ⟨?_, ?_, wellFormed.headerSize, ?_, ?_, wellFormed.flags, ?_⟩
  · rw [split, headerOf_append rest long]
  · simp only [Bytes.length]
    omega
  · rw [wellFormed.totalSize]
    exact long
  · rw [wellFormed.totalSize]
    exact wellFormed.aligned
  · rw [wellFormed.totalSize]
    simp only [Bytes.length]
    omega

/-- The record at the cursor is the header's length of bytes. -/
theorem Framed.first_record (framed : Framed bytes offset (headerOf (bytes.data.drop offset))) :
    ∃ record rest, bytes.data.drop offset = record ++ rest ∧
      headerOf (bytes.data.drop offset) = headerOf record ∧
      (headerOf record).totalSize = record.length := by
  obtain ⟨record, rest, split, sized⟩ : ∃ record rest, bytes.data.drop offset = record ++ rest ∧
      record.length = (headerOf (bytes.data.drop offset)).totalSize := by
    refine ⟨_, _, (List.take_append_drop
      (headerOf (bytes.data.drop offset)).totalSize (bytes.data.drop offset)).symm, ?_⟩
    have inside := framed.inside
    simp only [Bytes.length] at inside
    rw [List.length_take_of_le]
    rw [List.length_drop]
    omega
  have same : headerOf (bytes.data.drop offset) = headerOf record := by
    rw [split, headerOf_append rest (sized ▸ framed.long)]
  exact ⟨record, rest, split, same, same ▸ sized.symm⟩

/-- A framed record is well formed where its payload is acceptable. -/
theorem Framed.wellFormed_iff (framed : Framed bytes offset (headerOf record))
    (sized : (headerOf record).totalSize = record.length) :
    WellFormed record ∧ Takes found record next ↔
      ((headerOf record).kind ≠ 1 → (headerOf record).flags = 0) ∧
      ((headerOf record).kind = 1 → (headerOf record).version ≠ 1 →
        (headerOf record).flags = 0) ∧
      (IsOwnership record → record.length = 80) ∧ Takes found record next := by
  constructor
  · intro taken
    obtain ⟨wellFormed, takes⟩ := taken
    exact ⟨wellFormed.unknown, wellFormed.newer, fun owns => (wellFormed.ownership owns).1, takes⟩
  · intro taken
    obtain ⟨unknown, newer, whole, takes⟩ := taken
    refine ⟨⟨framed.headerSize, sized, sized ▸ framed.long, sized ▸ framed.aligned, framed.flags,
      unknown, newer, ?_⟩, takes⟩
    intro owns
    obtain ⟨_, validated, valid, _⟩ := (takes_ownership owns).mp takes
    exact ⟨whole owns, validated, valid⟩

/-- Two records at one cursor are as long as the one header says. -/
theorem WellFormed.unique {other others : List UInt8} (wellFormed : WellFormed other)
    (otherSplit : bytes.data.drop offset = other ++ others)
    (split : bytes.data.drop offset = record ++ rest)
    (same : headerOf (bytes.data.drop offset) = headerOf record)
    (sized : (headerOf record).totalSize = record.length) : other = record := by
  have otherHeader : headerOf record = headerOf other := by
    rw [← same, (wellFormed.framed otherSplit).1]
  have sameLength : other.length = record.length := by
    rw [← sized, otherHeader, wellFormed.totalSize]
  exact (List.append_inj (otherSplit.symm.trans split) sameLength).1

/-- A record that stands at the cursor is read as it is, and nothing else is
accepted there. -/
theorem readRecord_computes :
    Computes .panic (readRecord bytes offset found) fun result =>
      ∃ record rest, bytes.data.drop offset = record ++ rest ∧ WellFormed record ∧
        result.1 = offset + record.length ∧ Takes found record result.2 := by
  by_cases ready : offset + 16 ≤ bytes.length ∧
      Framed bytes offset (headerOf (bytes.data.drop offset))
  · obtain ⟨reach, framed⟩ := ready
    obtain ⟨record, rest, split, same, sized⟩ := framed.first_record
    rw [same] at framed
    have long : 16 ≤ record.length := sized ▸ framed.long
    rw [readRecord_framed same reach framed, sized]
    refine (acceptRecord_computes split long sized framed.flags).map.congr ?_
    intro result
    constructor
    · intro accepted
      obtain ⟨next, accepted, rfl⟩ := accepted
      obtain ⟨wellFormed, takes⟩ := (framed.wellFormed_iff sized).mpr accepted
      exact ⟨record, rest, split, wellFormed, rfl, takes⟩
    · intro stands
      obtain ⟨other, others, otherSplit, wellFormed, ends, takes⟩ := stands
      obtain rfl := wellFormed.unique otherSplit split same sized
      exact ⟨result.2, (framed.wellFormed_iff sized).mp ⟨wellFormed, takes⟩,
        Prod.ext ends.symm rfl⟩
  · obtain ⟨error, refused⟩ := @readRecord_unframed bytes offset found _ rfl ready
    rw [refused]
    refine .reject (by simp) ?_
    intro result stands
    obtain ⟨record, rest, split, wellFormed, _⟩ := stands
    obtain ⟨same, reach, framed⟩ := wellFormed.framed split
    exact ready ⟨reach, same ▸ framed⟩

end

/-! ## The whole area -/

/-- The records, one after the other, lead from one state of the scan to
another. -/
inductive Accepts : Option ValidatedPageTableOwnership → List (List UInt8) →
    Option ValidatedPageTableOwnership → Prop where
  | nil {found : Option ValidatedPageTableOwnership} : Accepts found [] found
  | cons {found middle next : Option ValidatedPageTableOwnership} {record : List UInt8}
      {records : List (List UInt8)} (wellFormed : WellFormed record)
      (takes : Takes found record middle) (rest : Accepts middle records next) :
      Accepts found (record :: records) next

theorem accepts_nil {found next : Option ValidatedPageTableOwnership} :
    Accepts found [] next ↔ next = found := by
  constructor
  · intro accepts
    cases accepts
    rfl
  · intro same
    subst same
    exact .nil

theorem accepts_cons {found next : Option ValidatedPageTableOwnership} {record : List UInt8}
    {records : List (List UInt8)} :
    Accepts found (record :: records) next ↔
      WellFormed record ∧ ∃ middle, Takes found record middle ∧ Accepts middle records next := by
  constructor
  · intro accepts
    cases accepts with
    | cons wellFormed takes rest => exact ⟨wellFormed, _, takes, rest⟩
  · intro accepted
    obtain ⟨wellFormed, _, takes, rest⟩ := accepted
    exact .cons wellFormed takes rest

/-- Step by step acceptance is acceptance of every record, with at most one
ownership record in all. -/
theorem accepts_iff {found next : Option ValidatedPageTableOwnership}
    {records : List (List UInt8)} :
    Accepts found records next ↔
      (∀ record ∈ records, WellFormed record) ∧
      (records.countP fun record => IsOwnership record) + found.toList.length ≤ 1 ∧
      next = found.or (ownershipIn records) := by
  induction records generalizing found with
  | nil => cases found <;> simp [accepts_nil, ownershipIn]
  | cons record records ih =>
      rw [accepts_cons, List.forall_mem_cons, and_assoc]
      refine and_congr_right fun wellFormed => ?_
      by_cases owns : IsOwnership record
      · obtain ⟨_, validated, valid⟩ := wellFormed.ownership owns
        have counts : (record :: records).countP (fun record => IsOwnership record) =
            records.countP (fun record => IsOwnership record) + 1 :=
          List.countP_cons_of_pos (by simpa using owns)
        have first : ownershipIn (record :: records) = some validated := by
          simp [ownershipIn, owns, valid, Except.toOption]
        simp only [takes_ownership owns, counts, first, valid, ih]
        cases found with
        | none => simp
        | some earlier => simp
      · have counts : (record :: records).countP (fun record => IsOwnership record) =
            records.countP (fun record => IsOwnership record) :=
          List.countP_cons_of_neg (by simpa using owns)
        have later : ownershipIn (record :: records) = ownershipIn records := by
          simp [ownershipIn, owns]
        simp only [takes_other owns, counts, later, ih, exists_eq_left]

/-! ## The scan -/

/-- The records of an area and what is reported of them. -/
@[mk_iff] structure Reports (bytes : Bytes) (records : List (List UInt8)) (summary : ExtensionSummary) :
    Prop where
  flat : bytes.data = records.flatten
  wellFormed : ∀ record ∈ records, WellFormed record
  single : (records.countP fun record => IsOwnership record) ≤ 1
  count : summary.extensionCount = records.length
  ownership : summary.pageTableOwnership = ownershipIn records

section

variable {bytes : Bytes} {offset count recordEnd : Nat}
  {found middle : Option ValidatedPageTableOwnership} {summary : ExtensionSummary}

theorem drop_record {record rest : List UInt8}
    (split : bytes.data.drop offset = record ++ rest) :
    bytes.data.drop (offset + record.length) = rest := by
  rw [← List.drop_drop, split, List.drop_left]

/-- The bytes from the cursor on are records that lead to the summary. -/
def ScansTo (bytes : Bytes) (offset count : Nat) (found : Option ValidatedPageTableOwnership)
    (summary : ExtensionSummary) : Prop :=
  ∃ records, bytes.data.drop offset = records.flatten ∧
    Accepts found records summary.pageTableOwnership ∧
    summary.extensionCount = count + records.length

/-- Before the end of the area there is a first record, and it is the one that
is read. -/
theorem ScansTo.first (scans : ScansTo bytes offset count found summary)
    (more : offset < bytes.length) :
    ∃ recordEnd middle, readRecord bytes offset found = .ok (recordEnd, middle) ∧
      ScansTo bytes recordEnd (count + 1) middle summary := by
  obtain ⟨records, flat, accepts, counts⟩ := scans
  cases records with
  | nil =>
      have short := congrArg List.length flat
      simp only [List.length_drop, List.flatten_nil, List.length_nil] at short
      simp only [Bytes.length] at more
      omega
  | cons record rest =>
      obtain ⟨wellFormed, middle, takes, later⟩ := accepts_cons.mp accepts
      rw [List.flatten_cons] at flat
      refine ⟨offset + record.length, middle, (readRecord_computes.exact _).mpr
        ⟨record, rest.flatten, flat, wellFormed, rfl, takes⟩, rest, drop_record flat, later, ?_⟩
      rw [counts, List.length_cons]
      omega

/-- What is read goes in front of the records that follow. -/
theorem ScansTo.read (scans : ScansTo bytes recordEnd (count + 1) middle summary)
    (ran : readRecord bytes offset found = .ok (recordEnd, middle)) :
    ScansTo bytes offset count found summary := by
  obtain ⟨records, flat, accepts, counts⟩ := scans
  obtain ⟨record, rest, split, wellFormed, ends, takes⟩ := (readRecord_computes.exact _).mp ran
  simp only at ends
  subst ends
  rw [drop_record split] at flat
  refine ⟨record :: records, ?_, .cons wellFormed takes accepts, ?_⟩
  · rw [split, flat, List.flatten_cons]
  · rw [counts, List.length_cons]
    omega

theorem scansTo_end (done : ¬ offset < bytes.length) :
    ScansTo bytes offset count found summary ↔ summary = ⟨found, count⟩ := by
  have finished : bytes.data.drop offset = [] := by
    rw [List.drop_eq_nil_iff]
    simp only [Bytes.length] at done
    omega
  constructor
  · intro scans
    obtain ⟨records, flat, accepts, counts⟩ := scans
    rw [finished] at flat
    cases records with
    | nil =>
        obtain ⟨ownership, number⟩ := summary
        obtain rfl := accepts_nil.mp accepts
        simpa using counts
    | cons record records =>
        have long := (accepts_cons.mp accepts).1.long
        rw [List.flatten_cons, eq_comm, List.append_eq_nil_iff] at flat
        rw [flat.1] at long
        simp at long
  · intro same
    subst same
    exact ⟨[], finished, .nil, rfl⟩

/-- The cursor has passed at least sixteen bytes per record counted, which
keeps the counter below its own width. -/
theorem scanRecords_computes (small : bytes.length < 2 ^ 32) (inside : offset ≤ bytes.length)
    (counted : count * 16 ≤ offset) :
    Computes .panic (scanRecords bytes offset count found) (ScansTo bytes offset count found) := by
  generalize measure : bytes.length - offset = size
  induction size using Nat.strongRecOn generalizing offset count found with
  | ind size ih =>
      rw [scanRecords]
      by_cases more : offset < bytes.length
      · rw [if_pos more]
        split
        · rename_i failure ran
          refine .reject ?_ ?_
          · intro same
            subst same
            exact readRecord_computes.safe ran
          · intro summary scans
            obtain ⟨_, _, read, _⟩ := scans.first more
            rw [ran] at read
            contradiction
        · rename_i recordEnd middle ran
          have advances := readRecord_advances ran
          simp only [extensionHeaderSize] at advances
          rw [if_pos (by omega)]
          refine (ih (bytes.length - recordEnd) (by omega) advances.2 (by omega) rfl).congr ?_
          intro summary
          constructor
          · intro scans
            exact scans.read ran
          · intro scans
            obtain ⟨_, _, read, later⟩ := scans.first more
            rw [ran] at read
            cases read
            exact later
      · rw [if_neg more]
        exact .accept fun summary => scansTo_end more

end

theorem length_flatten_aligned {records : List (List UInt8)}
    (all : ∀ record ∈ records, WellFormed record) : records.flatten.length % 8 = 0 := by
  induction records with
  | nil => rfl
  | cons record records ih =>
      obtain ⟨wellFormed, rest⟩ := List.forall_mem_cons.mp all
      have first := wellFormed.aligned
      have later := ih rest
      rw [List.flatten_cons, List.length_append]
      omega

section

variable (minor : Nat) {declared : Nat} {bytes : Bytes}

theorem validateExtensionArea_missized
    (wrong : ¬ (declared = 128 + bytes.length ∧ declared < 2 ^ 32)) :
    validateExtensionArea 2 minor declared bytes = .error (.refused .totalSizeMismatch) := by
  rw [validateExtensionArea]
  by_cases large : bytes.length ≥ 2 ^ 32 ∨ bootInfoSize + bytes.length ≥ 2 ^ 32
  · rw [if_pos large]
  · rw [if_neg large, if_pos]
    simp only [bootInfoSize] at large ⊢
    omega

/-- With the right size only the alignment is left to check before the scan. -/
theorem validateExtensionArea_sized (fits : 128 + bytes.length < 2 ^ 32) :
    validateExtensionArea 2 minor (128 + bytes.length) bytes =
      if ¬ bytes.length % 8 = 0 then .error (.refused .extensionAreaMisaligned)
      else scanRecords bytes 0 0 none := by
  have small : ¬ (bytes.length ≥ 2 ^ 32 ∨ bootInfoSize + bytes.length ≥ 2 ^ 32) := by
    simp only [bootInfoSize]
    omega
  rw [validateExtensionArea, if_neg small]
  simp

theorem scansTo_start {summary : ExtensionSummary} :
    ScansTo bytes 0 0 none summary ↔
      ∃ records, Reports bytes records summary := by
  refine exists_congr fun records => ?_
  simp only [reports_iff, accepts_iff, List.drop_zero, Option.toList_none, List.length_nil, Nat.add_zero,
    Nat.zero_add, Option.none_or, and_assoc]
  rw [and_comm (a := summary.pageTableOwnership = _)]

end

theorem validateExtensionArea_computes (minor declared : Nat) (bytes : Bytes) :
    Computes .panic (validateExtensionArea 2 minor declared bytes) fun summary =>
      declared = 128 + bytes.length ∧ declared < 2 ^ 32 ∧
        ∃ records, Reports bytes records summary := by
  by_cases sized : declared = 128 + bytes.length ∧ declared < 2 ^ 32
  · obtain ⟨rfl, fits⟩ := sized
    rw [validateExtensionArea_sized minor fits]
    by_cases aligned : bytes.length % 8 = 0
    · rw [if_neg (not_not.mpr aligned)]
      refine (scanRecords_computes (by omega) (Nat.zero_le _) (Nat.le_refl _)).congr ?_
      intro summary
      rw [scansTo_start]
      simp only [true_and, fits]
    · rw [if_pos aligned]
      refine .reject (by simp) ?_
      intro summary accepted
      obtain ⟨_, _, records, reports⟩ := accepted
      have whole := length_flatten_aligned reports.wellFormed
      rw [← reports.flat] at whole
      exact aligned whole
  · rw [validateExtensionArea_missized minor sized]
    refine .reject (by simp) ?_
    intro summary accepted
    exact sized ⟨accepted.1, accepted.2.1⟩

/-- The validator accepts exactly the areas of the declared size that are a
sequence of well-formed records with at most one page-table ownership among
them, and it reports their number and that ownership.  It never panics. -/
theorem validateExtensionArea_accepts_records (minor declared : Nat) (bytes : Bytes) :
    validateExtensionArea 2 minor declared bytes ≠ .error .panic ∧
      ∀ summary, validateExtensionArea 2 minor declared bytes = .ok summary ↔
        declared = 128 + bytes.length ∧ declared < 2 ^ 32 ∧
        ∃ records, bytes.data = records.flatten ∧ (∀ record ∈ records, WellFormed record) ∧
          (records.countP fun record => IsOwnership record) ≤ 1 ∧
          summary.extensionCount = records.length ∧
          summary.pageTableOwnership = ownershipIn records := by
  have computes := validateExtensionArea_computes minor declared bytes
  refine ⟨computes.safe, ?_⟩
  intro summary
  simp only [computes.exact, reports_iff]

end UnnamedOS.BootProtocol
