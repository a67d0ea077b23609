import UnnamedOS.BootProtocol.ExtensionGrammar

namespace UnnamedOS.BootProtocol

open UnnamedOS.Data

/-! # Records a reader may ignore

A later protocol may add optional records.  Putting one between the records of
an accepted area, or taking one out, changes nothing but the count. -/

/-- The positions of the scan's cursor, with the ownership found on the way. -/
inductive Visits (bytes : Bytes) : Nat → Option ValidatedPageTableOwnership → Prop where
  | start : Visits bytes 0 none
  | step {offset recordEnd : Nat} {found next : Option ValidatedPageTableOwnership}
      (visits : Visits bytes offset found)
      (ran : readRecord bytes offset found = .ok (recordEnd, next)) : Visits bytes recordEnd next

/-- The scan comes by this offset: a record starts here, or the area ends. -/
def IsBoundary (bytes : Bytes) (offset : Nat) : Prop := ∃ found, Visits bytes offset found

/-- An optional record of an unknown kind, or of an unknown version of the known
kind. -/
structure Ignorable (record : List UInt8) : Prop where
  headerSize : (headerOf record).headerSize = 16
  totalSize : (headerOf record).totalSize = record.length
  long : 16 ≤ record.length
  aligned : record.length % 8 = 0
  flags : (headerOf record).flags = 0
  foreign : (headerOf record).kind ≠ 1 ∨
    ((headerOf record).kind = 1 ∧ (headerOf record).version ≠ 1)

namespace Ignorable

variable {record : List UInt8} {before after : List (List UInt8)} {bytes : Bytes}
  {summary : ExtensionSummary}

theorem not_isOwnership (ignorable : Ignorable record) : ¬ IsOwnership record := by
  intro owns
  cases ignorable.foreign with
  | inl kind => exact kind owns.1
  | inr newer => exact newer.2 owns.2

theorem wellFormed (ignorable : Ignorable record) : WellFormed record where
  headerSize := ignorable.headerSize
  totalSize := ignorable.totalSize
  long := ignorable.long
  aligned := ignorable.aligned
  flags := .inl ignorable.flags
  unknown := fun _ => ignorable.flags
  newer := fun _ _ => ignorable.flags
  ownership := fun owns => absurd owns ignorable.not_isOwnership

theorem countP_splice (ignorable : Ignorable record) :
    (before ++ record :: after).countP (fun record => IsOwnership record) =
      (before ++ after).countP (fun record => IsOwnership record) := by
  rw [List.countP_append, List.countP_append,
    List.countP_cons_of_neg (by simpa using ignorable.not_isOwnership)]

theorem ownershipIn_splice (ignorable : Ignorable record) :
    ownershipIn (before ++ record :: after) = ownershipIn (before ++ after) := by
  rw [ownershipIn, ownershipIn, List.find?_append, List.find?_append,
    List.find?_cons_of_neg (by simpa using ignorable.not_isOwnership)]

theorem reports_splice (ignorable : Ignorable record) {spliced : Bytes} {count : Nat}
    {ownership : Option ValidatedPageTableOwnership}
    (flat : bytes.data = (before ++ after).flatten)
    (splicedFlat : spliced.data = (before ++ record :: after).flatten) :
    Reports spliced (before ++ record :: after) ⟨ownership, count + 1⟩ ↔
      Reports bytes (before ++ after) ⟨ownership, count⟩ := by
  simp only [reports_iff, flat, splicedFlat, ignorable.countP_splice, ignorable.ownershipIn_splice,
    List.forall_mem_append, List.forall_mem_cons, ignorable.wellFormed, true_and,
    List.length_append, List.length_cons]
  rw [← Nat.add_assoc, Nat.add_right_cancel_iff]

end Ignorable

section

variable {bytes : Bytes} {offset : Nat} {record rest : List UInt8} {records : List (List UInt8)}

theorem WellFormed.ne_nil (wellFormed : WellFormed record) : record ≠ [] := by
  intro empty
  have long := wellFormed.long
  rw [empty] at long
  contradiction

/-- A record that stands where records start is the first of them. -/
theorem WellFormed.first_of_flatten (wellFormed : WellFormed record)
    (all : ∀ listed ∈ records, WellFormed listed)
    (split : bytes.data.drop offset = record ++ rest)
    (flat : bytes.data.drop offset = records.flatten) :
    ∃ after, records = record :: after ∧ rest = after.flatten := by
  cases records with
  | nil =>
      rw [split, List.flatten_nil, List.append_eq_nil_iff] at flat
      exact absurd flat.1 wellFormed.ne_nil
  | cons first after =>
      have firstFormed := all first List.mem_cons_self
      have same := firstFormed.unique flat split (wellFormed.framed split).1 wellFormed.totalSize
      subst same
      rw [split, List.flatten_cons] at flat
      exact ⟨after, rfl, List.append_cancel_left flat⟩

/-- The cursor stops only between the records. -/
theorem Visits.splits {found : Option ValidatedPageTableOwnership}
    (visits : Visits bytes offset found) (flat : bytes.data = records.flatten)
    (all : ∀ listed ∈ records, WellFormed listed) :
    ∃ before after, records = before ++ after ∧ bytes.data.take offset = before.flatten ∧
      bytes.data.drop offset = after.flatten := by
  induction visits with
  | start => exact ⟨[], records, rfl, rfl, flat⟩
  | @step offset recordEnd found next _ ran ih =>
      obtain ⟨before, after, rfl, taken, left⟩ := ih
      obtain ⟨record, rest, split, wellFormed, ends, _⟩ := (readRecord_computes.exact _).mp ran
      simp only at ends
      subst ends
      obtain ⟨later, rfl, rfl⟩ := wellFormed.first_of_flatten
        (fun listed member => all listed (List.mem_append_right before member)) split left
      refine ⟨before ++ [record], later, by simp, ?_, drop_record split⟩
      rw [List.take_add, taken, split, List.take_left, List.flatten_append, List.flatten_singleton]

end

theorem length_of_take_drop {bytes : Bytes} {offset : Nat} {head tail : List UInt8}
    (taken : bytes.data.take offset = head) (left : bytes.data.drop offset = tail) :
    bytes.length = head.length + tail.length := by
  rw [← taken, ← left, ← List.length_append, List.take_append_drop]
  rfl

/-- An ignorable record may be put in at any boundary of an accepted area, and
taken out wherever it stands. -/
theorem validateExtensionArea_splice (minor declared : Nat) (bytes spliced : Bytes)
    (summary : ExtensionSummary) (offset : Nat) (record : List UInt8) (ignorable : Ignorable record)
    (accepted : validateExtensionArea 2 minor declared bytes = .ok summary)
    (boundary : IsBoundary bytes offset) :
    (spliced.data = bytes.data.take offset ++ record ++ bytes.data.drop offset →
      declared + record.length < 2 ^ 32 →
      validateExtensionArea 2 minor (declared + record.length) spliced =
        .ok ⟨summary.pageTableOwnership, summary.extensionCount + 1⟩) ∧
    ∀ rest, bytes.data.drop offset = record ++ rest →
      spliced.data = bytes.data.take offset ++ rest →
      ∃ count, summary.extensionCount = count + 1 ∧
        validateExtensionArea 2 minor (declared - record.length) spliced =
          .ok ⟨summary.pageTableOwnership, count⟩ := by
  obtain ⟨sized, fits, records, reports⟩ :=
    ((validateExtensionArea_computes minor declared bytes).exact summary).mp accepted
  obtain ⟨found, visits⟩ := boundary
  obtain ⟨before, after, rfl, taken, left⟩ := visits.splits reports.flat reports.wellFormed
  have whole := length_of_take_drop taken left
  constructor
  · intro inserted room
    have splicedFlat : spliced.data = (before ++ record :: after).flatten := by
      rw [inserted, taken, left, List.append_assoc, List.flatten_append, List.flatten_cons]
    refine ((validateExtensionArea_computes minor _ spliced).exact _).mpr
      ⟨?_, room, _, (ignorable.reports_splice reports.flat splicedFlat).mpr reports⟩
    have longer := congrArg List.length inserted
    simp only [List.length_append, taken, left] at longer
    simp only [Bytes.length] at sized whole ⊢
    omega
  · intro rest split removed
    obtain ⟨later, rfl, rfl⟩ := ignorable.wellFormed.first_of_flatten
      (fun listed member => reports.wellFormed listed (List.mem_append_right before member)) split left
    have splicedFlat : spliced.data = (before ++ later).flatten := by
      rw [removed, taken, List.flatten_append]
    have counted := reports.count
    rw [List.length_append, List.length_cons, ← Nat.add_assoc] at counted
    refine ⟨before.length + later.length, counted,
      ((validateExtensionArea_computes minor _ spliced).exact _).mpr ⟨?_, ?_, _,
        (ignorable.reports_splice splicedFlat reports.flat).mp (counted ▸ reports)⟩⟩
    · have shorter := congrArg List.length removed
      have lengths := congrArg List.length split
      simp only [List.length_append, taken] at shorter lengths
      simp only [left] at lengths
      simp only [Bytes.length] at sized whole ⊢
      omega
    · omega

/-- A record of version 1. -/
def recordOf (kind flags : Nat) (payload : List UInt8) : List UInt8 :=
  leBytes 4 kind ++ leBytes 2 1 ++ leBytes 2 16 ++ leBytes 4 (16 + payload.length) ++
    leBytes 4 flags ++ payload

/-- A hierarchy of five frames. -/
def ownershipRecord : List UInt8 :=
  recordOf 1 1 (leBytes 2 1 ++ [4, 2] ++ leBytes 4 4096 ++ leBytes 8 0x30_0000 ++
    leBytes 8 0x31_0000 ++ leBytes 4 5 ++ leBytes 4 16 ++ leBytes 8 0x4000_0000_0000 ++
    List.replicate 24 0)

/-- An optional record whose payload looks like the header of a required one. -/
def optionalRecord : List UInt8 := recordOf 7 0 (recordOf 1 1 [])

def lastRecord : List UInt8 := recordOf 9 0 (List.replicate 8 0xff)

def ownedArea : Bytes := ⟨ownershipRecord ++ lastRecord, by decide +kernel⟩

def splicedArea : Bytes := ⟨ownershipRecord ++ optionalRecord ++ lastRecord, by decide +kernel⟩

def ownedSummary (count : Nat) : ExtensionSummary :=
  ⟨some ⟨⟨1, 4, 2, 4096, 0x30_0000, 0x31_0000, 5, 16, 0x4000_0000_0000, 0, 0, 0⟩, 80⟩, count⟩

/-- Put between the two records, and taken out again. -/
theorem validateExtensionArea_splice_optionalRecord :
    validateExtensionArea 2 0 264 splicedArea = .ok (ownedSummary 3) ∧
    ∃ count, 3 = count + 1 ∧ validateExtensionArea 2 0 232 ownedArea = .ok (ownedSummary count) := by
  have ignorable : Ignorable optionalRecord :=
    ⟨by decide, by decide, by decide, by decide, by decide, .inl (by decide)⟩
  have accepted : validateExtensionArea 2 0 232 ownedArea = .ok (ownedSummary 2) := by
    decide +kernel
  have between : IsBoundary ownedArea 80 := ⟨_, .step .start (by decide +kernel :
    readRecord ownedArea 0 none = .ok (80, (ownedSummary 1).pageTableOwnership))⟩
  have after : IsBoundary splicedArea 80 := ⟨_, .step .start (by decide +kernel :
    readRecord splicedArea 0 none = .ok (80, (ownedSummary 1).pageTableOwnership))⟩
  have inserted := (validateExtensionArea_splice 0 232 ownedArea splicedArea (ownedSummary 2) 80
    optionalRecord ignorable accepted between).1 (by decide +kernel) (by decide)
  exact ⟨inserted, (validateExtensionArea_splice 0 264 splicedArea ownedArea (ownedSummary 3) 80
    optionalRecord ignorable inserted after).2 lastRecord (by decide +kernel) (by decide +kernel)⟩

end UnnamedOS.BootProtocol
