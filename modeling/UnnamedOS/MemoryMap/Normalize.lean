import Mathlib.Data.List.DropRight
import UnnamedOS.BootProtocol.BootInfo
import UnnamedOS.Data.Spans

namespace UnnamedOS.MemoryMap

open UnnamedOS.Data UnnamedOS.BootProtocol

/-! # The loader's memory map

The firmware's descriptors are mapped to the protocol's kinds, sorted, checked
for overlap and merged.  An output slice is its live prefix; what an error
leaves in it is not modelled. -/

@[simp] def reservationCapacity : Nat := 64

inductive MapBuildError where
  | invalidRawStride
  | rawCapacityExceeded
  | zeroPages
  | rangeOverflow
  | unaligned
  | descriptorOverlap
  | reservationCapacity
  | reservationOverlap
  | reservationOutsideMap
  | outputCapacity
deriving DecidableEq, Repr

/-- `map_uefi_memory_kind`, on the firmware's type numbers. -/
def mapUefiMemoryKind : Nat → Nat
  | 7 => memoryKindUsable
  | 1 | 2 => memoryKindLoader
  | 5 | 6 => memoryKindRuntime
  | 9 => memoryKindAcpiReclaim
  | 8 | 15 => memoryKindUnusable
  | 14 => memoryKindPersistent
  | _ => memoryKindReserved

def mapUefiMemoryKindPostExit : Nat → Nat
  | 3 | 4 => memoryKindUsable
  | memoryType => mapUefiMemoryKind memoryType

structure RawMemoryDescriptor where
  memoryType : Nat
  physicalStart : Nat
  pageCount : Nat
  attributes : Nat
deriving DecidableEq, Repr

def rangeEnd (start pages : Nat) : Except MapBuildError Nat := do
  let bytes ← okOr (checkedMul pages memoryPageSize) .rangeOverflow
  okOr (checkedAdd start bytes) .rangeOverflow

def validateRange (start pages : Nat) : Except MapBuildError Unit :=
  if pages = 0 then .error .zeroPages
  else if ¬ start % memoryPageSize = 0 then .error .unaligned
  else do
    let _ ← rangeEnd start pages
    .ok ()

/-- One round of an insertion sort: the larger keys at the end of the sorted
part move up and the value takes their place. -/
def shiftInsert {α : Type} (key : α → Nat) (sorted : List α) (value : α) : List α :=
  sorted.rdropWhile (fun item => key item > key value) ++
    value :: sorted.rtakeWhile (fun item => key item > key value)

def insertionSort {α : Type} (key : α → Nat) (items : List α) : List α :=
  items.foldl (shiftInsert key) []

/-- The check over `windows(2)` that `validate_non_overlapping` and `finish`
share. -/
def checkWindows {α : Type} (start pages : α → Nat) (overlap : MapBuildError) :
    List α → Except MapBuildError Unit
  | left :: right :: rest => do
      let leftEnd ← rangeEnd (start left) (pages left)
      if leftEnd > start right then .error overlap
      else checkWindows start pages overlap (right :: rest)
  | _ => .ok ()

def validateNonOverlapping (descriptors : List MemoryDescriptor) : Except MapBuildError Unit :=
  checkWindows MemoryDescriptor.physicalStart MemoryDescriptor.pageCount .descriptorOverlap
    descriptors

/-- One iteration of `merge_base_descriptors`: `previous` is the last
descriptor written so far. -/
def mergeStep (written : List MemoryDescriptor × MemoryDescriptor) (current : MemoryDescriptor) :
    Except MapBuildError (List MemoryDescriptor × MemoryDescriptor) := do
  let (before, previous) := written
  let previousEnd ← rangeEnd previous.physicalStart previous.pageCount
  if previousEnd = current.physicalStart ∧ previous.kind = current.kind ∧
      previous.attributes = current.attributes then do
    let pageCount ← okOr (checkedAdd previous.pageCount current.pageCount) .rangeOverflow
    .ok (before, { previous with pageCount })
  else .ok (before ++ [previous], current)

def mergeBaseDescriptors : List MemoryDescriptor → Except MapBuildError (List MemoryDescriptor)
  | [] => .ok []
  | first :: rest => do
      let (before, last) ← rest.foldlM mergeStep ([], first)
      .ok (before ++ [last])

def emptyDescriptor : MemoryDescriptor := ⟨0, 0, 0, 0, 0⟩

/-- A slice of the given length whose live prefix is `live`. -/
def filled (capacity : Nat) (live : List MemoryDescriptor) : List MemoryDescriptor :=
  live ++ List.replicate (capacity - live.length) emptyDescriptor

def normalizeMappedMemoryMap (output : List MemoryDescriptor) (len : Nat) :
    Except MapBuildError (Nat × List MemoryDescriptor) :=
  if len > output.length then .error .outputCapacity
  else do
    let live := output.take len
    checkAll (fun descriptor => validateRange descriptor.physicalStart descriptor.pageCount) live
    let sorted := insertionSort MemoryDescriptor.physicalStart live
    validateNonOverlapping sorted
    let merged ← mergeBaseDescriptors sorted
    .ok (merged.length, filled output.length merged)

def normalizeMemoryMap (raw : List RawMemoryDescriptor) (output : List MemoryDescriptor) :
    Except MapBuildError (Nat × List MemoryDescriptor) :=
  if raw.length > output.length then .error .outputCapacity
  else do
    checkAll (fun descriptor => validateRange descriptor.physicalStart descriptor.pageCount) raw
    let mapped := raw.map fun descriptor => {
      kind := mapUefiMemoryKind descriptor.memoryType
      reserved0 := 0
      physicalStart := descriptor.physicalStart
      pageCount := descriptor.pageCount
      attributes := descriptor.attributes : MemoryDescriptor }
    normalizeMappedMemoryMap (mapped ++ output.drop raw.length) raw.length

/-! ## What the checks establish -/

theorem rangeEnd_eq_ok {start pages stop : Nat} :
    rangeEnd start pages = .ok stop ↔
      start + pages * memoryPageSize = stop ∧ stop < wordLimit := by
  simp only [rangeEnd, bind_eq_ok, okOr_eq_ok, checkedMul_eq_some, checkedAdd_eq_some]
  constructor
  · rintro ⟨_, ⟨_, rfl⟩, bound, rfl⟩
    exact ⟨rfl, bound⟩
  · rintro ⟨rfl, bound⟩
    exact ⟨_, ⟨by omega, rfl⟩, bound, rfl⟩

theorem validateRange_eq_ok {start pages : Nat} :
    validateRange start pages = .ok () ↔ 0 < pages ∧ start % memoryPageSize = 0 ∧
      start + pages * memoryPageSize < wordLimit := by
  simp only [validateRange, guard_eq_ok, bind_eq_ok, rangeEnd_eq_ok, and_true]
  constructor
  · rintro ⟨nonempty, aligned, _, rfl, bound⟩
    exact ⟨by omega, by omega, bound⟩
  · rintro ⟨nonempty, aligned, bound⟩
    exact ⟨by omega, by omega, _, rfl, bound⟩

/-- The second descriptor continues the first one. -/
def Continues (left right : MemoryDescriptor) : Prop :=
  left.stop = right.physicalStart ∧ left.kind = right.kind ∧ left.attributes = right.attributes

theorem Continues.stop {left right : MemoryDescriptor} (continues : Continues left right) :
    MemoryDescriptor.stop { left with pageCount := left.pageCount + right.pageCount } =
      right.stop := by
  have touches := continues.1
  simp only [MemoryDescriptor.stop] at touches ⊢
  rw [← touches, Nat.add_mul, Nat.add_assoc]

theorem take_filled (capacity : Nat) (live : List MemoryDescriptor) :
    (filled capacity live).take live.length = live := by
  simp [filled]

/-- One round of the inner loop looks at the last element only. -/
theorem shiftInsert_concat {α : Type} (key : α → Nat) (sorted : List α) (last value : α) :
    shiftInsert key (sorted ++ [last]) value =
      if key last > key value then shiftInsert key sorted value ++ [last]
      else sorted ++ [last, value] := by
  simp only [shiftInsert, List.rdropWhile_concat, List.rtakeWhile_concat, decide_eq_true_eq]
  split
  · simp
  · simp

theorem shiftInsert_perm {α : Type} (key : α → Nat) (sorted : List α) (value : α) :
    (shiftInsert key sorted value).Perm (sorted ++ [value]) := by
  induction sorted using List.reverseRecOn with
  | nil => exact .refl _
  | append_singleton sorted last ih =>
      rw [shiftInsert_concat]
      split
      · refine (ih.append_right [last]).trans ?_
        simpa using (List.Perm.swap last value []).append_left sorted
      · simp

theorem shiftInsert_sorted {α : Type} {key : α → Nat} {sorted : List α} (value : α)
    (inOrder : sorted.Pairwise fun left right => key left ≤ key right) :
    (shiftInsert key sorted value).Pairwise fun left right => key left ≤ key right := by
  induction sorted using List.reverseRecOn with
  | nil => exact List.pairwise_singleton _ _
  | append_singleton sorted last ih =>
      obtain ⟨before, _, across⟩ := List.pairwise_append.mp inOrder
      rw [shiftInsert_concat]
      split
      · rename_i larger
        refine List.pairwise_append.mpr ⟨ih before, List.pairwise_singleton _ _, ?_⟩
        intro item member final single
        rw [List.mem_singleton.mp single]
        rcases List.mem_append.mp ((shiftInsert_perm key sorted value).mem_iff.mp member) with
          old | new
        · exact across item old last (by simp)
        · rw [List.mem_singleton.mp new]
          omega
      · rename_i smaller
        have appended : (sorted ++ [last]).Pairwise (fun left right => key left ≤ key right) ∧
            ∀ item ∈ sorted ++ [last], key item ≤ key value := by
          refine ⟨inOrder, ?_⟩
          intro item member
          rcases List.mem_append.mp member with old | new
          · have below := across item old last (by simp)
            omega
          · rw [List.mem_singleton.mp new]
            omega
        have split : sorted ++ [last, value] = (sorted ++ [last]) ++ [value] := by simp
        rw [split]
        refine List.pairwise_append.mpr ⟨appended.1, List.pairwise_singleton _ _, ?_⟩
        intro item member final single
        rw [List.mem_singleton.mp single]
        exact appended.2 item member

theorem insertionSort_perm {α : Type} (key : α → Nat) (items : List α) :
    (insertionSort key items).Perm items := by
  have general (items sorted : List α) :
      (items.foldl (shiftInsert key) sorted).Perm (sorted ++ items) := by
    induction items generalizing sorted with
    | nil => simp
    | cons value items ih =>
        refine (ih (shiftInsert key sorted value)).trans ?_
        simpa using (shiftInsert_perm key sorted value).append_right items
  simpa [insertionSort] using general items []

theorem insertionSort_sorted {α : Type} (key : α → Nat) (items : List α) :
    (insertionSort key items).Pairwise fun left right => key left ≤ key right := by
  have general (items sorted : List α)
      (inOrder : sorted.Pairwise fun left right => key left ≤ key right) :
      (items.foldl (shiftInsert key) sorted).Pairwise fun left right => key left ≤ key right := by
    induction items generalizing sorted with
    | nil => exact inOrder
    | cons value items ih => exact ih _ (shiftInsert_sorted value inOrder)
  exact general items [] .nil

/-- Adjacent ranges in order put every earlier range before every later one. -/
theorem checkWindows_ordered {α : Type} {start pages : α → Nat} {overlap : MapBuildError}
    {items : List α} (nonempty : ∀ item ∈ items, 0 < pages item)
    (checked : checkWindows start pages overlap items = .ok ()) :
    Ordered start (fun item => start item + pages item * memoryPageSize) items := by
  induction items with
  | nil => exact .nil
  | cons left rest ih =>
      cases rest with
      | nil => exact List.pairwise_singleton _ _
      | cons right rest =>
          simp only [checkWindows, bind_eq_ok, rangeEnd_eq_ok, guard_eq_ok] at checked
          obtain ⟨_, ⟨rfl, _⟩, before, later⟩ := checked
          have ordered := ih (fun item member => nonempty item (List.mem_cons_of_mem _ member)) later
          refine List.pairwise_cons.mpr ⟨?_, ordered⟩
          intro item member
          rcases List.mem_cons.mp member with rfl | member
          · exact Nat.le_of_not_lt before
          · have following := (List.pairwise_cons.mp ordered).1 item member
            have positive := nonempty right (by simp)
            simp only [memoryPageSize] at before following ⊢
            omega

/-- The other direction, for ranges whose ends fit a word. -/
theorem checkWindows_of_ordered {α : Type} {start pages : α → Nat} {overlap : MapBuildError}
    {items : List α} (fits : ∀ item ∈ items, start item + pages item * memoryPageSize < wordLimit)
    (ordered : Ordered start (fun item => start item + pages item * memoryPageSize) items) :
    checkWindows start pages overlap items = .ok () := by
  induction items with
  | nil => rfl
  | cons left rest ih =>
      cases rest with
      | nil => rfl
      | cons right rest =>
          obtain ⟨before, restOrdered⟩ := List.pairwise_cons.mp ordered
          have leftEnd : rangeEnd (start left) (pages left) =
              .ok (start left + pages left * memoryPageSize) :=
            rangeEnd_eq_ok.mpr ⟨rfl, fits left (by simp)⟩
          simp only [checkWindows, leftEnd, ok_bind, guard_eq_ok]
          refine ⟨Nat.not_lt.mpr (before right (by simp)), ?_⟩
          exact ih (fun item member => fits item (List.mem_cons_of_mem _ member)) restOrdered

end UnnamedOS.MemoryMap
