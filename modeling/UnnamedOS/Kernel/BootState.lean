import UnnamedOS.BootProtocol.BootInfo

namespace UnnamedOS.Kernel

open UnnamedOS.Data UnnamedOS.BootProtocol

/-! # What the kernel checks before it trusts the handoff

`validate_boot_state` walks each reserved range with a cursor, from one
descriptor to the next, and takes the first descriptor of the list that holds
the cursor. -/

structure PhysicalRange where
  start : Nat
  stop : Nat
deriving DecidableEq, Repr

inductive KernelValidationError where
  | pointer
  | stack
  | bootInfo
  | mapShape
  | descriptor
  | usableReservation
deriving DecidableEq, Repr

/-- `u64::saturating_mul`. -/
def saturatingMul (left right : Nat) : Nat := min (left * right) (wordLimit - 1)

/-- The end that the search compares the cursor with. -/
def searchEnd (item : MemoryDescriptor) : Nat :=
  (checkedAdd item.physicalStart (saturatingMul item.pageCount 4096)).getD 0

def holdingCursor (descriptors : List MemoryDescriptor) (cursor : Nat) : Option MemoryDescriptor :=
  descriptors.find? fun item => item.physicalStart ≤ cursor ∧ cursor < searchEnd item

/-- The end that the cursor moves to. -/
def checkedEnd (descriptor : MemoryDescriptor) : Except KernelValidationError Nat := do
  let bytes ← okOr (checkedMul descriptor.pageCount 4096) .descriptor
  okOr (checkedAdd descriptor.physicalStart bytes) .descriptor

theorem checkedEnd_eq_ok {descriptor : MemoryDescriptor} {stop : Nat} :
    checkedEnd descriptor = .ok stop ↔ descriptor.stop = stop ∧ stop < wordLimit := by
  simp only [checkedEnd, bind_eq_ok, okOr_eq_ok, checkedMul_eq_some, checkedAdd_eq_some]
  constructor
  · rintro ⟨_, ⟨_, rfl⟩, bound, rfl⟩
    exact ⟨rfl, bound⟩
  · rintro ⟨rfl, bound⟩
    simp only [MemoryDescriptor.stop, memoryPageSize] at bound ⊢
    exact ⟨_, ⟨by omega, rfl⟩, bound, rfl⟩

/-- Where the end can be computed, the search used the same one. -/
theorem searchEnd_eq {descriptor : MemoryDescriptor} (bounded : descriptor.stop < wordLimit) :
    searchEnd descriptor = descriptor.stop := by
  simp only [MemoryDescriptor.stop, memoryPageSize] at bounded ⊢
  have exact' : saturatingMul descriptor.pageCount 4096 = descriptor.pageCount * 4096 := by
    unfold saturatingMul
    omega
  rw [searchEnd, exact', checkedAdd_eq_some.mpr ⟨bounded, rfl⟩, Option.getD_some]

theorem holdingCursor_contains {descriptors : List MemoryDescriptor} {cursor stop : Nat}
    {descriptor : MemoryDescriptor} (found : holdingCursor descriptors cursor = some descriptor)
    (ended : checkedEnd descriptor = .ok stop) :
    descriptor ∈ descriptors ∧ descriptor.Contains cursor ∧ descriptor.stop = stop := by
  obtain ⟨reaches, bounded⟩ := checkedEnd_eq_ok.mp ended
  have holds := List.find?_some found
  simp only [decide_eq_true_eq, searchEnd_eq (reaches ▸ bounded)] at holds
  exact ⟨List.mem_of_find?_eq_some found, holds, reaches⟩

/-- The `while` loop of `covered_non_usable`. -/
def coveredFrom (range : PhysicalRange) (descriptors : List MemoryDescriptor) (cursor : Nat) :
    Except KernelValidationError Bool :=
  if _ : cursor < range.stop then
    match _ : holdingCursor descriptors cursor with
    | none => .ok false
    | some descriptor =>
        if descriptor.kind = memoryKindUsable then .ok false
        else
          match _ : checkedEnd descriptor with
          | .error reason => .error reason
          | .ok stop => coveredFrom range descriptors (min stop range.stop)
  else .ok true
termination_by range.stop - cursor
decreasing_by
  rename_i found _ ended
  obtain ⟨_, ⟨_, high⟩, reaches⟩ := holdingCursor_contains found ended
  omega

def coveredNonUsable (range : PhysicalRange) (descriptors : List MemoryDescriptor) :
    Except KernelValidationError Bool :=
  coveredFrom range descriptors range.start

def checkReserved (descriptors : List MemoryDescriptor) (range : PhysicalRange) :
    Except KernelValidationError Unit :=
  if range.start ≥ range.stop then .error .usableReservation
  else do
    let covered ← coveredNonUsable range descriptors
    if covered = false then .error .usableReservation else .ok ()

def validateBootState (boot : BootInfo) (descriptors : List MemoryDescriptor)
    (reserved : List PhysicalRange) : Except KernelValidationError Unit := do
  let _ ← boot.validate.mapError fun _ => .bootInfo
  if boot.memoryMap.descriptorStride ≠ memoryDescriptorSize ∨
      boot.memoryMap.descriptorCount ≠ descriptors.length then .error .mapShape
  else do
    let byteLength ←
      okOr (checkedMul boot.memoryMap.descriptorCount memoryDescriptorSize) .mapShape
    if boot.memoryMap.byteLength ≠ byteLength then .error .mapShape
    else do
      validateDescriptors .descriptor descriptors
      checkAll (checkReserved descriptors) reserved

def PhysicalRange.Contains (range : PhysicalRange) (address : Nat) : Prop :=
  range.start ≤ address ∧ address < range.stop

section

variable {range : PhysicalRange} {descriptors : List MemoryDescriptor} {cursor : Nat}

/-- Each step of the cursor stays inside one descriptor that is not usable. -/
theorem coveredFrom_nonUsable (covered : coveredFrom range descriptors cursor = .ok true)
    {address : Nat} (low : cursor ≤ address) (high : address < range.stop) :
    NonUsable descriptors address := by
  fun_induction coveredFrom range descriptors cursor with
  | case1 => simp at covered
  | case2 => simp at covered
  | case3 => simp at covered
  | case4 cursor inside descriptor found plain stop ended ih =>
      obtain ⟨member, contains, reaches⟩ := holdingCursor_contains found ended
      by_cases here : address < stop
      · exact ⟨descriptor, member, ⟨Nat.le_trans contains.1 low, by omega⟩, plain⟩
      · exact ih covered (by omega)
  | case5 cursor outside => omega

/-- Over descriptors that pass `validate`, the cursor gets through any range
that no usable descriptor touches. -/
theorem coveredFrom_of_nonUsable (valid : ∀ descriptor ∈ descriptors, descriptor.Valid)
    (held : ∀ address, cursor ≤ address → address < range.stop →
      NonUsable descriptors address ∧ ¬ Usable descriptors address) :
    coveredFrom range descriptors cursor = .ok true := by
  fun_induction coveredFrom range descriptors cursor with
  | case1 cursor inside missing =>
      obtain ⟨descriptor, member, contains, _⟩ := (held cursor (Nat.le_refl _) inside).1
      have absent := List.find?_eq_none.mp missing descriptor member
      rw [searchEnd_eq (valid descriptor member).bounded] at absent
      exact absurd (decide_eq_true contains) absent
  | case2 cursor inside descriptor found usable =>
      have member := List.mem_of_find?_eq_some found
      have holds := List.find?_some found
      simp only [decide_eq_true_eq, searchEnd_eq (valid descriptor member).bounded] at holds
      exact absurd ⟨descriptor, member, holds, usable⟩ (held cursor (Nat.le_refl _) inside).2
  | case3 cursor inside descriptor found plain reason ended =>
      have member := List.mem_of_find?_eq_some found
      rw [checkedEnd_eq_ok.mpr ⟨rfl, (valid descriptor member).bounded⟩] at ended
      contradiction
  | case4 cursor inside descriptor found plain stop ended ih =>
      obtain ⟨_, contains, reaches⟩ := holdingCursor_contains found ended
      have past := contains.2
      exact ih fun address low high => held address (by omega) high
  | case5 => rfl

end

section

variable {boot : BootInfo} {descriptors : List MemoryDescriptor} {reserved : List PhysicalRange}

theorem checkReserved_eq_ok {range : PhysicalRange} :
    checkReserved descriptors range = .ok () ↔
      range.start < range.stop ∧ coveredNonUsable range descriptors = .ok true := by
  simp only [checkReserved, guard_eq_ok, bind_eq_ok, and_true, Nat.not_le, ge_iff_le,
    Bool.not_eq_false]
  constructor
  · rintro ⟨proper, _, covered, rfl⟩
    exact ⟨proper, covered⟩
  · rintro ⟨proper, covered⟩
    exact ⟨proper, true, covered, rfl⟩

/-- The checks of `validate_boot_state`, one by one. -/
structure Accepted (boot : BootInfo) (descriptors : List MemoryDescriptor)
    (reserved : List PhysicalRange) : Prop where
  wire : ∃ validated, boot.validate = .ok validated
  stride : boot.memoryMap.descriptorStride = memoryDescriptorSize
  count : boot.memoryMap.descriptorCount = descriptors.length
  bounded : descriptors.length * memoryDescriptorSize < wordLimit
  byteLength : boot.memoryMap.byteLength = descriptors.length * memoryDescriptorSize
  valid : ∀ descriptor ∈ descriptors, descriptor.Valid
  ranges : ∀ range ∈ reserved,
    range.start < range.stop ∧ coveredNonUsable range descriptors = .ok true

theorem validateBootState_eq_ok :
    validateBootState boot descriptors reserved = .ok () ↔ Accepted boot descriptors reserved := by
  simp only [validateBootState, bind_eq_ok, mapError_eq_ok, guard_eq_ok, okOr_eq_ok,
    checkedMul_eq_some, validateDescriptors_eq_ok, checkAll_eq_ok, checkReserved_eq_ok]
  constructor
  · rintro ⟨validated, wire, shape, _, ⟨bound, rfl⟩, length, _, valid, ranges⟩
    obtain ⟨stride, count⟩ : boot.memoryMap.descriptorStride = memoryDescriptorSize ∧
      boot.memoryMap.descriptorCount = descriptors.length := by simpa using shape
    rw [count] at bound length
    exact ⟨⟨validated, wire⟩, stride, count, bound, by simpa using length, valid, ranges⟩
  · rintro ⟨⟨validated, wire⟩, stride, count, bounded, byteLength, valid, ranges⟩
    rw [← count] at bounded byteLength
    exact ⟨validated, wire, by simp [stride, count], _, ⟨bounded, rfl⟩, by simp [byteLength], (),
      valid, ranges⟩

/-- On every handoff the kernel accepts, no byte of a reserved range is usable
exactly when the map does not call such a byte both usable and not. -/
theorem validateBootState_reserves
    (accepted : validateBootState boot descriptors reserved = .ok ()) :
    (∀ range ∈ reserved, ∀ address, range.Contains address →
        InMap descriptors address ∧ ¬ Usable descriptors address) ↔
      ∀ range ∈ reserved, ∀ address, range.Contains address →
        ¬ (Usable descriptors address ∧ NonUsable descriptors address) := by
  have ranges := (validateBootState_eq_ok.mp accepted).ranges
  constructor
  · intro safe range member address inside clash
    exact (safe range member address inside).2 clash.1
  · intro consistent range member address inside
    have held : NonUsable descriptors address :=
      coveredFrom_nonUsable (ranges range member).2 inside.1 inside.2
    exact ⟨held.inMap, fun usable => consistent range member address inside ⟨usable, held⟩⟩

end

/-- A wire block for a map of `count` descriptors. -/
def sampleBootInfo (count : Nat) : BootInfo :=
  BootInfo.new ⟨0x3000, count, 32, 1, 0, count * 32, 0⟩ ⟨0x8000_0000, 3072, 32, 24, 32, 1, 0⟩

/-- One page of kernel image, reported a second time as usable. -/
def clashingMap : List MemoryDescriptor :=
  [⟨memoryKindKernelImage, 0, 0x20_0000, 1, 0⟩, ⟨memoryKindUsable, 0, 0x20_0000, 1, 0⟩]

/-- The kernel accepts the doubly described page: the search stops at the
first descriptor and never looks at the usable one. -/
theorem validateBootState_accepts_usable :
    validateBootState (sampleBootInfo 2) clashingMap [⟨0x20_0000, 0x20_1000⟩] = .ok () ∧
      PhysicalRange.Contains ⟨0x20_0000, 0x20_1000⟩ 0x20_0000 ∧ Usable clashingMap 0x20_0000 := by
  refine ⟨by decide +kernel, ⟨by decide, by decide⟩, ?_⟩
  exact ⟨⟨memoryKindUsable, 0, 0x20_0000, 1, 0⟩, by decide, by decide, rfl⟩

/-- The same kernel page beside, not under, usable memory. -/
def disjointMap : List MemoryDescriptor :=
  [⟨memoryKindKernelImage, 0, 0x20_0000, 1, 0⟩, ⟨memoryKindUsable, 0, 0x20_1000, 1, 0⟩]

theorem validateBootState_reserves_disjointMap :
    validateBootState (sampleBootInfo 2) disjointMap [⟨0x20_0000, 0x20_1000⟩] = .ok () ∧
      ∀ range ∈ [PhysicalRange.mk 0x20_0000 0x20_1000], ∀ address, range.Contains address →
        InMap disjointMap address ∧ ¬ Usable disjointMap address := by
  have accepted : validateBootState (sampleBootInfo 2) disjointMap [⟨0x20_0000, 0x20_1000⟩] =
      .ok () := by decide +kernel
  refine ⟨accepted, (validateBootState_reserves accepted).mpr ?_⟩
  intro range member address inside clash
  obtain ⟨descriptor, listed, contains, usable⟩ := clash.1
  simp only [List.mem_singleton] at member
  simp only [disjointMap, List.mem_cons, List.not_mem_nil, or_false] at listed
  have high := inside.2
  rw [member] at high
  cases listed with
  | inl kernel =>
      rw [kernel] at usable
      exact absurd usable (by decide)
  | inr free =>
      have low := contains.1
      rw [free] at low
      exact absurd high (Nat.not_lt_of_le low)

end UnnamedOS.Kernel
