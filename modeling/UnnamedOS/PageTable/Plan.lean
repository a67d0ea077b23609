import UnnamedOS.Layout.MappingPlan

namespace UnnamedOS.PageTable

open UnnamedOS.Data UnnamedOS.Layout

/-! # The construction plan

The planner turns a mapping plan into records for an inactive four-level
hierarchy: one record per table, one per entry, and one removal per low root
entry of a transitional plan.  Tables are named by frame slots, which only
`FrameAssignments` later ties to physical frames. -/

inductive TableLevel where
  | pt
  | pd
  | pdpt
  | pml4
deriving DecidableEq, Repr

def TableLevel.child : TableLevel → Option TableLevel
  | .pml4 => some .pdpt
  | .pdpt => some .pd
  | .pd => some .pt
  | .pt => none

inductive PageTablePlanError where
  | layout (reason : LayoutError)
  | invalidTableIndex
  | unalignedPhysicalFrame
  | zeroPhysicalFrame
  | invalidEntryFlags
  | userMappingForbidden
  | writableExecutableLeaf
  | unsupportedGuardLocation
  | duplicateLeaf
  | incompatibleRemap
  | missingParent
  | tableCapacityExhausted
  | entryCapacityExhausted
  | removalCapacityExhausted
  | frameSlotOverflow
  | missingFrameAssignment
  | frameAssignmentCountMismatch
  | outputTooSmall
  | arithmeticOverflow
deriving DecidableEq, Repr

@[ext] structure TableIndex where
  value : Nat
  bound : value < 512
deriving DecidableEq, Repr

/-- `FrameSlot::ROOT` and `FrameSlot::NONE`; a slot is a `u32` in the source. -/
def frameSlotRoot : Nat := 0
@[simp] def frameSlotNone : Nat := 2 ^ 32 - 1

/-- `FrameSlot::from_index`. -/
def frameSlotFromIndex (index : Nat) : Option Nat := if index < 2 ^ 32 then some index else none

/-- `PhysicalFrame`, with the checks of its constructor as fields. -/
@[ext] structure PhysicalFrame where
  address : Nat
  nonzero : address ≠ 0
  supported : address < supportedPhysicalEnd
  aligned : address % pageSize = 0
deriving Repr

instance : DecidableEq PhysicalFrame := fun left right =>
  decidable_of_iff (left.address = right.address) PhysicalFrame.ext_iff.symm

def PhysicalFrame.new (address : Nat) : Except PageTablePlanError PhysicalFrame :=
  if zero : address = 0 then .error .zeroPhysicalFrame
  else
    match supported : PhysicalAddress.new address with
    | .error reason => .error (.layout reason)
    | .ok physical =>
        if aligned : ¬ address % pageSize = 0 then .error .unalignedPhysicalFrame
        else .ok {
          address
          nonzero := zero
          supported := PhysicalAddress.new_eq_ok.mp supported ▸ physical.supported
          aligned := not_not.mp aligned }

theorem PhysicalFrame.new_eq_ok {address : Nat} {frame : PhysicalFrame} :
    PhysicalFrame.new address = .ok frame ↔ frame.address = address := by
  unfold PhysicalFrame.new
  split
  · rename_i zero
    simp only [reduceCtorEq, false_iff]
    intro same
    exact frame.nonzero (same.trans zero)
  · split
    · rename_i reason failed
      simp only [reduceCtorEq, false_iff]
      intro same
      have supported : address < supportedPhysicalEnd := same ▸ frame.supported
      have built : PhysicalAddress.new address = .ok ⟨address, supported⟩ :=
        PhysicalAddress.new_eq_ok.mpr rfl
      rw [built] at failed
      contradiction
    · split
      · rename_i unaligned
        simp only [reduceCtorEq, false_iff]
        intro same
        exact unaligned (same ▸ frame.aligned)
      · simp only [Except.ok.injEq, PhysicalFrame.ext_iff]
        exact eq_comm

/-- `EntryFlags`: the architectural bits of one entry. -/
@[ext] structure EntryFlags where
  bits : Nat
deriving DecidableEq, Repr

namespace EntryFlags

@[simp] def present : Nat := 1 <<< 0
@[simp] def writableBit : Nat := 1 <<< 1
@[simp] def userBit : Nat := 1 <<< 2
@[simp] def writeThrough : Nat := 1 <<< 3
@[simp] def cacheDisable : Nat := 1 <<< 4
@[simp] def hugePage : Nat := 1 <<< 7
@[simp] def global : Nat := 1 <<< 8
@[simp] def noExecute : Nat := 1 <<< 63

def known : Nat :=
  present ||| writableBit ||| userBit ||| writeThrough ||| cacheDisable ||| global ||| noExecute

/-- `!KNOWN` on 64 bits. -/
def unknown : Nat := (2 ^ 64 - 1) ^^^ known

def intermediate : EntryFlags := ⟨present ||| writableBit⟩

def fromBits (bits : Nat) : Except PageTablePlanError EntryFlags :=
  if bits &&& unknown ≠ 0 ∨ bits &&& present = 0 then .error .invalidEntryFlags
  else if bits &&& userBit ≠ 0 ∨ bits &&& hugePage ≠ 0 then .error .invalidEntryFlags
  else .ok ⟨bits⟩

def leafBits (permissions : MappingPermissions) (cache : CachePolicy) : Nat :=
  let bits := present ||| global
  let bits := if permissions.writable then bits ||| writableBit else bits
  let bits := if ¬ permissions.executable then bits ||| noExecute else bits
  match cache with
  | .writeBack => bits
  | .uncached => bits ||| (writeThrough ||| cacheDisable)

def forLeaf (permissions : MappingPermissions) (cache : CachePolicy) :
    Except PageTablePlanError EntryFlags :=
  if permissions.user then .error .userMappingForbidden
  else if permissions.writable && permissions.executable then .error .writableExecutableLeaf
  else fromBits (leafBits permissions cache)

def writable (flags : EntryFlags) : Bool := flags.bits &&& writableBit != 0
def executable (flags : EntryFlags) : Bool := flags.bits &&& noExecute == 0

end EntryFlags

/-- `EntryTarget`: its kind and value as one choice. -/
inductive EntryTarget where
  | tableSlot (slot : Nat)
  | physicalFrame (frame : PhysicalFrame)
deriving DecidableEq, Repr

def EntryTarget.frameSlot : EntryTarget → Option Nat
  | .tableSlot slot => some slot
  | .physicalFrame _ => none

structure PlannedTable where
  level : TableLevel
  frameSlot : Nat
  parentSlot : Nat
  parentIndex : TableIndex
deriving DecidableEq, Repr

def PlannedTable.parent (table : PlannedTable) : Option (Nat × TableIndex) :=
  if table.parentSlot = frameSlotNone then none else some (table.parentSlot, table.parentIndex)

structure PlannedEntry where
  tableSlot : Nat
  index : TableIndex
  target : EntryTarget
  flags : EntryFlags
deriving DecidableEq, Repr

structure TransitionRemoval where
  tableSlot : Nat
  index : TableIndex
  expectedTarget : Nat
  expectedFlags : EntryFlags
deriving DecidableEq, Repr

inductive PlanMode where
  | transitional
  | final
deriving DecidableEq, Repr

/-- `virtual_address_indices`. -/
def tableIndexAt (address : VirtualAddress) (shift : Nat) : TableIndex :=
  ⟨address.value >>> shift &&& 0x1ff, Nat.lt_of_le_of_lt Nat.and_le_right (by decide)⟩

def virtualAddressIndices (address : VirtualAddress) :
    TableIndex × TableIndex × TableIndex × TableIndex :=
  (tableIndexAt address 39, tableIndexAt address 30, tableIndexAt address 21,
    tableIndexAt address 12)

/-- `ConstructionPlan<TABLES, ENTRIES, REMOVALS>`; the lists are the live
prefixes of the source's arrays, so their lengths are its counts. -/
structure ConstructionPlan (tableCapacity entryCapacity removalCapacity : Nat) where
  mode : PlanMode
  tables : List PlannedTable
  entries : List PlannedEntry
  removals : List TransitionRemoval
deriving DecidableEq

namespace ConstructionPlan

variable {tableCapacity entryCapacity removalCapacity capacity : Nat}

abbrev Result (tableCapacity entryCapacity removalCapacity : Nat) : Type :=
  Except PageTablePlanError (ConstructionPlan tableCapacity entryCapacity removalCapacity)

def tableCount (plan : ConstructionPlan tableCapacity entryCapacity removalCapacity) : Nat :=
  plan.tables.length

def begin (mode : PlanMode) : Result tableCapacity entryCapacity removalCapacity :=
  if tableCapacity = 0 then .error .tableCapacityExhausted
  else .ok {
    mode
    tables := [{
      level := .pml4
      frameSlot := frameSlotRoot
      parentSlot := frameSlotNone
      parentIndex := ⟨0, by decide⟩ }]
    entries := []
    removals := [] }

variable (plan : ConstructionPlan tableCapacity entryCapacity removalCapacity)

def findEntry (tableSlot : Nat) (index : TableIndex) : Option PlannedEntry :=
  plan.entries.find? fun entry => entry.tableSlot = tableSlot ∧ entry.index = index

def pushEntry (entry : PlannedEntry) : Result tableCapacity entryCapacity removalCapacity :=
  if plan.entries.length = entryCapacity then .error .entryCapacityExhausted
  else .ok { plan with entries := plan.entries ++ [entry] }

def pushRemoval (entry : PlannedEntry) : Result tableCapacity entryCapacity removalCapacity :=
  if plan.removals.length = removalCapacity then .error .removalCapacityExhausted
  else do
    let expectedTarget ← okOr entry.target.frameSlot .missingParent
    .ok { plan with removals := plan.removals ++ [{
      tableSlot := entry.tableSlot
      index := entry.index
      expectedTarget
      expectedFlags := entry.flags }] }

/-- The new half of `ensure_child`: a table record, the entry that reaches it,
and the removal of a low root entry. -/
def createChild (parentSlot : Nat) (parentLevel : TableLevel) (index : TableIndex)
    (address : VirtualAddress) :
    Except PageTablePlanError
      (Nat × ConstructionPlan tableCapacity entryCapacity removalCapacity) :=
  if plan.tables.length = tableCapacity then .error .tableCapacityExhausted
  else if plan.tables.length ≥ 2 ^ 32 then .error .frameSlotOverflow
  else do
    let childSlot := plan.tables.length
    let childLevel ← okOr parentLevel.child .missingParent
    let intermediate : PlannedEntry := {
      tableSlot := parentSlot
      index
      target := .tableSlot childSlot
      flags := .intermediate }
    let extended ← pushEntry { plan with tables := plan.tables ++ [{
      level := childLevel
      frameSlot := childSlot
      parentSlot
      parentIndex := index }] } intermediate
    if parentLevel = .pml4 ∧ address.value < highCanonicalStart then do
      let removed ← extended.pushRemoval intermediate
      .ok (childSlot, removed)
    else .ok (childSlot, extended)

def ensureChild (parentSlot : Nat) (parentLevel : TableLevel) (index : TableIndex)
    (address : VirtualAddress) :
    Except PageTablePlanError
      (Nat × ConstructionPlan tableCapacity entryCapacity removalCapacity) :=
  match plan.findEntry parentSlot index with
  | some existing => do
      let slot ← okOr existing.target.frameSlot .incompatibleRemap
      .ok (slot, plan)
  | none => plan.createChild parentSlot parentLevel index address

/-- The end of `insert_page`, once the page table is known. -/
def insertLeaf (tableSlot : Nat) (index : TableIndex) (frame : PhysicalFrame)
    (permissions : MappingPermissions) (cache : CachePolicy) :
    Result tableCapacity entryCapacity removalCapacity := do
  let flags ← EntryFlags.forLeaf permissions cache
  let leaf : PlannedEntry := { tableSlot, index, target := .physicalFrame frame, flags }
  match plan.findEntry tableSlot index with
  | some existing => if existing = leaf then .error .duplicateLeaf else .error .incompatibleRemap
  | none => plan.pushEntry leaf

/-- `insert_page`, with the loop over its three upper levels unrolled. -/
def insertPage (address : VirtualAddress) (frame : PhysicalFrame)
    (permissions : MappingPermissions) (cache : CachePolicy) :
    Result tableCapacity entryCapacity removalCapacity := do
  let (pml4Index, pdptIndex, pdIndex, ptIndex) := virtualAddressIndices address
  let (pdpt, plan) ← plan.ensureChild frameSlotRoot .pml4 pml4Index address
  let (pd, plan) ← plan.ensureChild pdpt .pdpt pdptIndex address
  let (pt, plan) ← plan.ensureChild pd .pd pdIndex address
  plan.insertLeaf pt ptIndex frame permissions cache

/-- One iteration of the page loop of `add_mapping`. -/
def addPage (range : VirtualRange) (physical : PhysicalRange)
    (permissions : MappingPermissions) (cache : CachePolicy) (page : Nat) :
    Result tableCapacity entryCapacity removalCapacity := do
  let offset ← okOr (checkedMul page pageSize) .arithmeticOverflow
  let virtualAddress ← okOr (checkedAdd range.start.value offset) .arithmeticOverflow
  let physicalAddress ← okOr (checkedAdd physical.start.value offset) .arithmeticOverflow
  let address ← (VirtualAddress.new virtualAddress).mapError .layout
  let frame ← PhysicalFrame.new physicalAddress
  plan.insertPage address frame permissions cache

def addMapping (mapping : PlanEntry) : Result tableCapacity entryCapacity removalCapacity :=
  if plan.mode = .final ∧ (mapping.virtualRange.start.value < highCanonicalStart ∨
      mapping.kind = .transitionIdentity) then .error (.layout .lowMappingInFinalPlan)
  else
    match mapping.backing with
    | .unmapped =>
        if mapping.kind ≠ .guard then .error .unsupportedGuardLocation else .ok plan
    | .mapped physical => do
        let permissions ← okOr mapping.permissions .invalidEntryFlags
        let cache ← okOr mapping.cachePolicy .invalidEntryFlags
        (List.range (mapping.virtualRange.length / pageSize)).foldlM
          (fun plan page => plan.addPage mapping.virtualRange physical permissions cache page) plan

def checkTable (table : PlannedTable) : Except PageTablePlanError Unit := do
  let (parent, index) ← okOr table.parent .missingParent
  let entry ← okOr (plan.findEntry parent index) .missingParent
  if entry.target.frameSlot ≠ some table.frameSlot ∨ entry.flags ≠ .intermediate then
    .error .missingParent
  else .ok ()

def validateStructure : Except PageTablePlanError Unit :=
  checkAll plan.checkTable plan.tables.tail

def finish : Result tableCapacity entryCapacity removalCapacity := do
  plan.validateStructure
  .ok plan

def build (mappings : MappingPlan capacity) (mode : PlanMode) :
    Result tableCapacity entryCapacity removalCapacity := do
  (match mode with
    | .transitional => mappings.validateTransition
    | .final => mappings.validateFinal).mapError .layout
  let plan ← begin mode
  let plan ← mappings.entries.foldlM addMapping plan
  plan.finish

/-- `leaf_entry`, with the loop over the three upper indices unrolled. -/
def leafEntry (address : VirtualAddress) : Option PlannedEntry := do
  let (pml4Index, pdptIndex, pdIndex, ptIndex) := virtualAddressIndices address
  let pdpt ← (← plan.findEntry frameSlotRoot pml4Index).target.frameSlot
  let pd ← (← plan.findEntry pdpt pdptIndex).target.frameSlot
  let pt ← (← plan.findEntry pd pdIndex).target.frameSlot
  let entry ← plan.findEntry pt ptIndex
  match entry.target with
  | .physicalFrame _ => some entry
  | .tableSlot _ => none

end ConstructionPlan

end UnnamedOS.PageTable
