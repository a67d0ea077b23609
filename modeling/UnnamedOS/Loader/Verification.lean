import UnnamedOS.Loader.PageTables

namespace UnnamedOS.Loader

open UnnamedOS.Data UnnamedOS.Layout UnnamedOS.PageTable

/-! # Reading the tables back

`verify_materialized` reads every cell of every owned frame.  It does not ask
for equality right away: a zero where a table should be reached is passed over
and only missed later, when a table turns out to be unreachable. -/

inductive VerificationError (ε : Type) where
  | plan (reason : PageTablePlanError)
  | ownershipCount
  | rootFrame
  | access (tableSlot : Nat) (entryIndex : TableIndex) (source : ε)
  | invalidBits (tableSlot : Nat) (entryIndex : TableIndex)
  | unexpectedNonZero (tableSlot : Nat) (entryIndex : TableIndex)
  | entryMismatch (tableSlot : Nat) (entryIndex : TableIndex)
  | unownedChild (tableSlot : Nat) (entryIndex : TableIndex)
  | cycle (tableSlot : Nat) (entryIndex : TableIndex)
  | wrongChild (tableSlot : Nat) (entryIndex : TableIndex)
  | wrongTableLevel (tableSlot : Nat) (entryIndex : TableIndex)
  | unreachableTable (tableSlot : Nat)
  | removalMismatch (tableSlot : Nat) (entryIndex : TableIndex)
deriving DecidableEq

/-- `stuck` is an array access out of range, or a chain of parents that never
ends. -/
inductive VerificationFailure (ε : Type) where
  | refused (error : VerificationError ε)
  | stuck
deriving DecidableEq

structure VerifiedInactivePageTables (β : Type) where
  plannedTableCount : Nat
  owner : PageTableFrameOwner β pageTableFrameCapacity

def entryAddressMask : Nat := 0x000ffffffffff000

def entryFlagMask : Nat :=
  EntryFlags.present ||| EntryFlags.writableBit ||| EntryFlags.writeThrough |||
    EntryFlags.cacheDisable ||| EntryFlags.global ||| EntryFlags.noExecute

/-- The complement of the two masks on 64 bits. -/
def entryReservedMask : Nat := (2 ^ 64 - 1) ^^^ (entryAddressMask ||| entryFlagMask)

/-- `target().kind() == PhysicalFrame`. -/
def isLeaf (entry : PlannedEntry) : Bool := entry.target.frameSlot.isNone

def levelsAreParentChild : TableLevel → TableLevel → Bool
  | .pml4, .pdpt => true
  | .pdpt, .pd => true
  | .pd, .pt => true
  | _, _ => false

/-- The loop of `is_ancestor`.  It climbs to a new table at most as often as
there are tables; one step more and it would never end. -/
def isAncestor (plan : RuntimePageTablePlan) (candidate : Nat) : Nat → Nat → Option Bool
  | 0, _ => none
  | steps + 1, slot => do
      let table ← plan.tables[slot]?
      match table.parent with
      | none => some false
      | some (parent, _) =>
          if parent = candidate then some true else isAncestor plan candidate steps parent

/-- An assignment `reachable[slot] = true`. -/
def markReachable (reachable : List Bool) (slot : Nat) : Option (List Bool) :=
  if slot < reachable.length then some (reachable.set slot true) else none

section

variable {β μ ε δ : Type} (memory : PageTableMemory μ δ) (plan : RuntimePageTablePlan)
  (owner : PageTableFrameOwner β pageTableFrameCapacity) (state : μ)

def validateEntryBits (value : Nat) (expected : Option PlannedEntry) (tableSlot : Nat)
    (entryIndex : TableIndex) : Except (VerificationFailure δ) Unit :=
  if value &&& EntryFlags.present = 0 ∨ value &&& EntryFlags.userBit ≠ 0 ∨
      value &&& EntryFlags.hugePage ≠ 0 ∨ value &&& entryReservedMask ≠ 0 ∨
      value &&& entryAddressMask ≥ supportedPhysicalEnd then
    .error (.refused (.invalidBits tableSlot entryIndex))
  else if expected.any isLeaf ∧ value &&& EntryFlags.writableBit ≠ 0 ∧
      value &&& EntryFlags.noExecute = 0 then
    .error (.refused (.invalidBits tableSlot entryIndex))
  else .ok ()

/-- The position of the owned frame an entry points to. -/
def ownedSlot (address : Nat) : Option Nat := do
  let position ← owner.frames.findIdx? fun candidate => candidate.address = address
  frameSlotFromIndex position

/-- What an entry is told that leads to an owned table, but not to its own. -/
def refuseChild (table : PlannedTable) (index : TableIndex) (actualChild : Nat) :
    Except (VerificationFailure δ) (List Bool) := do
  let slot := table.frameSlot
  let cycle ← (if actualChild = slot then .ok true
    else okOr (isAncestor plan actualChild (plan.tables.length + 1) slot) .stuck)
  if cycle then .error (.refused (.cycle slot index))
  else do
    let actualTable ← okOr plan.tables[actualChild]? (.refused (.wrongChild slot index))
    if ¬ levelsAreParentChild table.level actualTable.level then
      .error (.refused (.wrongTableLevel slot index))
    else .error (.refused (.wrongChild slot index))

/-- The branch for an entry whose target is a table. -/
def verifyChild (table : PlannedTable) (index : TableIndex) (expected : PlannedEntry)
    (actual : Nat) (reachable : List Bool) : Except (VerificationFailure δ) (List Bool) := do
  let slot := table.frameSlot
  let actualChild ← okOr (ownedSlot owner (actual &&& entryAddressMask))
    (.refused (.unownedChild slot index))
  let expectedChild ← okOr expected.target.frameSlot (.refused (.wrongChild slot index))
  if actualChild ≠ expectedChild then refuseChild plan table index actualChild
  else do
    let child ← okOr plan.tables[actualChild]? (.refused (.wrongChild slot index))
    if ¬ levelsAreParentChild table.level child.level then
      .error (.refused (.wrongTableLevel slot index))
    else okOr (markReachable reachable actualChild) .stuck

/-- The body of the inner loop; it returns the flags of the reachable tables. -/
def verifyEntry (table : PlannedTable) (frame : PhysicalFrame) (reachable : List Bool)
    (index : TableIndex) : Except (VerificationFailure δ) (List Bool) := do
  let slot := table.frameSlot
  let actual ← (memory.readEntry state frame index).mapError fun source =>
    .refused (.access slot index source)
  let expected := expectedEntry plan slot index
  if actual = 0 then
    if expected.any isLeaf then .error (.refused (.entryMismatch slot index)) else .ok reachable
  else do
    validateEntryBits actual expected slot index
    let expected ← okOr expected (.refused (.unexpectedNonZero slot index))
    let reachable ← (if isLeaf expected then .ok reachable
      else verifyChild plan owner table index expected actual reachable)
    let expectedValue ← (expected.encodedValue owner.assignments).mapError fun reason =>
      .refused (.plan reason)
    if actual ≠ expectedValue then .error (.refused (.entryMismatch slot index))
    else .ok reachable

def verifyTable (reachable : List Bool) (table : PlannedTable) :
    Except (VerificationFailure δ) (List Bool) := do
  let frame ← (owner.assignments.frame table.frameSlot).mapError fun reason =>
    .refused (.plan reason)
  tableIndices.foldlM (verifyEntry memory plan owner state table frame) reachable

def checkReachable (reachable : List Bool) (table : PlannedTable) :
    Except (VerificationFailure δ) Unit := do
  let flag ← okOr reachable[table.frameSlot]? .stuck
  if ¬ flag then .error (.refused (.unreachableTable table.frameSlot)) else .ok ()

/-- The loop over `tables()[1..]`. -/
def checkReachables (reachable : List Bool) :
    List PlannedTable → Except (VerificationFailure δ) Unit
  | [] => .error .stuck
  | _ :: tables => checkAll (checkReachable reachable) tables

def verifyRemoval (removal : TransitionRemoval) : Except (VerificationFailure δ) Unit := do
  let root ← (owner.assignments.frame removal.tableSlot).mapError fun reason =>
    .refused (.plan reason)
  let actual ← (memory.readEntry state root removal.index).mapError fun source =>
    .refused (.access removal.tableSlot removal.index source)
  let expected ← (removal.expectedValue owner.assignments).mapError fun reason =>
    .refused (.plan reason)
  if actual ≠ expected then
    .error (.refused (.removalMismatch removal.tableSlot removal.index))
  else .ok ()

def verifyMaterialized : Except (VerificationFailure δ) Unit :=
  if owner.frameCount ≠ plan.tableCount then .error (.refused .ownershipCount)
  else do
    let root ← (owner.assignments.frame frameSlotRoot).mapError fun reason =>
      .refused (.plan reason)
    if some root ≠ owner.root then .error (.refused .rootFrame)
    else do
      let reachable ← okOr
        (markReachable (List.replicate pageTableFrameCapacity false) frameSlotRoot) .stuck
      let reachable ← plan.tables.foldlM (verifyTable memory plan owner state) reachable
      checkReachables reachable plan.tables
      checkAll (verifyRemoval memory owner state) plan.removals

/-- `verify` consumes the tables, so a failure drops their owner. -/
def MaterializedPageTables.verify (ops : FrameBackend β ε) (tables : MaterializedPageTables β) :
    Except (VerificationFailure δ × β) (VerifiedInactivePageTables β) :=
  match verifyMaterialized memory tables.plan tables.owner state with
  | .error failure => .error (failure, tables.owner.drop ops)
  | .ok _ => .ok ⟨tables.plan.tableCount, tables.owner⟩

end

end UnnamedOS.Loader
