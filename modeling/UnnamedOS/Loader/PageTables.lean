import UnnamedOS.PageTable.FrameOwner

namespace UnnamedOS.Loader

open UnnamedOS.Data UnnamedOS.Layout UnnamedOS.PageTable

/-! # The loader's inactive page tables

The loader plans an identity mapping of the trampoline page and the bootstrap
stack, takes one frame per planned table and writes every entry of every table
through a memory interface of its own. -/

@[simp] def pageTableFrameCapacity : Nat := 8
@[simp] def pageTableEntryCapacity : Nat := 32
@[simp] def pageTableRemovalCapacity : Nat := 1
@[simp] def pageTableEntriesPerFrame : Nat := 512

abbrev RuntimePageTablePlan : Type :=
  ConstructionPlan pageTableFrameCapacity pageTableEntryCapacity pageTableRemovalCapacity

structure PageTableMemory (μ ε : Type) where
  writeEntry : μ → PhysicalFrame → TableIndex → Nat → Except ε Unit × μ
  readEntry : μ → PhysicalFrame → TableIndex → Except ε Nat

inductive MaterializationError (ε : Type) where
  | plan (reason : PageTablePlanError)
  | access (tableSlot : Nat) (entryIndex : TableIndex) (source : ε)
deriving DecidableEq

structure PlannedPageTables where
  plan : RuntimePageTablePlan

structure AllocatedPageTables (β : Type) where
  plan : RuntimePageTablePlan
  owner : PageTableFrameOwner β pageTableFrameCapacity

structure MaterializedPageTables (β : Type) where
  plan : RuntimePageTablePlan
  owner : PageTableFrameOwner β pageTableFrameCapacity

/-- One `insert_mapping` of `for_transition`, an identity range of the given
length. -/
def insertIdentity {capacity : Nat} (mappings : MappingPlan capacity) (start length : Nat)
    (permissions : MappingPermissions) : Except PageTablePlanError (MappingPlan capacity) := do
  let virtualRange ← (VirtualRange.fromStartAndLength start length).mapError .layout
  let physicalRange ← (PhysicalRange.fromStartAndLength start length).mapError .layout
  match mappings.insertMapping virtualRange physicalRange permissions .writeBack
      .transitionIdentity with
  | (.error reason, _) => .error (.layout reason)
  | (.ok _, inserted) => .ok inserted

namespace PlannedPageTables

def forTransition (trampolinePage stackStart : Nat) :
    Except PageTablePlanError PlannedPageTables := do
  let mappings ← insertIdentity (.new 2) trampolinePage pageSize .kernelRx
  let mappings ← insertIdentity mappings stackStart bootstrapStackBytes .kernelRw
  let plan ← ConstructionPlan.build mappings .transitional
  .ok ⟨plan⟩

def allocate {β ε : Type} (ops : FrameBackend β ε) (planned : PlannedPageTables) (backend : β) :
    Except (Interrupted β ε pageTableFrameCapacity) (AllocatedPageTables β) := do
  let owner ← PageTableFrameOwner.allocate ops planned.plan backend
  .ok ⟨planned.plan, owner⟩

end PlannedPageTables

def expectedEntry (plan : RuntimePageTablePlan) (tableSlot : Nat) (entryIndex : TableIndex) :
    Option PlannedEntry :=
  plan.entries.find? fun entry => entry.tableSlot = tableSlot ∧ entry.index = entryIndex

/-- The value `materialize` stores; `to_le` changes nothing on this target. -/
def entryValue (plan : RuntimePageTablePlan) (assignments : FrameAssignments pageTableFrameCapacity)
    (tableSlot : Nat) (entryIndex : TableIndex) : Except PageTablePlanError Nat :=
  match expectedEntry plan tableSlot entryIndex with
  | some entry => entry.encodedValue assignments
  | none => .ok 0

def tableIndices : List TableIndex :=
  (List.finRange pageTableEntriesPerFrame).map fun index => ⟨index.val, index.isLt⟩

section

variable {β μ ε δ : Type} (memory : PageTableMemory μ δ) (plan : RuntimePageTablePlan)
  (assignments : FrameAssignments pageTableFrameCapacity)

/-- The inner loop body of `materialize`; an error keeps the memory as it is. -/
def writeTableEntry (tableSlot : Nat) (frame : PhysicalFrame) (state : μ) (index : TableIndex) :
    Except (MaterializationError δ × μ) μ :=
  match entryValue plan assignments tableSlot index with
  | .error reason => .error (.plan reason, state)
  | .ok value =>
      match memory.writeEntry state frame index value with
      | (.error source, state) => .error (.access tableSlot index source, state)
      | (.ok _, state) => .ok state

def writeTable (state : μ) (table : PlannedTable) : Except (MaterializationError δ × μ) μ :=
  match assignments.frame table.frameSlot with
  | .error reason => .error (.plan reason, state)
  | .ok frame =>
      tableIndices.foldlM (writeTableEntry memory plan assignments table.frameSlot frame) state

/-- `materialize` consumes the tables, so a failure drops their owner. -/
def AllocatedPageTables.materialize (ops : FrameBackend β ε) (tables : AllocatedPageTables β)
    (state : μ) : Except (MaterializationError δ × μ × β) (MaterializedPageTables β × μ) :=
  match tables.plan.tables.foldlM (writeTable memory tables.plan tables.owner.assignments) state with
  | .error (reason, state) => .error (reason, state, tables.owner.drop ops)
  | .ok state => .ok (⟨tables.plan, tables.owner⟩, state)

end

end UnnamedOS.Loader
