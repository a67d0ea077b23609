import UnnamedOS.PageTable.FrameOwner
import UnnamedOS.PageTable.Translation
import UnnamedOS.X86.Walk

namespace UnnamedOS.PageTable

open UnnamedOS.Data UnnamedOS.Layout UnnamedOS.X86

/-! # Walking a planned hierarchy

Once memory holds the encoded entries of a consistent plan, the processor's
walk goes through the plan's own entries level by level, so it ends where
`leaf_entry` ends. -/

theorem forLeaf_frameMask {permissions : MappingPermissions} {cache : CachePolicy}
    {flags : EntryFlags} (built : EntryFlags.forLeaf permissions cache = .ok flags) :
    flags.bits &&& frameMask = 0 := by
  have bits := forLeaf_bits built
  unfold EntryFlags.leafBits at bits
  cases writable : permissions.writable <;> cases executable : permissions.executable <;>
    cases cache <;> simp [writable, executable] at bits <;> rw [bits] <;> decide

theorem PhysicalFrame.address_lt (frame : PhysicalFrame) : frame.address < 2 ^ 52 := by
  have supported := frame.supported
  simp only [supportedPhysicalEnd] at supported
  omega

namespace ConstructionPlan

variable {tableCapacity entryCapacity removalCapacity : Nat}
variable {plan : ConstructionPlan tableCapacity entryCapacity removalCapacity}
variable {read : Nat → Nat → Option Nat} {frames : List PhysicalFrame}

/-- Memory holds the plan: every cell of every table's frame has the encoded
entry, or zero where the plan has none. -/
def Stored (plan : ConstructionPlan tableCapacity entryCapacity removalCapacity)
    (frames : List PhysicalFrame) (read : Nat → Nat → Option Nat) : Prop :=
  ∀ (slot : Nat) (frame : PhysicalFrame) (index : TableIndex), frames[slot]? = some frame →
    match plan.findEntry slot index with
    | none => read frame.address index.value = some 0
    | some entry => ∃ value,
        entry.encodedValue (⟨frames⟩ : FrameAssignments tableCapacity) = .ok value ∧
        read frame.address index.value = some value

/-- What stands in a table is decided by its level. -/
theorem Consistent.entry_cases (consistent : plan.Consistent) {slot : Nat} {index : TableIndex}
    {entry : PlannedEntry} {table : PlannedTable} (tableFound : plan.tables[slot]? = some table)
    (found : plan.findEntry slot index = some entry) :
    (table.level = .pt ∧ ∃ frame permissions cache, entry.target = .physicalFrame frame ∧
      EntryFlags.forLeaf permissions cache = .ok entry.flags) ∨
    ∃ child childTable, entry.target = .tableSlot child ∧ entry.flags = .intermediate ∧
      plan.tables[child]? = some childTable ∧ table.level.child = some childTable.level := by
  obtain ⟨member, rfl, rfl⟩ := findEntry_some found
  obtain ⟨same, sameFound, fits⟩ := consistent.fits entry member
  rw [tableFound] at sameFound
  cases sameFound
  cases target : entry.target with
  | physicalFrame frame =>
      simp only [target] at fits
      obtain ⟨level, permissions, cache, flags⟩ := fits
      exact .inl ⟨level, frame, permissions, cache, rfl, flags⟩
  | tableSlot child =>
      simp only [target] at fits
      obtain ⟨flags, _, childTable, childFound, levels, _⟩ := fits
      exact .inr ⟨child, childTable, rfl, flags, childFound, levels⟩

section

variable {slot shift : Nat} {shifts : List Nat} {table : PlannedTable} {frame : PhysicalFrame}
  {address : VirtualAddress} {writable noExecute : Bool} {entry : PlannedEntry}

theorem Stored.read_entry (stored : plan.Stored frames read)
    (frameFound : frames[slot]? = some frame)
    (found : plan.findEntry slot (tableIndexAt address shift) = some entry) :
    ∃ value, entry.encodedValue (⟨frames⟩ : FrameAssignments tableCapacity) = .ok value ∧
      read frame.address (address.value / 2 ^ shift % 512) = some value := by
  have cell := stored slot frame (tableIndexAt address shift) frameFound
  rw [found, tableIndexAt_value] at cell
  exact cell

/-- An index without an entry ends the walk. -/
theorem walk_missing (stored : plan.Stored frames read) (frameFound : frames[slot]? = some frame)
    (missing : plan.findEntry slot (tableIndexAt address shift) = none) :
    walk read address.value (shift :: shifts) frame.address writable noExecute = .notPresent := by
  have cell := stored slot frame (tableIndexAt address shift) frameFound
  rw [missing, tableIndexAt_value] at cell
  exact walk_absent cell (by decide)

/-- Above the page tables an entry leads to the frame of its child table, and
the rights stay as they are. -/
theorem walk_child (stored : plan.Stored frames read) (consistent : plan.Consistent)
    (complete : plan.tables.length = frames.length)
    (tableFound : plan.tables[slot]? = some table) (upper : table.level ≠ .pt)
    (frameFound : frames[slot]? = some frame)
    (found : plan.findEntry slot (tableIndexAt address shift) = some entry) :
    ∃ child childTable childFrame, entry.target = .tableSlot child ∧
      plan.tables[child]? = some childTable ∧ table.level.child = some childTable.level ∧
      frames[child]? = some childFrame ∧
      walk read address.value (shift :: shifts) frame.address writable noExecute =
        walk read address.value shifts childFrame.address writable noExecute := by
  rcases consistent.entry_cases tableFound found with ⟨level, _⟩ |
    ⟨child, childTable, target, flags, childFound, levels⟩
  · contradiction
  · have bound : child < frames.length := complete ▸ (List.getElem?_eq_some_iff.mp childFound).1
    have childFrame : frames[child]? = some frames[child] := List.getElem?_eq_getElem bound
    refine ⟨child, childTable, frames[child], target, childFound, levels, childFrame, ?_⟩
    obtain ⟨value, encoded, cell⟩ := stored.read_entry frameFound found
    simp only [PlannedEntry.encodedValue, target, FrameAssignments.frame, childFrame, okOr_some,
      ok_bind, Except.ok.injEq] at encoded
    rw [← encoded] at cell
    rw [walk_present cell frames[child].aligned frames[child].address_lt
      (by rw [flags]; decide) (by rw [flags]; decide), flags]
    simp [EntryFlags.intermediate]

/-- A leaf ends the walk at its frame with its own rights. -/
theorem walk_leaf (stored : plan.Stored frames read) (frameFound : frames[slot]? = some frame)
    {target : PhysicalFrame} (leaf : entry.target = .physicalFrame target)
    {permissions : MappingPermissions} {cache : CachePolicy}
    (flags : EntryFlags.forLeaf permissions cache = .ok entry.flags)
    (found : plan.findEntry slot (tableIndexAt address shift) = some entry) :
    walk read address.value [shift] frame.address writable noExecute =
      .mapped (target.address + address.value % 4096) (writable && entry.flags.writable)
        (noExecute || !entry.flags.executable) := by
  obtain ⟨value, encoded, cell⟩ := stored.read_entry frameFound found
  simp only [PlannedEntry.encodedValue, leaf, ok_bind, Except.ok.injEq] at encoded
  rw [← encoded] at cell
  rw [walk_present cell target.aligned target.address_lt (forLeaf_frameMask flags)
    (forLeaf_flags flags).present]
  rfl

end

/-- The walk over stored tables is `leaf_entry`: it ends at the leaf's frame
with the leaf's rights, or finds nothing present where there is no leaf. -/
theorem pageWalk_eq_leafEntry (stored : plan.Stored frames read) (consistent : plan.Consistent)
    (complete : plan.tables.length = frames.length) {root : PhysicalFrame}
    (rootFound : frames[0]? = some root) (address : VirtualAddress) :
    (plan.leafEntry address = none ∧
      pageWalk read root.address address.value = .notPresent) ∨
    ∃ leaf target, plan.leafEntry address = some leaf ∧ leaf.target = .physicalFrame target ∧
      pageWalk read root.address address.value =
        .mapped (target.address + address.value % 4096) leaf.flags.writable
          (!leaf.flags.executable) := by
  obtain ⟨rootTable, rootTableFound, rootLevel, _⟩ := consistent.root
  simp only [pageWalk, levelShifts, leafEntry, virtualAddressIndices, frameSlotRoot]
  -- One level at a time: either the plan has no entry and both stop, or both go down.
  cases first : plan.findEntry 0 (tableIndexAt address 39) with
  | none => exact .inl ⟨rfl, walk_missing stored rootFound first⟩
  | some pml4Entry =>
      obtain ⟨pdpt, pdptTable, pdptFrame, target, pdptFound, pdptLevel, pdptFrameFound, walked⟩ :=
        walk_child stored consistent complete rootTableFound (by simp [rootLevel]) rootFound first
      rw [walked]
      rw [rootLevel] at pdptLevel
      simp only [Option.bind_eq_bind, Option.bind_some, target, EntryTarget.frameSlot]
      cases second : plan.findEntry pdpt (tableIndexAt address 30) with
      | none => exact .inl ⟨rfl, walk_missing stored pdptFrameFound second⟩
      | some pdptEntry =>
          have pdptUpper : pdptTable.level ≠ .pt := by
            intro same
            simp [TableLevel.child, same] at pdptLevel
          obtain ⟨pd, pdTable, pdFrame, target, pdFound, pdLevel, pdFrameFound, walked⟩ :=
            walk_child stored consistent complete pdptFound pdptUpper pdptFrameFound second
          rw [walked]
          simp only [Option.bind_some, target]
          cases third : plan.findEntry pd (tableIndexAt address 21) with
          | none => exact .inl ⟨rfl, walk_missing stored pdFrameFound third⟩
          | some pdEntry =>
              have pdIs : pdTable.level = .pd := by
                simp only [TableLevel.child, Option.some.injEq] at pdptLevel
                simpa [← pdptLevel, TableLevel.child, eq_comm] using pdLevel
              obtain ⟨pt, ptTable, ptFrame, target, ptFound, ptLevel, ptFrameFound, walked⟩ :=
                walk_child stored consistent complete pdFound (by simp [pdIs]) pdFrameFound third
              rw [walked]
              simp only [Option.bind_some, target]
              cases fourth : plan.findEntry pt (tableIndexAt address 12) with
              | none => exact .inl ⟨rfl, walk_missing stored ptFrameFound fourth⟩
              | some entry =>
                  have ptIs : ptTable.level = .pt := by
                    simpa [pdIs, TableLevel.child, eq_comm] using ptLevel
                  rcases consistent.entry_cases ptFound fourth with
                    ⟨_, frame, permissions, cache, leaf, flags⟩ | ⟨child, childTable, _, _, _, levels⟩
                  · refine .inr ⟨entry, frame, by simp [leaf], leaf, ?_⟩
                    exact walk_leaf stored ptFrameFound leaf flags fourth
                  · simp [ptIs, TableLevel.child] at levels

end ConstructionPlan

end UnnamedOS.PageTable
