import UnnamedOS.Data.Flags
import UnnamedOS.Data.Validator
import UnnamedOS.Loader.TransitionWalk
import UnnamedOS.Loader.Verification
import UnnamedOS.PageTable.Links

namespace UnnamedOS.Loader

open UnnamedOS.Data UnnamedOS.Layout UnnamedOS.PageTable UnnamedOS.X86

/-! # What the verifier accepts

The verifier is more lenient than equality in one place only, a zero in place
of an entry that leads to a table.  Every table has exactly one such entry, so
the reachability check at the end finds each of them. -/

/-! ## Ancestors -/

/-- Parents have smaller slots, so the climb ends. -/
theorem isAncestor_ends {plan : RuntimePageTablePlan} (consistent : plan.Consistent)
    (linked : plan.Linked) (candidate : Nat) {steps slot : Nat} (enough : slot < steps)
    (inside : slot < plan.tables.length) :
    ∃ answer, isAncestor plan candidate steps slot = some answer := by
  induction steps generalizing slot with
  | zero => omega
  | succ steps ih =>
      have found : plan.tables[slot]? = some plan.tables[slot] := List.getElem?_eq_getElem inside
      cases recorded : plan.tables[slot].parent with
      | none => exact ⟨false, by simp [isAncestor, found, recorded]⟩
      | some edge =>
          obtain ⟨parent, index⟩ := edge
          have smaller := linked.parent_lt consistent found recorded
          by_cases here : parent = candidate
          · exact ⟨true, by simp [isAncestor, found, recorded, here]⟩
          · obtain ⟨answer, climbed⟩ := ih (show parent < steps by omega) (by omega)
            exact ⟨answer, by simp [isAncestor, found, recorded, here, climbed]⟩

theorem levelsAreParentChild_of_child {parent child : TableLevel}
    (below : parent.child = some child) : levelsAreParentChild parent child = true := by
  cases parent <;> cases child <;> simp [TableLevel.child] at below <;> rfl

/-! ## Encoded entries pass the bit checks -/

/-- The flags the planner gives out. -/
structure PlainFlags (flags : EntryFlags) : Prop where
  present : flags.bits &&& EntryFlags.present ≠ 0
  user : flags.bits &&& EntryFlags.userBit = 0
  huge : flags.bits &&& EntryFlags.hugePage = 0
  reserved : flags.bits &&& entryReservedMask = 0
  address : flags.bits &&& entryAddressMask = 0

theorem plainFlags_intermediate : PlainFlags .intermediate := by
  constructor <;> decide

theorem plainFlags_forLeaf {permissions : MappingPermissions} {cache : CachePolicy}
    {flags : EntryFlags} (built : EntryFlags.forLeaf permissions cache = .ok flags) :
    PlainFlags flags := by
  have bits := forLeaf_bits built
  unfold EntryFlags.leafBits at bits
  cases writable : permissions.writable <;> cases executable : permissions.executable <;>
    cases cache <;> simp [writable, executable] at bits <;> constructor <;> rw [bits] <;> decide

theorem frame_and_reserved (frame : PhysicalFrame) : frame.address &&& entryReservedMask = 0 := by
  have whole := bounded_and_frameMask frame.aligned frame.address_lt
  rw [← whole, Nat.and_assoc, show frameMask &&& entryReservedMask = 0 by decide, Nat.and_zero]

theorem PlainFlags.encoded_ne_zero {flags : EntryFlags} (plain : PlainFlags flags)
    (frame : PhysicalFrame) : frame.address ||| flags.bits ≠ 0 := by
  intro zero
  have low : (frame.address ||| flags.bits) &&& EntryFlags.present =
      flags.bits &&& EntryFlags.present := entry_low frame.aligned (by decide)
  rw [zero, Nat.zero_and] at low
  exact plain.present low.symm

theorem validateEntryBits_encoded {δ : Type} {entry : PlannedEntry} (plain : PlainFlags entry.flags)
    (exclusive : isLeaf entry → entry.flags.bits &&& EntryFlags.writableBit ≠ 0 →
      entry.flags.bits &&& EntryFlags.noExecute ≠ 0)
    (frame : PhysicalFrame) (slot : Nat) (index : TableIndex) :
    (validateEntryBits (frame.address ||| entry.flags.bits) (some entry) slot index :
      Except (VerificationFailure δ) Unit) = .ok () := by
  have low (mask : Nat) (small : mask < 4096) :
      (frame.address ||| entry.flags.bits) &&& mask = entry.flags.bits &&& mask :=
    entry_low frame.aligned small
  have address : (frame.address ||| entry.flags.bits) &&& entryAddressMask = frame.address :=
    entry_frame frame.aligned frame.address_lt plain.address
  have reserved : (frame.address ||| entry.flags.bits) &&& entryReservedMask = 0 := by
    rw [Nat.and_or_distrib_right, frame_and_reserved, plain.reserved, Nat.or_zero]
  have highest : (frame.address ||| entry.flags.bits) &&& EntryFlags.noExecute =
      entry.flags.bits &&& EntryFlags.noExecute := entry_noExecute frame.address_lt
  have supported := frame.supported
  unfold validateEntryBits
  rw [low EntryFlags.present (by decide), low EntryFlags.userBit (by decide),
    low EntryFlags.hugePage (by decide), low EntryFlags.writableBit (by decide), address, reserved,
    highest, if_neg, if_neg]
  · rintro ⟨leaf, writable, executable⟩
    exact exclusive (by simpa using leaf) writable executable
  · simp only [plain.present, plain.user, plain.huge, ne_eq, not_true_eq_false, false_or]
    omega

theorem forLeaf_protects {permissions : MappingPermissions} {cache : CachePolicy}
    {flags : EntryFlags} (built : EntryFlags.forLeaf permissions cache = .ok flags)
    (writable : flags.bits &&& EntryFlags.writableBit ≠ 0) :
    flags.bits &&& EntryFlags.noExecute ≠ 0 := by
  have described := forLeaf_flags built
  rw [described.noExecute, ← Bool.not_eq_true]
  intro executable
  exact forLeaf_exclusive built ⟨described.writable.mp writable, executable⟩

theorem validateEntryBits_safe {δ : Type} (value : Nat) (expected : Option PlannedEntry)
    (slot : Nat) (index : TableIndex) :
    (validateEntryBits value expected slot index : Except (VerificationFailure δ) Unit) ≠
      .error .stuck := by
  unfold validateEntryBits
  split
  · simp
  · split <;> simp

/-! ## One cell -/

section

variable {β μ δ : Type} {memory : PageTableMemory μ δ} {state : μ} {plan : RuntimePageTablePlan}
  {owner : PageTableFrameOwner β pageTableFrameCapacity} {cells : Nat → TableIndex → Nat}

/-- A finished plan and the frames allocated for it. -/
structure Prepared (plan : RuntimePageTablePlan)
    (owner : PageTableFrameOwner β pageTableFrameCapacity) : Prop where
  consistent : plan.Consistent
  linked : plan.Linked
  removable : plan.Removable
  complete : owner.frames.length = plan.tables.length
  bounded : plan.tables.length ≤ pageTableFrameCapacity
  distinct : owner.frames.Nodup
  root : owner.root = owner.frames.head?

/-- The contents of the owned frames, by table slot. -/
def Readable (memory : PageTableMemory μ δ) (state : μ)
    (owner : PageTableFrameOwner β pageTableFrameCapacity) (cells : Nat → TableIndex → Nat) :
    Prop :=
  ∀ (slot : Nat) (frame : PhysicalFrame), owner.frames[slot]? = some frame → ∀ index,
    memory.readEntry state frame index = .ok (cells slot index)

def Agrees (plan : RuntimePageTablePlan) (owner : PageTableFrameOwner β pageTableFrameCapacity)
    (cells : Nat → TableIndex → Nat) (slot : Nat) (index : TableIndex) : Prop :=
  entryValue plan owner.assignments slot index = .ok (cells slot index)

def LeadsTo (plan : RuntimePageTablePlan) (slot : Nat) (index : TableIndex) (child : Nat) : Prop :=
  ∃ entry, plan.findEntry slot index = some entry ∧ entry.target = .tableSlot child

/-- What the loop over the cells lets pass. -/
def Tolerated (plan : RuntimePageTablePlan) (owner : PageTableFrameOwner β pageTableFrameCapacity)
    (cells : Nat → TableIndex → Nat) (slot : Nat) (index : TableIndex) : Prop :=
  Agrees plan owner cells slot index ∨
    cells slot index = 0 ∧ ∃ child, LeadsTo plan slot index child

theorem Prepared.frame_of_table (prepared : Prepared plan owner) {slot : Nat}
    (inside : slot < plan.tables.length) : ∃ frame, owner.frames[slot]? = some frame :=
  ⟨_, List.getElem?_eq_getElem (prepared.complete ▸ inside)⟩

theorem ownedSlot_eq (prepared : Prepared plan owner) {child : Nat} {frame : PhysicalFrame}
    (found : owner.frames[child]? = some frame) : ownedSlot owner frame.address = some child := by
  obtain ⟨inside, here⟩ := List.getElem?_eq_some_iff.mp found
  have position : owner.frames.findIdx? (fun candidate => candidate.address = frame.address) =
      some child := by
    refine List.findIdx?_eq_some_iff_getElem.mpr ⟨inside, by simp [here], ?_⟩
    intro earlier before
    have different : owner.frames[earlier] ≠ owner.frames[child] := by
      intro same
      have := (prepared.distinct.getElem_inj_iff).mp same
      omega
    rw [here] at different
    simpa [PhysicalFrame.ext_iff] using different
  have small : child < 2 ^ 32 := by
    have complete := prepared.complete
    have bounded := prepared.bounded
    simp only [pageTableFrameCapacity] at bounded
    omega
  simp only [ownedSlot, position, Option.bind_eq_bind, Option.bind_some, frameSlotFromIndex,
    if_pos small]

theorem refuseChild_refuses (prepared : Prepared plan owner) {table : PlannedTable}
    (inside : table.frameSlot < plan.tables.length) (index : TableIndex) (actual : Nat) :
    Decides .stuck (refuseChild plan table index actual :
      Except (VerificationFailure δ) (List Bool)) False := by
  have climb : ∃ cycle, (if actual = table.frameSlot then .ok true
      else okOr (isAncestor plan actual (plan.tables.length + 1) table.frameSlot) .stuck :
        Except (VerificationFailure δ) Bool) = .ok cycle := by
    by_cases here : actual = table.frameSlot
    · exact ⟨true, if_pos here⟩
    · obtain ⟨answer, climbed⟩ := isAncestor_ends prepared.consistent prepared.linked actual
        (show table.frameSlot < plan.tables.length + 1 by omega) inside
      exact ⟨answer, by rw [if_neg here, climbed, okOr_some]⟩
  obtain ⟨cycle, climbed⟩ := climb
  refine .step climbed ?_
  cases cycle with
  | true => exact .reject (by simp)
  | false =>
      cases found : plan.tables[actual]? with
      | none => exact .reject (by simp)
      | some other =>
          by_cases levels : levelsAreParentChild table.level other.level
          · simpa [levels] using Decides.reject (by simp)
          · simpa [levels] using Decides.reject (by simp)

theorem verifyChild_safe (prepared : Prepared plan owner) {table : PlannedTable}
    (inside : table.frameSlot < plan.tables.length) {reachable : List Bool}
    (flags : reachable.length = pageTableFrameCapacity) (index : TableIndex)
    (expected : PlannedEntry) (actual : Nat) :
    (verifyChild plan owner table index expected actual reachable :
      Except (VerificationFailure δ) (List Bool)) ≠ .error .stuck := by
  cases owned : ownedSlot owner (actual &&& entryAddressMask) with
  | none => simp [verifyChild, owned]
  | some child =>
      cases target : expected.target.frameSlot with
      | none => simp [verifyChild, owned, target]
      | some expectedChild =>
          simp only [verifyChild, owned, target, okOr_some, ok_bind]
          by_cases same : child = expectedChild
          · rw [if_neg (not_not.mpr same)]
            cases found : plan.tables[child]? with
            | none => simp
            | some childTable =>
                have bound := (List.getElem?_eq_some_iff.mp found).1
                have room : child < reachable.length := by
                  have bounded := prepared.bounded
                  omega
                simp only [okOr_some, ok_bind, markReachable, if_pos room]
                split <;> simp
          · rw [if_pos same]
            exact (refuseChild_refuses prepared inside index child).safe

/-- An entry that holds its own child table's frame passes and marks it. -/
theorem verifyChild_encoded (prepared : Prepared plan owner) {table : PlannedTable}
    (found : plan.tables[table.frameSlot]? = some table) {reachable : List Bool}
    (flags : reachable.length = pageTableFrameCapacity) {index : TableIndex}
    {entry : PlannedEntry} (entryFound : plan.findEntry table.frameSlot index = some entry)
    {child : Nat} (target : entry.target = .tableSlot child) :
    ∃ frame, owner.frames[child]? = some frame ∧ entry.flags = .intermediate ∧
      child < reachable.length ∧
      (verifyChild plan owner table index entry (frame.address ||| entry.flags.bits) reachable :
        Except (VerificationFailure δ) (List Bool)) = .ok (reachable.set child true) := by
  rcases prepared.consistent.entry_cases found entryFound with ⟨_, frame, _, _, leaf, _⟩ |
    ⟨same, childTable, sameTarget, intermediate, childFound, levels⟩
  · rw [target] at leaf
    contradiction
  · rw [target] at sameTarget
    cases sameTarget
    have inside := (List.getElem?_eq_some_iff.mp childFound).1
    have bounded := prepared.bounded
    have room : child < reachable.length := by omega
    obtain ⟨frame, frameFound⟩ := prepared.frame_of_table inside
    have address : (frame.address ||| entry.flags.bits) &&& entryAddressMask = frame.address :=
      entry_frame frame.aligned frame.address_lt (by rw [intermediate]; decide)
    refine ⟨frame, frameFound, intermediate, room, ?_⟩
    simp only [verifyChild, address, ownedSlot_eq prepared frameFound, okOr_some, ok_bind, target,
      EntryTarget.frameSlot, ne_eq, not_true_eq_false, if_false, childFound,
      levelsAreParentChild_of_child levels, markReachable, if_pos room]

/-- A nonzero value that is not the planned one is refused by some check. -/
theorem verifyEntry_mismatch (prepared : Prepared plan owner)
    (readable : Readable memory state owner cells) {table : PlannedTable}
    (inside : table.frameSlot < plan.tables.length) {frame : PhysicalFrame}
    (frameFound : owner.frames[table.frameSlot]? = some frame) {reachable : List Bool}
    (flags : reachable.length = pageTableFrameCapacity) {index : TableIndex}
    (nonzero : cells table.frameSlot index ≠ 0)
    (differs : ¬ Agrees plan owner cells table.frameSlot index) :
    Decides .stuck (verifyEntry memory plan owner state table frame reachable index) False := by
  have read := readable _ frame frameFound index
  have assigned : owner.assignments.frames.length = plan.tableCount := prepared.complete
  obtain ⟨value, encoded⟩ :=
    entryValue_exists prepared.consistent assigned table.frameSlot index
  unfold verifyEntry
  simp only [read, mapError_ok, ok_bind, if_neg nonzero]
  refine .doomed (validateEntryBits_safe _ _ _ _) fun _ _ => ?_
  cases expected : expectedEntry plan table.frameSlot index with
  | none => exact .reject (by simp)
  | some entry =>
      simp only [entryValue, expected] at encoded
      have other : cells table.frameSlot index ≠ value := by
        intro same
        exact differs (by simp only [Agrees, entryValue, expected, encoded, same])
      have child : (if isLeaf entry then .ok reachable
          else verifyChild plan owner table index entry (cells table.frameSlot index) reachable :
            Except (VerificationFailure δ) (List Bool)) ≠ .error .stuck := by
        split
        · simp
        · exact verifyChild_safe prepared inside flags index entry _
      rw [okOr_some, ok_bind]
      refine .doomed child fun _ _ => ?_
      simp only [encoded, mapError_ok, ok_bind, if_pos other]
      exact .reject (by simp)

/-- The value of an entry that leads to a table, once the table has its frame. -/
theorem encodedValue_table {entry : PlannedEntry} {child : Nat} {frame : PhysicalFrame}
    (target : entry.target = .tableSlot child) (found : owner.frames[child]? = some frame) :
    entry.encodedValue owner.assignments = .ok (frame.address ||| entry.flags.bits) := by
  simp only [PlannedEntry.encodedValue, target, FrameAssignments.frame,
    PageTableFrameOwner.assignments, found, okOr_some, ok_bind]

theorem agrees_iff {slot value : Nat} {index : TableIndex} {entry : PlannedEntry}
    (found : plan.findEntry slot index = some entry)
    (encoded : entry.encodedValue owner.assignments = .ok value) :
    Agrees plan owner cells slot index ↔ cells slot index = value := by
  have lookup : expectedEntry plan slot index = some entry := found
  simp only [Agrees, entryValue, lookup, encoded, Except.ok.injEq, eq_comm]

theorem LeadsTo.target {slot child : Nat} {index : TableIndex} {entry : PlannedEntry}
    (leads : LeadsTo plan slot index child) (found : plan.findEntry slot index = some entry) :
    entry.target = .tableSlot child := by
  obtain ⟨same, sameFound, target⟩ := leads
  rw [found] at sameFound
  cases sameFound
  exact target

/-- A zero is refused in place of a leaf only. -/
theorem verifyEntry_zero {table : PlannedTable} {frame : PhysicalFrame} {reachable : List Bool}
    {index : TableIndex} (read : memory.readEntry state frame index = .ok 0) :
    verifyEntry memory plan owner state table frame reachable index =
      if (expectedEntry plan table.frameSlot index).any isLeaf then
        .error (.refused (.entryMismatch table.frameSlot index))
      else .ok reachable := by
  simp only [verifyEntry, read, mapError_ok, ok_bind, if_true]

/-- The planned value passes the checks of the bits and of the value. -/
theorem verifyEntry_encoded {table : PlannedTable} {frame target : PhysicalFrame}
    {reachable : List Bool} {index : TableIndex} {entry : PlannedEntry}
    (found : plan.findEntry table.frameSlot index = some entry)
    (encoded : entry.encodedValue owner.assignments = .ok (target.address ||| entry.flags.bits))
    (plain : PlainFlags entry.flags)
    (protects : isLeaf entry → entry.flags.bits &&& EntryFlags.writableBit ≠ 0 →
      entry.flags.bits &&& EntryFlags.noExecute ≠ 0)
    (read : memory.readEntry state frame index = .ok (target.address ||| entry.flags.bits)) :
    verifyEntry memory plan owner state table frame reachable index =
      if isLeaf entry then .ok reachable
      else verifyChild plan owner table index entry (target.address ||| entry.flags.bits)
        reachable := by
  have lookup : expectedEntry plan table.frameSlot index = some entry := found
  have nonzero := plain.encoded_ne_zero target
  simp only [verifyEntry, read, mapError_ok, ok_bind, if_neg nonzero, lookup,
    validateEntryBits_encoded plain protects, okOr_some, encoded, ne_eq, not_true_eq_false,
    if_false]
  split
  · rfl
  · exact bind_pure _

/-- Everything the check of one cell can do: it refuses, it passes over the
cell, or it finds the child table. -/
inductive CellCheck (memory : PageTableMemory μ δ) (state : μ) (plan : RuntimePageTablePlan)
    (owner : PageTableFrameOwner β pageTableFrameCapacity) (cells : Nat → TableIndex → Nat)
    (table : PlannedTable) (frame : PhysicalFrame) (reachable : List Bool) (index : TableIndex) :
    Prop where
  | refused (wrong : ¬ Tolerated plan owner cells table.frameSlot index)
      (decides : Decides .stuck
        (verifyEntry memory plan owner state table frame reachable index) False)
  | skipped (tolerated : Tolerated plan owner cells table.frameSlot index)
      (nowhere : ∀ child, LeadsTo plan table.frameSlot index child →
        ¬ Agrees plan owner cells table.frameSlot index)
      (ran : verifyEntry memory plan owner state table frame reachable index = .ok reachable)
  | marked (child : Nat) (room : child < reachable.length)
      (leads : LeadsTo plan table.frameSlot index child)
      (agrees : Agrees plan owner cells table.frameSlot index)
      (ran : verifyEntry memory plan owner state table frame reachable index =
        .ok (reachable.set child true))

section

variable {table : PlannedTable} {frame : PhysicalFrame} {reachable : List Bool}
  {index : TableIndex} {entry : PlannedEntry}

theorem CellCheck.mismatch (prepared : Prepared plan owner)
    (readable : Readable memory state owner cells)
    (inside : table.frameSlot < plan.tables.length)
    (frameFound : owner.frames[table.frameSlot]? = some frame)
    (flags : reachable.length = pageTableFrameCapacity)
    (nonzero : cells table.frameSlot index ≠ 0)
    (differs : ¬ Agrees plan owner cells table.frameSlot index) :
    CellCheck memory state plan owner cells table frame reachable index := by
  refine .refused ?_
    (verifyEntry_mismatch prepared readable inside frameFound flags nonzero differs)
  intro passed
  cases passed with
  | inl agrees => exact differs agrees
  | inr skipped => exact nonzero skipped.1

theorem CellCheck.unplanned_zero (unplanned : plan.findEntry table.frameSlot index = none)
    (zero : cells table.frameSlot index = 0)
    (read : memory.readEntry state frame index = .ok (cells table.frameSlot index)) :
    CellCheck memory state plan owner cells table frame reachable index := by
  have lookup : expectedEntry plan table.frameSlot index = none := unplanned
  rw [zero] at read
  refine .skipped (.inl (by simp only [Agrees, entryValue, lookup, zero])) ?_ ?_
  · intro child leads
    obtain ⟨entry, found, _⟩ := leads
    rw [unplanned] at found
    contradiction
  · simp only [verifyEntry_zero read, lookup, Option.any_none, Bool.false_eq_true, if_false]

/-- The cell of a leaf holds the leaf, a zero, or something else. -/
theorem CellCheck.leaf (prepared : Prepared plan owner)
    (readable : Readable memory state owner cells)
    (inside : table.frameSlot < plan.tables.length)
    (frameFound : owner.frames[table.frameSlot]? = some frame)
    (flags : reachable.length = pageTableFrameCapacity)
    (found : plan.findEntry table.frameSlot index = some entry) {target : PhysicalFrame}
    (leaf : entry.target = .physicalFrame target) {permissions : MappingPermissions}
    {cache : CachePolicy} (leafFlags : EntryFlags.forLeaf permissions cache = .ok entry.flags) :
    CellCheck memory state plan owner cells table frame reachable index := by
  have lookup : expectedEntry plan table.frameSlot index = some entry := found
  have read := readable _ frame frameFound index
  have encoded : entry.encodedValue owner.assignments =
      .ok (target.address ||| entry.flags.bits) := by
    simp only [PlannedEntry.encodedValue, leaf, ok_bind]
  have isLeaf : isLeaf entry = true := by simp [isLeaf, leaf, EntryTarget.frameSlot]
  have nowhere (child : Nat) : ¬ LeadsTo plan table.frameSlot index child := by
    intro leads
    rw [leads.target found] at leaf
    contradiction
  by_cases agrees : Agrees plan owner cells table.frameSlot index
  · rw [(agrees_iff found encoded).mp agrees] at read
    refine .skipped (.inl agrees) (fun child leads => absurd leads (nowhere child)) ?_
    rw [verifyEntry_encoded found encoded (plainFlags_forLeaf leafFlags)
      (fun _ => forLeaf_protects leafFlags) read, if_pos isLeaf]
  · by_cases zero : cells table.frameSlot index = 0
    · rw [zero] at read
      refine .refused ?_ ?_
      · intro passed
        cases passed with
        | inl same => exact agrees same
        | inr skipped => exact skipped.2.elim nowhere
      · simp only [verifyEntry_zero read, lookup, Option.any_some, isLeaf, if_true]
        exact .reject (by simp)
    · exact .mismatch prepared readable inside frameFound flags zero agrees

/-- The cell of a table's entry, where a zero passes for now. -/
theorem CellCheck.edge (prepared : Prepared plan owner)
    (readable : Readable memory state owner cells)
    (found : plan.tables[table.frameSlot]? = some table)
    (frameFound : owner.frames[table.frameSlot]? = some frame)
    (flags : reachable.length = pageTableFrameCapacity)
    (entryFound : plan.findEntry table.frameSlot index = some entry) {child : Nat}
    (target : entry.target = .tableSlot child) :
    CellCheck memory state plan owner cells table frame reachable index := by
  have lookup : expectedEntry plan table.frameSlot index = some entry := entryFound
  have read := readable _ frame frameFound index
  have leads : LeadsTo plan table.frameSlot index child := ⟨entry, entryFound, target⟩
  obtain ⟨childFrame, childFrameFound, intermediate, room, passes⟩ :=
    verifyChild_encoded prepared found flags entryFound target
  have encoded := encodedValue_table target childFrameFound
  have plain : PlainFlags entry.flags := intermediate ▸ plainFlags_intermediate
  have isTable : ¬ isLeaf entry = true := by simp [isLeaf, target, EntryTarget.frameSlot]
  by_cases agrees : Agrees plan owner cells table.frameSlot index
  · rw [(agrees_iff entryFound encoded).mp agrees] at read
    refine .marked child room leads agrees ?_
    rw [verifyEntry_encoded entryFound encoded plain (fun leaf => absurd leaf isTable) read,
      if_neg isTable, passes]
  · by_cases zero : cells table.frameSlot index = 0
    · rw [zero] at read
      refine .skipped (.inr ⟨zero, child, leads⟩) (fun _ _ => agrees) ?_
      rw [verifyEntry_zero read, lookup, Option.any_some, if_neg isTable]
    · exact .mismatch prepared readable (List.getElem?_eq_some_iff.mp found).1 frameFound flags
        zero agrees

theorem verifyEntry_cases (prepared : Prepared plan owner)
    (readable : Readable memory state owner cells)
    (found : plan.tables[table.frameSlot]? = some table)
    (frameFound : owner.frames[table.frameSlot]? = some frame)
    (flags : reachable.length = pageTableFrameCapacity) (index : TableIndex) :
    CellCheck memory state plan owner cells table frame reachable index := by
  have inside := (List.getElem?_eq_some_iff.mp found).1
  cases expected : plan.findEntry table.frameSlot index with
  | none =>
      by_cases zero : cells table.frameSlot index = 0
      · exact .unplanned_zero expected zero (readable _ frame frameFound index)
      · have lookup : expectedEntry plan table.frameSlot index = none := expected
        refine .mismatch prepared readable inside frameFound flags zero ?_
        simp only [Agrees, entryValue, lookup, Except.ok.injEq]
        exact Ne.symm zero
  | some entry =>
      rcases prepared.consistent.entry_cases found expected with
        ⟨_, target, permissions, cache, leaf, leafFlags⟩ | ⟨child, _, target, _⟩
      · exact .leaf prepared readable inside frameFound flags expected leaf leafFlags
      · exact .edge prepared readable found frameFound flags expected target

end

end

end UnnamedOS.Loader
