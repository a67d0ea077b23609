import UnnamedOS.Loader.KernelCustody
import UnnamedOS.PageTable.FrameCustody

namespace UnnamedOS.Loader

open UnnamedOS.Data UnnamedOS.PageTable

/-! # The pages of the stack and of the page tables -/

section

variable {φ ε : Type} (firmware : Firmware φ) (features : TestFeatures)

/-! ## The stack -/

namespace BootstrapStack

def held (stack : BootstrapStack Unit) : List OwnedAllocation :=
  if stack.owned = true then [stack.allocation.pages] else []

theorem bootBackend_gives :
    Gives (uefiBootBackend firmware).freeAllocation
      fun held (machine : Machine φ) => machine.Leaves held :=
  freePages_gives firmware BufferError.free .range

theorem drops (stack : BootstrapStack Unit) : Drops (stack.dropOn firmware) stack.held := by
  intro rest machine leaves
  unfold held at leaves
  unfold dropOn drop
  split
  · rename_i owned
    rw [if_pos owned] at leaves
    exact (bootBackend_gives firmware).gone leaves
  · rename_i released
    rw [if_neg released] at leaves
    exact leaves

theorem releaseOn_leaves (stack : BootstrapStack Unit) (rest : List OwnedAllocation) :
    Program.Triple (fun machine : Machine φ => machine.Leaves (stack.held ++ rest))
      (stack.releaseOn firmware : Program (Machine φ) ε _)
      (fun released machine => machine.Leaves (released.2.held ++ rest)) fun _ _ => False := by
  refine .call ?_
  intro machine leaves
  unfold held at leaves
  by_cases owned : stack.owned = true
  · rw [if_pos owned] at leaves
    have gone := (bootBackend_gives firmware).gone leaves
    have kept := (bootBackend_gives firmware).kept leaves
    cases freed : (uefiBootBackend firmware).freeAllocation machine stack.allocation.pages with
    | mk result after =>
        rw [freed] at gone kept
        cases result with
        | error source => simpa [tryRelease, owned, freed, held] using kept rfl
        | ok done => simpa [tryRelease, owned, freed, held] using gone
  · rw [if_neg owned] at leaves
    simpa [tryRelease, owned, held] using leaves

end BootstrapStack

theorem ownStack_custody (allocation : PageAllocation) (forbidden : List StackRange) :
    Custody [allocation.pages] (ownStack firmware allocation forbidden) BootstrapStack.held := by
  intro rest machine owes
  have gone := (BootstrapStack.bootBackend_gives firmware).gone owes.leaves
  unfold ownStack
  cases ran : BootstrapStack.fromInitialized (uefiBootBackend firmware) machine allocation
      forbidden with
  | error failure =>
      refine ⟨by simp, ?_⟩
      intro reason after same
      cases same
      unfold BootstrapStack.fromInitialized at ran
      split at ran
      · cases ran
        exact gone
      · split at ran
        · cases ran
          exact gone
        · cases ran
  | ok stack =>
      refine ⟨?_, by simp⟩
      intro value after same
      cases same
      unfold BootstrapStack.fromInitialized at ran
      split at ran
      · cases ran
      · split at ran
        · cases ran
        · cases ran
          exact owes

theorem allocateBootstrapStack_custody (loaded : LoadedKernel Unit) :
    Custody [] (allocateBootstrapStack firmware loaded) BootstrapStack.held := by
  refine (Custody.allocatePages firmware _ bootstrapStackPages).bind fun _ reply _ _ => ?_
  refine .orReturn_bind ?_ ?_
  · intro refused
    cases reply with
    | error status => rfl
    | ok pointer => cases refused
  · intro pointer taken
    cases reply with
    | error status => cases taken
    | ok pointer =>
        cases taken
        refine (Custody.writeMemory _).bind fun _ _ _ _ =>
          (Custody.writeMemory _).bind fun _ _ _ _ => ?_
        split
        · exact .failWith _
        · exact ownStack_custody firmware ⟨pointer.val, bootstrapStackPages⟩ _

/-! ## The frames -/

def framePage (address : Nat) : OwnedAllocation := ⟨address, 1⟩

def heldFrames {β : Type} (owner : PageTableFrameOwner β pageTableFrameCapacity) :
    List OwnedAllocation :=
  if owner.owned = true then owner.addresses.map framePage else []

/-- The frames that the tables still have, among all else that is held. -/
theorem frames_give (others : List OwnedAllocation) :
    Gives (pageTableFrames firmware features).freeFrame
      fun held (state : Machine φ × Nat) => state.1.Leaves (held.map framePage ++ others) where
  perm leaves reordered := leaves.perm ((reordered.map framePage).append_right others)
  gone leaves := (freePages_gives firmware UefiPageTableError.firmware .range).gone leaves
  kept leaves := (freePages_gives firmware UefiPageTableError.firmware .range).kept leaves

/-- What an acquisition holds, while it goes on and when it has failed. -/
def OwesFrames (rest : List OwnedAllocation)
    (owner : IncompleteFrameOwner (Machine φ × Nat) pageTableFrameCapacity) : Prop :=
  owner.backend.1.Owes (owner.frames.map framePage ++ rest)

def LeavesFrames (rest : List OwnedAllocation) :
    Interrupted (Machine φ × Nat) UefiPageTableError pageTableFrameCapacity → Prop
  | .failed error => error.owner.backend.1.Leaves (error.owner.frames.map framePage ++ rest)
  | .panicked => True

theorem rollBack_leaves {rest : List OwnedAllocation} (cause : FrameOwnerCause UefiPageTableError)
    {owner : IncompleteFrameOwner (Machine φ × Nat) pageTableFrameCapacity}
    (leaves : owner.backend.1.Leaves (owner.frames.map framePage ++ rest)) :
    LeavesFrames rest (owner.rollBack (pageTableFrames firmware features) cause) := by
  have gives := frames_give firmware features rest
  have released := @Gives.releaseAll _ _ _ _ _ owner.backend owner.frames.reverse [] gives
    (gives.perm leaves (by simp))
  rw [List.append_nil] at released
  exact gives.perm released (List.reverse_perm _).symm

theorem incomplete_drop {rest : List OwnedAllocation}
    {owner : IncompleteFrameOwner (Machine φ × Nat) pageTableFrameCapacity}
    (leaves : owner.backend.1.Leaves (owner.frames.map framePage ++ rest)) :
    (owner.drop (pageTableFrames firmware features)).1.Leaves rest := by
  have gives := frames_give firmware features rest
  exact @Gives.dropAll _ _ _ _ _ owner.backend owner.frames.reverse [] gives
    (gives.perm leaves (by simp))

/-- A frame that is held already was lent twice. -/
theorem allocateFrame_cases {held : List OwnedAllocation} {state : Machine φ × Nat}
    (owes : state.1.Owes held) :
    (∃ error after, (pageTableFrames firmware features).allocateFrame state = (.error error, after) ∧
      after.1.Owes held) ∨
    ∃ address after, (pageTableFrames firmware features).allocateFrame state =
        (.ok address, after) ∧
      after.1.Owes (framePage address :: held) ∧
      (framePage address ∈ held → after.1.books = .error .lender) := by
  by_cases injected : features.pageTableAllocationFailure = true ∧ state.2 = 2
  · exact .inl ⟨.injectedAllocation, state, if_pos injected, owes⟩
  · rcases allocatePages_cases firmware .anyPages 1 owes with
      ⟨status, after, asked, owes⟩ | ⟨pointer, after, asked, owes, twice⟩
    · refine .inl ⟨.firmware, (after, state.2), ?_, owes⟩
      simp only [pageTableFrames, uefiPageTableBackend, if_neg injected, asked]
    · refine .inr ⟨pointer.val, (after, state.2 + 1), ?_, owes, ?_⟩
      · simp only [pageTableFrames, uefiPageTableBackend, if_neg injected, asked]
      · intro member
        exact twice _ member (by simp [OwnedAllocation.clash, framePage])

theorem zeroFrame_books (state : Machine φ × Nat) (frame : PhysicalFrame) :
    ((pageTableFrames firmware features).zeroFrame state frame).2.1.books = state.1.books := by
  simp only [pageTableFrames, uefiPageTableBackend]
  split
  · rfl
  · rfl

theorem acquire_custody {rest : List OwnedAllocation}
    {owner : IncompleteFrameOwner (Machine φ × Nat) pageTableFrameCapacity} (slot : Nat)
    (owes : OwesFrames rest owner) :
    Ends (OwesFrames rest) (LeavesFrames rest)
      (owner.acquire (pageTableFrames firmware features) slot) := by
  rcases allocateFrame_cases firmware features owes with
    ⟨error, after, ran, owes⟩ | ⟨address, after, ran, owes, twice⟩
  · simp only [IncompleteFrameOwner.acquire, ran]
    exact .stops (rollBack_leaves firmware features _ owes.leaves)
  · have pushed : after.1.Owes ((owner.frames ++ [address]).map framePage ++ rest) := by
      refine owes.perm ?_
      rw [List.map_append, List.append_assoc]
      exact List.perm_middle.symm
    cases found : owner.frames.findIdx? (· = address) with
    | some earlier =>
        have member : address ∈ owner.frames := by
          obtain ⟨_, same, _⟩ := List.findIdx?_eq_some_iff_getElem.mp found
          simp only [decide_eq_true_eq] at same
          exact same ▸ List.getElem_mem _
        have ended := twice (List.mem_append_left _ (List.mem_map_of_mem member))
        simp only [IncompleteFrameOwner.acquire, ran, found]
        exact .stops (rollBack_leaves firmware features _ (.inl ended))
    | none =>
        simp only [IncompleteFrameOwner.acquire, ran, found]
        split
        · refine (Ends.okOr fun _ => trivial).bind ?_
          intro next _ fits
          obtain ⟨_, same⟩ := Option.ite_none_right_eq_some.mp fits
          cases same
          exact .stops (rollBack_leaves firmware features _ pushed.leaves)
        · rename_i frame _
          refine (Ends.okOr fun _ => trivial).bind ?_
          intro next _ fits
          obtain ⟨_, same⟩ := Option.ite_none_right_eq_some.mp fits
          cases same
          have silent := zeroFrame_books firmware features after frame
          rw [Machine.Owes, ← silent] at pushed
          split
          · rename_i zeroed
            rw [zeroed] at pushed
            exact .stops (rollBack_leaves firmware features _ pushed.leaves)
          · rename_i zeroed
            rw [zeroed] at pushed
            exact .returns pushed

theorem allocate_custody {rest : List OwnedAllocation} {state : Machine φ × Nat}
    (plan : RuntimePageTablePlan) (owes : state.1.Owes rest) :
    Ends (fun owner : PageTableFrameOwner (Machine φ × Nat) pageTableFrameCapacity =>
        owner.backend.1.Owes (heldFrames owner ++ rest)) (LeavesFrames rest)
      (PageTableFrameOwner.allocate (pageTableFrames firmware features) plan state) := by
  have acquired : Ends (OwesFrames rest) (LeavesFrames rest)
      ((List.range plan.tableCount).foldlM
        (IncompleteFrameOwner.acquire (pageTableFrames firmware features)) ⟨state, []⟩) := by
    refine .foldlM (fun _ => OwesFrames rest) owes ?_
    intro _ slot _ current _ owes
    exact acquire_custody firmware features slot owes
  refine .guard (fun _ => owes.leaves) fun _ => acquired.bind fun incomplete _ owes => ?_
  refine Ends.bind (.mapError (fun frames built => mapM_new_eq_ok.mp built)
    fun _ _ => trivial) fun frames _ addresses => .returns ?_
  rw [OwesFrames, ← addresses] at owes
  exact owes

theorem allocateTables_custody (planned : PlannedPageTables) :
    Custody [] (allocateTables firmware features planned) fun tables => heldFrames tables.owner := by
  intro rest machine owes
  have ended : Ends (fun tables : AllocatedPageTables (Machine φ × Nat) =>
      tables.owner.backend.1.Owes (heldFrames tables.owner ++ rest)) (LeavesFrames rest)
      (planned.allocate (pageTableFrames firmware features) (machine, 0)) :=
    (allocate_custody firmware features planned.plan owes).bind fun owner _ owes => .returns owes
  unfold allocateTables
  cases ran : planned.allocate (pageTableFrames firmware features) (machine, 0) with
  | ok tables =>
      refine ⟨?_, by simp⟩
      intro value after same
      cases same
      exact ended.of_ok ran
  | error interrupted =>
      have leaves := ended.of_error ran
      cases interrupted with
      | panicked => exact Custody.failWith _ rest machine owes
      | failed error =>
          have silent : (if features.pageTableAllocationFailure = true ∧
                error.owner.frames.length = 0 then
              error.owner.backend.1.say ["UNOS:P1J:ROLLBACK_COMPLETE"]
            else error.owner.backend.1).books = error.owner.backend.1.books := by
            split
            · exact books_say _
            · rfl
          refine ⟨by simp, ?_⟩
          intro reason after same
          cases same
          refine incomplete_drop firmware features ?_
          rw [LeavesFrames, Machine.Leaves, ← silent] at leaves
          exact leaves

/-! ## The tables -/

def ownedPage (frame : PhysicalFrame) : OwnedAllocation := framePage frame.address

theorem ownedFrames_give (others : List OwnedAllocation) :
    Gives (PageTableFrameOwner.freeOwned (pageTableFrames firmware features))
      fun held (state : Machine φ × Nat) => state.1.Leaves (held.map ownedPage ++ others) where
  perm leaves reordered := leaves.perm ((reordered.map ownedPage).append_right others)
  gone leaves := (freePages_gives firmware UefiPageTableError.firmware .range).gone leaves
  kept leaves := (freePages_gives firmware UefiPageTableError.firmware .range).kept leaves

theorem heldFrames_owned {β : Type} {owner : PageTableFrameOwner β pageTableFrameCapacity}
    (owned : owner.owned = true) : heldFrames owner = owner.frames.map ownedPage := by
  rw [heldFrames, if_pos owned, PageTableFrameOwner.addresses, List.map_map]
  rfl

theorem heldFrames_released {β : Type} {owner : PageTableFrameOwner β pageTableFrameCapacity}
    (released : ¬ owner.owned = true) : heldFrames owner = [] := if_neg released

theorem dropTables_drops (owner : PageTableFrameOwner Nat pageTableFrameCapacity) :
    Drops (dropTables firmware features owner) (heldFrames owner) := by
  intro rest machine leaves
  have gives := ownedFrames_give firmware features rest
  by_cases owned : owner.owned = true
  · rw [heldFrames_owned owned] at leaves
    have ran : dropTables firmware features owner machine =
        (dropAll (PageTableFrameOwner.freeOwned (pageTableFrames firmware features))
          (machine, owner.backend) owner.frames.reverse).1 := by
      simp [dropTables, PageTableFrameOwner.drop, PageTableFrameOwner.rebase, owned]
    rw [ran]
    exact @Gives.dropAll _ _ _ _ _ (machine, owner.backend) owner.frames.reverse [] gives
      (gives.perm leaves (by simp))
  · rw [heldFrames_released owned] at leaves
    have ran : dropTables firmware features owner machine = machine := by
      simp [dropTables, PageTableFrameOwner.drop, PageTableFrameOwner.rebase, owned]
    rw [ran]
    exact leaves

theorem releaseTables_leaves (owner : PageTableFrameOwner Nat pageTableFrameCapacity)
    (rest : List OwnedAllocation) :
    Program.Triple (fun machine : Machine φ => machine.Leaves (heldFrames owner ++ rest))
      (releaseTables firmware features owner : Program (Machine φ) ε _)
      (fun released machine => machine.Leaves (heldFrames released.2 ++ rest))
      fun _ _ => False := by
  refine .call ?_
  intro machine leaves
  have gives := ownedFrames_give firmware features rest
  by_cases owned : owner.owned = true
  · rw [heldFrames_owned owned] at leaves
    have released := @Gives.releaseAll _ _ _ _ _ (machine, owner.backend) owner.frames.reverse []
      gives (gives.perm leaves (by simp))
    rw [List.append_nil] at released
    cases ran : releaseAll (PageTableFrameOwner.freeOwned (pageTableFrames firmware features))
        (machine, owner.backend) owner.frames.reverse with
    | mk result left =>
        obtain ⟨after, remaining⟩ := left
        rw [ran] at released
        -- An owner without its flag has no frames left.
        have held : (heldFrames (⟨after.2, remaining.reverse, owner.root,
            !(result.isOk && remaining.isEmpty)⟩ :
              PageTableFrameOwner Nat pageTableFrameCapacity)).Perm (remaining.map ownedPage) := by
          by_cases cleared : result.isOk = true ∧ remaining = []
          · rw [heldFrames_released (by simp [cleared])]
            simp [cleared]
          · rw [not_and_or] at cleared
            rw [heldFrames_owned (by simpa using cleared)]
            exact (List.reverse_perm remaining).map ownedPage
        have ended : after.1.Leaves _ := released.perm (held.symm.append_right rest)
        simpa [releaseTables, PageTableFrameOwner.tryRelease, PageTableFrameOwner.rebase, owned,
          ran] using ended
  · rw [heldFrames_released owned] at leaves
    simpa [releaseTables, PageTableFrameOwner.tryRelease, PageTableFrameOwner.rebase, owned,
      heldFrames] using leaves

/-- Writing an entry changes nothing in the accounts. -/
theorem writeEntry_books (machine : Machine φ) (frame : PhysicalFrame) (index : TableIndex)
    (value : Nat) :
    (uefiPageTableMemory.writeEntry machine frame index value).2.books = machine.books := by
  simp only [uefiPageTableMemory]
  split
  · rfl
  · split
    · rfl
    · rfl

theorem writeTable_books {machine : Machine φ} {books : Except Fault (Account OwnedAllocation)}
    (plan : RuntimePageTablePlan) (assignments : FrameAssignments pageTableFrameCapacity)
    (table : PlannedTable) (same : machine.books = books) :
    Ends (fun after => after.books = books) (fun failure => failure.2.books = books)
      (writeTable uefiPageTableMemory plan assignments machine table) := by
  unfold writeTable
  split
  · exact .stops same
  · rename_i frame _
    refine .foldlM (fun _ (after : Machine φ) => after.books = books) same ?_
    intro _ index _ current _ same
    unfold writeTableEntry
    split
    · exact .stops same
    · rename_i value _
      have silent := (writeEntry_books current frame index value).trans same
      split
      · rename_i written
        rw [written] at silent
        exact .stops silent
      · rename_i written
        rw [written] at silent
        exact .returns silent

theorem materializeTables_custody (tables : AllocatedPageTables Nat) :
    Custody (heldFrames tables.owner) (materializeTables firmware features tables)
      fun materialized => heldFrames materialized.owner := by
  intro rest machine owes
  have written : Ends (fun after => after.books = machine.books)
      (fun failure => failure.2.books = machine.books)
      (tables.plan.tables.foldlM
        (writeTable uefiPageTableMemory tables.plan tables.owner.assignments) machine) := by
    refine .foldlM (fun _ (after : Machine φ) => after.books = machine.books) rfl ?_
    intro _ table _ current _ same
    exact writeTable_books _ _ table same
  unfold materializeTables AllocatedPageTables.materialize
  cases ran : tables.plan.tables.foldlM
      (writeTable uefiPageTableMemory tables.plan tables.owner.assignments) machine with
  | ok after =>
      refine ⟨?_, by simp⟩
      intro value final same
      cases same
      rw [Machine.Owes, written.of_ok ran]
      exact owes
  | error failure =>
      obtain ⟨reason, after⟩ := failure
      refine ⟨by simp, ?_⟩
      intro stop final same
      cases same
      refine dropTables_drops firmware features tables.owner rest after ?_
      have silent : after.books = machine.books := written.of_error ran
      rw [Machine.Leaves, silent]
      exact owes.leaves

theorem verifyTables_custody (tables : MaterializedPageTables Nat) :
    Custody (heldFrames tables.owner) (verifyTables firmware features tables)
      fun verified => heldFrames verified.owner := by
  intro rest machine owes
  unfold verifyTables MaterializedPageTables.verify
  cases verifyMaterialized uefiPageTableMemory tables.plan tables.owner machine with
  | ok done =>
      refine ⟨?_, by simp⟩
      intro value final same
      cases same
      exact owes
  | error failure =>
      cases failure with
      | stuck => exact Custody.failWith _ rest machine owes
      | refused error =>
          refine ⟨by simp, ?_⟩
          intro stop final same
          cases same
          exact dropTables_drops firmware features tables.owner rest machine owes.leaves

theorem constructInactive_custody (loaded : LoadedKernel Unit) (stack : BootstrapStack Unit) :
    Custody [] (constructInactive firmware features loaded stack)
      fun verified => heldFrames verified.owner :=
  (Custody.quiet (.orReturn _ _)).bind fun _ planned _ _ =>
    (Custody.writeLine _).bind fun _ _ _ _ =>
    (allocateTables_custody firmware features planned).bind fun _ allocated _ _ =>
    (Custody.writeLine _).bind fun _ _ _ _ =>
    (materializeTables_custody firmware features allocated).bind fun _ materialized _ _ =>
    (Custody.writeLine _).bind fun _ _ _ _ =>
    (verifyTables_custody firmware features materialized).bind fun _ _ _ _ =>
    (Custody.writeLine _).bind fun _ _ _ _ => .pure rfl

/-! ## The processor -/

theorem LoadedKernel.releaseOn_leaves (kernel : LoadedKernel Unit) (rest : List OwnedAllocation) :
    Program.Triple (fun machine : Machine φ => machine.Leaves (kernel.held ++ rest))
      (kernel.releaseOn firmware : Program (Machine φ) ε _)
      (fun released machine => machine.Leaves (released.2.held ++ rest)) fun _ _ => False := by
  refine .call ?_
  intro machine leaves
  have released := (targetPages_gives firmware).releaseSlots 0 leaves
  simp only [TargetOwnership.tryRelease_snd]
  exact released

theorem refuseCpu_abandons {α : Type} (loaded : LoadedKernel Unit) (stack : BootstrapStack Unit)
    (tables : VerifiedInactivePageTables Nat) :
    Abandons (heldFrames tables.owner ++ stack.held ++ loaded.held)
      (refuseCpu firmware features loaded stack tables : Program (Machine φ) BootStop α) := by
  have all (owner : PageTableFrameOwner Nat pageTableFrameCapacity) (stack : BootstrapStack Unit)
      (loaded : LoadedKernel Unit) :
      Drops (fun machine : Machine φ => loaded.dropOn firmware (stack.dropOn firmware
        (dropTables firmware features owner machine)))
        (heldFrames owner ++ stack.held ++ loaded.held) :=
    ((dropTables_drops firmware features owner).comp (stack.drops firmware)).comp
      (loaded.drops firmware)
  unfold refuseCpu
  split
  · intro rest
    simp only [List.append_assoc]
    refine (releaseTables_leaves firmware features tables.owner _).unstopped.bind fun released => ?_
    refine ((stack.releaseOn_leaves firmware _).unstopped.start fun machine leaves =>
      leaves.perm (List.perm_append_comm_assoc _ _ _)).bind fun unstacked => ?_
    refine ((loaded.releaseOn_leaves firmware (unstacked.2.held ++
      (heldFrames released.2 ++ rest))).unstopped.start fun machine leaves =>
      leaves.perm (((List.perm_append_comm_assoc _ _ _).append_left _).trans
        (List.perm_append_comm_assoc _ _ _))).bind fun unloaded => ?_
    have dropped : Program.Triple
        (fun machine : Machine φ => machine.Leaves (unloaded.2.held ++
          (unstacked.2.held ++ (heldFrames released.2 ++ rest))))
        (do
          .change fun machine => unloaded.2.dropOn firmware (unstacked.2.dropOn firmware
            (dropTables firmware features released.2 machine))
          .stop (.returned .cpuPolicy) : Program (Machine φ) BootStop α)
        (fun _ _ => False) (Settles rest) := by
      intro machine leaves
      refine ⟨by simp [bind], ?_⟩
      intro reason after same
      cases same
      refine all released.2 unstacked.2 unloaded.2 rest machine (leaves.perm ?_)
      simp only [List.append_assoc]
      exact ((List.perm_append_comm_assoc _ _ _).append_left _).trans
        ((List.perm_append_comm_assoc _ _ _).trans
          ((List.perm_append_comm_assoc _ _ _).append_left _))
    split
    · refine Program.Triple.bind (.change ?_) fun _ => dropped
      intro machine leaves
      have silent : (machine.say ["UNOS:P1J:CPU_ROLLBACK_COMPLETE"]).books = machine.books :=
        books_say _
      rw [Machine.Leaves, ← silent] at leaves
      exact leaves
    · exact dropped
  · exact (all tables.owner stack loaded).abandons _

end

end UnnamedOS.Loader
