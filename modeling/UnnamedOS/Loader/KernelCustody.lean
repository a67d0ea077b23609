import UnnamedOS.Loader.Books
import UnnamedOS.Loader.SegmentLoading

namespace UnnamedOS.Loader

open UnnamedOS.Data

/-! # The pages of the file and of the segments

Until the source is released there are two owners, and every error on the way
has to see to both of them. -/

/-! ## Reading -/

section

variable {φ ε : Type} (firmware : Firmware φ)

theorem quiet_readPages (scratch : ScratchPages) :
    Quiet (readPages firmware scratch : Program (Machine φ) ε _) := by
  intro machine
  have keeps : ∀ (state : Machine φ) slice, state.books = machine.books →
      ((uefiReader firmware).read state slice).2.2.books = machine.books := by
    intro state slice same
    have plain : (Request.readFile slice.length).Plain := trivial
    exact (books_plain plain).trans same
  exact readExactAndCheckEof_keeps keeps scratch.byteLen (scratch.bytes machine).data rfl

theorem quiet_checkRead (outcome : Except (ReadStop Status) Unit) :
    Quiet (checkRead outcome : Program (Machine φ) _ Unit) := by
  unfold checkRead
  split
  · exact .pure _
  · exact .stop _
  · exact .stop _
  · exact .stop _
  · exact .failWith _
  · exact .failWith _

theorem quiet_readAndValidate (scratch : ScratchPages) :
    Quiet (readAndValidate firmware scratch) := by
  refine .bind (quiet_readPages firmware scratch) fun outcome =>
    .bind (quiet_checkRead outcome) fun _ => .bind (.writeLine _) fun _ =>
      .bind (.look _) fun bytes => ?_
  split
  · exact .failWith _
  · exact .stop _
  · exact .bind (.writeLine _) fun _ => .pure _

theorem quiet_openKernel : Quiet (openKernel firmware) := by
  refine .bind (.ask trivial) fun _ => .bind (.orReturn _ _) fun _ =>
    .bind (.ask trivial) fun _ => .bind (.orReturn _ _) fun _ =>
    .bind (.ask trivial) fun _ => .bind (.orReturn _ _) fun _ =>
    .bind (.ask trivial) fun _ => .bind (.orReturn _ _) fun _ => ?_
  split
  · exact .stop _
  · exact .writeLine _

theorem quiet_attemptRequest {α : Type} (request : Request) (plain : request.Plain)
    (result : request.Reply → Except ε α) : Quiet (attemptRequest firmware request result) := by
  refine .bind (.ask plain) fun reply => ?_
  split
  · exact .stop _
  · exact .pure _

theorem quiet_measureAndRewind : Quiet (measureAndRewind (uefiFile firmware)) := by
  refine .bind (.mapStop (quiet_attemptRequest firmware (.setPosition _) trivial _)) fun _ =>
    .bind (.mapStop (quiet_attemptRequest firmware .getPosition trivial _)) fun _ =>
    .bind (.mapStop (quiet_attemptRequest firmware (.setPosition _) trivial _)) fun _ => ?_
  split
  · exact .stop _
  · exact .pure _

/-! ## The file's pages -/

namespace ScratchPages

def held (scratch : ScratchPages) : List OwnedAllocation :=
  if scratch.lease.owned = true then [⟨scratch.pointer.val, scratch.pageCount⟩] else []

theorem allocate_custody (byteLen : Nat) :
    Custody [] (allocate firmware byteLen) ScratchPages.held := by
  unfold allocate
  split
  · exact .stop _
  · rename_i pageCount counted
    refine (Custody.allocatePages firmware .anyPages pageCount).bind ?_
    intro _ reply _ _
    refine .orReturn_bind ?_ ?_
    · intro refused
      cases reply with
      | error status => rfl
      | ok pointer => cases refused
    · intro acquired taken
      cases reply with
      | error status => cases taken
      | ok pointer =>
          cases taken
          exact (Custody.writeMemory _).bind fun _ _ _ _ => .pure rfl

theorem release_accepted (scratch : ScratchPages) (rest : List OwnedAllocation) :
    Program.Triple (fun machine : Machine φ => machine.Owes (scratch.held ++ rest))
      (scratch.release firmware : Program (Machine φ) ε _)
      (fun released machine => (released.isOk = true → machine.Owes rest) ∧ machine.Leaves rest)
      fun _ _ => False := by
  unfold release held PageLeaseState.beginRelease
  cases scratch.lease.owned with
  | false =>
      refine .pure ?_
      intro machine owes
      exact ⟨fun _ => owes, owes.leaves⟩
  | true =>
      refine .call ?_
      intro machine owes
      have gives := freePages_gives firmware KernelLoadError.free .free
      exact ⟨freePages_accepted firmware _ _ owes, gives.gone owes.leaves⟩

theorem release_leaves (scratch : ScratchPages) (rest : List OwnedAllocation) :
    Program.Triple (fun machine : Machine φ => machine.Leaves (scratch.held ++ rest))
      (scratch.release firmware : Program (Machine φ) ε _)
      (fun _ machine => machine.Leaves rest) fun _ _ => False := by
  unfold release held PageLeaseState.beginRelease
  cases scratch.lease.owned with
  | false => exact .pure fun machine leaves => leaves
  | true =>
      refine .call ?_
      intro machine leaves
      exact (freePages_gives firmware KernelLoadError.free .free).gone leaves

theorem drops (scratch : ScratchPages) : Drops (scratch.drop firmware) scratch.held := by
  intro rest machine leaves
  unfold held at leaves
  unfold drop PageLeaseState.beginRelease
  cases owned : scratch.lease.owned with
  | false =>
      rw [owned] at leaves
      exact leaves
  | true =>
      rw [owned] at leaves
      exact (freePages_gives firmware KernelLoadError.free .free).gone leaves

end ScratchPages

theorem loadAndValidate_custody :
    Custody [] (loadAndValidate firmware) fun kernel => kernel.scratch.held := by
  refine (Custody.quiet (quiet_openKernel firmware)).bind fun _ _ _ _ =>
    (Custody.quiet (.mapStop (quiet_measureAndRewind firmware))).bind fun _ byteLen _ _ =>
    (ScratchPages.allocate_custody firmware byteLen).bind fun _ pages _ _ => ?_
  intro rest
  have read : Program.Triple (fun machine : Machine φ => machine.Owes (pages.held ++ rest))
      ((readAndValidate firmware pages).attempt : Program (Machine φ) (Stop KernelLoadError) _)
      (fun _ machine => machine.Owes (pages.held ++ rest)) (Settles rest) := by
    refine .call ?_
    intro machine owes
    rw [Machine.Owes, quiet_readAndValidate firmware pages machine]
    exact owes
  refine read.bind fun outcome => ?_
  cases outcome with
  | ok metadata => exact .pure fun machine owes => owes
  | error reason =>
      cases reason with
      | failed => exact .stop fun machine owes => owes.leaves.faultless
      | returned error =>
          refine ((ScratchPages.release_leaves firmware pages rest).unstopped.start
            fun _ => Owes.leaves).bind fun released => ?_
          cases released with
          | error reason => exact .stop fun machine leaves => leaves
          | ok done => exact .stop fun machine leaves => leaves

/-! ## The segments' pages -/

theorem targetPages_gives :
    Gives (uefiTargetPages firmware).freeAllocation
      fun held (machine : Machine φ) => machine.Leaves held :=
  freePages_gives firmware BackendError.free .range

def LoadedKernel.held (kernel : LoadedKernel Unit) : List OwnedAllocation :=
  heldResources kernel.owner.slots

theorem LoadedKernel.drops (kernel : LoadedKernel Unit) :
    Drops (kernel.dropOn firmware) kernel.held :=
  .slots (targetPages_gives firmware) _

theorem dropTargets_drops (owner : TargetOwnership Unit) :
    Drops (dropTargets firmware owner) (heldResources owner.slots) :=
  .slots (targetPages_gives firmware) _

theorem heldResources_append {α : Type} (first second : List (α × Bool)) :
    heldResources (first ++ second) = heldResources first ++ heldResources second := by
  simp only [heldResources_eq, List.filter_append, List.map_append]

/-- A page range at its address, or nothing but what was lost on the way. -/
theorem allocateAt_cases {machine : Machine φ} {held : List OwnedAllocation} (start pages : Nat)
    (owes : machine.Owes held) :
    (∃ error after, (uefiTargetPages firmware).allocateAt machine start pages =
      (.error error, after) ∧ after.Leaves held) ∨
    ∃ after, (uefiTargetPages firmware).allocateAt machine start pages = (.ok (), after) ∧
      after.Owes (⟨start, pages⟩ :: held) := by
  rcases allocatePages_cases firmware (.address start) pages owes with
    ⟨status, after, asked, owes⟩ | ⟨pointer, after, asked, owes, _⟩
  · exact .inl ⟨.firmware, after, by simp only [uefiTargetPages, asked], owes.leaves⟩
  · by_cases elsewhere : pointer.val ≠ start
    · have gone := (freePages_gives firmware BackendError.free .range).gone owes.leaves
      left
      cases freed : freePages firmware BackendError.free .range after pointer.val pages with
      | mk result final =>
          rw [freed] at gone
          cases result with
          | error reason =>
              exact ⟨reason, final, by simp only [uefiTargetPages, asked, if_pos elsewhere, freed],
                gone⟩
          | ok done =>
              exact ⟨.addressMismatch, final,
                by simp only [uefiTargetPages, asked, if_pos elsewhere, freed], gone⟩
    · obtain rfl := not_not.mp elsewhere
      exact .inr ⟨after, by simp only [uefiTargetPages, asked, if_neg elsewhere], owes⟩

theorem allocateTargets_custody {done : List (OwnedAllocation × Bool)}
    {items rest : List OwnedAllocation} {machine : Machine φ}
    (owes : machine.Owes (heldResources done ++ rest)) :
    Ends (fun owner => owner.backend.Owes (heldResources owner.slots ++ rest))
      (fun failure => failure.owner.backend.Leaves (heldResources failure.owner.slots ++ rest))
      (allocateTargets (uefiTargetPages firmware) machine done items) := by
  induction items generalizing done machine with
  | nil => exact .returns owes
  | cons item items ih =>
      rcases allocateAt_cases firmware item.pageStart item.pageCount owes with
        ⟨error, after, ran, leaves⟩ | ⟨after, ran, owes⟩
      · have none : heldResources ((item :: items).map (·, false)) = [] :=
          heldResources_flagged [] (item :: items)
        simp only [allocateTargets, ran]
        refine .stops ?_
        rw [heldResources_append, none, List.append_nil]
        exact leaves
      · simp only [allocateTargets, ran]
        refine ih (owes.perm ?_)
        rw [heldResources_append, List.append_assoc]
        exact List.perm_middle.symm

/-- Work on the pages changes nothing in the accounts. -/
theorem workTargets_custody {kind : LoadWorkKind}
    {work : Machine φ → LoadItem → Except BackendError Unit × Machine φ}
    (silent : ∀ machine item, (work machine item).2.books = machine.books)
    {rest : List OwnedAllocation} {items : List LoadItem} {owner : TargetOwnership (Machine φ)}
    (owes : owner.backend.Owes (heldResources owner.slots ++ rest)) :
    Ends (fun owner => owner.backend.Owes (heldResources owner.slots ++ rest))
      (fun failure => failure.owner.backend.Leaves (heldResources failure.owner.slots ++ rest))
      (workTargets kind work owner items) := by
  induction items generalizing owner with
  | nil => exact .returns owes
  | cons item items ih =>
      have same := silent owner.backend item
      cases ran : work owner.backend item with
      | mk result after =>
          rw [ran] at same
          rw [Machine.Owes, ← same] at owes
          cases result with
          | error error =>
              simp only [workTargets, ran]
              exact .stops owes.leaves
          | ok done =>
              simp only [workTargets, ran]
              exact ih owes

theorem onMachine_custody
    {loop : Machine φ → Except (LoadWorkFailure (Machine φ) BackendError)
      (TargetOwnership (Machine φ))}
    {before : Machine φ → Prop} {rest : List OwnedAllocation}
    (spec : ∀ machine, before machine →
      Ends (fun owner => owner.backend.Owes (heldResources owner.slots ++ rest))
        (fun failure => failure.owner.backend.Leaves (heldResources failure.owner.slots ++ rest))
        (loop machine)) :
    Program.Triple before (onMachine loop)
      (fun owner machine => machine.Owes (heldResources owner.slots ++ rest))
      fun failure machine => machine.Leaves (heldResources failure.owner.slots ++ rest) := by
  intro machine start
  have ended := spec machine start
  unfold onMachine
  cases ran : loop machine with
  | error failure =>
      refine ⟨by simp, ?_⟩
      intro reason final same
      cases same
      exact ended.of_error ran
  | ok owner =>
      refine ⟨?_, by simp⟩
      intro value final same
      cases same
      exact ended.of_ok ran

theorem loadTargets_custody (kernel : ValidatedKernel) (plan : LoadPlan)
    (rest : List OwnedAllocation) :
    Program.Triple (fun machine : Machine φ => machine.Owes rest) (loadTargets firmware kernel plan)
      (fun owner machine => machine.Owes (heldResources owner.slots ++ rest))
      fun failure machine => machine.Leaves (heldResources failure.owner.slots ++ rest) := by
  have line (text : String) (slots : List (OwnedAllocation × Bool)) :
      Program.Triple (fun machine : Machine φ => machine.Owes (heldResources slots ++ rest))
        (writeLine text : Program (Machine φ) (LoadWorkFailure Unit BackendError) Unit)
        (fun _ machine => machine.Owes (heldResources slots ++ rest))
        fun failure machine => machine.Leaves (heldResources failure.owner.slots ++ rest) := by
    refine .change ?_
    intro machine owes
    have same : (machine.say [text]).books = machine.books := books_say [text]
    rw [Machine.Owes, ← same] at owes
    exact owes
  have worked (kind : LoadWorkKind)
      (work : Machine φ → LoadItem → Except BackendError Unit × Machine φ)
      (silent : ∀ machine item, (work machine item).2.books = machine.books)
      (slots : List (OwnedAllocation × Bool)) :
      Program.Triple (fun machine => machine.Owes (heldResources slots ++ rest))
        (onMachine fun machine => workTargets kind work ⟨machine, slots⟩ plan.items)
        (fun owner machine => machine.Owes (heldResources owner.slots ++ rest))
        fun failure machine => machine.Leaves (heldResources failure.owner.slots ++ rest) := by
    refine onMachine_custody ?_
    intro machine owes
    exact workTargets_custody silent owes
  refine (onMachine_custody ?_).bind fun owner => (line _ _).bind fun _ =>
    (worked .zero _ ?_ owner.slots).bind fun owner => (line _ _).bind fun _ =>
    (worked .copy _ ?_ owner.slots).bind fun owner => (line _ _).bind fun _ =>
    worked .verify _ ?_ owner.slots
  · intro machine owes
    exact allocateTargets_custody firmware owes
  · intro machine item
    rfl
  · intro machine item
    simp only [uefiTargetBackend]
    split
    · rfl
    · rfl
  · intro machine item
    rfl

theorem releaseTargets_leaves (owner : TargetOwnership Unit) (rest : List OwnedAllocation) :
    Program.Triple (fun machine : Machine φ => machine.Leaves (heldResources owner.slots ++ rest))
      (releaseTargets firmware owner : Program (Machine φ) ε _)
      (fun released machine => machine.Leaves (heldResources released.2.slots ++ rest))
      fun _ _ => False := by
  refine .call ?_
  intro machine leaves
  have released := (targetPages_gives firmware).releaseSlots 0 leaves
  simp only [TargetOwnership.tryRelease_snd]
  exact released

/-! ## The errors that release -/

theorem releaseSourceAfterError_abandons {α : Type} (kernel : ValidatedKernel)
    (primary : SegmentLoadError) :
    Abandons kernel.scratch.held
      (releaseSourceAfterError firmware kernel primary : Program (Machine φ) _ α) := by
  intro rest
  refine (ScratchPages.release_leaves firmware kernel.scratch rest).unstopped.bind fun released => ?_
  exact .stop fun machine leaves => leaves

/-- The targets are given up: what a release has left is dropped. -/
theorem dropTargets_change (owner : TargetOwnership Unit) (rest : List OwnedAllocation) :
    Program.Triple (fun machine : Machine φ => machine.Leaves (heldResources owner.slots ++ rest))
      (.change (dropTargets firmware owner) : Program (Machine φ) ε Unit)
      (fun _ machine => machine.Leaves rest) fun _ _ => False :=
  .change fun machine leaves => dropTargets_drops firmware owner rest machine leaves

theorem releaseBothAfterError_abandons {α : Type} (kernel : ValidatedKernel)
    (owner : TargetOwnership Unit) (primary : SegmentLoadError) :
    Abandons (heldResources owner.slots ++ kernel.scratch.held)
      (releaseBothAfterError firmware kernel owner primary : Program (Machine φ) _ α) := by
  intro rest
  have released := @releaseTargets_leaves φ (Stop SegmentLoadError) firmware owner
    (kernel.scratch.held ++ rest)
  rw [← List.append_assoc] at released
  refine released.unstopped.bind fun targets => ?_
  refine ((ScratchPages.release_leaves firmware kernel.scratch
    (heldResources targets.2.slots ++ rest)).unstopped.start ?_).bind fun source => ?_
  · intro machine leaves
    exact leaves.perm (List.perm_append_comm_assoc _ _ _)
  · exact (dropTargets_change firmware targets.2 rest).unstopped.bind fun _ =>
      .stop fun machine leaves => leaves

/-! ## Until the source is gone -/

theorem planSegments_custody (kernel : ValidatedKernel) :
    Custody kernel.scratch.held (planSegments firmware kernel) fun _ => kernel.scratch.held := by
  refine (Custody.look _).bind fun _ bytes _ _ => ?_
  split
  · exact .failWith _
  · exact (releaseSourceAfterError_abandons firmware kernel _).custody
  · split
    · exact (releaseSourceAfterError_abandons firmware kernel _).custody
    · exact (releaseSourceAfterError_abandons firmware kernel _).custody
    · exact (Custody.writeLine _).bind fun _ _ _ _ => .pure rfl

theorem sourceUnchanged_custody (kernel : ValidatedKernel) (plan : LoadPlan) (before : Nat)
    (spent : List OwnedAllocation) :
    Custody spent (sourceUnchanged kernel plan before : Program (Machine φ) _ Bool)
      fun _ => spent := by
  refine (Custody.look _).bind fun _ bytes _ _ => ?_
  split
  · exact .pure rfl
  · split
    · exact .failWith _
    · exact .pure rfl
    · exact .pure rfl

theorem loadSegments_custody (kernel : ValidatedKernel) (plan : LoadPlan) :
    Custody kernel.scratch.held (loadSegments firmware kernel plan)
      fun loaded => loaded.held ++ kernel.scratch.held := by
  refine (Custody.look _).bind fun _ before _ _ => ?_
  intro rest
  refine (loadTargets_custody firmware kernel plan (kernel.scratch.held ++ rest)).attempt_bind ?_ ?_
  · intro owner
    rw [← List.append_assoc]
    refine (sourceUnchanged_custody kernel plan before
      (heldResources owner.slots ++ kernel.scratch.held)).bind ?_ rest
    intro _ unchanged _ _
    split
    · exact (Custody.writeLine _).bind fun _ _ _ _ => .pure rfl
    · exact (releaseBothAfterError_abandons firmware kernel owner _).custody
  · intro failure
    rw [← List.append_assoc]
    exact (releaseBothAfterError_abandons firmware kernel failure.owner _ rest).imp
      (fun _ => id) (fun _ _ => False.elim) fun _ _ => id

theorem quiet_checkLoaded (loaded : LoadedKernel Unit) (plan : LoadPlan) :
    Quiet (checkLoaded loaded plan : Program (Machine φ) _ Unit) := by
  unfold checkLoaded
  split
  · exact .stop _
  · refine .bind (.writeLine _) fun _ => ?_
    split
    · exact .stop _
    · exact .writeLine _

theorem releaseSource_custody (kernel : ValidatedKernel) (loaded : LoadedKernel Unit) :
    Custody (loaded.held ++ kernel.scratch.held) (releaseSource firmware kernel loaded)
      fun _ => loaded.held := by
  intro rest
  refine ((ScratchPages.release_accepted firmware kernel.scratch
    (loaded.held ++ rest)).unstopped.start ?_).bind fun released => ?_
  · intro machine owes
    refine owes.perm ?_
    rw [List.append_assoc]
    exact List.perm_append_comm_assoc _ _ _
  · split
    · rename_i accepted
      exact (Custody.writeLine _ rest).start fun machine ended => ended.1 accepted
    · refine ((releaseTargets_leaves firmware loaded.owner rest).unstopped.start
        fun machine ended => ended.2).bind fun targets => ?_
      exact (dropTargets_change firmware targets.2 rest).unstopped.bind fun _ =>
        .stop fun machine leaves => leaves

/-! ## The probe -/

theorem ownershipProbe_custody (pageStart : Nat) (rest : List OwnedAllocation) :
    Program.Triple (fun machine : Machine φ => machine.Owes rest)
      (ownershipProbe firmware pageStart : Program (Machine φ) (Stop SegmentLoadError) Bool)
      (fun owned machine => (owned = true → machine.Owes rest) ∧ machine.Leaves rest)
      (Settles rest) := by
  refine (Custody.allocatePages firmware (.address pageStart) 1 rest).bind fun reply => ?_
  cases reply with
  | error status => exact .pure fun machine owes => ⟨fun _ => owes, owes.leaves⟩
  | ok allocated =>
      have freed : Program.Triple
          (fun machine : Machine φ => machine.Owes (⟨allocated.val, 1⟩ :: rest))
          (.call fun machine => freePages firmware BackendError.free .range machine allocated.val 1)
          (fun _ machine => machine.Leaves rest) (@Settles φ SegmentLoadError rest) :=
        .call fun machine owes =>
          (freePages_gives firmware BackendError.free .range).gone owes.leaves
      exact freed.bind fun _ => .pure fun machine leaves => ⟨Bool.noConfusion, leaves⟩

theorem proveOwnership_custody (loaded : LoadedKernel Unit) :
    Custody [] (proveOwnership firmware loaded) fun _ => [] := by
  unfold proveOwnership
  split
  · exact .stop _
  · intro rest
    refine (ownershipProbe_custody firmware loaded.loadRange.start rest).bind fun owned => ?_
    split
    · exact .stop fun machine ended => ended.2
    · rename_i owned
      exact (Custody.writeLine _ rest).start fun machine ended => ended.1 (by simpa using owned)

end

end UnnamedOS.Loader
