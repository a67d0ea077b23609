import UnnamedOS.Loader.BootDataCustody
import UnnamedOS.Loader.Main

namespace UnnamedOS.Loader

open UnnamedOS.Data UnnamedOS.BootProtocol UnnamedOS.MemoryMap UnnamedOS.PageTable

/-! # The pages of the whole loader

Every stage takes over the pages of the stages before it.  A run that returns
an error has given all of them back, as far as the firmware took them; a run
that reaches the kernel has exactly the pages of the four owners that crossed. -/

section

variable {φ : Type} (firmware : Firmware φ) (features : TestFeatures)

/-! ## Stages that make no deals -/

theorem quiet_checkCr3 (readiness : ActivationReadiness) :
    Quiet (checkCr3 readiness : Program (Machine φ) BootStop Unit) :=
  .bind (.look _) fun _ => .orReturn _ _

theorem quiet_classifyReadiness (validated : ValidatedCpuSnapshot) (loaded : LoadedKernel Unit)
    (stack : BootstrapStack Unit) (tables : VerifiedInactivePageTables Nat) :
    Quiet (classifyReadiness validated loaded stack tables : Program (Machine φ) BootStop _) :=
  .bind (.writeLine _) fun _ => .bind (.orReturn _ _) fun _ => .bind (.orReturn _ _) fun _ =>
    .bind (.writeLine _) fun _ => .bind (quiet_checkCr3 _) fun _ => .bind (.writeLine _) fun _ =>
    .pure _

theorem quiet_activateTables (validated : ValidatedCpuSnapshot) (loaded : LoadedKernel Unit)
    (stack : BootstrapStack Unit) (tables : VerifiedInactivePageTables Nat) :
    Quiet (activateTables validated loaded stack tables : Program (Machine φ) BootStop _) :=
  .bind (quiet_classifyReadiness _ _ _ _) fun _ => .orReturn _ _

theorem quiet_confirmTables (activation : ActivationPreparedPageTables Nat)
    (proof : Option PageTableReservationProof) :
    Quiet (confirmTables activation proof : Program (Machine φ) BootStop _) :=
  .bind (.orReturn _ _) fun _ => .bind (.orReturn _ _) fun _ => .bind (quiet_checkCr3 _) fun _ =>
    .pure _

theorem quiet_attemptExit (policy : ExitRetryPolicy) (finalMap : CapturedMapMeta) :
    Quiet (attemptExit firmware policy finalMap) := by
  unfold attemptExit
  split
  · exact .failWith _
  · have plain : (Request.exitBootServices finalMap.mapKey).Plain := trivial
    exact .bind (.ask plain) fun _ => .pure _

theorem quiet_exitWithRetry (rawStart rawLength : Nat) (finalMap : CapturedMapMeta) :
    Quiet (exitWithRetry firmware rawStart rawLength finalMap) := by
  have again (policy : ExitRetryPolicy) : Quiet (retryExit firmware rawStart rawLength policy) := by
    refine .bind (.attempt (quiet_captureFrom firmware _ _ _)) fun captured => ?_
    split
    · exact .failWith _
    · exact .bind (quiet_attemptExit firmware _ _) fun _ => .pure _
  have last (first : Status × ExitRetryPolicy) :
      Quiet (lastExit firmware rawStart rawLength first finalMap) := by
    unfold lastExit
    split
    · exact again _
    · exact .pure _
  refine .bind (quiet_attemptExit firmware _ _) fun first => .bind (last first) fun ended => ?_
  split
  · exact .failWith _
  · exact .bind (.writeLine _) fun _ => .pure _

theorem quiet_finalizePostExit {transferred : TransferredHandoff}
    {stack : TransferredBootstrapStack} {tables : TransferredActivationPreparedPageTables}
    (delivered : Delivered transferred stack tables) (finalMap : CapturedMapMeta)
    (rawStart rawLength : Nat) :
    Quiet (finalizePostExit transferred finalMap rawStart rawLength :
      Program (Machine φ) BootStop _) := by
  intro machine
  rcases finalizePostExit_cases delivered finalMap rawStart rawLength machine with
    ⟨_, _, _, stopped⟩ | ⟨_, _, _, _, _, _, _, _, passed⟩
  · rw [stopped, books_say, books_withMemory]
  · rw [passed, books_say, books_withMemory]

theorem quiet_leaveBootServices (ready : PageTableHandoffReady Unit Unit Unit Nat) :
    Quiet (leaveBootServices firmware idleFrames ready) := by
  have plain : Request.setWatchdogTimer.Plain := trivial
  refine .bind (.ask plain) fun timer => ?_
  split
  · exact .stop _
  · dsimp only
    split
    · exact .stop _
    · refine .bind (.look _) fun present => ?_
      split
      · exact .stop _
      · refine .bind (.attempt (quiet_captureFrom firmware _ _ _)) fun captured => ?_
        split
        · exact .stop _
        · exact .bind (.writeLine _) fun _ => .bind (quiet_exitWithRetry firmware _ _ _) fun _ =>
            .bind (quiet_finalizePostExit (delivered_cross idleFrames ready) _ _ _) fun _ =>
            .pure _

/-! ## The owners that cross -/

theorem activateTables_eq_ok {validated : ValidatedCpuSnapshot} {loaded : LoadedKernel Unit}
    {stack : BootstrapStack Unit} {tables : VerifiedInactivePageTables Nat}
    {activation : ActivationPreparedPageTables Nat} {machine after : Machine φ}
    (ran : activateTables validated loaded stack tables machine = (.ok activation, after)) :
    activation.hierarchy = tables := by
  rw [activateTables] at ran
  obtain ⟨readiness, _, _, ran⟩ := Program.bind_eq_ok.mp ran
  obtain ⟨prepares, _⟩ := orReturn_eq_ok.mp ran
  rw [toOption_eq_some, VerifiedInactivePageTables.prepareActivation_eq_ok] at prepares
  obtain ⟨_, _, rfl⟩ := prepares
  rfl

theorem confirmTables_eq_ok {activation : ActivationPreparedPageTables Nat}
    {proof : Option PageTableReservationProof}
    {reserved : ActivationFinalMapReservedPageTables Nat} {machine after : Machine φ}
    (ran : confirmTables activation proof machine = (.ok reserved, after)) :
    reserved.hierarchy.owner = activation.hierarchy.owner := by
  obtain ⟨found, _, _, ran⟩ := Program.bind_eq_ok.mp ran
  obtain ⟨confirmed, _, confirms, ran⟩ := Program.bind_eq_ok.mp ran
  obtain ⟨accepted, _⟩ := orReturn_eq_ok.mp confirms
  obtain ⟨_, _, _, ran⟩ := Program.bind_eq_ok.mp ran
  cases ran
  rw [toOption_eq_some, ActivationPreparedPageTables.confirmFinalMapReservation_eq_ok] at accepted
  obtain ⟨_, _, _, rfl⟩ := accepted
  rfl

theorem prepareResources_custody (validated : ValidatedCpuSnapshot) (loaded : LoadedKernel Unit)
    (stack : BootstrapStack Unit) (tables : VerifiedInactivePageTables Nat) :
    Custody (heldFrames tables.owner)
      (prepareResources firmware features validated loaded stack tables)
      fun resources => resources.1.held ++ heldFrames resources.2.hierarchy.owner := by
  have drops := dropTables_drops firmware features tables.owner
  unfold prepareResources BootStop
  refine (Custody.unwinding_quiet drops (quiet_activateTables _ _ _ _)).bind ?_
  intro _ activation _ activates
  refine (Custody.unwinding_new drops (prepare_custody firmware true loaded _ _)).bind ?_
  intro _ prepared _ _
  refine ((Custody.unwinding_quiet (drops.comp (prepared.1.drops firmware))
    (quiet_confirmTables _ _)).perm List.perm_append_comm
      fun _ _ _ _ => List.perm_append_comm).bind ?_
  intro _ reserved _ confirms
  refine .pure ?_
  rw [confirmTables_eq_ok (unwinding_eq_ok.mp confirms),
    activateTables_eq_ok (unwinding_eq_ok.mp activates)]

variable {firmware features} in
theorem prepareResources_framebuffer {validated : ValidatedCpuSnapshot}
    {loaded : LoadedKernel Unit} {stack : BootstrapStack Unit}
    {tables : VerifiedInactivePageTables Nat} {machine after : Machine φ}
    {resources : PreparedBootInfo Unit × ActivationFinalMapReservedPageTables Nat}
    (ran : prepareResources firmware features validated loaded stack tables machine =
      (.ok resources, after)) : resources.1.framebuffer.Fits := by
  unfold prepareResources BootStop at ran
  obtain ⟨activation, _, _, ran⟩ := Program.bind_eq_ok.mp ran
  obtain ⟨prepared, _, prepares, ran⟩ := Program.bind_eq_ok.mp ran
  obtain ⟨reserved, _, _, ran⟩ := Program.bind_eq_ok.mp ran
  cases ran
  exact prepare_framebuffer (unwinding_eq_ok.mp prepares)

theorem collectOwners_eq_ok {loaded : LoadedKernel Unit} {prepared : PreparedBootInfo Unit}
    {stack : BootstrapStack Unit} {tables : ActivationFinalMapReservedPageTables Nat}
    {ready : PageTableHandoffReady Unit Unit Unit Nat} {machine after : Machine φ}
    (ran : collectOwners firmware features loaded prepared stack tables machine =
      (.ok ready, after)) : ready = ⟨⟨loaded, prepared⟩, stack, tables⟩ := by
  obtain ⟨owned, _, first, ran⟩ := Program.bind_eq_ok.mp ran
  obtain ⟨exit, _, second, third⟩ := Program.bind_eq_ok.mp ran
  obtain ⟨kernel, _⟩ := orReturn_eq_ok.mp (unwinding_eq_ok.mp first)
  obtain ⟨bootInfo, _⟩ := orReturn_eq_ok.mp (unwinding_eq_ok.mp second)
  obtain ⟨joined, _⟩ := orReturn_eq_ok.mp (unwinding_eq_ok.mp third)
  rw [toOption_eq_some, withKernel, guard_eq_ok] at kernel
  simp only [toOption_eq_some, KernelOwned.withBootInformation, guard_eq_ok] at bootInfo
  rw [toOption_eq_some, ExitReady.withBootstrapStackAndPageTables_eq_ok] at joined
  obtain ⟨_, owns⟩ := kernel
  obtain ⟨_, _, _, exits⟩ := bootInfo
  obtain ⟨_, _, _, rfl⟩ := joined
  cases owns
  cases exits
  rfl

/-- The pages of a state before the boundary. -/
def PageTableHandoffReady.held (ready : PageTableHandoffReady Unit Unit Unit Nat) :
    List OwnedAllocation :=
  ready.exit.kernel.held ++ (ready.exit.bootInfo.held ++ (ready.stack.held ++
    heldFrames ready.pageTables.hierarchy.owner))

theorem PageTableHandoffReady.drops (ready : PageTableHandoffReady Unit Unit Unit Nat) :
    Drops (ready.dropOn firmware features) ready.held :=
  (ready.exit.kernel.drops firmware).comp ((ready.exit.bootInfo.drops firmware).comp
    ((ready.stack.drops firmware).comp
      (dropTables_drops firmware features ready.pageTables.hierarchy.owner)))

theorem collectOwners_custody (loaded : LoadedKernel Unit) (prepared : PreparedBootInfo Unit)
    (stack : BootstrapStack Unit) (tables : ActivationFinalMapReservedPageTables Nat) :
    Custody (prepared.held ++ heldFrames tables.hierarchy.owner ++ (stack.held ++ loaded.held))
      (collectOwners firmware features loaded prepared stack tables)
      PageTableHandoffReady.held := by
  have kernelDrops := loaded.drops firmware
  have dataDrops := prepared.drops firmware
  have stackDrops := stack.drops firmware
  have tableDrops := dropTables_drops firmware features tables.hierarchy.owner
  have kept : Custody
      (prepared.held ++ heldFrames tables.hierarchy.owner ++ (stack.held ++ loaded.held))
      (collectOwners firmware features loaded prepared stack tables)
      fun _ => prepared.held ++ heldFrames tables.hierarchy.owner ++
        (stack.held ++ loaded.held) := by
    unfold collectOwners BootStop
    refine (Custody.unwinding_quiet ((kernelDrops.comp (dataDrops.comp
      (tableDrops.comp stackDrops))).perm ?_) (.orReturn _ _)).bind fun _ _ _ _ => ?_
    · simp only [List.perm_iff_count, List.count_append]
      omega
    refine (Custody.unwinding_quiet ((dataDrops.comp (kernelDrops.comp
      (tableDrops.comp stackDrops))).perm ?_) (.orReturn _ _)).bind fun _ _ _ _ => ?_
    · simp only [List.perm_iff_count, List.count_append]
      omega
    refine Custody.unwinding_quiet ((tableDrops.comp (stackDrops.comp
      (kernelDrops.comp dataDrops))).perm ?_) (.orReturn _ _)
    simp only [List.perm_iff_count, List.count_append]
    omega
  refine kept.perm (.refl _) ?_
  intro machine ready after ran
  rw [collectOwners_eq_ok firmware features ran]
  simp only [PageTableHandoffReady.held, List.perm_iff_count, List.count_append]
  omega

/-! ## The segments' pages -/

theorem allocateTargets_slots {β ε : Type} {ops : PageBackend β ε} {backend : β}
    {done : List (OwnedAllocation × Bool)} {items : List OwnedAllocation}
    {owner : TargetOwnership β} (ran : allocateTargets ops backend done items = .ok owner) :
    owner.slots = done ++ items.map (·, true) := by
  induction items generalizing backend done with
  | nil =>
      cases ran
      simp
  | cons item items ih =>
      simp only [allocateTargets] at ran
      split at ran
      · cases ran
      · rw [ih ran, List.append_assoc]
        rfl

theorem workTargets_slots {β ε : Type} {kind : LoadWorkKind}
    {work : β → LoadItem → Except ε Unit × β} {items : List LoadItem}
    {owner worked : TargetOwnership β} (ran : workTargets kind work owner items = .ok worked) :
    worked.slots = owner.slots := by
  induction items generalizing owner with
  | nil =>
      cases ran
      rfl
  | cons item items ih =>
      simp only [workTargets] at ran
      split at ran
      · cases ran
      · have same := ih ran
        exact same

theorem onMachine_eq_ok {δ : Type}
    {loop : Machine φ → Except (LoadWorkFailure (Machine φ) δ) (TargetOwnership (Machine φ))}
    {owner : TargetOwnership Unit} {machine after : Machine φ}
    (ran : onMachine loop machine = (.ok owner, after)) :
    loop machine = .ok ⟨after, owner.slots⟩ := by
  unfold onMachine at ran
  split at ran
  · cases ran
  · rename_i looped
    cases ran
    exact looped

theorem loadTargets_slots {kernel : ValidatedKernel} {plan : LoadPlan}
    {owner : TargetOwnership Unit} {machine after : Machine φ}
    (ran : loadTargets firmware kernel plan machine = (.ok owner, after)) :
    owner.slots = plan.items.map fun item => (item.allocation, true) := by
  obtain ⟨allocated, _, allocates, ran⟩ := Program.bind_eq_ok.mp ran
  rw [Program.bind_of_ok writeLine_run] at ran
  obtain ⟨zeroed, _, zeroes, ran⟩ := Program.bind_eq_ok.mp ran
  rw [Program.bind_of_ok writeLine_run] at ran
  obtain ⟨copied, _, copies, ran⟩ := Program.bind_eq_ok.mp ran
  rw [Program.bind_of_ok writeLine_run] at ran
  have fresh := allocateTargets_slots (onMachine_eq_ok allocates)
  rw [workTargets_slots (onMachine_eq_ok ran), workTargets_slots (onMachine_eq_ok copies),
    workTargets_slots (onMachine_eq_ok zeroes), fresh]
  simp [TargetOwnership.new]

/-- The entry point is the linker's, and one of the segments may be executed there. -/
structure LoadedKernel.Enterable (loaded : LoadedKernel κ) : Prop where
  reference : loaded.entryPoint = 0x0020_0000
  executable : ∃ segment ∈ loaded.segments, segment.flags &&& 1 ≠ 0 ∧
    segment.memoryStart ≤ loaded.entryPoint ∧ loaded.entryPoint < segment.memoryEnd

theorem sourceUnchanged_eq_ok {kernel : ValidatedKernel} {plan : LoadPlan} {before : Nat}
    {machine after : Machine φ}
    (ran : sourceUnchanged kernel plan before machine = (.ok true, after)) :
    ∃ item ∈ plan.items, item.isExecutable = true ∧ plan.entry ≥ item.targetStart ∧
      plan.entry < item.targetEnd := by
  obtain ⟨bytes, _, _, ran⟩ := Program.bind_eq_ok.mp ran
  split at ran
  · cases ran
  · cases validated : KernelImage.validateBootstrapImage bytes with
    | error reason =>
        rw [validated] at ran
        cases reason <;> cases ran
    | ok image =>
        rw [validated] at ran
        have decided := Except.ok.inj (congrArg Prod.fst ran)
        obtain ⟨entry, held⟩ := of_decide_eq_true decided
        rwa [entry] at held

/-- A loaded kernel owns the pages of its segments, and has an entry point in one of them. -/
theorem loadSegments_eq_ok {kernel : ValidatedKernel} {plan : LoadPlan}
    {loaded : LoadedKernel Unit} {machine after : Machine φ}
    (ran : loadSegments firmware kernel plan machine = (.ok loaded, after)) :
    loaded.held = loaded.segments.map SegmentMetadata.allocation ∧
      ∃ segment ∈ loaded.segments, segment.flags &&& 1 ≠ 0 ∧
        segment.memoryStart ≤ loaded.entryPoint ∧ loaded.entryPoint < segment.memoryEnd := by
  obtain ⟨before, _, _, ran⟩ := Program.bind_eq_ok.mp ran
  obtain ⟨prepared, _, loads, ran⟩ := Program.bind_eq_ok.mp ran
  cases prepared with
  | error failure =>
      obtain ⟨_, _, _, ran⟩ := Program.bind_eq_ok.mp ran
      obtain ⟨_, _, _, ran⟩ := Program.bind_eq_ok.mp ran
      cases ran
  | ok owner =>
      obtain ⟨unchanged, _, checks, ran⟩ := Program.bind_eq_ok.mp ran
      split at ran
      · rename_i same
        subst same
        cases ran
        have slots := loadTargets_slots firmware (Program.attempt_eq_ok.mp loads)
        obtain ⟨item, member, executable, low, high⟩ := sourceUnchanged_eq_ok checks
        refine ⟨?_, item.metadata, List.mem_map_of_mem member, ?_, low, high⟩
        · rw [LoadedKernel.held, heldResources_eq]
          simp only [LoadedKernel.fromVerified, slots, List.filter_map, Function.comp_def,
            List.filter_true, List.map_map]
          rfl
        · exact bne_iff_ne.mp executable
      · obtain ⟨_, _, _, ran⟩ := Program.bind_eq_ok.mp ran
        obtain ⟨_, _, _, ran⟩ := Program.bind_eq_ok.mp ran
        cases ran

theorem proveOwnership_reference {loaded : LoadedKernel Unit} {machine after : Machine φ}
    (ran : proveOwnership firmware loaded machine = (.ok (), after)) :
    loaded.entryPoint = 0x0020_0000 := by
  unfold proveOwnership at ran
  split at ran
  · cases ran
  · rename_i matched
    have reference := of_decide_eq_true (Bool.eq_true_of_not_eq_false matched)
    exact reference.1

/-! ## The run -/

/-- The kernel was started with all owners behind it. -/
structure Departed (ready : PageTableHandoffReady Unit Unit Unit Nat)
    (result : CapturedMapMeta × KernelArguments) (machine : Machine φ) : Prop where
  image : ready.exit.kernel.held = ready.exit.kernel.segments.map SegmentMetadata.allocation
  enterable : ready.exit.kernel.Enterable
  screen : ready.exit.bootInfo.framebuffer.Fits
  started : ∃ mapped middle base items final bootInfo,
    Started (ready.crossExitBoundary idleFrames).1 ready.stack.transfer.1
      (ready.pageTables.transfer idleFrames).1 mapped result.1 result.2 machine middle base items
      final bootInfo

theorem Departed.entry {ready : PageTableHandoffReady Unit Unit Unit Nat}
    {result : CapturedMapMeta × KernelArguments} {machine : Machine φ}
    (departed : Departed ready result machine) :
    result.2.entry = ready.exit.kernel.entryPoint := by
  obtain ⟨_, _, _, _, _, _, started⟩ := departed.started
  rw [started.arguments]
  rfl

variable {firmware features}

theorem leaveBootServices_eq_ok {ready : PageTableHandoffReady Unit Unit Unit Nat}
    {result : CapturedMapMeta × KernelArguments} {machine after : Machine φ}
    (ran : leaveBootServices firmware idleFrames ready machine = (.ok result, after)) :
    ∃ mapped middle base items final bootInfo,
      Started (ready.crossExitBoundary idleFrames).1 ready.stack.transfer.1
        (ready.pageTables.transfer idleFrames).1 mapped result.1 result.2 after middle base items
        final bootInfo := by
  obtain ⟨timer, _, _, ran⟩ := Program.bind_eq_ok.mp ran
  cases timer with
  | error status => cases ran
  | ok done =>
      simp only [] at ran
      cases sized : allocationByteLength ready.exit.bootInfo.allocations.rawMap with
      | none =>
          rw [sized] at ran
          cases ran
      | some rawLength =>
        rw [sized] at ran
        obtain ⟨present, _, _, ran⟩ := Program.bind_eq_ok.mp ran
        split at ran
        · cases ran
        · obtain ⟨captured, _, _, ran⟩ := Program.bind_eq_ok.mp ran
          cases captured with
          | error status => cases ran
          | ok firstMap =>
              obtain ⟨_, _, _, ran⟩ := Program.bind_eq_ok.mp ran
              obtain ⟨finalMap, middle, _, ran⟩ := Program.bind_eq_ok.mp ran
              obtain ⟨arguments, _, finalizes, ran⟩ := Program.bind_eq_ok.mp ran
              cases ran
              rcases finalizePostExit_cases (delivered_cross idleFrames ready) finalMap _ _
                  middle with
                ⟨_, _, _, stopped⟩ |
                ⟨final, bootInfo, mapped, base, items, _, map, finalized, passed⟩
              · rw [stopped] at finalizes
                cases finalizes
              · rw [passed] at finalizes
                cases finalizes
                exact ⟨mapped, middle, base, items, final, bootInfo, map, finalized, rfl, rfl⟩

variable (firmware features)

theorem prepareAndExit_hands {loaded : LoadedKernel Unit}
    (image : loaded.held = loaded.segments.map SegmentMetadata.allocation)
    (enterable : loaded.Enterable) :
    Hands loaded.held (prepareAndExit firmware features loaded) fun result machine held =>
      ∃ ready, Departed ready result machine ∧ held = ready.held := by
  have kernelDrops := loaded.drops firmware
  unfold prepareAndExit BootStop
  refine (Custody.unwinding_new kernelDrops
    (allocateBootstrapStack_custody firmware loaded)).hands fun _ stack _ _ => ?_
  have bothDrop := (stack.drops firmware).comp kernelDrops
  refine (Custody.look _).hands fun _ cpu _ _ => (Custody.writeLine _).hands fun _ _ _ _ => ?_
  refine (Custody.unwinding_new bothDrop
    (.returning (constructInactive_custody firmware features loaded stack))).hands
    fun _ tables _ _ => ?_
  cases (policyCpu features cpu).validate with
  | error reason =>
      rw [← List.append_assoc]
      exact (refuseCpu_abandons firmware features loaded stack tables).hands
  | ok validated =>
      refine (Custody.unwinding bothDrop
        (prepareResources_custody firmware features validated loaded stack tables)).hands
        fun _ resources _ prepares => ?_
      refine (collectOwners_custody firmware features loaded resources.1 stack resources.2).hands
        fun _ ready _ collects => ?_
      refine (quiet_leaveBootServices firmware ready).hands (ready.drops firmware features) ?_
      intro _ result after leaves
      obtain rfl := collectOwners_eq_ok firmware features collects
      exact ⟨_, ⟨image, enterable, prepareResources_framebuffer (unwinding_eq_ok.mp prepares),
        leaveBootServices_eq_ok leaves⟩, rfl⟩

theorem loadVerifyAndRelease_hands (kernel : ValidatedKernel) :
    Hands kernel.scratch.held (loadVerifyAndRelease firmware features kernel)
      fun result machine held => ∃ ready, Departed ready result machine ∧ held = ready.held := by
  unfold loadVerifyAndRelease
  refine (planSegments_custody firmware kernel).hands fun _ plan _ _ => ?_
  refine (loadSegments_custody firmware kernel plan).hands fun _ loaded _ loads => ?_
  have kernelDrops := loaded.drops firmware
  refine (Custody.unwinding_quiet (kernelDrops.comp (kernel.scratch.drops firmware))
    (quiet_checkLoaded loaded plan)).hands fun _ _ _ _ => ?_
  refine (releaseSource_custody firmware kernel loaded).hands fun _ _ _ _ => ?_
  refine (Custody.unwinding_new kernelDrops (proveOwnership_custody firmware loaded)).hands
    fun _ _ _ proves => ?_
  obtain ⟨image, executable⟩ := loadSegments_eq_ok firmware loads
  have reference := proveOwnership_reference firmware (unwinding_eq_ok.mp proves)
  exact (prepareAndExit_hands firmware features image ⟨reference, executable⟩).returning

theorem loadKernel_hands :
    Hands [] (loadKernel firmware features) fun result machine held =>
      ∃ ready, Departed ready result machine ∧ held = ready.held := by
  unfold loadKernel
  refine (Custody.writeLine _).hands fun _ _ _ _ => (Custody.writeLine _).hands fun _ _ _ _ =>
    (Custody.writeLine _).hands fun _ _ _ _ => ?_
  refine (Custody.returning (loadAndValidate_custody firmware)).hands fun _ kernel _ _ => ?_
  refine (Custody.writeLine _).hands fun _ _ _ _ => ?_
  exact (loadVerifyAndRelease_hands firmware features kernel).returning

theorem owes_nothing (state : φ) (hardware : Hardware) (systemTable : Bool) :
    (⟨state, hardware, systemTable, []⟩ : Machine φ).Owes ([] ++ []) :=
  .inr ⟨⟨[], []⟩, rfl, .refl _⟩

/-- Whatever the firmware answers, and wherever the run ends, no page is given
back that is not on loan.  After an error that is returned, the pages still on
loan are ones that the firmware has refused to take back; when the kernel is
started, they are those of the four owners.  All this holds as long as the
firmware has not lent one page twice. -/
theorem loadKernel_accounts (state : φ) (hardware : Hardware) (systemTable : Bool) :
    let ended := loadKernel firmware features ⟨state, hardware, systemTable, []⟩
    (∀ error, ended.1 = .error (.returned error) → ended.2.books = .error .lender ∨
      ∃ account, ended.2.books = .ok account ∧
        ∀ allocation ∈ account.live, allocation ∈ account.refused) ∧
    (∀ result, ended.1 = .ok result → ended.2.books = .error .lender ∨
      ∃ account ready, ended.2.books = .ok account ∧ Departed ready result ended.2 ∧
        account.live.Perm ready.held) ∧
    ended.2.books ≠ .error .borrower := by
  intro ended
  obtain ⟨good, bad⟩ :=
    loadKernel_hands firmware features [] _ (owes_nothing state hardware systemTable)
  cases ran : ended with
  | mk outcome after =>
      cases outcome with
      | ok result =>
          obtain ⟨held, ⟨ready, departed, rfl⟩, owes⟩ := good result after ran
          rw [List.append_nil] at owes
          refine ⟨by simp, ?_, owes.leaves.faultless⟩
          intro other same
          cases same
          rcases owes with fault | ⟨account, kept, live⟩
          · exact .inl fault
          · exact .inr ⟨account, ready, kept, departed, live⟩
      | error reason =>
          have settled := bad reason after ran
          cases reason with
          | failed => exact ⟨by simp, by simp, settled⟩
          | returned error =>
              have leaves : after.Leaves [] := settled
              refine ⟨?_, by simp, leaves.faultless⟩
              intro other same
              rcases leaves with fault | ⟨account, lost, kept, live, refused⟩
              · exact .inl fault
              · exact .inr ⟨account, kept, fun allocation member =>
                  refused allocation (live.mem_iff.mp member)⟩

end

end UnnamedOS.Loader
