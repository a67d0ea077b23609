import UnnamedOS.Loader.Handoff
import UnnamedOS.Loader.VerifiedTables
import UnnamedOS.PageTable.FrameCustody

namespace UnnamedOS.Loader

open UnnamedOS.Data UnnamedOS.Layout UnnamedOS.PageTable

/-! # A hierarchy that crosses is whole

Verified tables can still be released, in part and repeatedly, and the root
field does not notice.  The gate before the boundary compares the number of
frames with the planned one, and a release only ever takes frames away. -/

variable {β ε : Type}

/-- The verified hierarchies, with the frames they were allocated: those that
come out of `verify`, and what any `try_release` makes of them. -/
inductive Reached (ops : FrameBackend β ε) :
    List PhysicalFrame → VerifiedInactivePageTables (β × List FrameEvent) → Prop
  | verified {μ ν δ₁ δ₂ : Type} {written : PageTableMemory μ δ₁} {read : PageTableMemory ν δ₂}
      {trampolinePage stackStart : Nat} {planned : PlannedPageTables} {start : β}
      {tables : AllocatedPageTables (β × List FrameEvent)} {before after : μ} {contents : ν}
      {result : MaterializedPageTables (β × List FrameEvent)}
      {hierarchy : VerifiedInactivePageTables (β × List FrameEvent)}
      (accepted : PlannedPageTables.forTransition trampolinePage stackStart = .ok planned)
      (allocated : planned.allocate ops.logged (start, []) = .ok tables)
      (materialized : tables.materialize written ops.logged before = .ok (result, after))
      (verifies : result.verify read contents ops.logged = .ok hierarchy) :
      Reached ops tables.owner.frames hierarchy
  | released {frames : List PhysicalFrame}
      {hierarchy : VerifiedInactivePageTables (β × List FrameEvent)}
      (earlier : Reached ops frames hierarchy) :
      Reached ops frames (hierarchy.tryRelease ops.logged).2

/-- What a hierarchy keeps through releases. -/
structure Remembers (frames : List PhysicalFrame)
    (hierarchy : VerifiedInactivePageTables (β × List FrameEvent)) : Prop where
  planned : hierarchy.plannedTableCount = frames.length
  root : hierarchy.owner.root = frames.head?
  taken : allocations hierarchy.owner.backend.2 = frames.map PhysicalFrame.address
  settled : hierarchy.owner.Settled
  tracked : Tracked hierarchy.owner.backend.2 (frames.map PhysicalFrame.address)
    hierarchy.owner.addresses

theorem allocate_complete {plan : RuntimePageTablePlan} {ops : FrameBackend β ε} {start : β}
    {owner : PageTableFrameOwner (β × List FrameEvent) pageTableFrameCapacity}
    (allocated : PageTableFrameOwner.allocate ops.logged plan (start, []) = .ok owner) :
    owner.Settled ∧ Complete plan owner ∧ owner.root = owner.frames.head? := by
  obtain ⟨holder, _, outcome, settled, _, ends⟩ :=
    allocate_tracked ops start plan pageTableFrameCapacity
  rw [allocated] at outcome
  cases outcome
  exact ⟨settled, ends⟩

theorem Remembers.release {frames : List PhysicalFrame} (ops : FrameBackend β ε)
    {hierarchy : VerifiedInactivePageTables (β × List FrameEvent)}
    (remembers : Remembers frames hierarchy) :
    Remembers frames (hierarchy.tryRelease ops.logged).2 := by
  obtain ⟨step, settled⟩ := hierarchy.owner.tryRelease_step ops remembers.settled
  obtain ⟨made, extended, releases⟩ := step.made
  exact {
    planned := remembers.planned
    root := (hierarchy.owner.tryRelease_root ops.logged).trans remembers.root
    taken := by
      change allocations (hierarchy.owner.tryRelease ops.logged).2.backend.2 = _
      rw [extended, allocations_append, allocations_freed, List.append_nil, remembers.taken]
    settled := settled
    tracked := by
      change Tracked (hierarchy.owner.tryRelease ops.logged).2.backend.2 _ _
      rw [extended]
      exact remembers.tracked.extend releases }

theorem Reached.remembers {ops : FrameBackend β ε} {frames : List PhysicalFrame}
    {hierarchy : VerifiedInactivePageTables (β × List FrameEvent)}
    (reached : Reached ops frames hierarchy) : Remembers frames hierarchy := by
  induction reached with
  | verified accepted allocated materialized verifies =>
      obtain ⟨owner, owned, built⟩ := bind_eq_ok.mp allocated
      cases built
      obtain ⟨settled, complete, root⟩ := allocate_complete owned
      cases (materialize_eq_ok materialized).1
      cases verify_eq_ok verifies
      exact {
        planned := complete.count.symm
        root
        taken := complete.allocated
        settled
        tracked := .opening complete.distinct []
          (complete.allocated.trans (List.append_nil _).symm) (by simp) complete.quiet }
  | released earlier ih => exact ih.release ops

/-! ## Behind the gate -/

section

variable {κ ρ σ ε₁ ε₂ ε₃ : Type} {kernelOps : PageBackend κ ε₁} {bootOps : PageBackend ρ ε₂}
  {stackOps : PageBackend σ ε₃}

/-- The two steps before the gate leave the owner alone. -/
theorem confirmed_owner {ops : FrameBackend β ε} {hierarchy : VerifiedInactivePageTables β}
    {readiness : ActivationReadiness} {proof : PageTableReservationProof}
    {prepared : ActivationPreparedPageTables β} {reserved : ActivationFinalMapReservedPageTables β}
    (prepares : hierarchy.prepareActivation ops readiness = .ok prepared)
    (confirms : prepared.confirmFinalMapReservation ops proof = .ok reserved) :
    readiness.proposedRoot = rootAddress hierarchy.owner ∧
      reserved = ⟨⟨hierarchy.plannedTableCount, hierarchy.owner⟩, readiness⟩ := by
  obtain ⟨_, root, rfl⟩ := VerifiedInactivePageTables.prepareActivation_eq_ok.mp prepares
  obtain ⟨_, _, _, rfl⟩ :=
    ActivationPreparedPageTables.confirmFinalMapReservation_eq_ok.mp confirms
  exact ⟨root, rfl⟩

/-- A hierarchy that has passed all three gates holds every frame it was
allocated, starting with the proposed root, and these are the frames that the
record lists at the boundary. -/
theorem activation_live {ops : FrameBackend β ε} {frames : List PhysicalFrame}
    {hierarchy : VerifiedInactivePageTables (β × List FrameEvent)}
    {readiness : ActivationReadiness} {proof : PageTableReservationProof}
    {prepared : ActivationPreparedPageTables (β × List FrameEvent)}
    {reserved : ActivationFinalMapReservedPageTables (β × List FrameEvent)}
    {exit : ExitReady κ ρ} {stack : BootstrapStack σ}
    {ready : PageTableHandoffReady κ ρ σ (β × List FrameEvent)}
    (reached : Reached ops frames hierarchy)
    (prepares : hierarchy.prepareActivation ops.logged readiness = .ok prepared)
    (confirms : prepared.confirmFinalMapReservation ops.logged proof = .ok reserved)
    (hands : exit.withBootstrapStackAndPageTables kernelOps bootOps stackOps ops.logged stack
      reserved = .ok ready) :
    (∀ address, ⟨address, true⟩ ∉ frees ready.pageTables.hierarchy.owner.backend.2) ∧
      ready.pageTables.hierarchy.owner.frames = frames ∧
      allocations ready.pageTables.hierarchy.owner.backend.2 =
        frames.map PhysicalFrame.address ∧
      frames.length = ready.pageTables.plannedTableCount ∧ frames.Nodup ∧
      ∃ root, frames.head? = some root ∧ ready.pageTables.hierarchy.owner.root = some root ∧
        root.address = readiness.proposedRoot ∧
        ∃ record transferred,
          ready.crossExitBoundary ops.logged =
            (record, (exit.kernel.owner.backend, exit.bootInfo.backend), stack.backend,
              ready.pageTables.hierarchy.owner.backend) ∧
          record.pageTables = some transferred ∧
          transferred.hierarchy.frames.frames = frames ∧
          transferred.hierarchy.frames.root = some root := by
  have remembers := reached.remembers
  obtain ⟨proposed, rfl⟩ := confirmed_owner prepares confirms
  obtain ⟨_, nonempty, counted, rfl⟩ :=
    (ExitReady.withBootstrapStackAndPageTables_eq_ok _ _ _ _).mp hands
  have count : hierarchy.owner.addresses.length =
      (frames.map PhysicalFrame.address).length := by
    rw [List.length_map, ← remembers.planned]
    exact (List.length_map _).trans counted
  obtain ⟨same, unfreed⟩ := remembers.tracked.whole count
  have injective : Function.Injective PhysicalFrame.address := fun _ _ => PhysicalFrame.ext
  have whole : hierarchy.owner.frames = frames := List.map_injective_iff.mpr injective same
  cases headed : frames.head? with
  | none =>
      rw [List.head?_eq_none_iff] at headed
      rw [← whole] at headed
      exact absurd (congrArg List.length headed) nonempty
  | some root =>
      have rooted := remembers.root.trans headed
      refine ⟨unfreed, whole, remembers.taken, remembers.planned.symm,
        .of_map _ remembers.tracked.distinct, root, rfl, rooted, ?_,
        _, _, rfl, rfl, whole, rooted⟩
      rw [proposed, rootAddress, rooted]
      rfl

end

/-- A backend that hands out consecutive frames and takes none back. -/
def stubbornFrames : FrameBackend Nat Unit where
  allocateFrame next := (.ok (next * pageSize), next + 1)
  zeroFrame next _ := (.ok (), next)
  freeFrame next _ := (.error (), next)

def sampleStack : BootstrapStack Nat where
  backend := 0
  allocation := ⟨0x40_0000, 16⟩
  owned := true
  size := rfl
  aligned := by decide
  limit := by decide

def sampleReadiness : ActivationReadiness where
  currentCr3 := ⟨0x1234_5000, 0, .disabled⟩
  proposedRoot := 0x1_0000
  nxe := .enabled
  writeProtect := .enabled
  pge := .disabled
  pcid := .disabled
  physicalAddressBits := 39
  effectiveLinearAddressBits := 48
  permitted := 1
  stability := ⟨0x1234_5000⟩

/-- After a refused release the hierarchy is whole and passes. -/
theorem activation_live_refused :
    ∃ frames hierarchy proof prepared reserved,
      ∃ exit : ExitReady (Nat × List SegmentEvent) (Nat × List SegmentEvent), ∃ ready,
      Reached stubbornFrames frames hierarchy ∧
      hierarchy.prepareActivation stubbornFrames.logged sampleReadiness = .ok prepared ∧
      prepared.confirmFinalMapReservation stubbornFrames.logged proof = .ok reserved ∧
      exit.withBootstrapStackAndPageTables countedBackend.toPageBackend.logged
        countedBackend.toPageBackend.logged countedBackend.toPageBackend stubbornFrames.logged
        sampleStack reserved = .ok ready ∧
      frees hierarchy.owner.backend.2 ≠ [] ∧
      ready.pageTables.hierarchy.owner.frames = frames := by
  obtain ⟨planned, tables, accepted, allocated, root, count, nonempty, attempted⟩ :
      ∃ planned tables,
        PlannedPageTables.forTransition 0x200000 0x400000 = .ok planned ∧
        planned.allocate stubbornFrames.logged (16, []) = .ok tables ∧
        rootAddress (tables.owner.tryRelease stubbornFrames.logged).2 = 0x1_0000 ∧
        (tables.owner.tryRelease stubbornFrames.logged).2.frameCount = tables.plan.tableCount ∧
        tables.plan.tableCount ≠ 0 ∧
        frees (tables.owner.tryRelease stubbornFrames.logged).2.backend.2 ≠ [] :=
    ⟨_, _, rfl, rfl, by decide +kernel, by decide +kernel, by decide +kernel, by decide +kernel⟩
  have whole := allocate_prepared accepted allocated
  obtain ⟨after, materialized, verifies⟩ := materialize_cellMemory stubbornFrames.logged whole
  have reached : Reached stubbornFrames tables.owner.frames _ :=
    .released (.verified accepted allocated materialized verifies)
  obtain ⟨exit, _⟩ : ∃ exit, (sampleRun 0 []).exit = some exit :=
    Option.isSome_iff_exists.mp (by decide +kernel)
  let owner := (tables.owner.tryRelease stubbornFrames.logged).2
  let proof : PageTableReservationProof :=
    ⟨owner.frameCount, rootAddress owner, frameFingerprint owner.frames⟩
  let hierarchy : VerifiedInactivePageTables (Nat × List FrameEvent) :=
    ⟨tables.plan.tableCount, owner⟩
  have prepares : hierarchy.prepareActivation stubbornFrames.logged sampleReadiness =
      .ok ⟨hierarchy, sampleReadiness⟩ :=
    VerifiedInactivePageTables.prepareActivation_eq_ok.mpr ⟨rfl, root.symm, rfl⟩
  have confirms : ActivationPreparedPageTables.confirmFinalMapReservation stubbornFrames.logged
      ⟨hierarchy, sampleReadiness⟩ proof =
        .ok ⟨⟨tables.plan.tableCount, owner⟩, sampleReadiness⟩ :=
    ActivationPreparedPageTables.confirmFinalMapReservation_eq_ok.mpr ⟨rfl, rfl, rfl, rfl⟩
  have hands : exit.withBootstrapStackAndPageTables countedBackend.toPageBackend.logged
      countedBackend.toPageBackend.logged countedBackend.toPageBackend stubbornFrames.logged
      sampleStack ⟨⟨tables.plan.tableCount, owner⟩, sampleReadiness⟩ =
        .ok ⟨exit, sampleStack, ⟨⟨tables.plan.tableCount, owner⟩, sampleReadiness⟩⟩ :=
    (ExitReady.withBootstrapStackAndPageTables_eq_ok _ _ _ _).mpr
      ⟨rfl, fun empty => nonempty (count.symm.trans empty), count, rfl⟩
  exact ⟨_, hierarchy, proof, _, _, exit, _, reached, prepares, confirms, hands, attempted,
    (activation_live reached prepares confirms hands).2.1⟩

end UnnamedOS.Loader
