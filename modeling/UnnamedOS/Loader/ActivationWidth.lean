import UnnamedOS.Loader.Activation
import UnnamedOS.Loader.VerifiedTables

namespace UnnamedOS.Loader

open UnnamedOS.Data UnnamedOS.Layout UnnamedOS.PageTable

/-! # Frames and the processor's physical width

A readiness is made from a list of frames and remembers only the first of
them.  Binding it to a hierarchy compares roots, so the other frames have been
checked only if they were in that list. -/

variable {β ε : Type}

theorem prepareActivation_ok_iff (ops : FrameBackend β ε)
    (hierarchy : VerifiedInactivePageTables β) {readiness : ActivationReadiness}
    (permitted : readiness.transitionPermitted = true)
    {prepared : ActivationPreparedPageTables β} :
    hierarchy.prepareActivation ops readiness = .ok prepared ↔
      rootAddress hierarchy.owner = readiness.proposedRoot ∧
        prepared = ⟨hierarchy, readiness⟩ := by
  rw [VerifiedInactivePageTables.prepareActivation_eq_ok, and_iff_right permitted, eq_comm]

/-- Every activated frame is within the processor's width exactly where the
frames that were not classified are. -/
theorem prepareActivation_fits_iff (ops : FrameBackend β ε)
    (hierarchy : VerifiedInactivePageTables β) {snapshot : ValidatedCpuSnapshot}
    {ownedFrames : List PhysicalFrame} {proposedRoot : PhysicalFrame} {mappedEnd : Nat}
    {readiness : ActivationReadiness}
    (classified : snapshot.classifyForHierarchy ownedFrames proposedRoot mappedEnd =
      .ok readiness) :
    (∀ prepared, hierarchy.prepareActivation ops readiness = .ok prepared →
      ∀ frame ∈ prepared.frames, frame.address + 4096 ≤ 2 ^ readiness.physicalAddressBits) ↔
    (rootAddress hierarchy.owner = proposedRoot.address →
      ∀ frame ∈ hierarchy.frames, frame ∉ ownedFrames →
        frame.address + 4096 ≤ 2 ^ snapshot.physicalAddressBits) := by
  obtain ⟨permitted, root, bits, checked⟩ :=
    ValidatedCpuSnapshot.classifyForHierarchy_eq_ok classified
  simp only [prepareActivation_ok_iff ops hierarchy permitted, root, bits]
  rw [bits] at checked
  constructor
  · intro fits sameRoot frame member _
    exact fits _ ⟨sameRoot, rfl⟩ frame member
  · intro others prepared bound frame member
    obtain ⟨sameRoot, rfl⟩ := bound
    by_cases classifiedFrame : frame ∈ ownedFrames
    · exact checked frame classifiedFrame
    · exact others sameRoot frame member classifiedFrame

/-! ## A processor with 36 address bits -/

def narrowCpu : RawCpuSnapshot where
  maximumBasicLeaf := 7
  maximumExtendedLeaf := 0x8000_0008
  basicFeatureEdx := (1 <<< 5) ||| (1 <<< 6)
  structuredFeatureEcx := 0
  extendedFeatureEdx := (1 <<< 20) ||| (1 <<< 29)
  addressWidthEax := 36 ||| (48 <<< 8)
  cr0 := (1 <<< 31) ||| (1 <<< 16)
  cr3 := 0x1234_5000
  cr4 := 1 <<< 5
  efer := (1 <<< 8) ||| (1 <<< 10) ||| (1 <<< 11)
  leaves := by decide
  registers := by decide

def lowFrame : PhysicalFrame := ⟨0x10_0000, by decide, by decide, by decide⟩

theorem narrowCpu_ready : ∃ snapshot readiness, narrowCpu.validate = .ok snapshot ∧
    snapshot.classifyForHierarchy [lowFrame] lowFrame 0x41_0000 = .ok readiness ∧
    readiness.proposedRoot = 0x10_0000 ∧ readiness.physicalAddressBits = 36 := by
  have evaluated : narrowCpu.validate.toOption.any (fun snapshot =>
      (snapshot.classifyForHierarchy [lowFrame] lowFrame 0x41_0000).toOption.any fun readiness =>
        readiness.proposedRoot = 0x10_0000 ∧ readiness.physicalAddressBits = 36) = true := by
    decide +kernel
  obtain ⟨snapshot, validated, evaluated⟩ := (Option.any_eq_true _ _).mp evaluated
  obtain ⟨readiness, classified, holds⟩ := (Option.any_eq_true _ _).mp evaluated
  exact ⟨snapshot, readiness, toOption_eq_some.mp validated, toOption_eq_some.mp classified,
    of_decide_eq_true holds⟩

/-- The first frame is low, and the others follow from `base` on. -/
def framesFrom (base : Nat) : FrameBackend Nat Empty where
  allocateFrame next := (.ok (if next = 0 then 0x10_0000 else base + next * pageSize), next + 1)
  zeroFrame next _ := (.ok (), next)
  freeFrame next _ := (.ok (), next)

/-- With that readiness, a hierarchy that was built and verified on any such
backend is prepared. -/
theorem narrowCpu_prepares {base : Nat} {planned : PlannedPageTables}
    {tables : AllocatedPageTables Nat}
    (accepted : PlannedPageTables.forTransition 0x200000 0x400000 = .ok planned)
    (allocated : planned.allocate (framesFrom base) 0 = .ok tables)
    (rooted : rootAddress tables.owner = 0x10_0000) :
    ∃ snapshot result after verified readiness,
      narrowCpu.validate = .ok snapshot ∧
      tables.materialize cellMemory (framesFrom base) (fun _ _ => 0) = .ok (result, after) ∧
      result.verify cellMemory after (framesFrom base) = .ok verified ∧
      snapshot.classifyForHierarchy [lowFrame] lowFrame 0x41_0000 = .ok readiness ∧
      verified.prepareActivation (framesFrom base) readiness = .ok ⟨verified, readiness⟩ ∧
      verified.owner = tables.owner ∧ readiness.physicalAddressBits = 36 := by
  obtain ⟨snapshot, readiness, validated, classified, root, width⟩ := narrowCpu_ready
  have whole := allocate_prepared accepted allocated
  obtain ⟨after, materialized, verifies⟩ := materialize_cellMemory (framesFrom base) whole
  have permitted := (ValidatedCpuSnapshot.classifyForHierarchy_eq_ok classified).1
  have prepares := (prepareActivation_ok_iff (framesFrom base)
    ⟨tables.plan.tableCount, tables.owner⟩ permitted).mpr ⟨rooted.trans root.symm, rfl⟩
  exact ⟨snapshot, _, after, _, readiness, validated, materialized, verifies, classified, prepares,
    rfl, width⟩

/-- Frames in a row behind the root fit, though only the root was classified. -/
theorem prepareActivation_fits_iff_row :
    ∃ snapshot planned tables result after verified readiness prepared,
      narrowCpu.validate = .ok snapshot ∧
      PlannedPageTables.forTransition 0x200000 0x400000 = .ok planned ∧
      planned.allocate (framesFrom 0x10_0000) 0 = .ok tables ∧
      tables.materialize cellMemory (framesFrom 0x10_0000) (fun _ _ => 0) = .ok (result, after) ∧
      result.verify cellMemory after (framesFrom 0x10_0000) = .ok verified ∧
      snapshot.classifyForHierarchy [lowFrame] lowFrame 0x41_0000 = .ok readiness ∧
      verified.prepareActivation (framesFrom 0x10_0000) readiness = .ok prepared ∧
      1 < prepared.frames.length ∧
      ∀ frame ∈ prepared.frames, frame.address + 4096 ≤ 2 ^ readiness.physicalAddressBits := by
  obtain ⟨planned, tables, accepted, allocated, rooted, several, low⟩ : ∃ planned tables,
      PlannedPageTables.forTransition 0x200000 0x400000 = .ok planned ∧
      planned.allocate (framesFrom 0x10_0000) 0 = .ok tables ∧
      rootAddress tables.owner = 0x10_0000 ∧ 1 < tables.owner.frames.length ∧
      ∀ frame ∈ tables.owner.frames, frame.address + 4096 ≤ 2 ^ 36 :=
    ⟨_, _, rfl, rfl, by decide +kernel, by decide +kernel, by decide +kernel⟩
  obtain ⟨snapshot, result, after, verified, readiness, validated, materialized, verifies,
    classified, prepares, same, width⟩ := narrowCpu_prepares accepted allocated rooted
  rw [← same] at several low
  have bits := (ValidatedCpuSnapshot.classifyForHierarchy_eq_ok classified).2.2.1
  rw [← width, bits] at low
  refine ⟨snapshot, planned, tables, result, after, verified, readiness, _, validated, accepted,
    allocated, materialized, verifies, classified, prepares, several, ?_⟩
  exact (prepareActivation_fits_iff (framesFrom 0x10_0000) verified classified).mpr
    (fun _ frame member _ => low frame member) _ prepares

/-- Behind the first frame, all are above 64 GiB. -/
abbrev spreadFrames : FrameBackend Nat Empty := framesFrom (2 ^ 36)

/-- A readiness made for the root alone is accepted for the whole hierarchy. -/
theorem prepareActivation_beyond_width :
    ∃ snapshot planned tables result after verified readiness prepared,
      narrowCpu.validate = .ok snapshot ∧
      PlannedPageTables.forTransition 0x200000 0x400000 = .ok planned ∧
      planned.allocate spreadFrames 0 = .ok tables ∧
      tables.materialize cellMemory spreadFrames (fun _ _ => 0) = .ok (result, after) ∧
      result.verify cellMemory after spreadFrames = .ok verified ∧
      snapshot.classifyForHierarchy [lowFrame] lowFrame 0x41_0000 = .ok readiness ∧
      verified.prepareActivation spreadFrames readiness = .ok prepared ∧
      ∃ frame ∈ prepared.frames,
        ¬ frame.address + 4096 ≤ 2 ^ readiness.physicalAddressBits := by
  obtain ⟨planned, tables, accepted, allocated, rooted, high⟩ : ∃ planned tables,
      PlannedPageTables.forTransition 0x200000 0x400000 = .ok planned ∧
      planned.allocate spreadFrames 0 = .ok tables ∧
      rootAddress tables.owner = 0x10_0000 ∧
      ∃ frame ∈ tables.owner.frames, ¬ frame.address + 4096 ≤ 2 ^ 36 :=
    ⟨_, _, rfl, rfl, by decide +kernel, by decide +kernel⟩
  obtain ⟨snapshot, result, after, verified, readiness, validated, materialized, verifies,
    classified, prepares, same, width⟩ := narrowCpu_prepares accepted allocated rooted
  rw [← same, ← width] at high
  exact ⟨snapshot, planned, tables, result, after, verified, readiness, _, validated, accepted,
    allocated, materialized, verifies, classified, prepares, high⟩

end UnnamedOS.Loader
