import UnnamedOS.PageTable.Plan

namespace UnnamedOS.PageTable

open UnnamedOS.Data UnnamedOS.Layout

/-! # What the processor is ready for

A snapshot of capability leaves and control registers is validated once; the
result classifies a hierarchy that is to be activated on that processor. -/

def minPhysicalAddressBits : Nat := 36
def maxPhysicalAddressBits : Nat := 52
def fourLevelLinearAddressBits : Nat := 48
def fiveLevelLinearAddressBits : Nat := 57

namespace Cpu

def cpuidMsr : Nat := 1 <<< 5
def cpuidPae : Nat := 1 <<< 6
def cpuidNx : Nat := 1 <<< 20
def cpuidLongMode : Nat := 1 <<< 29
def cpuidLa57 : Nat := 1 <<< 16
def cr0Wp : Nat := 1 <<< 16
def cr0Pg : Nat := 1 <<< 31
def cr4Pae : Nat := 1 <<< 5
def cr4Pge : Nat := 1 <<< 7
def cr4La57 : Nat := 1 <<< 12
def cr4Pcide : Nat := 1 <<< 17
def eferLme : Nat := 1 <<< 8
def eferLma : Nat := 1 <<< 10
def eferNxe : Nat := 1 <<< 11
def cr3PwtPcd : Nat := (1 <<< 3) ||| (1 <<< 4)

end Cpu

/-- `RawCpuSnapshot`: four capability words of 32 bits after the two leaf
numbers, and four registers of 64 bits. -/
structure RawCpuSnapshot where
  maximumBasicLeaf : Nat
  maximumExtendedLeaf : Nat
  basicFeatureEdx : Nat
  structuredFeatureEcx : Nat
  extendedFeatureEdx : Nat
  addressWidthEax : Nat
  cr0 : Nat
  cr3 : Nat
  cr4 : Nat
  efer : Nat
  leaves : maximumBasicLeaf < 2 ^ 32 ∧ maximumExtendedLeaf < 2 ^ 32 ∧ basicFeatureEdx < 2 ^ 32 ∧
    structuredFeatureEcx < 2 ^ 32 ∧ extendedFeatureEdx < 2 ^ 32 ∧ addressWidthEax < 2 ^ 32
  registers : cr0 < wordLimit ∧ cr3 < wordLimit ∧ cr4 < wordLimit ∧ efer < wordLimit

inductive HardeningState where
  | enabled
  | mustEnableBeforeActivation
deriving DecidableEq, Repr

inductive PgeState where
  | disabled
  | enabled
deriving DecidableEq, Repr

inductive PcidState where
  | disabled
  | enabledMustRemainUnused
deriving DecidableEq, Repr

structure Cr3State where
  rootAddress : Nat
  contextOrFlags : Nat
  pcidState : PcidState
deriving DecidableEq, Repr

/-- `Cr3StabilityToken`: the whole register as it was. -/
structure Cr3StabilityToken where
  cr3 : Nat
deriving DecidableEq, Repr

structure ValidatedCpuSnapshot where
  physicalAddressBits : Nat
  reportedLinearAddressBits : Nat
  la57Supported : Bool
  currentCr3 : Cr3State
  nxe : HardeningState
  writeProtect : HardeningState
  pge : PgeState
  stability : Cr3StabilityToken
  width : minPhysicalAddressBits ≤ physicalAddressBits ∧
    physicalAddressBits ≤ maxPhysicalAddressBits

structure ActivationReadiness where
  currentCr3 : Cr3State
  proposedRoot : Nat
  nxe : HardeningState
  writeProtect : HardeningState
  pge : PgeState
  pcid : PcidState
  physicalAddressBits : Nat
  effectiveLinearAddressBits : Nat
  permitted : Nat
  stability : Cr3StabilityToken
deriving DecidableEq, Repr

def ActivationReadiness.transitionPermitted (readiness : ActivationReadiness) : Bool :=
  readiness.permitted == 1

inductive CpuCapabilityError where
  | missingBasicFeatureLeaf
  | missingExtendedFeatureLeaf
  | missingAddressWidthLeaf
  | longModeUnsupported
  | nxUnsupported
  | msrUnsupported
  | paeUnsupported
  | pagingInactive
  | longModeInactive
  | contradictoryLongModeState
  | paeInactive
  | contradictoryLa57State
  | la57Enabled
  | invalidPhysicalAddressWidth
  | invalidLinearAddressWidth
  | contradictoryLinearAddressWidth
  | unsupportedCr3Encoding
  | invalidCurrentCr3Root
  | invalidProposedRoot
  | invalidRequiredPhysicalRange
  | architecturePhysicalCapExceeded
  | mappedPhysicalRangeUnsupported
  | ownedFrameUnsupported
  | proposedRootUnsupported
  | inheritedCr3Changed
deriving DecidableEq, Repr

def Cr3StabilityToken.verify (token : Cr3StabilityToken) (observedCr3 : Nat) :
    Except CpuCapabilityError Unit :=
  if token.cr3 = observedCr3 then .ok () else .error .inheritedCr3Changed

/-! ## Validation -/

namespace RawCpuSnapshot

open Cpu

variable (raw : RawCpuSnapshot)

/-- A register's hardening bit, as it is now. -/
def hardening (set : Prop) [Decidable set] : HardeningState :=
  if set then .enabled else .mustEnableBeforeActivation

def la57Supported : Bool :=
  decide (raw.maximumBasicLeaf ≥ 7 ∧ raw.structuredFeatureEcx &&& cpuidLa57 ≠ 0)

/-- The checks of the leaves, the features and the active mode. -/
def checkMode : Except CpuCapabilityError Unit :=
  if raw.maximumBasicLeaf < 1 then .error .missingBasicFeatureLeaf
  else if raw.maximumExtendedLeaf < 0x80000001 then .error .missingExtendedFeatureLeaf
  else if raw.maximumExtendedLeaf < 0x80000008 then .error .missingAddressWidthLeaf
  else if raw.extendedFeatureEdx &&& cpuidLongMode = 0 then .error .longModeUnsupported
  else if raw.extendedFeatureEdx &&& cpuidNx = 0 then .error .nxUnsupported
  else if raw.basicFeatureEdx &&& cpuidMsr = 0 then .error .msrUnsupported
  else if raw.basicFeatureEdx &&& cpuidPae = 0 then .error .paeUnsupported
  else if raw.cr0 &&& cr0Pg = 0 then .error .pagingInactive
  else if raw.efer &&& eferLma = 0 then .error .longModeInactive
  else if raw.efer &&& eferLme = 0 then .error .contradictoryLongModeState
  else if raw.cr4 &&& cr4Pae = 0 then .error .paeInactive
  else if raw.cr4 &&& cr4La57 ≠ 0 then
    if raw.la57Supported = false then .error .contradictoryLa57State else .error .la57Enabled
  else .ok ()

def reportedPhysicalBits : Nat := raw.addressWidthEax &&& 0xff

def reportedLinearBits : Nat := raw.addressWidthEax >>> 8 &&& 0xff

def addressMask : Nat :=
  ((1 <<< raw.reportedPhysicalBits) - 1) &&& ((wordLimit - 1) ^^^ (pageSize - 1))

def allowedLow : Nat := if raw.cr4 &&& cr4Pcide ≠ 0 then pageSize - 1 else cr3PwtPcd

def validate : Except CpuCapabilityError ValidatedCpuSnapshot := do
  raw.checkMode
  if width : ¬ (minPhysicalAddressBits ≤ raw.reportedPhysicalBits ∧
      raw.reportedPhysicalBits ≤ maxPhysicalAddressBits) then
    .error .invalidPhysicalAddressWidth
  else if raw.reportedLinearBits ≠ fourLevelLinearAddressBits ∧
      raw.reportedLinearBits ≠ fiveLevelLinearAddressBits then
    .error .invalidLinearAddressWidth
  else if raw.reportedLinearBits = fiveLevelLinearAddressBits ∧ raw.la57Supported = false then
    .error .contradictoryLinearAddressWidth
  else if raw.cr3 &&& ((wordLimit - 1) ^^^ (raw.addressMask ||| raw.allowedLow)) ≠ 0 then
    .error .unsupportedCr3Encoding
  else if raw.cr3 &&& raw.addressMask = 0 ∨ ¬ (raw.cr3 &&& raw.addressMask) % pageSize = 0 then
    .error .invalidCurrentCr3Root
  else .ok {
    physicalAddressBits := raw.reportedPhysicalBits
    reportedLinearAddressBits := raw.reportedLinearBits
    la57Supported := raw.la57Supported
    currentCr3 := {
      rootAddress := raw.cr3 &&& raw.addressMask
      contextOrFlags := (raw.cr3 &&& raw.allowedLow) % 2 ^ 16
      pcidState := if raw.cr4 &&& cr4Pcide ≠ 0 then .enabledMustRemainUnused else .disabled }
    nxe := hardening (raw.efer &&& eferNxe ≠ 0)
    writeProtect := hardening (raw.cr0 &&& cr0Wp ≠ 0)
    pge := if raw.cr4 &&& cr4Pge ≠ 0 then .enabled else .disabled
    stability := ⟨raw.cr3⟩
    width := not_not.mp width }

end RawCpuSnapshot

/-! ## Classification -/

/-- The physical address past the last one the processor has. -/
def ValidatedCpuSnapshot.cpuEnd (snapshot : ValidatedCpuSnapshot) : Nat :=
  1 <<< snapshot.physicalAddressBits

def checkOwnedFrame (cpuEnd : Nat) (frame : PhysicalFrame) : Except CpuCapabilityError Unit := do
  let stop ← okOr (checkedAdd frame.address pageSize) .ownedFrameUnsupported
  if stop > cpuEnd then .error .ownedFrameUnsupported else .ok ()

def ValidatedCpuSnapshot.classifyForHierarchy (snapshot : ValidatedCpuSnapshot)
    (ownedFrames : List PhysicalFrame) (proposedRoot : PhysicalFrame)
    (highestMappedPhysicalEnd : Nat) : Except CpuCapabilityError ActivationReadiness :=
  if ownedFrames.head? ≠ some proposedRoot ∨ proposedRoot.address = 0 then
    .error .invalidProposedRoot
  else if highestMappedPhysicalEnd = 0 then .error .invalidRequiredPhysicalRange
  else if highestMappedPhysicalEnd > supportedPhysicalEnd then
    .error .architecturePhysicalCapExceeded
  else if highestMappedPhysicalEnd > snapshot.cpuEnd then .error .mappedPhysicalRangeUnsupported
  else do
    let rootEnd ← okOr (checkedAdd proposedRoot.address pageSize) .proposedRootUnsupported
    if rootEnd > snapshot.cpuEnd then .error .proposedRootUnsupported
    else do
      checkAll (checkOwnedFrame snapshot.cpuEnd) ownedFrames
      .ok {
        currentCr3 := snapshot.currentCr3
        proposedRoot := proposedRoot.address
        nxe := snapshot.nxe
        writeProtect := snapshot.writeProtect
        pge := snapshot.pge
        pcid := snapshot.currentCr3.pcidState
        physicalAddressBits := snapshot.physicalAddressBits
        effectiveLinearAddressBits := fourLevelLinearAddressBits
        permitted := 1
        stability := snapshot.stability }

theorem checkOwnedFrame_eq_ok {cpuEnd : Nat} {frame : PhysicalFrame} :
    checkOwnedFrame cpuEnd frame = .ok () ↔ frame.address + pageSize ≤ cpuEnd := by
  have supported := frame.supported
  have fits : frame.address + pageSize < wordLimit := by
    simp only [supportedPhysicalEnd, pageSize, wordLimit] at supported ⊢
    omega
  have sum : checkedAdd frame.address pageSize = some (frame.address + pageSize) := if_pos fits
  rw [checkOwnedFrame, sum, okOr_some, ok_bind, guard_eq_ok, not_lt]
  exact and_iff_left rfl

/-- What a readiness says of the frames it was made for. -/
theorem ValidatedCpuSnapshot.classifyForHierarchy_eq_ok {snapshot : ValidatedCpuSnapshot}
    {ownedFrames : List PhysicalFrame} {proposedRoot : PhysicalFrame}
    {highestMappedPhysicalEnd : Nat} {readiness : ActivationReadiness}
    (classified : snapshot.classifyForHierarchy ownedFrames proposedRoot
      highestMappedPhysicalEnd = .ok readiness) :
    readiness.transitionPermitted = true ∧ readiness.proposedRoot = proposedRoot.address ∧
      readiness.physicalAddressBits = snapshot.physicalAddressBits ∧
      ∀ frame ∈ ownedFrames, frame.address + pageSize ≤ 2 ^ readiness.physicalAddressBits := by
  simp only [classifyForHierarchy, guard_eq_ok, bind_eq_ok, Except.ok.injEq] at classified
  obtain ⟨_, _, _, _, _, _, _, _, checked, rfl⟩ := classified
  refine ⟨rfl, rfl, rfl, ?_⟩
  intro frame member
  have below := checkOwnedFrame_eq_ok.mp (checkAll_eq_ok.mp checked frame member)
  rwa [cpuEnd, Nat.one_shiftLeft] at below

/-! ## The current root -/

namespace RawCpuSnapshot

open Cpu

variable {raw : RawCpuSnapshot} {snapshot : ValidatedCpuSnapshot}

/-- What an accepted register has passed, and what is made of it. -/
theorem validate_eq_ok (validated : raw.validate = .ok snapshot) :
    raw.cr3 &&& (raw.addressMask ||| raw.allowedLow) = raw.cr3 ∧
      raw.cr3 &&& raw.addressMask ≠ 0 ∧ (raw.cr3 &&& raw.addressMask) % pageSize = 0 ∧
      snapshot.physicalAddressBits = raw.reportedPhysicalBits ∧
      snapshot.currentCr3.rootAddress = raw.cr3 &&& raw.addressMask ∧
      snapshot.currentCr3.contextOrFlags = (raw.cr3 &&& raw.allowedLow) % 2 ^ 16 := by
  simp only [validate, bind_eq_ok] at validated
  obtain ⟨_, _, validated⟩ := validated
  split at validated
  · contradiction
  · simp only [guard_eq_ok, Except.ok.injEq, not_or, not_not] at validated
    obtain ⟨_, _, encoding, ⟨nonzero, aligned⟩, rfl⟩ := validated
    exact ⟨and_eq_self_of_outside raw.registers.2.1 encoding, nonzero, aligned, rfl, rfl, rfl⟩

theorem addressMask_lt : raw.addressMask < 2 ^ raw.reportedPhysicalBits := by
  have positive := Nat.two_pow_pos raw.reportedPhysicalBits
  rw [addressMask, Nat.one_shiftLeft]
  exact Nat.lt_of_le_of_lt Nat.and_le_left (by omega)

theorem allowedLow_lt : raw.allowedLow < 2 ^ 12 := by
  unfold allowedLow
  split
  · decide
  · decide

theorem cr3PwtPcd_testBit {bit : Nat} (set : cr3PwtPcd.testBit bit = true) :
    bit = 3 ∨ bit = 4 := by
  have low : ∀ bit < 5, cr3PwtPcd.testBit bit = true → bit = 3 ∨ bit = 4 := by decide
  by_cases small : bit < 5
  · exact low bit small set
  · have above : cr3PwtPcd.testBit bit = false := Nat.testBit_lt_two_pow
      (Nat.lt_of_lt_of_le (by decide : cr3PwtPcd < 2 ^ 5)
        (Nat.pow_le_pow_right (by decide) (by omega)))
    rw [above] at set
    contradiction

/-- The low part is below a page, so its narrowing to 16 bits loses nothing. -/
theorem validate_contextOrFlags (validated : raw.validate = .ok snapshot) :
    snapshot.currentCr3.contextOrFlags = raw.cr3 &&& raw.allowedLow ∧
      snapshot.currentCr3.contextOrFlags < 2 ^ 12 := by
  obtain ⟨_, _, _, _, _, context⟩ := validate_eq_ok validated
  have below : raw.cr3 &&& raw.allowedLow < 2 ^ 12 :=
    Nat.lt_of_le_of_lt Nat.and_le_right allowedLow_lt
  rw [context, Nat.mod_eq_of_lt (by omega)]
  exact ⟨rfl, below⟩

theorem validate_lossless (validated : raw.validate = .ok snapshot) :
    snapshot.currentCr3.rootAddress + snapshot.currentCr3.contextOrFlags = raw.cr3 := by
  obtain ⟨covered, _, aligned, _, root, _⟩ := validate_eq_ok validated
  obtain ⟨context, below⟩ := validate_contextOrFlags validated
  have rootAligned : snapshot.currentCr3.rootAddress % 2 ^ 12 = 0 := root ▸ aligned
  calc snapshot.currentCr3.rootAddress + snapshot.currentCr3.contextOrFlags
      = snapshot.currentCr3.rootAddress ||| snapshot.currentCr3.contextOrFlags :=
        (or_eq_add rootAligned below).symm
    _ = raw.cr3 &&& (raw.addressMask ||| raw.allowedLow) := by
        rw [root, context, Nat.and_or_distrib_left]
    _ = raw.cr3 := covered

end RawCpuSnapshot

theorem ValidatedCpuSnapshot.classifyForHierarchy_ok_iff (snapshot : ValidatedCpuSnapshot)
    (ownedFrames : List PhysicalFrame) (proposedRoot : PhysicalFrame)
    (highestMappedPhysicalEnd : Nat) :
    (∃ readiness, snapshot.classifyForHierarchy ownedFrames proposedRoot
      highestMappedPhysicalEnd = .ok readiness) ↔
      ownedFrames[0]? = some proposedRoot ∧ 0 < highestMappedPhysicalEnd ∧
        highestMappedPhysicalEnd ≤ supportedPhysicalEnd ∧
        highestMappedPhysicalEnd ≤ 2 ^ snapshot.physicalAddressBits ∧
        ∀ frame ∈ ownedFrames, frame.address + pageSize ≤ 2 ^ snapshot.physicalAddressBits := by
  have supported := proposedRoot.supported
  have sum : checkedAdd proposedRoot.address pageSize = some (proposedRoot.address + pageSize) :=
    checkedAdd_eq_some.mpr ⟨by simp only [supportedPhysicalEnd, pageSize, wordLimit] at *; omega, rfl⟩
  have passes : checkAll (checkOwnedFrame (2 ^ snapshot.physicalAddressBits)) ownedFrames =
      .ok () ↔ ∀ frame ∈ ownedFrames, frame.address + pageSize ≤ 2 ^ snapshot.physicalAddressBits := by
    simp only [checkAll_eq_ok, checkOwnedFrame_eq_ok]
  simp only [classifyForHierarchy, cpuEnd, Nat.one_shiftLeft, sum, okOr_some, ok_bind, guard_eq_ok,
    bind_eq_ok, Except.ok.injEq, not_or, not_not, not_lt, ← List.head?_eq_getElem?, ← passes]
  constructor
  · intro accepted
    obtain ⟨_, ⟨first, _⟩, positive, architecture, cpu, _, _, frames, _⟩ := accepted
    exact ⟨first, Nat.pos_of_ne_zero positive, architecture, cpu, frames⟩
  · intro conditions
    obtain ⟨first, positive, architecture, cpu, frames⟩ := conditions
    exact ⟨_, ⟨first, proposedRoot.nonzero⟩, Nat.ne_of_gt positive, architecture, cpu,
      passes.mp frames proposedRoot (List.mem_of_head? first), (), frames, rfl⟩

/-- The current root as the snapshot keeps it, and exactly which hierarchies
the snapshot accepts. -/
theorem RawCpuSnapshot.validate_sound {raw : RawCpuSnapshot} {snapshot : ValidatedCpuSnapshot}
    (validated : raw.validate = .ok snapshot) :
    snapshot.currentCr3.rootAddress + snapshot.currentCr3.contextOrFlags = raw.cr3 ∧
    (snapshot.currentCr3.rootAddress ≠ 0 ∧ 4096 ∣ snapshot.currentCr3.rootAddress ∧
      snapshot.currentCr3.rootAddress < 2 ^ snapshot.physicalAddressBits) ∧
    (raw.cr4 &&& Cpu.cr4Pcide = 0 →
      ∀ bit, snapshot.currentCr3.contextOrFlags.testBit bit = true → bit = 3 ∨ bit = 4) ∧
    ∀ (frames : List PhysicalFrame) (root : PhysicalFrame) (mappedEnd : Nat),
      (∃ readiness, snapshot.classifyForHierarchy frames root mappedEnd = .ok readiness) ↔
        (frames ≠ [] ∧ frames[0]? = some root) ∧
        (0 < mappedEnd ∧ mappedEnd ≤ min (2 ^ 46) (2 ^ snapshot.physicalAddressBits)) ∧
        ∀ frame ∈ frames, frame.address + 4096 ≤ 2 ^ snapshot.physicalAddressBits := by
  obtain ⟨_, nonzero, aligned, bits, root, _⟩ := validate_eq_ok validated
  refine ⟨validate_lossless validated, ⟨?_, ?_, ?_⟩, ?_, ?_⟩
  · rwa [root]
  · rw [root]
    exact Nat.dvd_of_mod_eq_zero aligned
  · rw [root, bits]
    exact Nat.lt_of_le_of_lt Nat.and_le_right addressMask_lt
  · intro disabled bit set
    rw [(validate_contextOrFlags validated).1, allowedLow, if_neg (not_not.mpr disabled),
      Nat.testBit_and, Bool.and_eq_true] at set
    exact cr3PwtPcd_testBit set.2
  · intro frames proposed mappedEnd
    have nonempty (first : frames[0]? = some proposed) : frames ≠ [] := by
      intro empty
      rw [empty] at first
      contradiction
    rw [snapshot.classifyForHierarchy_ok_iff]
    constructor
    · intro conditions
      obtain ⟨first, positive, architecture, cpu, fits⟩ := conditions
      exact ⟨⟨nonempty first, first⟩, ⟨positive, le_min architecture cpu⟩, fits⟩
    · intro conditions
      obtain ⟨⟨_, first⟩, ⟨positive, below⟩, fits⟩ := conditions
      exact ⟨first, positive, Nat.le_trans below (min_le_left _ _),
        Nat.le_trans below (min_le_right _ _), fits⟩

/-- A processor with 52 address bits whose root is walked uncached. -/
def uncachedRootCpu : RawCpuSnapshot where
  maximumBasicLeaf := 7
  maximumExtendedLeaf := 0x8000_0008
  basicFeatureEdx := (1 <<< 5) ||| (1 <<< 6)
  structuredFeatureEcx := 1 <<< 16
  extendedFeatureEdx := (1 <<< 20) ||| (1 <<< 29)
  addressWidthEax := 52 ||| (57 <<< 8)
  cr0 := 1 <<< 31
  cr3 := 0x000f_1234_5678_9018
  cr4 := 1 <<< 5
  efer := (1 <<< 8) ||| (1 <<< 10)
  leaves := by decide
  registers := by decide

theorem RawCpuSnapshot.validate_sound_uncachedRootCpu :
    ∃ snapshot, uncachedRootCpu.validate = .ok snapshot ∧
      snapshot.currentCr3.rootAddress + snapshot.currentCr3.contextOrFlags =
        0x000f_1234_5678_9018 ∧
      (∀ bit, snapshot.currentCr3.contextOrFlags.testBit bit = true → bit = 3 ∨ bit = 4) ∧
      ∀ root, ∃ readiness, snapshot.classifyForHierarchy [root] root (2 ^ 46) = .ok readiness := by
  obtain ⟨snapshot, validated, wide⟩ : ∃ snapshot, uncachedRootCpu.validate = .ok snapshot ∧
      snapshot.physicalAddressBits = 52 := ⟨_, rfl, rfl⟩
  obtain ⟨lossless, _, flags, accepts⟩ := RawCpuSnapshot.validate_sound validated
  refine ⟨snapshot, validated, lossless, flags (by decide), ?_⟩
  intro root
  have supported := root.supported
  rw [wide] at accepts
  refine (accepts [root] root (2 ^ 46)).mpr ⟨⟨by simp, rfl⟩, by decide, ?_⟩
  intro frame member
  rw [List.mem_singleton.mp member]
  simp only [supportedPhysicalEnd] at supported
  omega

end UnnamedOS.PageTable
