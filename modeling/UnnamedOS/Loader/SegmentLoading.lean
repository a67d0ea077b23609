import UnnamedOS.Loader.KernelFile
import UnnamedOS.Loader.PrepareAndExit

namespace UnnamedOS.Loader

open UnnamedOS.Data UnnamedOS.PageTable

/-! # From the file to the loaded kernel

`load_verify_and_release` copies the segments to their pages, sees that neither
the copies nor the source have changed, gives the source back and goes on with
the owner of the copies alone. -/

/-- `LoadError` of the segments' module. -/
inductive SegmentLoadError where
  | plan
  | sourceOverlap
  | alloc
  | zero
  | copy
  | verify
  | free
  | ownership
  | metadata
  | sourceFree
  | ownershipProbe
  | bootInfo (error : BootInfoLoadError)
deriving DecidableEq, Repr

/-- The FNV-1a hash. -/
def fingerprint (bytes : List UInt8) : Nat :=
  bytes.foldl (fun hash byte => ((hash ^^^ byte.toNat) * 0x0000_0100_0000_01b3) % wordLimit)
    0xcbf2_9ce4_8422_2325

def mapWorkError (failure : LoadWorkFailure Unit BackendError) : SegmentLoadError :=
  if failure.error = .free then .free
  else
    match failure.kind with
    | .allocate => .alloc
    | .zero => .zero
    | .copy => .copy
    | .verify => .verify

def metadataMatchesPlan (loaded : LoadedKernel Unit) (plan : LoadPlan) : Bool :=
  decide (loaded.entryPoint = plan.entry) &&
  decide (loaded.segmentCount = plan.items.length) &&
  decide (checkedMul loaded.totalPages 4096 = some plan.totalPageBytes) &&
  decide (some loaded.loadRange.start = (plan.items.map LoadItem.pageStart).min?) &&
  decide (some loaded.loadRange.stop =
    (plan.items.filterMap fun item => checkedAdd item.pageStart item.pageLength).max?) &&
  (loaded.segments.zip plan.items).all fun entry =>
    decide (entry.1.memoryStart = entry.2.targetStart ∧ entry.1.memoryEnd = entry.2.targetEnd ∧
      entry.1.allocationStart = entry.2.pageStart ∧ entry.1.pageCount = entry.2.pageCount ∧
      entry.1.flags = entry.2.flags ∧ entry.1.fileSize = entry.2.fileSize ∧
      entry.1.memorySize = entry.2.memorySize)

/-- The reference kernel's numbers. -/
def referenceMetadataMatches (loaded : LoadedKernel Unit) : Bool :=
  decide (loaded.entryPoint = 0x0020_0000 ∧ loaded.loadRange.start = 0x0020_0000 ∧
    loaded.loadRange.stop = 0x0020_7000 ∧ loaded.segmentCount = 3 ∧ loaded.totalPages = 7 ∧
    loaded.entrySegmentIndex = 0)

section

variable {φ ε : Type} (firmware : Firmware φ)

/-! ## The segments -/

/-- A loop over an owner, on the machine. -/
def onMachine {δ : Type}
    (loop : Machine φ → Except (LoadWorkFailure (Machine φ) δ) (TargetOwnership (Machine φ))) :
    Program (Machine φ) (LoadWorkFailure Unit δ) (TargetOwnership Unit) := fun machine =>
  match loop machine with
  | .error failure =>
      (.error ⟨failure.kind, failure.error, ⟨(), failure.owner.slots⟩⟩, failure.owner.backend)
  | .ok owner => (.ok ⟨(), owner.slots⟩, owner.backend)

/-- `prepare_targets` with the lines of its stages; the last stage has none. -/
def loadTargets (kernel : ValidatedKernel) (plan : LoadPlan) :
    Program (Machine φ) (LoadWorkFailure Unit BackendError) (TargetOwnership Unit) := do
  let ops := uefiTargetBackend firmware fun machine => (kernel.scratch.bytes machine).data
  let owner ← onMachine fun machine => allocateTargets ops.toPageBackend machine []
    ((TargetOwnership.new plan ()).slots.map Prod.fst)
  writeLine "UNOS:P1E:SEGMENTS_ALLOCATED"
  let owner ← onMachine fun machine => workTargets .zero ops.zero ⟨machine, owner.slots⟩ plan.items
  writeLine "UNOS:P1E:SEGMENTS_ZEROED"
  let owner ← onMachine fun machine => workTargets .copy (fun state item => ops.copy state item [])
    ⟨machine, owner.slots⟩ plan.items
  writeLine "UNOS:P1E:SEGMENTS_COPIED"
  onMachine fun machine => workTargets .verify (fun state item => ops.verify state item [])
    ⟨machine, owner.slots⟩ plan.items

def dropTargets (owner : TargetOwnership Unit) (machine : Machine φ) : Machine φ :=
  dropSlots (uefiTargetPages firmware).freeAllocation machine owner.slots

/-- `try_release().is_ok()`. -/
def releaseTargets (owner : TargetOwnership Unit) :
    Program (Machine φ) ε (Bool × TargetOwnership Unit) :=
  .call fun machine =>
    let (result, owner) :=
      TargetOwnership.tryRelease (uefiTargetPages firmware) ⟨machine, owner.slots⟩
    ((result.isOk, ⟨(), owner.slots⟩), owner.backend)

def releaseSourceAfterError {α : Type} (kernel : ValidatedKernel) (primary : SegmentLoadError) :
    Program (Machine φ) (Stop SegmentLoadError) α := do
  let released ← kernel.scratch.release firmware
  .stop (.returned (if released.isOk then primary else .free))

/-- Both owners are given back; what cannot be given back is dropped, and
reported in place of the first error. -/
def releaseBothAfterError {α : Type} (kernel : ValidatedKernel) (owner : TargetOwnership Unit)
    (primary : SegmentLoadError) : Program (Machine φ) (Stop SegmentLoadError) α := do
  let released ← releaseTargets firmware owner
  let sourceReleased ← kernel.scratch.release firmware
  .change (dropTargets firmware released.2)
  .stop (.returned (if released.1 = true ∧ sourceReleased.isOk = true then primary else .free))

/-! ## The loaded kernel -/

/-- The plan for the validated bytes. -/
def planSegments (kernel : ValidatedKernel) :
    Program (Machine φ) (Stop SegmentLoadError) LoadPlan := do
  let bytes ← .look kernel.scratch.bytes
  match KernelImage.validateBootstrapImage bytes with
  | .error .panic => panicked
  | .error (.rejected _) => releaseSourceAfterError firmware kernel .plan
  | .ok image =>
      match LoadPlan.fromValidated image kernel.sourceAllocation with
      | .error .sourceOverlap => releaseSourceAfterError firmware kernel .sourceOverlap
      | .error _ => releaseSourceAfterError firmware kernel .plan
      | .ok plan => do
          writeLine "UNOS:P1E:PLAN_VALID"
          pure plan

/-- `source_is_unchanged`: the same fingerprint, and still an image of that plan. -/
def sourceUnchanged (kernel : ValidatedKernel) (plan : LoadPlan) (before : Nat) :
    Program (Machine φ) (Stop SegmentLoadError) Bool := do
  let bytes ← .look kernel.scratch.bytes
  if fingerprint bytes.data ≠ before then pure false
  else
    match KernelImage.validateBootstrapImage bytes with
    | .error .panic => panicked
    | .error (.rejected _) => pure false
    | .ok image => pure (decide (image.raw.header.entry = plan.entry ∧ ∃ item ∈ plan.items,
        item.isExecutable = true ∧ image.raw.header.entry ≥ item.targetStart ∧
          image.raw.header.entry < item.targetEnd))

/-- The copies, once the source is known to be what it was. -/
def loadSegments (kernel : ValidatedKernel) (plan : LoadPlan) :
    Program (Machine φ) (Stop SegmentLoadError) (LoadedKernel Unit) := do
  let before ← .look fun machine => fingerprint (kernel.scratch.bytes machine).data
  let prepared ← (loadTargets firmware kernel plan).attempt
  match prepared with
  | .error failure => releaseBothAfterError firmware kernel failure.owner (mapWorkError failure)
  | .ok owner => do
      let unchanged ← sourceUnchanged kernel plan before
      if unchanged = true then do
        writeLine "UNOS:P1E:LOAD_VERIFIED"
        pure (LoadedKernel.fromVerified plan owner)
      else releaseBothAfterError firmware kernel owner .verify

/-- What the loaded kernel says of itself, while the source is still there. -/
def checkLoaded (loaded : LoadedKernel Unit) (plan : LoadPlan) :
    Program (Machine φ) (Stop SegmentLoadError) Unit := do
  if loaded.isReleased = true then .stop (.returned .ownership)
  else do
    writeLine "UNOS:P1F:OWNERSHIP_READY"
    if metadataMatchesPlan loaded plan = false then .stop (.returned .metadata)
    else writeLine "UNOS:P1F:METADATA_VALID"

/-- A refused source takes the copies with it. -/
def releaseSource (kernel : ValidatedKernel) (loaded : LoadedKernel Unit) :
    Program (Machine φ) (Stop SegmentLoadError) Unit := do
  let released ← kernel.scratch.release firmware
  if released.isOk = true then writeLine "UNOS:P1F:SOURCE_RELEASED"
  else do
    let targets ← releaseTargets firmware loaded.owner
    .change (dropTargets firmware targets.2)
    .stop (.returned .sourceFree)

/-- `prove_page_owned` on the machine: nobody else can have the page. -/
def ownershipProbe (pageStart : Nat) : Program (Machine φ) ε Bool := do
  let reply ← ask firmware (.allocatePages (.address pageStart) 1)
  match reply with
  | .error _ => pure true
  | .ok allocated => do
      let _ ← .call fun machine =>
        freePages firmware BackendError.free .range machine allocated.val 1
      pure false

def proveOwnership (loaded : LoadedKernel Unit) :
    Program (Machine φ) (Stop SegmentLoadError) Unit := do
  if referenceMetadataMatches loaded = false then .stop (.returned .metadata)
  else do
    let owned ← ownershipProbe firmware loaded.loadRange.start
    if owned = false then .stop (.returned .ownershipProbe)
    else writeLine "UNOS:P1F:OWNERSHIP_PROVEN"

def loadVerifyAndRelease (features : TestFeatures) (kernel : ValidatedKernel) :
    Program (Machine φ) (Stop SegmentLoadError) (CapturedMapMeta × KernelArguments) := do
  let plan ← planSegments firmware kernel
  let loaded ← loadSegments firmware kernel plan
  unwinding (fun machine => kernel.scratch.drop firmware (loaded.dropOn firmware machine))
    (checkLoaded loaded plan)
  releaseSource firmware kernel loaded
  unwinding (loaded.dropOn firmware) (proveOwnership firmware loaded)
  returning .bootInfo (prepareAndExit firmware features loaded)

end

end UnnamedOS.Loader
