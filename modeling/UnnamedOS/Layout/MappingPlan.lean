import UnnamedOS.Data.Spans
import UnnamedOS.Layout.Address

namespace UnnamedOS.Layout

open UnnamedOS.Data

/-! # The mapping plan

`MappingPlan` is the acceptance contract of an address space: a bounded list
of virtual ranges sorted by start, each either backed by a physical range or
left as a guard.  Insertion checks the policy of the mapping's kind and then
the mapping against every range already in the plan. -/

namespace MappingPermissions

def read : UInt8 := 1
def write : UInt8 := 2
def execute : UInt8 := 4
def userBit : UInt8 := 8
def global : UInt8 := 16

end MappingPermissions

open MappingPermissions in
/-- `MappingPermissions`, with the checks of `from_bits` as its fields. -/
@[ext] structure MappingPermissions where
  bits : UInt8
  known : bits &&& ~~~ (read ||| write ||| execute ||| userBit ||| global) = 0
  readable : bits &&& read ≠ 0
  exclusive : bits &&& (write ||| execute) ≠ write ||| execute
deriving DecidableEq

namespace MappingPermissions

def fromBits (bits : UInt8) : Except LayoutError MappingPermissions :=
  if known : bits &&& ~~~ (read ||| write ||| execute ||| userBit ||| global) ≠ 0 then
    .error .unknownPermissionBits
  else if readable : bits &&& read = 0 then .error .readPermissionRequired
  else if exclusive : bits &&& (write ||| execute) = write ||| execute then
    .error .writableExecutable
  else .ok ⟨bits, not_not.mp known, readable, exclusive⟩

def kernelRx : MappingPermissions := ⟨21, by decide, by decide, by decide⟩
def kernelR : MappingPermissions := ⟨17, by decide, by decide, by decide⟩
def kernelRw : MappingPermissions := ⟨19, by decide, by decide, by decide⟩

def writable (permissions : MappingPermissions) : Bool := permissions.bits &&& write != 0
def executable (permissions : MappingPermissions) : Bool := permissions.bits &&& execute != 0
def user (permissions : MappingPermissions) : Bool := permissions.bits &&& userBit != 0

theorem fromBits_bits (permissions : MappingPermissions) :
    fromBits permissions.bits = .ok permissions := by
  unfold fromBits
  rw [dif_neg (not_not.mpr permissions.known), dif_neg permissions.readable,
    dif_neg permissions.exclusive]

end MappingPermissions

inductive CachePolicy where
  | writeBack
  | uncached
deriving DecidableEq, Repr

inductive AddressRegion where
  | userSpace
  | directMap
  | kernelServices
  | mmio
  | framebuffer
  | reserved
  | kernelImage
  | kernelLocal
deriving DecidableEq, Repr

private def declared (start stop : Nat) (bounds : VirtualBounds start stop) : VirtualRange :=
  ⟨⟨start, bounds.startCanonical⟩, stop, bounds⟩

def regionRange : AddressRegion → VirtualRange
  | .userSpace => declared userSpaceStart userSpaceEnd (by constructor <;> decide)
  | .directMap => declared directMapStart directMapEnd (by constructor <;> decide)
  | .kernelServices => declared kernelServicesStart kernelServicesEnd (by constructor <;> decide)
  | .mmio => declared mmioStart mmioEnd (by constructor <;> decide)
  | .framebuffer => declared framebufferStart framebufferEnd (by constructor <;> decide)
  | .reserved => declared highReservedStart highReservedEnd (by constructor <;> decide)
  | .kernelImage => declared kernelImageStart kernelImageEnd (by constructor <;> decide)
  | .kernelLocal => declared kernelLocalStart kernelLocalEnd (by constructor <;> decide)

inductive MappingKind where
  | kernelText
  | kernelRodata
  | kernelData
  | bootstrapStack
  | bootInfo
  | bootMemoryMap
  | pageTable
  | directMap
  | framebuffer
  | mmio
  | transitionIdentity
  | guard
deriving DecidableEq, Repr

inductive EntryBacking where
  | mapped (range : PhysicalRange)
  | unmapped
deriving DecidableEq

/-- `PlanEntry`.  The source keeps the backing, the permissions and the cache
policy as three options; only the two insertions below build an entry, and
they fill all three or none.  The constructors are those two shapes. -/
inductive PlanEntry where
  | mapping (range : VirtualRange) (physical : PhysicalRange)
      (permissions : MappingPermissions) (cache : CachePolicy) (kind : MappingKind)
  | guard (range : VirtualRange)
deriving DecidableEq

namespace PlanEntry

def virtualRange : PlanEntry → VirtualRange
  | .mapping range _ _ _ _ => range
  | .guard range => range

def backing : PlanEntry → EntryBacking
  | .mapping _ physical _ _ _ => .mapped physical
  | .guard _ => .unmapped

def permissions : PlanEntry → Option MappingPermissions
  | .mapping _ _ permissions _ _ => some permissions
  | .guard _ => none

def cachePolicy : PlanEntry → Option CachePolicy
  | .mapping _ _ _ cache _ => some cache
  | .guard _ => none

def kind : PlanEntry → MappingKind
  | .mapping _ _ _ _ kind => kind
  | .guard _ => .guard

end PlanEntry

/-- The `matches!` on the three kernel permission sets. -/
def isKernelPermissions (permissions : MappingPermissions) : Prop :=
  permissions = .kernelRx ∨ permissions = .kernelR ∨ permissions = .kernelRw

instance (permissions : MappingPermissions) : Decidable (isKernelPermissions permissions) :=
  inferInstanceAs (Decidable (_ ∨ _))

/-- The tail of `validate_mapping_policy`, shared by the kinds whose region,
permissions and cache policy are all fixed. -/
def validatePrescribed (virtualRange : VirtualRange) (permissions : MappingPermissions)
    (cache : CachePolicy) (region : AddressRegion) (expectedPermissions : MappingPermissions)
    (expectedCache : CachePolicy) : Except LayoutError Unit :=
  if ¬ (regionRange region).containsRange virtualRange then .error .outsideDeclaredRegion
  else if permissions ≠ expectedPermissions then .error .invalidRegionPermissions
  else if cache ≠ expectedCache then .error .invalidCachePolicy
  else .ok ()

/-- The `match kind` of `validate_mapping_policy`. -/
def validateKind (virtualRange : VirtualRange) (physicalRange : PhysicalRange)
    (permissions : MappingPermissions) (cache : CachePolicy) :
    MappingKind → Except LayoutError Unit
  | .kernelText => validatePrescribed virtualRange permissions cache .kernelImage .kernelRx .writeBack
  | .kernelRodata => validatePrescribed virtualRange permissions cache .kernelImage .kernelR .writeBack
  | .kernelData => validatePrescribed virtualRange permissions cache .kernelImage .kernelRw .writeBack
  | .bootstrapStack =>
      validatePrescribed virtualRange permissions cache .kernelLocal .kernelRw .writeBack
  | .bootInfo => validatePrescribed virtualRange permissions cache .directMap .kernelR .writeBack
  | .bootMemoryMap => validatePrescribed virtualRange permissions cache .directMap .kernelR .writeBack
  | .pageTable => validatePrescribed virtualRange permissions cache .directMap .kernelRw .writeBack
  | .directMap =>
      if ¬ isKernelPermissions permissions then .error .invalidRegionPermissions
      else if cache ≠ .writeBack then .error .invalidCachePolicy
      else if ¬ (regionRange .directMap).containsRange virtualRange then
        .error .outsideDeclaredRegion
      else .ok ()
  | .framebuffer => validatePrescribed virtualRange permissions cache .framebuffer .kernelRw .uncached
  | .mmio => validatePrescribed virtualRange permissions cache .mmio .kernelRw .uncached
  | .transitionIdentity =>
      if virtualRange.start.value ≠ physicalRange.start.value ∨
          virtualRange.stop ≠ physicalRange.stop then .error .identityAddressMismatch
      else if virtualRange.stop > transitionIdentityEnd then .error .transitionIdentityAboveLimit
      else if ¬ isKernelPermissions permissions then .error .invalidRegionPermissions
      else if cache ≠ .writeBack then .error .invalidCachePolicy
      else .ok ()
  | .guard => .error .invalidRegionPermissions

def validateMappingPolicy (virtualRange : VirtualRange) (physicalRange : PhysicalRange)
    (permissions : MappingPermissions) (cache : CachePolicy) (kind : MappingKind) :
    Except LayoutError Unit := do
  let _ ← MappingPermissions.fromBits permissions.bits
  if permissions.user = true then .error .userMappingForbidden
  else if (kind = .kernelText ∨ kind = .kernelRodata ∨ kind = .kernelData) ∧
      (physicalRange.start.value < bootstrapPhysicalStart ∨
        physicalRange.stop > bootstrapPhysicalEnd) then .error .outsideBootstrapPhysicalWindow
  else if (kind = .directMap ∨ kind = .bootInfo ∨ kind = .bootMemoryMap ∨ kind = .pageTable) ∧
      (checkedAdd directMapStart physicalRange.start.value ≠ some virtualRange.start.value ∨
        checkedAdd directMapStart physicalRange.stop ≠ some virtualRange.stop) then
    .error .directMapAddressMismatch
  else if kind = .bootstrapStack ∧
      (physicalRange.length ≠ bootstrapStackBytes ∨ physicalRange.stop > transitionIdentityEnd) then
    .error .invalidBootstrapStack
  else validateKind virtualRange physicalRange permissions cache kind

/-- `MappingPlan<CAPACITY>`; `entries` is the live prefix of the source's array. -/
structure MappingPlan (capacity : Nat) where
  entries : List PlanEntry
deriving DecidableEq

namespace MappingPlan

variable {capacity : Nat}

def new (capacity : Nat) : MappingPlan capacity := ⟨[]⟩

/-- One iteration of the loop at the head of `insert`. -/
def checkExisting (entry existing : PlanEntry) : Except LayoutError Unit :=
  if existing.virtualRange.overlaps entry.virtualRange then .error .virtualOverlap
  else
    match existing, entry with
    | .mapping _ left leftPermissions _ _, .mapping _ right rightPermissions _ _ =>
        if left.overlaps right then
          if (leftPermissions.writable && rightPermissions.executable) ||
              (rightPermissions.writable && leftPermissions.executable) then
            .error .physicalAliasWriteExecute
          else if leftPermissions.writable ≠ rightPermissions.writable then
            .error .physicalAliasPermissionEscalation
          else .ok ()
        else .ok ()
    | _, _ => .ok ()

/-- The key the plan is sorted by. -/
def startOf (entry : PlanEntry) : Nat := entry.virtualRange.start.value

/-- `insert`: the result beside the plan the caller is left with. -/
def insert (plan : MappingPlan capacity) (entry : PlanEntry) :
    Except LayoutError Unit × MappingPlan capacity :=
  match checkAll (checkExisting entry) plan.entries with
  | .error reason => (.error reason, plan)
  | .ok () =>
      if plan.entries.length = capacity then (.error .planExhausted, plan)
      else (.ok (), ⟨insertOrdered startOf plan.entries entry⟩)

def insertMapping (plan : MappingPlan capacity) (virtualRange : VirtualRange)
    (physicalRange : PhysicalRange) (permissions : MappingPermissions) (cache : CachePolicy)
    (kind : MappingKind) : Except LayoutError Unit × MappingPlan capacity :=
  if virtualRange.length ≠ physicalRange.length then (.error .rangeLengthMismatch, plan)
  else
    match validateMappingPolicy virtualRange physicalRange permissions cache kind with
    | .error reason => (.error reason, plan)
    | .ok () => plan.insert (.mapping virtualRange physicalRange permissions cache kind)

def insertGuard (plan : MappingPlan capacity) (range : VirtualRange) :
    Except LayoutError Unit × MappingPlan capacity :=
  if ¬ (regionRange .kernelLocal).containsRange range then (.error .outsideDeclaredRegion, plan)
  else plan.insert (.guard range)

def translate (plan : MappingPlan capacity) (address : VirtualAddress) :
    Except LayoutError PhysicalAddress := do
  let entry ← okOr (plan.entries.find? fun entry => entry.virtualRange.contains address) .unmapped
  match entry.backing with
  | .unmapped => .error .unmapped
  | .mapped physical =>
      let offset ← okOr (checkedSub address.value entry.virtualRange.start.value) .rangeOverflow
      let translated ← okOr (checkedAdd physical.start.value offset) .rangeOverflow
      PhysicalAddress.new translated

/-- The accumulators of `validate_transition`; the two counts are `u8`s. -/
structure TransitionTally where
  identityBytes : Nat
  trampolineCount : Nat
  stackCount : Nat
deriving DecidableEq

def tallyTransition (tally : TransitionTally) (entry : PlanEntry) :
    Except LayoutError TransitionTally :=
  if entry.virtualRange.start.value < highCanonicalStart then
    match entry with
    | .guard _ => .error .identityAddressMismatch
    | .mapping range _ permissions _ kind =>
        if kind ≠ .transitionIdentity then .error .identityAddressMismatch
        else do
          let identityBytes ←
            okOr (checkedAdd tally.identityBytes range.length) .transitionIdentityTooLarge
          if identityBytes > maxTransitionIdentityBytes then .error .transitionIdentityTooLarge
          else if permissions = .kernelRx ∧ range.length = pageSize then
            if tally.trampolineCount + 1 < 256 then
              .ok { tally with identityBytes, trampolineCount := tally.trampolineCount + 1 }
            else .error .invalidTransitionComposition
          else if permissions = .kernelRw ∧ range.length = bootstrapStackBytes then
            if tally.stackCount + 1 < 256 then
              .ok { tally with identityBytes, stackCount := tally.stackCount + 1 }
            else .error .invalidTransitionComposition
          else .error .invalidTransitionComposition
  else .ok tally

def validateTransition (plan : MappingPlan capacity) : Except LayoutError Unit := do
  let tally ← plan.entries.foldlM tallyTransition ⟨0, 0, 0⟩
  if tally.trampolineCount ≠ 1 ∨ tally.stackCount ≠ 1 then .error .invalidTransitionComposition
  else .ok ()

def checkFinalEntry (entry : PlanEntry) : Except LayoutError Unit :=
  if entry.kind = .transitionIdentity then .error .transitionMappingInFinalPlan
  else if entry.virtualRange.start.value < highCanonicalStart then .error .lowMappingInFinalPlan
  else .ok ()

def checkStackGuard (entries : List PlanEntry) (entry : PlanEntry) : Except LayoutError Unit :=
  if entry.kind = .bootstrapStack then do
    let guardStart ← okOr (checkedSub entry.virtualRange.start.value pageSize) .missingStackGuard
    if ¬ ∃ candidate ∈ entries, candidate.kind = .guard ∧
        candidate.virtualRange.start.value = guardStart ∧
        candidate.virtualRange.stop = entry.virtualRange.start.value then
      .error .missingStackGuard
    else .ok ()
  else .ok ()

def validateFinal (plan : MappingPlan capacity) : Except LayoutError Unit := do
  checkAll checkFinalEntry plan.entries
  checkAll (checkStackGuard plan.entries) plan.entries

/-- A call of the plan's public mutators. -/
inductive Call where
  | insertMapping (virtualRange : VirtualRange) (physicalRange : PhysicalRange)
      (permissions : MappingPermissions) (cache : CachePolicy) (kind : MappingKind)
  | insertGuard (range : VirtualRange)

/-- The entry a call asks for. -/
def Call.entry : Call → PlanEntry
  | .insertMapping virtualRange physicalRange permissions cache kind =>
      .mapping virtualRange physicalRange permissions cache kind
  | .insertGuard range => .guard range

def apply (plan : MappingPlan capacity) : Call → Except LayoutError Unit × MappingPlan capacity
  | .insertMapping virtualRange physicalRange permissions cache kind =>
      plan.insertMapping virtualRange physicalRange permissions cache kind
  | .insertGuard range => plan.insertGuard range

/-- The plan a sequence of calls leaves, whatever each of them returned. -/
def run (plan : MappingPlan capacity) (calls : List Call) : MappingPlan capacity :=
  calls.foldl (fun current call => (current.apply call).2) plan

end MappingPlan

end UnnamedOS.Layout
