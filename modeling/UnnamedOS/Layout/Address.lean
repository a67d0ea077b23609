import UnnamedOS.Data.Fallible
import UnnamedOS.Data.Word

namespace UnnamedOS.Layout

open UnnamedOS.Data

/-! # Addresses and ranges of the `memory-layout` crate

Addresses are naturals below the word limit.  The newtypes of the source hold
their checks as fields, so a range that exists has passed its constructor. -/

@[simp] def pageSize : Nat := 4096
@[simp] def lowCanonicalEnd : Nat := 0x0000_8000_0000_0000
@[simp] def highCanonicalStart : Nat := 0xffff_8000_0000_0000
@[simp] def supportedPhysicalEnd : Nat := 0x0000_4000_0000_0000

@[simp] def userSpaceStart : Nat := 0x0000_0000_0001_0000
@[simp] def userSpaceEnd : Nat := 0x0000_7fff_ffff_f000
@[simp] def directMapStart : Nat := 0xffff_8000_0000_0000
@[simp] def directMapEnd : Nat := 0xffff_c000_0000_0000
@[simp] def kernelServicesStart : Nat := 0xffff_c000_0000_0000
@[simp] def kernelServicesEnd : Nat := 0xffff_e000_0000_0000
@[simp] def mmioStart : Nat := 0xffff_e000_0000_0000
@[simp] def mmioEnd : Nat := 0xffff_e800_0000_0000
@[simp] def framebufferStart : Nat := 0xffff_e800_0000_0000
@[simp] def framebufferEnd : Nat := 0xffff_e900_0000_0000
@[simp] def highReservedStart : Nat := 0xffff_e900_0000_0000
@[simp] def highReservedEnd : Nat := 0xffff_ffff_8000_0000
@[simp] def kernelImageStart : Nat := 0xffff_ffff_8000_0000
@[simp] def kernelImageEnd : Nat := 0xffff_ffff_c000_0000
@[simp] def kernelLocalStart : Nat := 0xffff_ffff_c000_0000
@[simp] def kernelLocalEnd : Nat := 0xffff_ffff_ffff_f000

@[simp] def bootstrapPhysicalStart : Nat := 0x0020_0000
@[simp] def bootstrapPhysicalEnd : Nat := 0x0420_0000
@[simp] def transitionIdentityEnd : Nat := 0x1_0000_0000
@[simp] def bootstrapStackBytes : Nat := 16 * 4096
@[simp] def maxTransitionIdentityBytes : Nat := 17 * 4096

inductive LayoutError where
  | invalidAlignment
  | alignmentOverflow
  | nonCanonicalVirtualAddress
  | unsupportedPhysicalAddress
  | emptyRange
  | reversedRange
  | rangeOverflow
  | rangeNotPageAligned
  | crossesCanonicalHole
  | rangeLengthMismatch
  | unknownPermissionBits
  | readPermissionRequired
  | writableExecutable
  | userMappingForbidden
  | invalidRegionPermissions
  | invalidCachePolicy
  | outsideDeclaredRegion
  | outsideBootstrapPhysicalWindow
  | directMapAddressMismatch
  | invalidBootstrapStack
  | missingStackGuard
  | virtualOverlap
  | physicalAliasWriteExecute
  | physicalAliasPermissionEscalation
  | identityAddressMismatch
  | transitionIdentityAboveLimit
  | transitionIdentityTooLarge
  | invalidTransitionComposition
  | lowMappingInFinalPlan
  | transitionMappingInFinalPlan
  | planExhausted
  | unmapped
deriving DecidableEq, Repr

/-- `is_canonical`; the last bound is the width of the source's `u64`. -/
def isCanonical (address : Nat) : Prop :=
  address < lowCanonicalEnd ∨ (highCanonicalStart ≤ address ∧ address < wordLimit)

instance (address : Nat) : Decidable (isCanonical address) :=
  inferInstanceAs (Decidable (_ ∨ _))

def canonicalHalf (address : Nat) : Nat := if address < lowCanonicalEnd then 0 else 1

def validateOrder (start stop : Nat) : Except LayoutError Unit :=
  if start = stop then .error .emptyRange
  else if start > stop then .error .reversedRange
  else .ok ()

def validatePageBoundaries (start stop : Nat) : Except LayoutError Unit :=
  if ¬ start % pageSize = 0 ∨ ¬ stop % pageSize = 0 then .error .rangeNotPageAligned
  else .ok ()

theorem validateOrder_eq_ok {start stop : Nat} :
    validateOrder start stop = .ok () ↔ start < stop := by
  simp only [validateOrder, guard_eq_ok, and_true]
  omega

theorem validatePageBoundaries_eq_ok {start stop : Nat} :
    validatePageBoundaries start stop = .ok () ↔
      start % pageSize = 0 ∧ stop % pageSize = 0 := by
  simp only [validatePageBoundaries, guard_eq_ok, and_true, not_or, not_not]

@[ext] structure PhysicalAddress where
  value : Nat
  supported : value < supportedPhysicalEnd
deriving DecidableEq, Repr

def PhysicalAddress.new (value : Nat) : Except LayoutError PhysicalAddress :=
  if supported : value < supportedPhysicalEnd then .ok ⟨value, supported⟩
  else .error .unsupportedPhysicalAddress

@[ext] structure VirtualAddress where
  value : Nat
  canonical : isCanonical value
deriving DecidableEq, Repr

def VirtualAddress.new (value : Nat) : Except LayoutError VirtualAddress :=
  if canonical : isCanonical value then .ok ⟨value, canonical⟩
  else .error .nonCanonicalVirtualAddress

theorem PhysicalAddress.new_eq_ok {value : Nat} {address : PhysicalAddress} :
    PhysicalAddress.new value = .ok address ↔ address.value = value := by
  unfold PhysicalAddress.new
  split
  · simp only [Except.ok.injEq, PhysicalAddress.ext_iff]
    exact eq_comm
  · rename_i unsupported
    simp only [reduceCtorEq, false_iff]
    intro same
    exact unsupported (same ▸ address.supported)

theorem VirtualAddress.new_eq_ok {value : Nat} {address : VirtualAddress} :
    VirtualAddress.new value = .ok address ↔ address.value = value := by
  unfold VirtualAddress.new
  split
  · simp only [Except.ok.injEq, VirtualAddress.ext_iff]
    exact eq_comm
  · rename_i outside
    simp only [reduceCtorEq, false_iff]
    intro same
    exact outside (same ▸ address.canonical)

/-- What `PhysicalRange::new` has checked. -/
structure PhysicalBounds (start stop : Nat) : Prop where
  nonempty : start < stop
  supported : stop ≤ supportedPhysicalEnd
  startAligned : start % pageSize = 0
  stopAligned : stop % pageSize = 0

@[ext] structure PhysicalRange where
  start : PhysicalAddress
  stop : Nat
  bounds : PhysicalBounds start.value stop
deriving DecidableEq

namespace PhysicalRange

def new (start stop : Nat) : Except LayoutError PhysicalRange :=
  match ordered : validateOrder start stop with
  | .error reason => .error reason
  | .ok () =>
      if supported : start ≥ supportedPhysicalEnd ∨ stop > supportedPhysicalEnd then
        .error .unsupportedPhysicalAddress
      else
        match aligned : validatePageBoundaries start stop with
        | .error reason => .error reason
        | .ok () => .ok {
            start := ⟨start, by omega⟩
            stop
            bounds := {
              nonempty := validateOrder_eq_ok.mp ordered
              supported := by omega
              startAligned := (validatePageBoundaries_eq_ok.mp aligned).1
              stopAligned := (validatePageBoundaries_eq_ok.mp aligned).2 } }

def fromStartAndLength (start length : Nat) : Except LayoutError PhysicalRange :=
  if length = 0 then .error .emptyRange
  else
    match checkedAdd start length with
    | some stop => new start stop
    | none => .error .rangeOverflow

def length (range : PhysicalRange) : Nat := range.stop - range.start.value

def overlaps (range other : PhysicalRange) : Prop :=
  range.start.value < other.stop ∧ other.start.value < range.stop

instance (range other : PhysicalRange) : Decidable (range.overlaps other) :=
  inferInstanceAs (Decidable (_ ∧ _))

theorem new_eq_ok {start stop : Nat} {range : PhysicalRange}
    (built : new start stop = .ok range) : range.start.value = start ∧ range.stop = stop := by
  unfold new at built
  split at built
  · contradiction
  · split at built
    · contradiction
    · split at built
      · contradiction
      · cases built
        exact ⟨rfl, rfl⟩

theorem fromStartAndLength_eq_ok {start length : Nat} {range : PhysicalRange}
    (built : fromStartAndLength start length = .ok range) :
    range.start.value = start ∧ range.stop = start + length := by
  unfold fromStartAndLength at built
  split at built
  · contradiction
  · split at built
    · rename_i stop added
      obtain ⟨_, sum⟩ := checkedAdd_eq_some.mp added
      rw [sum]
      exact new_eq_ok built
    · contradiction

/-- Every range is built from its own bounds. -/
theorem new_range (range : PhysicalRange) : new range.start.value range.stop = .ok range := by
  obtain ⟨nonempty, supported, startAligned, stopAligned⟩ := range.bounds
  have ordered := validateOrder_eq_ok.mpr nonempty
  have aligned := validatePageBoundaries_eq_ok.mpr ⟨startAligned, stopAligned⟩
  unfold new
  split
  · rename_i reason refused
    rw [ordered] at refused
    contradiction
  · rw [dif_neg (by omega)]
    split
    · rename_i reason refused
      rw [aligned] at refused
      contradiction
    · rfl

theorem fromStartAndLength_range (range : PhysicalRange) :
    fromStartAndLength range.start.value range.length = .ok range := by
  obtain ⟨nonempty, supported, _, _⟩ := range.bounds
  have stop : range.start.value + range.length = range.stop := by
    simp only [length]
    omega
  have added : checkedAdd range.start.value range.length = some range.stop := by
    refine checkedAdd_eq_some.mpr ⟨?_, stop⟩
    simp only [supportedPhysicalEnd, wordLimit] at supported ⊢
    omega
  rw [fromStartAndLength, if_neg (by omega), added]
  exact range.new_range

end PhysicalRange

/-- What `VirtualRange::new` has checked. -/
structure VirtualBounds (start stop : Nat) : Prop where
  nonempty : start < stop
  startCanonical : isCanonical start
  lastCanonical : isCanonical (stop - 1)
  sameHalf : canonicalHalf start = canonicalHalf (stop - 1)
  startAligned : start % pageSize = 0
  stopAligned : stop % pageSize = 0

@[ext] structure VirtualRange where
  start : VirtualAddress
  stop : Nat
  bounds : VirtualBounds start.value stop
deriving DecidableEq

namespace VirtualRange

def new (start stop : Nat) : Except LayoutError VirtualRange :=
  match ordered : validateOrder start stop with
  | .error reason => .error reason
  | .ok () =>
      if canonical : ¬ isCanonical start ∨ ¬ isCanonical (stop - 1) then
        .error .nonCanonicalVirtualAddress
      else if half : canonicalHalf start ≠ canonicalHalf (stop - 1) then
        .error .crossesCanonicalHole
      else
        match aligned : validatePageBoundaries start stop with
        | .error reason => .error reason
        | .ok () =>
            have startCanonical : isCanonical start := by
              by_contra outside
              exact canonical (.inl outside)
            .ok {
              start := ⟨start, startCanonical⟩
              stop
              bounds := {
                nonempty := validateOrder_eq_ok.mp ordered
                startCanonical
                lastCanonical := by
                  by_contra outside
                  exact canonical (.inr outside)
                sameHalf := by
                  by_contra different
                  exact half different
                startAligned := (validatePageBoundaries_eq_ok.mp aligned).1
                stopAligned := (validatePageBoundaries_eq_ok.mp aligned).2 } }

def fromStartAndLength (start length : Nat) : Except LayoutError VirtualRange :=
  if length = 0 then .error .emptyRange
  else
    match checkedAdd start length with
    | some stop => new start stop
    | none => .error .rangeOverflow

def length (range : VirtualRange) : Nat := range.stop - range.start.value

def contains (range : VirtualRange) (address : VirtualAddress) : Prop :=
  range.start.value ≤ address.value ∧ address.value < range.stop

instance (range : VirtualRange) (address : VirtualAddress) : Decidable (range.contains address) :=
  inferInstanceAs (Decidable (_ ∧ _))

def containsRange (range other : VirtualRange) : Prop :=
  range.start.value ≤ other.start.value ∧ other.stop ≤ range.stop

instance (range other : VirtualRange) : Decidable (range.containsRange other) :=
  inferInstanceAs (Decidable (_ ∧ _))

def overlaps (range other : VirtualRange) : Prop :=
  range.start.value < other.stop ∧ other.start.value < range.stop

instance (range other : VirtualRange) : Decidable (range.overlaps other) :=
  inferInstanceAs (Decidable (_ ∧ _))

theorem new_eq_ok {start stop : Nat} {range : VirtualRange}
    (built : new start stop = .ok range) : range.start.value = start ∧ range.stop = stop := by
  unfold new at built
  split at built
  · contradiction
  · split at built
    · contradiction
    · split at built
      · contradiction
      · split at built
        · contradiction
        · cases built
          exact ⟨rfl, rfl⟩

theorem fromStartAndLength_eq_ok {start length : Nat} {range : VirtualRange}
    (built : fromStartAndLength start length = .ok range) :
    range.start.value = start ∧ range.stop = start + length := by
  unfold fromStartAndLength at built
  split at built
  · contradiction
  · split at built
    · rename_i stop added
      obtain ⟨_, sum⟩ := checkedAdd_eq_some.mp added
      rw [sum]
      exact new_eq_ok built
    · contradiction

/-- Every range is built from its own bounds. -/
theorem new_range (range : VirtualRange) : new range.start.value range.stop = .ok range := by
  obtain ⟨nonempty, startCanonical, lastCanonical, sameHalf, startAligned, stopAligned⟩ :=
    range.bounds
  have ordered := validateOrder_eq_ok.mpr nonempty
  have aligned := validatePageBoundaries_eq_ok.mpr ⟨startAligned, stopAligned⟩
  have canonical : ¬ (¬ isCanonical range.start.value ∨ ¬ isCanonical (range.stop - 1)) :=
    fun outside => outside.elim (· startCanonical) (· lastCanonical)
  unfold new
  split
  · rename_i reason refused
    rw [ordered] at refused
    contradiction
  · rw [dif_neg canonical, dif_neg (not_not.mpr sameHalf)]
    split
    · rename_i reason refused
      rw [aligned] at refused
      contradiction
    · rfl

/-- Only the range up to the very end of the address space has a stop that is
no word. -/
theorem fromStartAndLength_range (range : VirtualRange) (word : range.stop < wordLimit) :
    fromStartAndLength range.start.value range.length = .ok range := by
  have nonempty := range.bounds.nonempty
  have stop : range.start.value + range.length = range.stop := by
    simp only [length]
    omega
  have added : checkedAdd range.start.value range.length = some range.stop :=
    checkedAdd_eq_some.mpr ⟨stop ▸ word, stop⟩
  rw [fromStartAndLength, if_neg (by omega), added]
  exact range.new_range

/-- Both ends canonical in one half leaves no room for the hole. -/
theorem canonical_of_mem (range : VirtualRange) {address : Nat}
    (lower : range.start.value ≤ address) (upper : address < range.stop) :
    isCanonical address := by
  obtain ⟨nonempty, startCanonical, lastCanonical, sameHalf, _, _⟩ := range.bounds
  simp only [isCanonical, canonicalHalf, lowCanonicalEnd, highCanonicalStart, wordLimit]
    at startCanonical lastCanonical sameHalf ⊢
  grind

end VirtualRange

end UnnamedOS.Layout
