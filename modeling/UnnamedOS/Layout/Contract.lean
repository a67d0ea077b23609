import Mathlib.Data.List.Pairwise
import UnnamedOS.Layout.PlanInvariant

namespace UnnamedOS.Layout

open UnnamedOS.Data

/-! # The address-space contract

What the plan is for, kind by kind: where a mapping may lie, which permissions
and cache policy it has, and what may back it. -/

namespace MappingKind

/-- The declared region of a kind; transition mappings lie where they are
backed, and guards are no mappings. -/
def region : MappingKind → Option AddressRegion
  | .kernelText | .kernelRodata | .kernelData => some .kernelImage
  | .bootstrapStack => some .kernelLocal
  | .bootInfo | .bootMemoryMap | .pageTable | .directMap => some .directMap
  | .framebuffer => some .framebuffer
  | .mmio => some .mmio
  | .transitionIdentity | .guard => none

def allowedPermissions : MappingKind → List MappingPermissions
  | .kernelText => [.kernelRx]
  | .kernelRodata | .bootInfo | .bootMemoryMap => [.kernelR]
  | .kernelData | .bootstrapStack | .pageTable | .framebuffer | .mmio => [.kernelRw]
  | .directMap | .transitionIdentity => [.kernelRx, .kernelR, .kernelRw]
  | .guard => []

def allowedCache : MappingKind → CachePolicy
  | .framebuffer | .mmio => .uncached
  | _ => .writeBack

def isKernelImage (kind : MappingKind) : Prop :=
  kind = .kernelText ∨ kind = .kernelRodata ∨ kind = .kernelData

end MappingKind

/-- Readable, for the supervisor only, global, and never both writable and
executable. -/
structure MappingPermissions.KernelOnly (permissions : MappingPermissions) : Prop where
  readable : permissions.bits &&& read ≠ 0
  supervisor : permissions.user = false
  global : permissions.bits &&& MappingPermissions.global ≠ 0
  exclusive : ¬ (permissions.writable = true ∧ permissions.executable = true)

/-- What a mapping of a kind has to be. -/
structure Allowed (range : VirtualRange) (physical : PhysicalRange)
    (permissions : MappingPermissions) (cache : CachePolicy) (kind : MappingKind) : Prop where
  lengths : range.length = physical.length
  region : ∀ region, kind.region = some region → (regionRange region).containsRange range
  identity : kind = .transitionIdentity → range.start.value = physical.start.value ∧
    range.stop = physical.stop ∧ range.stop ≤ 0x1_0000_0000
  granted : permissions ∈ kind.allowedPermissions
  kernelOnly : permissions.KernelOnly
  cached : cache = kind.allowedCache
  image : kind.isKernelImage →
    0x20_0000 ≤ physical.start.value ∧ physical.stop ≤ 0x420_0000
  stack : kind = .bootstrapStack → physical.length = 64 * 1024 ∧ physical.stop ≤ 0x1_0000_0000

/-- The contract of a whole plan. -/
structure MappingPlan.Contract {capacity : Nat} (plan : MappingPlan capacity) : Prop where
  sorted : plan.entries.Pairwise fun left right =>
    left.virtualRange.start.value < right.virtualRange.start.value
  disjoint : plan.entries.Pairwise fun left right =>
    ¬ left.virtualRange.overlaps right.virtualRange
  bounded : plan.entries.length ≤ capacity
  mappings : ∀ range physical permissions cache kind,
    .mapping range physical permissions cache kind ∈ plan.entries →
      Allowed range physical permissions cache kind
  guards : ∀ range, .guard range ∈ plan.entries → (regionRange .kernelLocal).containsRange range

/-! ## The policy check enforces the contract -/

section

variable {range : VirtualRange} {physical : PhysicalRange} {permissions : MappingPermissions}
  {cache : CachePolicy} {kind : MappingKind}

theorem validatePrescribed_eq_ok {region : AddressRegion} {expected : MappingPermissions}
    {expectedCache : CachePolicy} :
    validatePrescribed range permissions cache region expected expectedCache = .ok () ↔
      (regionRange region).containsRange range ∧ permissions = expected ∧ cache = expectedCache := by
  simp only [validatePrescribed, guard_eq_ok, not_not, ne_eq, and_true]

/-- Each kind's branch checks its region, permissions and cache policy. -/
theorem validateKind_allowed
    (validated : validateKind range physical permissions cache kind = .ok ()) :
    (∀ region, kind.region = some region → (regionRange region).containsRange range) ∧
    (kind = .transitionIdentity → range.start.value = physical.start.value ∧
      range.stop = physical.stop ∧ range.stop ≤ 0x1_0000_0000) ∧
    permissions ∈ kind.allowedPermissions ∧ cache = kind.allowedCache := by
  cases kind with
  | guard => contradiction
  | directMap =>
      simp only [validateKind, guard_eq_ok, not_not, and_true] at validated
      obtain ⟨granted, cached, inside⟩ := validated
      refine ⟨?_, by simp, ?_, cached⟩
      · intro region named
        cases named
        exact inside
      · simpa [MappingKind.allowedPermissions, isKernelPermissions] using granted
  | transitionIdentity =>
      simp only [validateKind, guard_eq_ok, not_not, not_or, gt_iff_lt, Nat.not_lt, and_true]
        at validated
      obtain ⟨⟨sameStart, sameStop⟩, below, granted, cached⟩ := validated
      refine ⟨by simp [MappingKind.region], fun _ => ⟨sameStart, sameStop, below⟩, ?_, cached⟩
      simpa [MappingKind.allowedPermissions, isKernelPermissions] using granted
  | _ =>
      obtain ⟨inside, granted, cached⟩ := validatePrescribed_eq_ok.mp validated
      refine ⟨?_, by simp, by simp [MappingKind.allowedPermissions, granted], cached⟩
      intro region named
      cases named
      exact inside

theorem isKernelPermissions_of_allowed (granted : permissions ∈ kind.allowedPermissions) :
    isKernelPermissions permissions := by
  cases kind <;> simp_all [MappingKind.allowedPermissions, isKernelPermissions]

theorem kernelRx_of_executable (granted : permissions ∈ kind.allowedPermissions)
    (executes : permissions.executable = true) : permissions = .kernelRx := by
  rcases isKernelPermissions_of_allowed granted with rfl | rfl | rfl
  · rfl
  · contradiction
  · contradiction

theorem kernelRw_of_writable (granted : permissions ∈ kind.allowedPermissions)
    (writes : permissions.writable = true) : permissions = .kernelRw := by
  rcases isKernelPermissions_of_allowed granted with rfl | rfl | rfl
  · contradiction
  · contradiction
  · rfl

theorem kernelOnly_of_allowed (granted : permissions ∈ kind.allowedPermissions) :
    permissions.KernelOnly := by
  rcases isKernelPermissions_of_allowed granted with rfl | rfl | rfl
  all_goals exact ⟨by decide, by decide, by decide, by decide⟩

theorem allowed_of_policy (lengths : range.length = physical.length)
    (policy : validateMappingPolicy range physical permissions cache kind = .ok ()) :
    Allowed range physical permissions cache kind := by
  simp only [validateMappingPolicy, bind_eq_ok, guard_eq_ok] at policy
  obtain ⟨_, _, _, image, _, stack, validated⟩ := policy
  obtain ⟨region, identity, granted, cached⟩ := validateKind_allowed validated
  exact {
    lengths
    region
    identity
    granted
    kernelOnly := kernelOnly_of_allowed granted
    cached
    image := by
      intro isImage
      simp only [bootstrapPhysicalStart, bootstrapPhysicalEnd, not_and, not_or, gt_iff_lt,
        Nat.not_lt] at image
      exact image isImage
    stack := by
      intro isStack
      simp only [bootstrapStackBytes, transitionIdentityEnd, not_and, not_or, not_not, gt_iff_lt,
        Nat.not_lt, ne_eq] at stack
      exact stack isStack }

theorem validateKind_of_allowed (allowed : Allowed range physical permissions cache kind) :
    validateKind range physical permissions cache kind = .ok () := by
  have known := isKernelPermissions_of_allowed allowed.granted
  have cached := allowed.cached
  cases kind with
  | guard => exact absurd allowed.granted List.not_mem_nil
  | directMap =>
      simp only [validateKind, guard_eq_ok, not_not, and_true]
      exact ⟨known, cached, allowed.region _ rfl⟩
  | transitionIdentity =>
      simp only [validateKind, guard_eq_ok, not_not, not_or, gt_iff_lt, Nat.not_lt, and_true]
      obtain ⟨sameStart, sameStop, below⟩ := allowed.identity rfl
      exact ⟨⟨sameStart, sameStop⟩, below, known, cached⟩
  | _ =>
      exact validatePrescribed_eq_ok.mpr
        ⟨allowed.region _ rfl, List.mem_singleton.mp allowed.granted, cached⟩

/-- Outside the direct map, where the two addresses also have to correspond,
the contract is all the policy asks for. -/
theorem policy_of_allowed (allowed : Allowed range physical permissions cache kind)
    (elsewhere : kind.region ≠ some .directMap) :
    validateMappingPolicy range physical permissions cache kind = .ok () := by
  rw [validateMappingPolicy, MappingPermissions.fromBits_bits, ok_bind]
  simp only [guard_eq_ok]
  refine ⟨by simp [allowed.kernelOnly.supervisor], ?_, ?_, ?_, validateKind_of_allowed allowed⟩
  · rintro ⟨isImage, outside⟩
    have inside := allowed.image isImage
    simp only [bootstrapPhysicalStart, bootstrapPhysicalEnd] at outside
    omega
  · rintro ⟨direct, _⟩
    rcases direct with rfl | rfl | rfl | rfl <;> exact elsewhere rfl
  · rintro ⟨isStack, outside⟩
    have inside := allowed.stack isStack
    simp only [bootstrapStackBytes, transitionIdentityEnd] at outside
    omega

/-- A mapping lies below 4 GiB or in the upper half. -/
theorem Allowed.half (allowed : Allowed range physical permissions cache kind) :
    range.stop ≤ 0x1_0000_0000 ∨ highCanonicalStart ≤ range.start.value := by
  cases declared : kind.region with
  | some region =>
      have upper : highCanonicalStart ≤ (regionRange region).start.value := by
        cases kind <;> cases declared <;> decide
      exact .inr (Nat.le_trans upper (allowed.region region declared).1)
  | none =>
      have identity : kind = .transitionIdentity := by
        have granted := allowed.granted
        cases kind <;> simp_all [MappingKind.region, MappingKind.allowedPermissions]
      exact .inl (allowed.identity identity).2.2

end

namespace MappingPlan

variable {capacity : Nat}

theorem Invariant.contract {plan : MappingPlan capacity} (invariant : plan.Invariant) :
    plan.Contract where
  sorted := by
    refine invariant.ordered.imp ?_
    intro left right before
    exact Nat.lt_of_lt_of_le (startOf_lt_stopOf left) before
  disjoint := by
    refine invariant.ordered.imp ?_
    intro left right before overlaps
    exact Nat.not_lt.mpr before overlaps.2
  bounded := invariant.bounded
  mappings := by
    intro range physical permissions cache kind member
    obtain ⟨lengths, policy⟩ := invariant.accepted _ member
    exact allowed_of_policy lengths policy
  guards := fun range member => invariant.accepted _ member

instance : Std.Symm PlanEntry.AliasCompatible := ⟨fun _ _ => PlanEntry.AliasCompatible.symm⟩

/-- Any two entries of a plan may share their physical pages, an entry with
itself included. -/
theorem Invariant.aliases {plan : MappingPlan capacity} (invariant : plan.Invariant)
    {left right : PlanEntry} (leftMember : left ∈ plan.entries)
    (rightMember : right ∈ plan.entries) : left.AliasCompatible right := by
  refine invariant.compatible.forall_of_forall ?_ leftMember rightMember
  intro entry member
  cases entry with
  | guard range => trivial
  | mapping range physical permissions cache kind =>
      have exclusive := (invariant.contract.mappings _ _ _ _ _ member).kernelOnly.exclusive
      intro _
      exact ⟨exclusive, exclusive, rfl⟩

/-- A refused call changes nothing. -/
theorem apply_refused {plan : MappingPlan capacity} {call : Call} {reason : LayoutError}
    (refused : (plan.apply call).1 = .error reason) : (plan.apply call).2 = plan := by
  rcases apply_cases plan call with ⟨_, same⟩ | ⟨_, inserted⟩
  · rw [same]
  · rw [inserted] at refused ⊢
    rcases insert_cases plan call.entry with ⟨_, same⟩ | ⟨added, _⟩
    · rw [same]
    · rw [added] at refused
      contradiction

/-- An address is translated or unmapped; no other outcome is left. -/
theorem Invariant.translate_cases {plan : MappingPlan capacity} (invariant : plan.Invariant)
    (address : VirtualAddress) :
    (∃ translated, plan.translate address = .ok translated) ∨
      plan.translate address = .error .unmapped := by
  by_cases absent : ∀ entry ∈ plan.entries, entry.virtualRange.contains address →
      entry.backing = .unmapped
  · exact .inr (translate_unmapped absent)
  · simp only [not_forall] at absent
    obtain ⟨entry, member, inside, backed⟩ := absent
    cases entry with
    | guard range => exact absurd rfl backed
    | mapping range physical permissions cache kind =>
        obtain ⟨translated, found, _⟩ := translate_mapping invariant member inside
        exact .inl ⟨translated, found⟩

/-- Whatever calls are made, in whatever order, the plan keeps the contract, a
refused call leaves it alone, and translation has no arithmetic errors. -/
theorem run_contract (calls : List Call) :
    ((new capacity).run calls).Contract ∧
    (∀ call reason, (((new capacity).run calls).apply call).1 = .error reason →
      (((new capacity).run calls).apply call).2 = (new capacity).run calls) ∧
    ∀ address, ((new capacity).run calls).translate address ≠ .error .rangeOverflow ∧
      ((new capacity).run calls).translate address ≠ .error .unsupportedPhysicalAddress := by
  have invariant : ((new capacity).run calls).Invariant := reachable_invariant calls
  refine ⟨invariant.contract, fun _ _ refused => apply_refused refused, ?_⟩
  intro address
  rcases invariant.translate_cases address with ⟨translated, found⟩ | unmapped
  · simp [found]
  · simp [unmapped]

end MappingPlan

end UnnamedOS.Layout
