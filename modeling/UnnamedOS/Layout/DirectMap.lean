import UnnamedOS.Layout.History

namespace UnnamedOS.Layout

open UnnamedOS.Data

/-! # Fixed windows of the address space

The direct map shows each physical address at one virtual address, and the
kernel image shows only the bootstrap window.  Which kinds may lie in a region
follows from the declared regions being apart. -/

/-- `direct_map_address`; every address it returns is in the upper half. -/
def directMapAddress (physical : PhysicalAddress) : Except LayoutError VirtualAddress :=
  match added : checkedAdd directMapStart physical.value with
  | none => .error .unsupportedPhysicalAddress
  | some value =>
      if value < directMapEnd then
        .ok ⟨value, .inr (by
          obtain ⟨fits, rfl⟩ := checkedAdd_eq_some.mp added
          exact ⟨Nat.le_add_right _ _, fits⟩)⟩
      else .error .unsupportedPhysicalAddress

/-- The direct map is as long as the supported physical memory. -/
theorem directMapAddress_eq_ok (physical : PhysicalAddress) :
    ∃ address, directMapAddress physical = .ok address ∧
      address.value = directMapStart + physical.value := by
  have supported := physical.supported
  simp only [supportedPhysicalEnd] at supported
  have fits : directMapStart + physical.value < wordLimit := by
    simp only [directMapStart, wordLimit]
    omega
  have below : directMapStart + physical.value < directMapEnd := by
    simp only [directMapStart, directMapEnd]
    omega
  unfold directMapAddress
  split
  · rename_i none
    rw [checkedAdd_eq_some.mpr ⟨fits, rfl⟩] at none
    contradiction
  · rename_i value added
    obtain ⟨_, rfl⟩ := checkedAdd_eq_some.mp added
    rw [if_pos below]
    exact ⟨_, rfl, rfl⟩

theorem regionRange_apart {left right : AddressRegion} (different : left ≠ right) :
    (regionRange left).stop ≤ (regionRange right).start.value ∨
      (regionRange right).stop ≤ (regionRange left).start.value := by
  cases left <;> cases right <;> first | contradiction | decide

section

variable {range : VirtualRange} {physical : PhysicalRange} {permissions : MappingPermissions}
  {cache : CachePolicy} {kind : MappingKind} {address : VirtualAddress}

/-- A mapping that reaches into an upper region is of a kind of that region. -/
theorem Allowed.region_of_contains (allowed : Allowed range physical permissions cache kind)
    (inside : range.contains address) {region : AddressRegion}
    (upper : highCanonicalStart ≤ (regionRange region).start.value)
    (within : (regionRange region).contains address) : kind.region = some region := by
  obtain ⟨lower, below⟩ := inside
  obtain ⟨first, last⟩ := within
  cases declared : kind.region with
  | some own =>
      by_contra different
      have inOwn := allowed.region own declared
      have apart := regionRange_apart (fun same : own = region => different (by rw [same]))
      simp only [VirtualRange.containsRange] at inOwn
      omega
  | none =>
      have granted := allowed.granted
      have identity : kind = .transitionIdentity := by
        cases kind <;> simp_all [MappingKind.region, MappingKind.allowedPermissions]
      have low := (allowed.identity identity).2.2
      simp only [highCanonicalStart] at upper
      omega

/-- The policy ties the mappings of the direct map to their addresses. -/
theorem directMap_of_policy
    (policy : validateMappingPolicy range physical permissions cache kind = .ok ())
    (direct : kind.region = some .directMap) :
    range.start.value = directMapStart + physical.start.value := by
  simp only [validateMappingPolicy, bind_eq_ok, guard_eq_ok] at policy
  obtain ⟨_, _, _, _, tied, _⟩ := policy
  have named : kind = .directMap ∨ kind = .bootInfo ∨ kind = .bootMemoryMap ∨
      kind = .pageTable := by
    cases kind <;> simp_all [MappingKind.region]
  by_contra different
  refine tied ⟨named, .inl ?_⟩
  intro added
  exact different (checkedAdd_eq_some.mp added).2.symm

end

namespace MappingPlan

variable {capacity : Nat} {plan : MappingPlan capacity}

/-- An address that translates lies in a mapping, at an offset that it keeps. -/
theorem Invariant.mapping_of_translate (invariant : plan.Invariant) {address : VirtualAddress}
    {translated : PhysicalAddress} (found : plan.translate address = .ok translated) :
    ∃ range physical permissions cache kind,
      .mapping range physical permissions cache kind ∈ plan.entries ∧ range.contains address ∧
      translated.value = physical.start.value + (address.value - range.start.value) := by
  by_cases absent : ∀ entry ∈ plan.entries, entry.virtualRange.contains address →
      entry.backing = .unmapped
  · rw [translate_unmapped absent] at found
    contradiction
  · simp only [not_forall] at absent
    obtain ⟨entry, member, inside, backed⟩ := absent
    cases entry with
    | guard range => exact absurd rfl backed
    | mapping range physical permissions cache kind =>
        obtain ⟨other, same, offset⟩ := translate_mapping invariant member inside
        rw [found] at same
        cases same
        exact ⟨range, physical, permissions, cache, kind, member, inside, offset⟩

theorem Invariant.translate_directMap (invariant : plan.Invariant) {physical : PhysicalAddress}
    {address : VirtualAddress} {translated : PhysicalAddress}
    (direct : address.value = directMapStart + physical.value)
    (found : plan.translate address = .ok translated) : translated = physical := by
  obtain ⟨range, backing, permissions, cache, kind, member, inside, offset⟩ :=
    invariant.mapping_of_translate found
  obtain ⟨lengths, policy⟩ := invariant.accepted _ member
  have supported := physical.supported
  have within : (regionRange .directMap).contains address := by
    change directMapStart ≤ address.value ∧ address.value < directMapEnd
    simp only [supportedPhysicalEnd] at supported
    simp only [directMapStart, directMapEnd] at direct ⊢
    omega
  have region := (allowed_of_policy lengths policy).region_of_contains inside (by decide) within
  have tied := directMap_of_policy policy region
  obtain ⟨lower, _⟩ := inside
  apply PhysicalAddress.ext
  omega

theorem Invariant.translate_kernelImage (invariant : plan.Invariant) {address : VirtualAddress}
    {translated : PhysicalAddress} (within : (regionRange .kernelImage).contains address)
    (found : plan.translate address = .ok translated) :
    bootstrapPhysicalStart ≤ translated.value ∧ translated.value < bootstrapPhysicalEnd := by
  obtain ⟨range, physical, permissions, cache, kind, member, inside, offset⟩ :=
    invariant.mapping_of_translate found
  have allowed := invariant.contract.mappings _ _ _ _ _ member
  have image : kind.isKernelImage := by
    have region := allowed.region_of_contains inside (by decide) within
    cases kind <;> simp_all [MappingKind.region, MappingKind.isKernelImage]
  have window := allowed.image image
  have lengths := allowed.lengths
  have backed := physical.bounds.nonempty
  obtain ⟨lower, below⟩ := inside
  simp only [VirtualRange.length, PhysicalRange.length] at lengths
  simp only [bootstrapPhysicalStart, bootstrapPhysicalEnd]
  omega

/-- In every reachable plan a physical address can be reached through the
direct map only at its own place, and the kernel image only shows the bootstrap
window. -/
theorem translate_windows (calls : List Call) :
    (∀ physical : PhysicalAddress, ∃ address, directMapAddress physical = .ok address ∧
      (((new capacity).run calls).translate address = .error .unmapped ∨
        ((new capacity).run calls).translate address = .ok physical)) ∧
    ∀ address : VirtualAddress, 0xffff_ffff_8000_0000 ≤ address.value →
      address.value < 0xffff_ffff_c000_0000 →
      ∀ translated, ((new capacity).run calls).translate address = .ok translated →
        0x20_0000 ≤ translated.value ∧ translated.value < 0x420_0000 := by
  have invariant := @reachable_invariant capacity calls
  constructor
  · intro physical
    obtain ⟨address, mapped, direct⟩ := directMapAddress_eq_ok physical
    refine ⟨address, mapped, ?_⟩
    cases invariant.translate_cases address with
    | inl translates =>
        obtain ⟨translated, found⟩ := translates
        rw [invariant.translate_directMap direct found] at found
        exact .inr found
    | inr unmapped => exact .inl unmapped
  · intro address lower upper translated found
    exact invariant.translate_kernelImage ⟨lower, upper⟩ found

/-- The page of read-only data and its alias in the direct map. -/
theorem rodataAlias_windows :
    ∃ direct : VirtualAddress,
      directMapAddress ⟨0x30_0123, by decide⟩ = .ok direct ∧
      (((new 2).run rodataAlias).translate direct = .error .unmapped ∨
        ((new 2).run rodataAlias).translate direct = .ok ⟨0x30_0123, by decide⟩) ∧
      ∃ translated : PhysicalAddress,
        ((new 2).run rodataAlias).translate ⟨kernelImageStart + 0x1123, by decide⟩ =
          .ok translated ∧
        0x20_0000 ≤ translated.value ∧ translated.value < 0x420_0000 := by
  obtain ⟨direct, mapped, translates⟩ := (@translate_windows 2 rodataAlias).1 ⟨0x30_0123, by decide⟩
  have found : ((new 2).run rodataAlias).translate ⟨kernelImageStart + 0x1123, by decide⟩ =
      .ok ⟨0x30_0123, by decide⟩ := rfl
  have window := (@translate_windows 2 rodataAlias).2 ⟨kernelImageStart + 0x1123, by decide⟩
    (by decide) (by decide) _ found
  exact ⟨direct, mapped, translates, _, found, window⟩

end MappingPlan

end UnnamedOS.Layout
