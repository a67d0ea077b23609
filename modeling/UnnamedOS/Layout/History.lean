import Mathlib.Data.List.Induction
import UnnamedOS.Layout.Contract

namespace UnnamedOS.Layout

open UnnamedOS.Data

/-! # The calls behind a plan

An entry stands in a plan because one call asked for it and was granted.  The
policy results are stated on the granted calls of a run: which of them may
together break the written layout contract, and that nothing else does. -/

def PhysicalRange.Covers (range : PhysicalRange) (frame : Nat) : Prop :=
  range.start.value ≤ frame * pageSize ∧ frame * pageSize < range.stop

theorem PhysicalRange.overlaps_of_covers {left right : PhysicalRange} {frame : Nat}
    (inLeft : left.Covers frame) (inRight : right.Covers frame) : left.overlaps right :=
  ⟨Nat.lt_of_le_of_lt inLeft.1 inRight.2, Nat.lt_of_le_of_lt inRight.1 inLeft.2⟩

namespace MappingPlan

variable {capacity : Nat}

/-- The call was made in the run and returned `Ok`. -/
def Granted (capacity : Nat) (calls : List Call) (call : Call) : Prop :=
  ∃ before after, calls = before ++ call :: after ∧
    (((new capacity).run before).apply call).1 = .ok ()

theorem run_append_singleton {plan : MappingPlan capacity} {calls : List Call} {call : Call} :
    plan.run (calls ++ [call]) = ((plan.run calls).apply call).2 := by
  simp [run]

theorem granted_append_singleton {calls : List Call} {call last : Call} :
    Granted capacity (calls ++ [last]) call ↔
      Granted capacity calls call ∨
        call = last ∧ (((new capacity).run calls).apply last).1 = .ok () := by
  constructor
  · rintro ⟨before, after, split, granted⟩
    cases after using List.reverseRecOn with
    | nil =>
        obtain ⟨rfl, same⟩ := List.append_inj' split rfl
        obtain rfl : last = call := by simpa using same
        exact .inr ⟨rfl, granted⟩
    | append_singleton after final =>
        have regrouped : calls ++ [last] = (before ++ call :: after) ++ [final] := by simpa using split
        obtain ⟨rfl, _⟩ := List.append_inj' regrouped rfl
        exact .inl ⟨before, after, rfl, granted⟩
  · rintro (⟨before, after, rfl, granted⟩ | ⟨rfl, granted⟩)
    · exact ⟨before, after ++ [last], by simp, granted⟩
    · exact ⟨calls, [], rfl, granted⟩

theorem mem_apply {plan : MappingPlan capacity} {call : Call} {entry : PlanEntry} :
    entry ∈ (plan.apply call).2.entries ↔
      entry ∈ plan.entries ∨ (entry = call.entry ∧ (plan.apply call).1 = .ok ()) := by
  rcases apply_cases plan call with ⟨reason, refused⟩ | ⟨_, inserted⟩
  · simp [refused]
  · rw [inserted]
    rcases insert_cases plan call.entry with ⟨reason, refused⟩ | ⟨added, _⟩
    · simp [refused]
    · simp only [added, mem_insertOrdered, and_true]
      exact or_comm

/-- The entries of a reached plan are those its granted calls asked for. -/
theorem mem_run {calls : List Call} {entry : PlanEntry} :
    entry ∈ ((new capacity).run calls).entries ↔
      ∃ call, Granted capacity calls call ∧ call.entry = entry := by
  induction calls using List.reverseRecOn with
  | nil => simp [run, new, Granted]
  | append_singleton calls last ih =>
      simp only [run_append_singleton, mem_apply, ih, granted_append_singleton]
      constructor
      · rintro (⟨call, granted, same⟩ | ⟨same, granted⟩)
        · exact ⟨call, .inl granted, same⟩
        · exact ⟨last, .inr ⟨rfl, granted⟩, same.symm⟩
      · rintro ⟨call, granted | ⟨rfl, granted⟩, same⟩
        · exact .inl ⟨call, granted, same⟩
        · exact .inr ⟨same.symm, granted⟩

theorem mapping_mem_run {calls : List Call} {range : VirtualRange} {physical : PhysicalRange}
    {permissions : MappingPermissions} {cache : CachePolicy} {kind : MappingKind} :
    .mapping range physical permissions cache kind ∈ ((new capacity).run calls).entries ↔
      Granted capacity calls (.insertMapping range physical permissions cache kind) := by
  rw [mem_run]
  constructor
  · rintro ⟨call, granted, same⟩
    cases call with
    | insertGuard guarded => contradiction
    | insertMapping otherRange otherPhysical otherPermissions otherCache otherKind =>
        cases same
        exact granted
  · intro granted
    exact ⟨_, granted, rfl⟩

theorem allowed_of_granted {calls : List Call} {range : VirtualRange} {physical : PhysicalRange}
    {permissions : MappingPermissions} {cache : CachePolicy} {kind : MappingKind}
    (granted : Granted capacity calls (.insertMapping range physical permissions cache kind)) :
    Allowed range physical permissions cache kind :=
  (reachable_invariant calls).contract.mappings _ _ _ _ _ (mapping_mem_run.mpr granted)

/-! ## The areas that stay unmapped -/

/-- The guard areas of the layout contract. -/
def InGuardArea (address : Nat) : Prop :=
  address < 0x1_0000 ∨ (0x7fff_ffff_f000 ≤ address ∧ address < 0x8000_0000_0000) ∨
    (0xffff_ffff_ffff_f000 ≤ address ∧ address < 2 ^ 64)

theorem region_outside_guardArea {kind : MappingKind} {region : AddressRegion} {address : Nat}
    (declared : kind.region = some region) (lower : (regionRange region).start.value ≤ address)
    (upper : address < (regionRange region).stop) : ¬ InGuardArea address := by
  -- Every declared region lies between the lower half and the last page.
  have bounds : 0xffff_8000_0000_0000 ≤ (regionRange region).start.value ∧
      (regionRange region).stop ≤ 0xffff_ffff_ffff_f000 := by
    cases kind <;> cases declared <;> decide
  simp only [InGuardArea]
  omega

/-- The guard areas stay unmapped in exactly those runs whose granted identity
mappings all start above the low one. -/
theorem guardAreas_unmapped_iff (calls : List Call) :
    (∀ address : VirtualAddress, InGuardArea address.value →
      ((new capacity).run calls).translate address = .error .unmapped) ↔
    ∀ range physical permissions cache,
      Granted capacity calls
        (.insertMapping range physical permissions cache .transitionIdentity) →
      0x1_0000 ≤ range.start.value := by
  have invariant : ((new capacity).run calls).Invariant := reachable_invariant calls
  constructor
  · intro unmapped range physical permissions cache granted
    by_contra low
    have member := mapping_mem_run.mpr granted
    have inside : range.contains range.start := ⟨Nat.le_refl _, range.bounds.nonempty⟩
    obtain ⟨translated, found, _⟩ := translate_mapping invariant member inside
    rw [unmapped range.start (.inl (by omega))] at found
    contradiction
  · intro above address guarded
    refine translate_unmapped fun entry member inside => ?_
    cases entry with
    | guard range => rfl
    | mapping range physical permissions cache kind =>
        exfalso
        have allowed := invariant.contract.mappings _ _ _ _ _ member
        obtain ⟨lower, upper⟩ := inside
        cases declared : kind.region with
        | some region =>
            obtain ⟨starts, stops⟩ := allowed.region region declared
            exact region_outside_guardArea declared (Nat.le_trans starts lower)
              (Nat.lt_of_lt_of_le upper stops) guarded
        | none =>
            have identity : kind = .transitionIdentity := by
              have granted := allowed.granted
              cases kind <;> simp_all [MappingKind.region, MappingKind.allowedPermissions]
            subst identity
            have start := above range physical permissions cache (mapping_mem_run.mp member)
            obtain ⟨_, _, below⟩ := allowed.identity rfl
            simp only [InGuardArea, PlanEntry.virtualRange] at guarded lower upper
            omega

def identityCall (start stop : Nat) (virtual : VirtualBounds start stop)
    (physical : PhysicalBounds start stop) (permissions : MappingPermissions) : Call :=
  .insertMapping ⟨⟨start, virtual.startCanonical⟩, stop, virtual⟩
    ⟨⟨start, Nat.lt_of_lt_of_le physical.nonempty physical.supported⟩, stop, physical⟩
    permissions .writeBack .transitionIdentity

def lowTrampoline : List Call :=
  [identityCall 0x8000 0x9000 (by constructor <;> decide) (by constructor <;> decide) .kernelRx,
    identityCall 0x10_0000 0x11_0000 (by constructor <;> decide) (by constructor <;> decide)
      .kernelRw]

/-- A transition plan that passes its validation and maps a page of the low
guard area. -/
theorem lowTrampoline_mapped :
    ((new 2).run lowTrampoline).validateTransition = .ok () ∧
      InGuardArea 0x8000 ∧
      ((new 2).run lowTrampoline).translate ⟨0x8000, by decide⟩ = .ok ⟨0x8000, by decide⟩ :=
  ⟨rfl, .inl (by decide), rfl⟩

/-! ## Aliases of one physical page -/

def IsPrimary (kind : MappingKind) : Prop :=
  kind = .kernelText ∨ kind = .kernelRodata ∨ kind = .kernelData ∨ kind = .bootstrapStack

/-- The direct map widens none of the primary mappings in exactly those runs
that grant no executable direct mapping over a page of read-only data. -/
theorem directMap_narrow_iff (calls : List Call) :
    (∀ direct directPhysical directPermissions directCache other otherPhysical otherPermissions
        otherCache kind frame,
      .mapping direct directPhysical directPermissions directCache .directMap ∈
        ((new capacity).run calls).entries →
      .mapping other otherPhysical otherPermissions otherCache kind ∈
        ((new capacity).run calls).entries →
      IsPrimary kind → directPhysical.Covers frame → otherPhysical.Covers frame →
      (directPermissions.writable = true → otherPermissions.writable = true) ∧
        (directPermissions.executable = true → otherPermissions.executable = true)) ↔
    ∀ direct directPhysical directCache other otherPhysical otherPermissions otherCache frame,
      Granted capacity calls
        (.insertMapping direct directPhysical .kernelRx directCache .directMap) →
      Granted capacity calls
        (.insertMapping other otherPhysical otherPermissions otherCache .kernelRodata) →
      ¬ (directPhysical.Covers frame ∧ otherPhysical.Covers frame) := by
  have invariant : ((new capacity).run calls).Invariant := reachable_invariant calls
  constructor
  · intro narrow direct directPhysical directCache other otherPhysical otherPermissions otherCache
      frame directGranted otherGranted shared
    have readOnly : otherPermissions = .kernelR := by
      simpa [MappingKind.allowedPermissions] using (allowed_of_granted otherGranted).granted
    have widened := (narrow _ _ _ _ _ _ _ _ _ frame (mapping_mem_run.mpr directGranted)
      (mapping_mem_run.mpr otherGranted) (.inr (.inl rfl)) shared.1 shared.2).2 (by decide)
    rw [readOnly] at widened
    contradiction
  · intro apart direct directPhysical directPermissions directCache other otherPhysical
      otherPermissions otherCache kind frame directMember otherMember primary inDirect inOther
    obtain ⟨_, exclusive, writable⟩ := invariant.aliases directMember otherMember
      (PhysicalRange.overlaps_of_covers inDirect inOther)
    refine ⟨fun writes => writable ▸ writes, ?_⟩
    intro executes
    have granted := (invariant.contract.mappings _ _ _ _ _ otherMember).granted
    obtain rfl := kernelRx_of_executable
      (invariant.contract.mappings _ _ _ _ _ directMember).granted executes
    rcases primary with rfl | rfl | rfl | rfl
    · obtain rfl : otherPermissions = .kernelRx := by
        simpa [MappingKind.allowedPermissions] using granted
      rfl
    · exact absurd ⟨inDirect, inOther⟩ (apart _ _ _ _ _ _ _ frame (mapping_mem_run.mp directMember)
        (mapping_mem_run.mp otherMember))
    all_goals
      obtain rfl : otherPermissions = .kernelRw := by
        simpa [MappingKind.allowedPermissions] using granted
      exact absurd ⟨rfl, rfl⟩ exclusive

def rodataAlias : List Call :=
  [.insertMapping
      ⟨⟨kernelImageStart + 0x1000, by decide⟩, kernelImageStart + 0x2000,
        by constructor <;> decide⟩
      ⟨⟨0x30_0000, by decide⟩, 0x30_1000, by constructor <;> decide⟩
      .kernelR .writeBack .kernelRodata,
    .insertMapping
      ⟨⟨directMapStart + 0x30_0000, by decide⟩, directMapStart + 0x30_1000,
        by constructor <;> decide⟩
      ⟨⟨0x30_0000, by decide⟩, 0x30_1000, by constructor <;> decide⟩
      .kernelRx .writeBack .directMap]

/-- Both calls are granted, and the direct map makes the read-only page
executable. -/
theorem rodataAlias_executable :
    ∃ direct directPhysical directPermissions directCache other otherPhysical otherPermissions
        otherCache,
      .mapping direct directPhysical directPermissions directCache .directMap ∈
        ((new 2).run rodataAlias).entries ∧
      .mapping other otherPhysical otherPermissions otherCache .kernelRodata ∈
        ((new 2).run rodataAlias).entries ∧
      directPhysical.Covers 0x300 ∧ otherPhysical.Covers 0x300 ∧
      directPermissions.executable = true ∧ otherPermissions.executable = false :=
  ⟨_, _, _, _, _, _, _, _, List.mem_cons_self, List.mem_cons_of_mem _ List.mem_cons_self,
    ⟨by decide, by decide⟩, ⟨by decide, by decide⟩, rfl, rfl⟩

def IsDevice (kind : MappingKind) : Prop := kind = .framebuffer ∨ kind = .mmio

theorem allowedCache_uncached {kind : MappingKind} :
    kind.allowedCache = .uncached ↔ IsDevice kind := by
  cases kind <;> simp [MappingKind.allowedCache, IsDevice]

/-- A device's pages are writable, so whatever shares one is writable too. -/
theorem kernelRw_of_device_alias {plan : MappingPlan capacity} (invariant : plan.Invariant)
    {device other : VirtualRange} {devicePhysical otherPhysical : PhysicalRange}
    {devicePermissions otherPermissions : MappingPermissions}
    {deviceCache otherCache : CachePolicy} {deviceKind kind : MappingKind} {frame : Nat}
    (deviceMember : .mapping device devicePhysical devicePermissions deviceCache deviceKind ∈
      plan.entries)
    (otherMember : .mapping other otherPhysical otherPermissions otherCache kind ∈ plan.entries)
    (isDevice : IsDevice deviceKind) (inDevice : devicePhysical.Covers frame)
    (inOther : otherPhysical.Covers frame) : otherPermissions = .kernelRw := by
  obtain ⟨_, _, writable⟩ := invariant.aliases deviceMember otherMember
    (PhysicalRange.overlaps_of_covers inDevice inOther)
  have granted := (invariant.contract.mappings _ _ _ _ _ deviceMember).granted
  have writes : devicePermissions.writable = true := by
    rcases isDevice with rfl | rfl
    all_goals
      simp only [MappingKind.allowedPermissions, List.mem_singleton] at granted
      rw [granted]
      rfl
  exact kernelRw_of_writable (invariant.contract.mappings _ _ _ _ _ otherMember).granted
    (writable ▸ writes)

/-- All mappings of a page have one cache policy in exactly those runs that
grant no writable mapping of another kind over a page of a device. -/
theorem aliases_cached_alike_iff (calls : List Call) :
    (∀ left leftPhysical leftPermissions leftCache leftKind right rightPhysical rightPermissions
        rightCache rightKind frame,
      .mapping left leftPhysical leftPermissions leftCache leftKind ∈
        ((new capacity).run calls).entries →
      .mapping right rightPhysical rightPermissions rightCache rightKind ∈
        ((new capacity).run calls).entries →
      leftPhysical.Covers frame → rightPhysical.Covers frame → leftCache = rightCache) ↔
    ∀ device devicePhysical devicePermissions deviceCache deviceKind other otherPhysical otherCache
        kind frame,
      Granted capacity calls
        (.insertMapping device devicePhysical devicePermissions deviceCache deviceKind) →
      IsDevice deviceKind →
      Granted capacity calls (.insertMapping other otherPhysical .kernelRw otherCache kind) →
      ¬ IsDevice kind →
      ¬ (devicePhysical.Covers frame ∧ otherPhysical.Covers frame) := by
  have invariant : ((new capacity).run calls).Invariant := reachable_invariant calls
  constructor
  · intro alike device devicePhysical devicePermissions deviceCache deviceKind other otherPhysical
      otherCache kind frame deviceGranted isDevice otherGranted isRam shared
    have same := alike _ _ _ _ _ _ _ _ _ _ frame (mapping_mem_run.mpr deviceGranted)
      (mapping_mem_run.mpr otherGranted) shared.1 shared.2
    rw [(allowed_of_granted deviceGranted).cached, (allowed_of_granted otherGranted).cached,
      allowedCache_uncached.mpr isDevice] at same
    exact isRam (allowedCache_uncached.mp same.symm)
  · intro apart
    have separate {device devicePhysical devicePermissions deviceCache deviceKind other
        otherPhysical otherPermissions otherCache kind} {frame : Nat}
        (deviceMember : PlanEntry.mapping device devicePhysical devicePermissions deviceCache
          deviceKind ∈ ((new capacity).run calls).entries)
        (otherMember : PlanEntry.mapping other otherPhysical otherPermissions otherCache kind ∈
          ((new capacity).run calls).entries)
        (isDevice : IsDevice deviceKind) (inDevice : devicePhysical.Covers frame)
        (inOther : otherPhysical.Covers frame) : IsDevice kind := by
      by_contra isRam
      obtain rfl := kernelRw_of_device_alias invariant deviceMember otherMember isDevice inDevice
        inOther
      exact apart _ _ _ _ _ _ _ _ _ frame (mapping_mem_run.mp deviceMember) isDevice
        (mapping_mem_run.mp otherMember) isRam ⟨inDevice, inOther⟩
    intro left leftPhysical leftPermissions leftCache leftKind right rightPhysical
      rightPermissions rightCache rightKind frame leftMember rightMember inLeft inRight
    have kinds : IsDevice leftKind ↔ IsDevice rightKind :=
      ⟨fun isDevice => separate leftMember rightMember isDevice inLeft inRight,
        fun isDevice => separate rightMember leftMember isDevice inRight inLeft⟩
    rw [(invariant.contract.mappings _ _ _ _ _ leftMember).cached,
      (invariant.contract.mappings _ _ _ _ _ rightMember).cached]
    rw [← allowedCache_uncached, ← allowedCache_uncached] at kinds
    cases leftIs : leftKind.allowedCache <;> cases rightIs : rightKind.allowedCache <;> simp_all

def framebufferAlias : List Call :=
  [.insertMapping
      ⟨⟨framebufferStart, by decide⟩, framebufferStart + 0x1000, by constructor <;> decide⟩
      ⟨⟨0x8000_0000, by decide⟩, 0x8000_1000, by constructor <;> decide⟩
      .kernelRw .uncached .framebuffer,
    .insertMapping
      ⟨⟨directMapStart + 0x8000_0000, by decide⟩, directMapStart + 0x8000_1000,
        by constructor <;> decide⟩
      ⟨⟨0x8000_0000, by decide⟩, 0x8000_1000, by constructor <;> decide⟩
      .kernelRw .writeBack .directMap]

theorem framebufferAlias_cached :
    ∃ left leftPhysical leftPermissions right rightPhysical rightPermissions,
      .mapping left leftPhysical leftPermissions .uncached .framebuffer ∈
        ((new 2).run framebufferAlias).entries ∧
      .mapping right rightPhysical rightPermissions .writeBack .directMap ∈
        ((new 2).run framebufferAlias).entries ∧
      leftPhysical.Covers 0x8_0000 ∧ rightPhysical.Covers 0x8_0000 :=
  ⟨_, _, _, _, _, _, List.mem_cons_of_mem _ List.mem_cons_self, List.mem_cons_self,
    ⟨by decide, by decide⟩, by decide, by decide⟩

end MappingPlan

end UnnamedOS.Layout
