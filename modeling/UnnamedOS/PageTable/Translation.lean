import UnnamedOS.Layout.PlanInvariant
import UnnamedOS.PageTable.Structure

namespace UnnamedOS.PageTable

open UnnamedOS.Data UnnamedOS.Layout

/-! # The hierarchy translates what the mapping plan translates

The mapping plan is searched by range, the construction plan by four indices.
One page insertion changes one leaf, a mapping's page loop fills exactly its
range, and the loop over the plan's entries then agrees with the search. -/

/-! ## Indices and pages -/

theorem tableIndexAt_value (address : VirtualAddress) (shift : Nat) :
    (tableIndexAt address shift).value = address.value / 2 ^ shift % 512 := by
  simp only [tableIndexAt, Nat.shiftRight_eq_div_pow]
  exact Nat.and_two_pow_sub_one_eq_mod _ 9

/-- The four indices name the page: sign extension leaves no other bits free. -/
theorem indices_eq_iff {left right : VirtualAddress} :
    (ConstructionPlan.upperPath left = ConstructionPlan.upperPath right ∧
      ConstructionPlan.lastIndex left = ConstructionPlan.lastIndex right) ↔
      left.value / pageSize = right.value / pageSize := by
  have leftCanonical := left.canonical
  have rightCanonical := right.canonical
  simp only [isCanonical, lowCanonicalEnd, highCanonicalStart, wordLimit]
    at leftCanonical rightCanonical
  simp only [ConstructionPlan.upperPath, ConstructionPlan.lastIndex, List.cons.injEq, and_true,
    TableIndex.ext_iff, tableIndexAt_value, pageSize]
  omega

/-! ## Leaf flags -/

/-- What the flags of a leaf say about the mapping it belongs to. -/
structure FlagsFor (permissions : MappingPermissions) (cache : CachePolicy)
    (flags : EntryFlags) : Prop where
  present : flags.bits &&& EntryFlags.present ≠ 0
  global : flags.bits &&& EntryFlags.global ≠ 0
  writable : flags.bits &&& EntryFlags.writableBit ≠ 0 ↔ permissions.writable = true
  noExecute : flags.bits &&& EntryFlags.noExecute ≠ 0 ↔ permissions.executable = false
  writeThrough : flags.bits &&& EntryFlags.writeThrough ≠ 0 ↔ cache = .uncached
  cacheDisable : flags.bits &&& EntryFlags.cacheDisable ≠ 0 ↔ cache = .uncached
  user : flags.bits &&& EntryFlags.userBit = 0
  hugePage : flags.bits &&& EntryFlags.hugePage = 0

theorem forLeaf_bits {permissions : MappingPermissions} {cache : CachePolicy} {flags : EntryFlags}
    (built : EntryFlags.forLeaf permissions cache = .ok flags) :
    flags.bits = EntryFlags.leafBits permissions cache := by
  simp only [EntryFlags.forLeaf, EntryFlags.fromBits, guard_eq_ok, Except.ok.injEq] at built
  obtain ⟨_, _, _, _, rfl⟩ := built
  rfl

theorem forLeaf_flags {permissions : MappingPermissions} {cache : CachePolicy}
    {flags : EntryFlags} (built : EntryFlags.forLeaf permissions cache = .ok flags) :
    FlagsFor permissions cache flags := by
  have bits := forLeaf_bits built
  unfold EntryFlags.leafBits at bits
  cases writable : permissions.writable <;> cases executable : permissions.executable <;>
    cases cache <;> simp [writable, executable] at bits <;>
    refine ⟨?_, ?_, ?_, ?_, ?_, ?_, ?_, ?_⟩ <;> rw [bits] <;> simp [writable, executable]

theorem forLeaf_exclusive {permissions : MappingPermissions} {cache : CachePolicy}
    {flags : EntryFlags} (built : EntryFlags.forLeaf permissions cache = .ok flags) :
    ¬ (permissions.writable = true ∧ permissions.executable = true) := by
  simp only [EntryFlags.forLeaf, guard_eq_ok, Bool.and_eq_true] at built
  exact built.2.1

/-! ## One page, one mapping, the whole plan -/

namespace ConstructionPlan

variable {tableCapacity entryCapacity removalCapacity capacity : Nat}
variable {plan after : ConstructionPlan tableCapacity entryCapacity removalCapacity}
variable {range : VirtualRange} {physical : PhysicalRange}
variable {permissions : MappingPermissions} {cache : CachePolicy}

/-- The leaf of an address inside a mapping: the frame its page has in the
physical range, and the flags of the mapping. -/
structure LeafFor (range : VirtualRange) (physical : PhysicalRange)
    (permissions : MappingPermissions) (cache : CachePolicy) (address : VirtualAddress)
    (leaf : PlannedEntry) : Prop where
  target : ∃ frame, leaf.target = .physicalFrame frame ∧
    frame.address = physical.start.value + (address.value / pageSize * pageSize - range.start.value)
  flags : EntryFlags.forLeaf permissions cache = .ok leaf.flags

theorem leafEntry_of_inserted {address : VirtualAddress} {frame : PhysicalFrame}
    {flags : EntryFlags} (inserted : Inserted plan after address frame flags) :
    ∃ leaf, leaf.target = .physicalFrame frame ∧ leaf.flags = flags ∧
      ∀ other : VirtualAddress, after.leafEntry other =
        if other.value / pageSize = address.value / pageSize then some leaf
        else plan.leafEntry other := by
  obtain ⟨leaf, target, flagged, changed⟩ := inserted.leaves
  refine ⟨leaf, target, flagged, ?_⟩
  intro other
  rw [leafEntry_eq_leafAt, leafEntry_eq_leafAt, changed]
  simp only [indices_eq_iff]

theorem addPage_eq_ok {page : Nat}
    (added : plan.addPage range physical permissions cache page = .ok after) :
    ∃ (address : VirtualAddress) (frame : PhysicalFrame),
      address.value = range.start.value + page * pageSize ∧
      frame.address = physical.start.value + page * pageSize ∧
      plan.insertPage address frame permissions cache = .ok after := by
  unfold addPage at added
  simp only [bind_eq_ok, okOr_eq_ok, checkedMul_eq_some, checkedAdd_eq_some, mapError_eq_ok,
    VirtualAddress.new_eq_ok] at added
  obtain ⟨_, ⟨_, rfl⟩, _, ⟨_, rfl⟩, _, ⟨_, rfl⟩, address, virtual, frame, built, inserted⟩ := added
  exact ⟨address, frame, virtual, PhysicalFrame.new_eq_ok.mp built, inserted⟩

/-- After `pages` iterations of a mapping's loop the leaves of its first
`pages` pages stand and every other leaf is as before the loop. -/
structure Filled (before current : ConstructionPlan tableCapacity entryCapacity removalCapacity)
    (range : VirtualRange) (physical : PhysicalRange) (permissions : MappingPermissions)
    (cache : CachePolicy) (pages : Nat) : Prop where
  consistent : current.Consistent
  mode : current.mode = before.mode
  inside : ∀ address : VirtualAddress, range.start.value ≤ address.value →
    address.value < range.start.value + pages * pageSize →
    ∃ leaf, current.leafEntry address = some leaf ∧
      LeafFor range physical permissions cache address leaf
  outside : ∀ address : VirtualAddress,
    ¬ (range.start.value ≤ address.value ∧
      address.value < range.start.value + pages * pageSize) →
    current.leafEntry address = before.leafEntry address

theorem addPage_fills {before : ConstructionPlan tableCapacity entryCapacity removalCapacity}
    {page : Nat} (filled : Filled before plan range physical permissions cache page)
    (added : plan.addPage range physical permissions cache page = .ok after) :
    Filled before after range physical permissions cache (page + 1) := by
  obtain ⟨address, frame, virtual, backing, insertedPage⟩ := addPage_eq_ok added
  obtain ⟨flags, leafFlags, inserted⟩ := insertPage_inserts filled.consistent insertedPage
  obtain ⟨leaf, target, flagged, leaves⟩ := leafEntry_of_inserted inserted
  have samePage (other : VirtualAddress) :
      other.value / pageSize = address.value / pageSize ↔
        range.start.value + page * pageSize ≤ other.value ∧
          other.value < range.start.value + (page + 1) * pageSize := by
    have aligned := range.bounds.startAligned
    simp only [pageSize] at aligned virtual ⊢
    omega
  refine ⟨inserted.consistent, inserted.mode.trans filled.mode, ?_, ?_⟩
  · intro other lower upper
    rw [leaves]
    by_cases here : other.value / pageSize = address.value / pageSize
    · rw [if_pos here]
      refine ⟨leaf, rfl, ⟨frame, target, ?_⟩, by rw [flagged]; exact leafFlags⟩
      have aligned := range.bounds.startAligned
      simp only [pageSize] at aligned virtual backing here ⊢
      omega
    · rw [if_neg here]
      refine filled.inside other lower ?_
      rw [samePage] at here
      omega
  · intro other apart
    have elsewhere : ¬ other.value / pageSize = address.value / pageSize := by
      rw [samePage]
      rintro ⟨lower, upper⟩
      exact apart ⟨by omega, upper⟩
    rw [leaves, if_neg elsewhere]
    refine filled.outside other ?_
    rintro ⟨lower, upper⟩
    refine apart ⟨lower, ?_⟩
    rw [Nat.succ_mul]
    omega

theorem addPages_fills {pages : Nat} (consistent : plan.Consistent)
    (added : (List.range pages).foldlM
      (fun plan page => plan.addPage range physical permissions cache page) plan = .ok after) :
    Filled plan after range physical permissions cache pages := by
  refine foldlM_range_invariant (fun page current =>
    Filled plan current range physical permissions cache page) ?_ ?_ added
  · refine ⟨consistent, rfl, ?_, fun _ _ => rfl⟩
    intro address lower upper
    rw [Nat.zero_mul] at upper
    omega
  · intro page current next _ filled stepped
    exact addPage_fills filled stepped

/-- The plan holds the leaves of the listed entries and no others. -/
structure Realizes (plan : ConstructionPlan tableCapacity entryCapacity removalCapacity)
    (entries : List PlanEntry) : Prop where
  consistent : plan.Consistent
  mapped : ∀ (range : VirtualRange) (physical : PhysicalRange)
    (permissions : MappingPermissions) (cache : CachePolicy) (kind : MappingKind),
    .mapping range physical permissions cache kind ∈ entries →
    ∀ address, range.contains address → ∃ leaf, plan.leafEntry address = some leaf ∧
      LeafFor range physical permissions cache address leaf
  unmapped : ∀ address,
    (∀ entry ∈ entries, entry.virtualRange.contains address → entry.backing = .unmapped) →
    plan.leafEntry address = none

theorem addMapping_guard_eq_ok (added : plan.addMapping (.guard range) = .ok after) :
    after = plan := by
  simp only [addMapping, guard_eq_ok] at added
  simpa [PlanEntry.backing, PlanEntry.kind, eq_comm] using added.2

theorem addMapping_mapping_eq_ok {kind : MappingKind}
    (added : plan.addMapping (.mapping range physical permissions cache kind) = .ok after) :
    (List.range (range.length / pageSize)).foldlM
      (fun plan page => plan.addPage range physical permissions cache page) plan = .ok after := by
  simp only [addMapping, guard_eq_ok] at added
  simpa only [PlanEntry.backing, PlanEntry.permissions, PlanEntry.cachePolicy,
    PlanEntry.virtualRange, okOr_some, ok_bind] using added.2

/-- Adding a mapping that meets no earlier one extends what the plan realizes. -/
theorem addMapping_realizes {entries : List PlanEntry} {entry : PlanEntry}
    (realizes : plan.Realizes entries)
    (apart : ∀ existing ∈ entries, ¬ existing.virtualRange.overlaps entry.virtualRange)
    (added : plan.addMapping entry = .ok after) : after.Realizes (entries ++ [entry]) := by
  cases entry with
  | guard range =>
      obtain rfl := addMapping_guard_eq_ok added
      refine ⟨realizes.consistent, ?_, ?_⟩
      · intro other physical permissions cache kind member
        rcases List.mem_append.mp member with old | added
        · exact realizes.mapped other physical permissions cache kind old
        · simp at added
      · intro address absent
        exact realizes.unmapped address fun existing member =>
          absent existing (List.mem_append_left _ member)
  | mapping range physical permissions cache kind =>
      have filled := addPages_fills realizes.consistent (addMapping_mapping_eq_ok added)
      have whole : range.start.value + range.length / pageSize * pageSize = range.stop := by
        obtain ⟨nonempty, _, _, _, startAligned, stopAligned⟩ := range.bounds
        simp only [VirtualRange.length, pageSize] at *
        omega
      refine ⟨filled.consistent, ?_, ?_⟩
      · intro other otherPhysical otherPermissions otherCache otherKind member address inside
        rcases List.mem_append.mp member with old | added
        · have disjoint := apart _ old
          rw [filled.outside address ?_]
          · exact realizes.mapped other otherPhysical otherPermissions otherCache otherKind old
              address inside
          · rw [whole]
            simp only [PlanEntry.virtualRange, VirtualRange.overlaps, VirtualRange.contains]
              at disjoint inside
            omega
        · obtain ⟨rfl, rfl, rfl, rfl, rfl⟩ : other = range ∧ otherPhysical = physical ∧
              otherPermissions = permissions ∧ otherCache = cache ∧ otherKind = kind := by
            simpa using added
          exact filled.inside address inside.1 (by rw [whole]; exact inside.2)
      · intro address absent
        rw [filled.outside address ?_]
        · exact realizes.unmapped address fun existing member =>
            absent existing (List.mem_append_left _ member)
        · rw [whole]
          intro inside
          have backed := absent _ (List.mem_append_right _ (List.mem_singleton.mpr rfl)) inside
          simp [PlanEntry.backing] at backed

/-- What an accepted `build` went through. -/
theorem build_eq_ok {mappings : MappingPlan capacity} {mode : PlanMode}
    (built : build mappings mode = .ok plan) :
    ∃ empty, begin mode = .ok empty ∧ mappings.entries.foldlM addMapping empty = .ok plan ∧
      plan.validateStructure = .ok () := by
  obtain ⟨_, _, built⟩ := bind_eq_ok.mp built
  obtain ⟨empty, begun, built⟩ := bind_eq_ok.mp built
  obtain ⟨filled, added, finished⟩ := bind_eq_ok.mp built
  obtain ⟨_, validated, result⟩ := bind_eq_ok.mp finished
  cases result
  exact ⟨empty, begun, added, validated⟩

theorem build_realizes {mappings : MappingPlan capacity} {mode : PlanMode}
    (invariant : mappings.Invariant) (built : build mappings mode = .ok plan) :
    plan.Realizes mappings.entries := by
  obtain ⟨empty, begun, added, _⟩ := build_eq_ok built
  obtain ⟨consistent, _, entries⟩ := begin_consistent begun
  refine foldlM_invariant (fun before current => current.Realizes before) ?_ ?_ added
  · refine ⟨consistent, by simp, ?_⟩
    intro address _
    simp [leafEntry, virtualAddressIndices, findEntry, entries]
  · intro before entry rest current next split realizes stepped
    exact addMapping_realizes realizes (invariant.apart split) stepped

section

variable {mappings : MappingPlan capacity} {address : VirtualAddress}

/-- Inside a mapping the leaf and `translate` name the same page. -/
theorem Realizes.mapped_agrees (realizes : plan.Realizes mappings.entries)
    (invariant : mappings.Invariant) {kind : MappingKind}
    (member : .mapping range physical permissions cache kind ∈ mappings.entries)
    (inside : range.contains address) :
    ∃ leaf translated frame, plan.leafEntry address = some leaf ∧
      mappings.translate address = .ok translated ∧ leaf.target = .physicalFrame frame ∧
      frame.address = translated.value / pageSize * pageSize ∧
      FlagsFor permissions cache leaf.flags := by
  obtain ⟨leaf, found, ⟨frame, target, frameAddress⟩, flags⟩ :=
    realizes.mapped range physical permissions cache kind member address inside
  obtain ⟨translated, accepted, value⟩ := MappingPlan.translate_mapping invariant member inside
  refine ⟨leaf, translated, frame, found, accepted, target, ?_, forLeaf_flags flags⟩
  have rangeAligned := range.bounds.startAligned
  have physicalAligned := physical.bounds.startAligned
  obtain ⟨lower, _⟩ := inside
  rw [frameAddress, value]
  simp only [pageSize] at rangeAligned physicalAligned ⊢
  omega

/-- Either a mapping contains the address or nothing but guards does. -/
theorem mapped_or_unmapped (mappings : MappingPlan capacity) (address : VirtualAddress) :
    (∃ range physical permissions cache kind,
      .mapping range physical permissions cache kind ∈ mappings.entries ∧
      range.contains address) ∨
    ∀ entry ∈ mappings.entries, entry.virtualRange.contains address →
      entry.backing = .unmapped := by
  by_cases absent : ∀ entry ∈ mappings.entries, entry.virtualRange.contains address →
      entry.backing = .unmapped
  · exact .inr absent
  · left
    push Not at absent
    obtain ⟨entry, member, inside, backed⟩ := absent
    cases entry with
    | guard range => simp [PlanEntry.backing] at backed
    | mapping range physical permissions cache kind =>
        exact ⟨range, physical, permissions, cache, kind, member, inside⟩

end

/-- The hierarchy built from any reachable mapping plan has a leaf exactly
where the plan translates; the leaf names the translated page and carries the
attributes of the one mapping around the address. -/
theorem build_leafEntry_agrees_with_translate {mode : PlanMode} (calls : List MappingPlan.Call)
    (built : build ((MappingPlan.new capacity).run calls) mode = .ok plan)
    (address : VirtualAddress) :
    ((∃ leaf, plan.leafEntry address = some leaf) ↔
      ∃ translated, ((MappingPlan.new capacity).run calls).translate address = .ok translated) ∧
    (∀ leaf translated, plan.leafEntry address = some leaf →
      ((MappingPlan.new capacity).run calls).translate address = .ok translated →
      (∃ frame, leaf.target = .physicalFrame frame ∧
        frame.address = translated.value / pageSize * pageSize) ∧
      ∃ range physical permissions cache kind,
        .mapping range physical permissions cache kind ∈
          ((MappingPlan.new capacity).run calls).entries ∧
        range.contains address ∧ FlagsFor permissions cache leaf.flags ∧
        ∀ other ∈ ((MappingPlan.new capacity).run calls).entries,
          other.virtualRange.contains address →
          other = .mapping range physical permissions cache kind) ∧
    (∀ range, .guard range ∈ ((MappingPlan.new capacity).run calls).entries →
      range.contains address → plan.leafEntry address = none) ∧
    ((∀ entry ∈ ((MappingPlan.new capacity).run calls).entries,
      ¬ entry.virtualRange.contains address) → plan.leafEntry address = none) := by
  have invariant := @MappingPlan.reachable_invariant capacity calls
  have realizes := build_realizes invariant built
  refine ⟨?_, ?_, ?_, ?_⟩
  · rcases mapped_or_unmapped ((MappingPlan.new capacity).run calls) address with
      ⟨range, physical, permissions, cache, kind, member, inside⟩ | absent
    · obtain ⟨leaf, translated, _, found, accepted, _⟩ :=
        realizes.mapped_agrees invariant member inside
      simp [found, accepted]
    · simp [realizes.unmapped address absent, MappingPlan.translate_unmapped absent]
  · intro leaf translated found accepted
    rcases mapped_or_unmapped ((MappingPlan.new capacity).run calls) address with
      ⟨range, physical, permissions, cache, kind, member, inside⟩ | absent
    · obtain ⟨sameLeaf, sameTranslated, frame, sameFound, sameAccepted, target, frameAddress, flags⟩ :=
        realizes.mapped_agrees invariant member inside
      rw [found] at sameFound
      rw [accepted] at sameAccepted
      cases sameFound
      cases sameAccepted
      refine ⟨⟨frame, target, frameAddress⟩, range, physical, permissions, cache, kind, member,
        inside, flags, ?_⟩
      intro other otherMember otherInside
      exact invariant.unique member inside otherMember otherInside
    · rw [realizes.unmapped address absent] at found
      contradiction
  · intro range member inside
    refine realizes.unmapped address ?_
    intro other otherMember otherInside
    rw [invariant.unique member inside otherMember otherInside]
    rfl
  · intro outside
    refine realizes.unmapped address ?_
    intro entry member inside
    exact absurd inside (outside entry member)

/-- The first page of the bootstrap window. -/
def textBacking : PhysicalRange :=
  ⟨⟨bootstrapPhysicalStart, by decide⟩, bootstrapPhysicalStart + 4096, by constructor <;> decide⟩

/-- A one-page kernel text mapping. -/
def textPage : MappingPlan.Call :=
  .insertMapping
    ⟨⟨kernelImageStart, by decide⟩, kernelImageStart + 4096, by constructor <;> decide⟩ textBacking
    .kernelRx .writeBack .kernelText

def textAddress : VirtualAddress := ⟨kernelImageStart + 0x123, by decide⟩

theorem build_leafEntry_of_textPage :
    ∃ plan : ConstructionPlan 4 4 0,
      build ((MappingPlan.new 1).run [textPage]) .final = .ok plan ∧
      ∃ leaf frame, plan.leafEntry textAddress = some leaf ∧
        leaf.target = .physicalFrame frame ∧ frame.address = bootstrapPhysicalStart := by
  obtain ⟨plan, built⟩ : ∃ plan : ConstructionPlan 4 4 0,
      build ((MappingPlan.new 1).run [textPage]) .final = .ok plan := ⟨_, rfl⟩
  have translated : ((MappingPlan.new 1).run [textPage]).translate textAddress =
      .ok ⟨bootstrapPhysicalStart + 0x123, by decide⟩ := rfl
  obtain ⟨agrees, targets, _⟩ := build_leafEntry_agrees_with_translate [textPage] built textAddress
  obtain ⟨leaf, found⟩ := agrees.mpr ⟨_, translated⟩
  obtain ⟨⟨frame, target, address⟩, _⟩ := targets leaf _ found translated
  exact ⟨plan, built, leaf, frame, found, target, address⟩

end ConstructionPlan

end UnnamedOS.PageTable
