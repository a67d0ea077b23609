import UnnamedOS.Layout.Contract
import UnnamedOS.PageTable.Links

namespace UnnamedOS.PageTable

open UnnamedOS.Data UnnamedOS.Layout

/-! # The aliases of a physical page

The mapping plan compares physical ranges when a mapping is inserted.  A leaf
remembers which mapping it was expanded from, so the comparison of the ranges
holds for every pair of leaves that name one frame. -/

theorem forLeaf_writable {permissions : MappingPermissions} {cache : CachePolicy}
    {flags : EntryFlags} (built : EntryFlags.forLeaf permissions cache = .ok flags) :
    flags.writable = permissions.writable := by
  have bit := (forLeaf_flags built).writable
  cases writable : permissions.writable <;> simp_all [EntryFlags.writable]

theorem forLeaf_executable {permissions : MappingPermissions} {cache : CachePolicy}
    {flags : EntryFlags} (built : EntryFlags.forLeaf permissions cache = .ok flags) :
    flags.executable = permissions.executable := by
  have bit := (forLeaf_flags built).noExecute
  cases executable : permissions.executable <;> simp_all [EntryFlags.executable]

namespace ConstructionPlan

variable {tableCapacity entryCapacity removalCapacity capacity : Nat}
variable {plan after : ConstructionPlan tableCapacity entryCapacity removalCapacity}

/-- A mapping a leaf can come from: one that is backed by the leaf's frame and
has the leaf's flags. -/
def BackedBy (entry : PlanEntry) (frame : PhysicalFrame) (flags : EntryFlags) : Prop :=
  ∃ range physical permissions cache kind,
    entry = .mapping range physical permissions cache kind ∧
    physical.start.value ≤ frame.address ∧ frame.address < physical.stop ∧
    EntryFlags.forLeaf permissions cache = .ok flags

/-- Every leaf comes from one of the mappings. -/
def Sourced (mappings : List PlanEntry)
    (plan : ConstructionPlan tableCapacity entryCapacity removalCapacity) : Prop :=
  ∀ entry ∈ plan.entries, ∀ frame, entry.target = .physicalFrame frame →
    ∃ mapping ∈ mappings, BackedBy mapping frame entry.flags

theorem Sourced.push {mappings : List PlanEntry} {added : PlannedEntry}
    (sourced : Sourced mappings plan) (entries : after.entries = plan.entries ++ [added])
    (new : ∀ frame, added.target = .physicalFrame frame →
      ∃ mapping ∈ mappings, BackedBy mapping frame added.flags) :
    Sourced mappings after := by
  unfold Sourced
  rw [entries]
  exact forall_mem_append_singleton sourced new

theorem build_sourced {mappings : MappingPlan capacity} {mode : PlanMode}
    (invariant : mappings.Invariant) (built : build mappings mode = .ok plan) :
    Sourced mappings.entries plan := by
  refine build_keeps ?_ ?_ ?_ built
  · intro empty begun
    obtain ⟨_, _, entries⟩ := begin_consistent begun
    simp [Sourced, entries]
  · intro current next parentSlot slot parentLevel index address holds created
    obtain ⟨_, _, _, _, _, _, entries⟩ := createChild_eq_ok created
    exact holds.push entries (by simp)
  · intro range physical permissions cache kind member current next page slot index frame below
      backing holds inserted
    obtain ⟨flags, leafFlags, _, rfl⟩ := insertLeaf_eq_ok inserted
    refine holds.push rfl ?_
    intro target same
    cases same
    refine ⟨_, member, range, physical, permissions, cache, kind, rfl, by omega, ?_, leafFlags⟩
    -- Equal lengths keep the page counted in the virtual range inside the physical one.
    have lengths := (invariant.accepted _ member).1
    have nonempty := physical.bounds.nonempty
    simp only [VirtualRange.length, PhysicalRange.length, pageSize] at lengths below backing
    omega

theorem BackedBy.compatible {mappings : MappingPlan capacity} (invariant : mappings.Invariant)
    {left right : PlanEntry} {frame : PhysicalFrame} {leftFlags rightFlags : EntryFlags}
    (leftMember : left ∈ mappings.entries) (rightMember : right ∈ mappings.entries)
    (leftBacked : BackedBy left frame leftFlags) (rightBacked : BackedBy right frame rightFlags) :
    ¬ (leftFlags.writable = true ∧ rightFlags.executable = true) ∧
      leftFlags.writable = rightFlags.writable := by
  obtain ⟨_, leftPhysical, leftPermissions, _, _, leftIs, leftLower, leftUpper, leftLeaf⟩ := leftBacked
  obtain ⟨_, rightPhysical, rightPermissions, _, _, rightIs, rightLower, rightUpper, rightLeaf⟩ :=
    rightBacked
  rw [forLeaf_writable leftLeaf, forLeaf_writable rightLeaf, forLeaf_executable rightLeaf]
  have compatible := invariant.aliases leftMember rightMember
  subst leftIs rightIs
  obtain ⟨exclusive, _, writable⟩ := compatible ⟨by omega, by omega⟩
  exact ⟨exclusive, writable⟩

/-- In the hierarchy built from any reachable mapping plan, no page is writable
through one leaf and executable through another, and all leaves of a page agree
on whether it is writable. -/
theorem build_aliases_exclusive {mode : PlanMode} (calls : List MappingPlan.Call)
    (built : build ((MappingPlan.new capacity).run calls) mode = .ok plan)
    (left right : PlannedEntry) (leftMember : left ∈ plan.entries)
    (rightMember : right ∈ plan.entries) (frame : PhysicalFrame)
    (leftTarget : left.target = .physicalFrame frame)
    (rightTarget : right.target = .physicalFrame frame) :
    ¬ (left.flags.writable = true ∧ right.flags.executable = true) ∧
      left.flags.writable = right.flags.writable := by
  have invariant := @MappingPlan.reachable_invariant capacity calls
  have sourced := build_sourced invariant built
  obtain ⟨leftMapping, leftIn, leftBacked⟩ := sourced left leftMember frame leftTarget
  obtain ⟨rightMapping, rightIn, rightBacked⟩ := sourced right rightMember frame rightTarget
  exact BackedBy.compatible invariant leftIn rightIn leftBacked rightBacked

def textFrame : PhysicalFrame :=
  ⟨textBacking.start.value, by decide, textBacking.start.supported, textBacking.bounds.startAligned⟩

/-- The same text page in the kernel image and in the direct map. -/
def textAlias : MappingPlan.Call :=
  .insertMapping
    ⟨⟨directMapStart + bootstrapPhysicalStart, by decide⟩,
      directMapStart + bootstrapPhysicalStart + 4096, by constructor <;> decide⟩
    textBacking .kernelR .writeBack .directMap

theorem build_aliases_exclusive_textAlias :
    ∃ plan : ConstructionPlan 7 8 0,
      build ((MappingPlan.new 2).run [textPage, textAlias]) .final = .ok plan ∧
      ∃ left ∈ plan.entries, ∃ right ∈ plan.entries, left ≠ right ∧
        left.target = .physicalFrame textFrame ∧ right.target = .physicalFrame textFrame ∧
        ¬ (left.flags.writable = true ∧ right.flags.executable = true) ∧
        left.flags.writable = right.flags.writable := by
  have found : ((build ((MappingPlan.new 2).run [textPage, textAlias]) .final).toOption.any
      fun plan : ConstructionPlan 7 8 0 => decide (∃ left ∈ plan.entries, ∃ right ∈ plan.entries,
        left ≠ right ∧ left.target = .physicalFrame textFrame ∧
          right.target = .physicalFrame textFrame)) = true := by
    decide +kernel
  obtain ⟨plan, built, aliased⟩ := (Option.any_eq_true _ _).mp found
  obtain ⟨left, leftMember, right, rightMember, distinct, leftTarget, rightTarget⟩ :=
    of_decide_eq_true aliased
  have built := toOption_eq_some.mp built
  exact ⟨plan, built, left, leftMember, right, rightMember, distinct, leftTarget, rightTarget,
    build_aliases_exclusive _ built left right leftMember rightMember textFrame leftTarget
      rightTarget⟩

end ConstructionPlan

end UnnamedOS.PageTable
