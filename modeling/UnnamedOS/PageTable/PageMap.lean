import Mathlib.Data.List.Sort
import UnnamedOS.PageTable.Completeness

namespace UnnamedOS.Layout

open UnnamedOS.Data

/-! # What a plan assigns to each page

Ranges, kinds and guards are how a plan was asked for.  What it is for is the
map from virtual pages to physical pages with their permissions and cache
policy. -/

structure PageAssignment where
  frame : Nat
  permissions : MappingPermissions
  cache : CachePolicy
deriving DecidableEq

/-- A virtual page and what it is assigned. -/
structure MappedPage where
  address : Nat
  assignment : PageAssignment
deriving DecidableEq

/-- The pages an entry maps, in the order the planner takes them. -/
def PlanEntry.mappedPages : PlanEntry → List MappedPage
  | .mapping range physical permissions cache _ =>
      (List.range (range.length / pageSize)).map fun page =>
        ⟨range.start.value + page * pageSize,
          ⟨physical.start.value + page * pageSize, permissions, cache⟩⟩
  | .guard _ => []

namespace MappingPlan

variable {capacity : Nat}

/-- The assignment of the page at an address; a guard assigns nothing. -/
def assigns (plan : MappingPlan capacity) (address : VirtualAddress) : Option PageAssignment :=
  match plan.entries.find? fun entry => entry.virtualRange.contains address with
  | some (.mapping range physical permissions cache _) =>
      some ⟨physical.start.value + (address.value - range.start.value), permissions, cache⟩
  | _ => none

def mappedPages (plan : MappingPlan capacity) : List MappedPage :=
  plan.entries.flatMap PlanEntry.mappedPages

section

variable {plan : MappingPlan capacity}

theorem Invariant.assigns_eq_some (invariant : plan.Invariant) {address : VirtualAddress}
    {assignment : PageAssignment} :
    plan.assigns address = some assignment ↔
      ∃ range physical permissions cache kind,
        .mapping range physical permissions cache kind ∈ plan.entries ∧ range.contains address ∧
        ⟨physical.start.value + (address.value - range.start.value), permissions, cache⟩ =
          assignment := by
  constructor
  · intro assigned
    unfold assigns at assigned
    split at assigned
    · rename_i range physical permissions cache kind found
      have inside := List.find?_some found
      exact ⟨range, physical, permissions, cache, kind, List.mem_of_find?_eq_some found,
        of_decide_eq_true inside, Option.some.inj assigned⟩
    · contradiction
  · intro mapped
    obtain ⟨range, physical, permissions, cache, kind, member, inside, rfl⟩ := mapped
    simp only [assigns, find?_contains invariant member inside]

/-- The listed pages are the aligned addresses with an assignment. -/
theorem Invariant.mem_mappedPages (invariant : plan.Invariant) {page : MappedPage} :
    page ∈ plan.mappedPages ↔ ∃ address : VirtualAddress, address.value = page.address ∧
      address.value % pageSize = 0 ∧ plan.assigns address = some page.assignment := by
  simp only [mappedPages, List.mem_flatMap]
  constructor
  · intro listed
    obtain ⟨entry, member, inEntry⟩ := listed
    cases entry with
    | guard range => simp [PlanEntry.mappedPages] at inEntry
    | mapping range physical permissions cache kind =>
        simp only [PlanEntry.mappedPages, List.mem_map, List.mem_range] at inEntry
        obtain ⟨index, below, rfl⟩ := inEntry
        have aligned := range.bounds.startAligned
        have inside : range.start.value + index * pageSize < range.stop := by
          simp only [VirtualRange.length, pageSize] at below ⊢
          omega
        refine ⟨⟨_, range.canonical_of_mem (Nat.le_add_right _ _) inside⟩, rfl, ?_,
          invariant.assigns_eq_some.mpr ⟨range, physical, permissions, cache, kind, member,
            ⟨Nat.le_add_right _ _, inside⟩, ?_⟩⟩
        · simp only [pageSize] at aligned ⊢
          omega
        · rw [Nat.add_sub_cancel_left]
  · intro assigned
    obtain ⟨address, here, aligned, found⟩ := assigned
    obtain ⟨range, physical, permissions, cache, kind, member, ⟨lower, upper⟩, same⟩ :=
      invariant.assigns_eq_some.mp found
    refine ⟨_, member, List.mem_map.mpr ⟨(address.value - range.start.value) / pageSize, ?_, ?_⟩⟩
    · have startAligned := range.bounds.startAligned
      have stopAligned := range.bounds.stopAligned
      simp only [List.mem_range, VirtualRange.length, pageSize] at aligned startAligned stopAligned ⊢
      omega
    · have startAligned := range.bounds.startAligned
      have whole : (address.value - range.start.value) / pageSize * pageSize =
          address.value - range.start.value := by
        simp only [pageSize] at aligned startAligned ⊢
        omega
      cases page with
      | mk pageAddress assignment =>
          simp only at here same
          rw [whole, same, Nat.add_sub_cancel' lower, here]

/-- Inside an entry and from one entry to the next the addresses grow. -/
theorem Invariant.mappedPages_sorted (invariant : plan.Invariant) :
    plan.mappedPages.Pairwise fun left right => left.address < right.address := by
  refine List.pairwise_flatMap.mpr ⟨?_, invariant.ordered.imp ?_⟩
  · intro entry _
    cases entry with
    | guard range => exact List.Pairwise.nil
    | mapping range physical permissions cache kind =>
        refine List.pairwise_map.mpr (List.pairwise_lt_range.imp ?_)
        intro first second earlier
        simp only [pageSize]
        omega
  · intro left right before page inLeft other inRight
    cases left with
    | guard range => simp [PlanEntry.mappedPages] at inLeft
    | mapping range physical permissions cache kind =>
        cases right with
        | guard range => simp [PlanEntry.mappedPages] at inRight
        | mapping otherRange otherPhysical otherPermissions otherCache otherKind =>
            simp only [PlanEntry.mappedPages, List.mem_map, List.mem_range] at inLeft inRight
            obtain ⟨index, below, rfl⟩ := inLeft
            obtain ⟨otherIndex, _, rfl⟩ := inRight
            simp only [stopOf, startOf, PlanEntry.virtualRange, VirtualRange.length, pageSize]
              at before below ⊢
            omega

end

/-- The sorted pages are determined by the assignments. -/
theorem Invariant.mappedPages_eq {otherCapacity : Nat} {left : MappingPlan capacity}
    {right : MappingPlan otherCapacity} (first : left.Invariant) (second : right.Invariant)
    (same : ∀ address : VirtualAddress, address.value % pageSize = 0 →
      left.assigns address = right.assigns address) : left.mappedPages = right.mappedPages := by
  have asymmetric : Std.Antisymm fun page other : MappedPage => page.address < other.address :=
    ⟨fun _ _ before after => absurd before (Nat.lt_asymm after)⟩
  have irreflexive : Std.Irrefl fun page other : MappedPage => page.address < other.address :=
    ⟨fun page => Nat.lt_irrefl page.address⟩
  refine first.mappedPages_sorted.eq_of_mem_iff second.mappedPages_sorted fun page => ?_
  rw [first.mem_mappedPages, second.mem_mappedPages]
  refine exists_congr fun address => and_congr_right fun _ => and_congr_right fun aligned => ?_
  rw [same address aligned]

end MappingPlan

end UnnamedOS.Layout

namespace UnnamedOS.PageTable

open UnnamedOS.Data UnnamedOS.Layout

namespace ConstructionPlan

variable {tableCapacity entryCapacity removalCapacity capacity otherCapacity : Nat}
variable {plan : ConstructionPlan tableCapacity entryCapacity removalCapacity}

/-! ## The planner reads the page map

The loop over entries and the loop over an entry's pages are one loop over the
pages of the plan. -/

/-- What an iteration of the page loop does, given the page itself. -/
def addMappedPage (plan : ConstructionPlan tableCapacity entryCapacity removalCapacity)
    (page : MappedPage) : Result tableCapacity entryCapacity removalCapacity := do
  let address ← (VirtualAddress.new page.address).mapError .layout
  let frame ← PhysicalFrame.new page.assignment.frame
  plan.insertPage address frame page.assignment.permissions page.assignment.cache

theorem addPage_eq_addMappedPage {range : VirtualRange} {physical : PhysicalRange}
    {permissions : MappingPermissions} {cache : CachePolicy} {page : Nat}
    (lengths : range.length = physical.length) (below : page < range.length / pageSize) :
    plan.addPage range physical permissions cache page =
      plan.addMappedPage ⟨range.start.value + page * pageSize,
        ⟨physical.start.value + page * pageSize, permissions, cache⟩⟩ := by
  obtain ⟨inRange, inBacking, word⟩ := page_bounds lengths below
  have supported := physical.bounds.supported
  simp only [supportedPhysicalEnd] at supported
  simp only [pageSize, wordLimit] at inRange inBacking word
  have offset : checkedMul page pageSize = some (page * pageSize) := by
    refine checkedMul_eq_some.mpr ⟨?_, rfl⟩
    simp only [wordLimit, pageSize]
    omega
  have virtual : checkedAdd range.start.value (page * pageSize) =
      some (range.start.value + page * pageSize) := by
    refine checkedAdd_eq_some.mpr ⟨?_, rfl⟩
    simp only [wordLimit, pageSize]
    omega
  have backing : checkedAdd physical.start.value (page * pageSize) =
      some (physical.start.value + page * pageSize) := by
    refine checkedAdd_eq_some.mpr ⟨?_, rfl⟩
    simp only [wordLimit, pageSize]
    omega
  simp only [addPage, addMappedPage, offset, virtual, backing, okOr_some, ok_bind]

theorem addMapping_eq_pages {entry : PlanEntry} (accepted : entry.Accepted)
    (fitting : ¬ (plan.mode = .final ∧ (entry.virtualRange.start.value < highCanonicalStart ∨
      entry.kind = .transitionIdentity))) :
    plan.addMapping entry = entry.mappedPages.foldlM addMappedPage plan := by
  rw [addMapping, if_neg fitting]
  cases entry with
  | guard range => rfl
  | mapping range physical permissions cache kind =>
      obtain ⟨lengths, _⟩ := accepted
      simp only [PlanEntry.backing, PlanEntry.permissions, PlanEntry.cachePolicy,
        PlanEntry.virtualRange, okOr_some, ok_bind, PlanEntry.mappedPages, List.foldlM_map]
      refine foldlM_congr (fun _ => True) trivial ?_ fun _ _ _ _ _ _ => trivial
      intro page member current _
      exact addPage_eq_addMappedPage lengths (List.mem_range.mp member)

theorem addMapping_keeps {entry : PlanEntry}
    {after : ConstructionPlan tableCapacity entryCapacity removalCapacity}
    (consistent : plan.Consistent) (added : plan.addMapping entry = .ok after) :
    after.Consistent ∧ after.mode = plan.mode := by
  cases entry with
  | guard range =>
      obtain rfl := addMapping_guard_eq_ok added
      exact ⟨consistent, rfl⟩
  | mapping range physical permissions cache kind =>
      have filled := addPages_fills consistent (addMapping_mapping_eq_ok added)
      exact ⟨filled.consistent, filled.mode⟩

/-- For a validated plan the construction is a function of its pages. -/
theorem build_eq_pages {mappings : MappingPlan capacity} {mode : PlanMode}
    (invariant : mappings.Invariant) (validated : mode.validate mappings = .ok ()) :
    (build mappings mode : Result tableCapacity entryCapacity removalCapacity) = (do
      let plan ← begin mode
      let plan ← mappings.mappedPages.foldlM addMappedPage plan
      plan.finish) := by
  have unfolded : (build mappings mode : Result tableCapacity entryCapacity removalCapacity) = (do
      (mode.validate mappings).mapError .layout
      let plan ← begin mode
      let plan ← mappings.entries.foldlM addMapping plan
      plan.finish) := rfl
  rw [unfolded, validated, mapError_ok, ok_bind]
  cases begun : (begin mode : Result tableCapacity entryCapacity removalCapacity) with
  | error reason => rfl
  | ok empty =>
      obtain ⟨consistent, started, _⟩ := begin_consistent begun
      have pages : mappings.entries.foldlM addMapping empty =
          mappings.mappedPages.foldlM addMappedPage empty := by
        rw [MappingPlan.mappedPages, foldlM_flatMap]
        refine foldlM_congr (fun current => current.Consistent ∧ current.mode = mode)
          ⟨consistent, started⟩ ?_ ?_
        · intro entry member current kept
          exact addMapping_eq_pages (invariant.accepted entry member)
            (kept.2 ▸ validate_fits validated member)
        · intro entry _ current next kept added
          obtain ⟨still, same⟩ := addMapping_keeps kept.1 added
          exact ⟨still, same.trans kept.2⟩
      rw [ok_bind, ok_bind, pages]

/-- Two validated plans with the same page map are built into the same tables,
entries and removals, or refused for the same reason. -/
theorem build_eq_of_assigns_eq {mode : PlanMode} (calls otherCalls : List MappingPlan.Call)
    (validated : mode.validate ((MappingPlan.new capacity).run calls) = .ok ())
    (otherValidated : mode.validate ((MappingPlan.new otherCapacity).run otherCalls) = .ok ())
    (same : ∀ address : VirtualAddress, address.value % pageSize = 0 →
      ((MappingPlan.new capacity).run calls).assigns address =
        ((MappingPlan.new otherCapacity).run otherCalls).assigns address) :
    (build ((MappingPlan.new capacity).run calls) mode :
        Result tableCapacity entryCapacity removalCapacity) =
      build ((MappingPlan.new otherCapacity).run otherCalls) mode := by
  have invariant := @MappingPlan.reachable_invariant capacity calls
  have otherInvariant := @MappingPlan.reachable_invariant otherCapacity otherCalls
  rw [build_eq_pages invariant validated, build_eq_pages otherInvariant otherValidated,
    invariant.mappedPages_eq otherInvariant same]

/-- The pages of the kernel image from the first index to the second, backed by
the same pages of the bootstrap window. -/
def imagePages (first last : Nat)
    (virtual : VirtualBounds (kernelImageStart + first * 4096) (kernelImageStart + last * 4096))
    (physical : PhysicalBounds (bootstrapPhysicalStart + first * 4096)
      (bootstrapPhysicalStart + last * 4096)) : MappingPlan.Call :=
  .insertMapping
    ⟨⟨kernelImageStart + first * 4096, virtual.startCanonical⟩, kernelImageStart + last * 4096,
      virtual⟩
    ⟨⟨bootstrapPhysicalStart + first * 4096, by
        have := physical.nonempty
        have := physical.supported
        omega⟩, bootstrapPhysicalStart + last * 4096, physical⟩
    .kernelR .writeBack .kernelRodata

def bothPages : MappingPlan.Call :=
  imagePages 0 2 (by constructor <;> decide) (by constructor <;> decide)

def firstPage : MappingPlan.Call :=
  imagePages 0 1 (by constructor <;> decide) (by constructor <;> decide)

def secondPage : MappingPlan.Call :=
  imagePages 1 2 (by constructor <;> decide) (by constructor <;> decide)

def guardPage : MappingPlan.Call :=
  .insertGuard ⟨⟨kernelLocalStart + 0x5000, by decide⟩, kernelLocalStart + 0x6000,
    by constructor <;> decide⟩

/-- Two pages mapped at once, or one by one from the last and with a guard. -/
theorem build_eq_of_regrouped :
    (build ((MappingPlan.new 1).run [bothPages]) .final : Result 4 5 0) =
      build ((MappingPlan.new 3).run [secondPage, guardPage, firstPage]) .final := by
  refine build_eq_of_assigns_eq [bothPages] [secondPage, guardPage, firstPage] rfl rfl ?_
  intro address _
  have joined : ((MappingPlan.new 1).run [bothPages]).entries = [bothPages.entry] := rfl
  have split : ((MappingPlan.new 3).run [secondPage, guardPage, firstPage]).entries =
      [firstPage.entry, secondPage.entry, guardPage.entry] := rfl
  refine Option.ext fun assignment => ?_
  rw [(MappingPlan.reachable_invariant _).assigns_eq_some,
    (MappingPlan.reachable_invariant _).assigns_eq_some, joined, split]
  cases assignment with
  | mk frame permissions cache =>
      simp [bothPages, firstPage, secondPage, guardPage, imagePages, MappingPlan.Call.entry,
        VirtualRange.contains, or_and_right, exists_or]
      grind

end ConstructionPlan

end UnnamedOS.PageTable
