import Mathlib.Data.List.Pairwise
import UnnamedOS.Data.SpanMap
import UnnamedOS.MemoryMap.Normalize

namespace UnnamedOS.MemoryMap

open UnnamedOS.Data UnnamedOS.BootProtocol

/-! # The normalized map

Normalizing sorts the descriptors, refuses overlaps, and merges neighbours that
only a boundary keeps apart.  None of that changes what an address is. -/

/-- What `validate_range` has checked. -/
structure Ranged (descriptor : MemoryDescriptor) : Prop where
  nonempty : 0 < descriptor.pageCount
  aligned : descriptor.physicalStart % memoryPageSize = 0
  bounded : descriptor.stop < wordLimit

theorem Ranged.start_lt_stop {descriptor : MemoryDescriptor} (ranged : Ranged descriptor) :
    descriptor.physicalStart < descriptor.stop := by
  have nonempty := ranged.nonempty
  simp only [MemoryDescriptor.stop, memoryPageSize]
  omega

theorem validateRange_iff_ranged {descriptor : MemoryDescriptor} :
    validateRange descriptor.physicalStart descriptor.pageCount = .ok () ↔ Ranged descriptor := by
  rw [validateRange_eq_ok]
  constructor
  · intro checked
    exact ⟨checked.1, checked.2.1, checked.2.2⟩
  · intro ranged
    exact ⟨ranged.nonempty, ranged.aligned, ranged.bounded⟩

/-- Kind and attributes of an address, as a list of descriptors assigns them. -/
abbrev Assigns (descriptors : List MemoryDescriptor) (address kind attributes : Nat) : Prop :=
  Colored MemoryDescriptor.physicalStart MemoryDescriptor.stop
    (fun descriptor => (descriptor.kind, descriptor.attributes)) descriptors address
    (kind, attributes)

abbrev DisjointRanges (descriptors : List MemoryDescriptor) : Prop :=
  descriptors.Pairwise (Apart MemoryDescriptor.physicalStart MemoryDescriptor.stop)

/-- Ordered descriptors of nonempty ranges, with nothing left to merge. -/
structure Normal (descriptors : List MemoryDescriptor) : Prop where
  ranged : ∀ descriptor ∈ descriptors, Ranged descriptor
  ordered : Ordered MemoryDescriptor.physicalStart MemoryDescriptor.stop descriptors
  separated : descriptors.Pairwise fun left right => ¬ Continues left right

theorem Normal.sorted {descriptors : List MemoryDescriptor} (normal : Normal descriptors) :
    descriptors.Pairwise fun left right => left.physicalStart < right.physicalStart := by
  refine List.Pairwise.imp_of_mem ?_ normal.ordered
  intro left right leftMember _ before
  exact Nat.lt_of_lt_of_le (normal.ranged left leftMember).start_lt_stop before

/-- In either order of the two: a later descriptor does not end where an
earlier one starts. -/
theorem Normal.not_continues {descriptors : List MemoryDescriptor} (normal : Normal descriptors)
    {left right : MemoryDescriptor} (leftMember : left ∈ descriptors)
    (rightMember : right ∈ descriptors) : ¬ Continues left right := by
  have both : descriptors.Pairwise fun first second =>
      ¬ Continues first second ∧ ¬ Continues second first := by
    refine List.Pairwise.imp_of_mem ?_ (normal.separated.and normal.ordered)
    intro first second firstMember secondMember related
    refine ⟨related.1, ?_⟩
    intro continues
    have touches := continues.1
    have before := related.2
    have firstProper := (normal.ranged first firstMember).start_lt_stop
    have secondProper := (normal.ranged second secondMember).start_lt_stop
    omega
  by_cases same : left = right
  · intro continues
    have touches := continues.1
    have proper := (normal.ranged left leftMember).start_lt_stop
    rw [← same] at touches
    omega
  · have : Std.Symm fun first second : MemoryDescriptor =>
        ¬ Continues first second ∧ ¬ Continues second first := ⟨fun _ _ => And.symm⟩
    exact (both.forall leftMember rightMember same).1

/-! ## Merging -/

/-- The merge loop between two iterations: `before` and `last` are written,
`rest` is still to be read, and together they denote the sorted input. -/
structure Merging (input before : List MemoryDescriptor) (last : MemoryDescriptor)
    (rest : List MemoryDescriptor) : Prop where
  ranged : ∀ descriptor ∈ before ++ last :: rest, Ranged descriptor
  ordered : Ordered MemoryDescriptor.physicalStart MemoryDescriptor.stop (before ++ last :: rest)
  separated : (before ++ [last]).Pairwise fun left right => ¬ Continues left right
  shorter : (before ++ last :: rest).length ≤ input.length
  assigns : ∀ address kind attributes, Assigns (before ++ last :: rest) address kind attributes ↔
    Assigns input address kind attributes

section

variable {input before rest : List MemoryDescriptor} {previous current : MemoryDescriptor}

theorem Merging.join (merging : Merging input before previous (current :: rest))
    (continues : Continues previous current) {pageCount : Nat}
    (pages : pageCount = previous.pageCount + current.pageCount) :
    Merging input before { previous with pageCount } rest := by
  have stops : ({ previous with pageCount } : MemoryDescriptor).stop = current.stop :=
    pages ▸ continues.stop
  obtain ⟨touches, sameKind, sameAttributes⟩ := continues
  have previousRanged := merging.ranged previous (by simp)
  have currentRanged := merging.ranged current (by simp)
  have shorter := merging.shorter
  simp only [List.length_append, List.length_cons] at shorter
  refine ⟨?_, merging.ordered.join rfl stops, ?_, ?_, ?_⟩
  · intro descriptor member
    rcases List.mem_append.mp member with old | member
    · exact merging.ranged descriptor (List.mem_append_left _ old)
    · rcases List.mem_cons.mp member with rfl | later
      · exact ⟨pages ▸ Nat.add_pos_left previousRanged.nonempty _, previousRanged.aligned,
          stops ▸ currentRanged.bounded⟩
      · exact merging.ranged descriptor (by simp [later])
  · obtain ⟨earlier, _, across⟩ := List.pairwise_append.mp merging.separated
    refine List.pairwise_append.mpr ⟨earlier, List.pairwise_singleton _ _, ?_⟩
    intro descriptor member joined single
    rw [List.mem_singleton.mp single]
    exact across descriptor member previous (by simp)
  · simp only [List.length_append, List.length_cons]
    omega
  · intro address kind attributes
    rw [← merging.assigns]
    exact colored_join rfl stops touches (Nat.le_of_lt previousRanged.start_lt_stop)
      (Nat.le_of_lt currentRanged.start_lt_stop) rfl (by simp [sameKind, sameAttributes])

theorem Merging.keep (merging : Merging input before previous (current :: rest))
    (apart : ¬ Continues previous current) :
    Merging input (before ++ [previous]) current rest := by
  have split : before ++ previous :: current :: rest =
      (before ++ [previous]) ++ current :: rest := by simp
  refine ⟨split ▸ merging.ranged, split ▸ merging.ordered, ?_, split ▸ merging.shorter,
    split ▸ merging.assigns⟩
  obtain ⟨earlier, following, across⟩ := List.pairwise_append.mp merging.ordered
  refine List.pairwise_append.mpr ⟨merging.separated, List.pairwise_singleton _ _, ?_⟩
  intro descriptor member next single
  rw [List.mem_singleton.mp single]
  rcases List.mem_append.mp member with old | last
  · -- Past `previous`, which is not empty, nothing touches an earlier descriptor.
    intro continues
    have touches := continues.1
    have beforePrevious := across descriptor old previous (by simp)
    have beforeCurrent := (List.pairwise_cons.mp following).1 current (by simp)
    have proper := (merging.ranged previous (by simp)).start_lt_stop
    omega
  · rw [List.mem_singleton.mp last]
    exact apart

theorem Merging.step (merging : Merging input before previous (current :: rest)) :
    ∃ written last, mergeStep (before, previous) current = .ok (written, last) ∧
      Merging input written last rest := by
  have previousRanged := merging.ranged previous (by simp)
  have currentRanged := merging.ranged current (by simp)
  have previousEnd : rangeEnd previous.physicalStart previous.pageCount = .ok previous.stop :=
    rangeEnd_eq_ok.mpr ⟨rfl, previousRanged.bounded⟩
  simp only [mergeStep, previousEnd, ok_bind]
  split
  · rename_i continues
    -- The sum of the counts is at most the pages below the second range's end.
    have fits : previous.pageCount + current.pageCount < wordLimit := by
      have touches := continues.1
      have bounded := currentRanged.bounded
      simp only [MemoryDescriptor.stop, memoryPageSize] at touches bounded
      omega
    have added : checkedAdd previous.pageCount current.pageCount =
        some (previous.pageCount + current.pageCount) := checkedAdd_eq_some.mpr ⟨fits, rfl⟩
    simp only [added, okOr_some, ok_bind]
    exact ⟨_, _, rfl, merging.join continues rfl⟩
  · rename_i apart
    exact ⟨_, _, rfl, merging.keep apart⟩

theorem Merging.run (merging : Merging input before previous rest) :
    ∃ written last, rest.foldlM mergeStep (before, previous) = .ok (written, last) ∧
      Merging input written last [] := by
  induction rest generalizing before previous with
  | nil => exact ⟨before, previous, rfl, merging⟩
  | cons current rest ih =>
      obtain ⟨written, last, stepped, next⟩ := merging.step
      obtain ⟨final, end', ran, done⟩ := ih next
      exact ⟨final, end', foldlM_cons_eq_ok.mpr ⟨_, stepped, ran⟩, done⟩

end

/-- Merging ordered ranges never fails and leaves a normal list that assigns
what the input assigned. -/
theorem mergeBaseDescriptors_normal {input : List MemoryDescriptor}
    (ranged : ∀ descriptor ∈ input, Ranged descriptor)
    (ordered : Ordered MemoryDescriptor.physicalStart MemoryDescriptor.stop input) :
    ∃ merged, mergeBaseDescriptors input = .ok merged ∧ merged.length ≤ input.length ∧
      Normal merged ∧ ∀ address kind attributes,
        Assigns merged address kind attributes ↔ Assigns input address kind attributes := by
  cases input with
  | nil => exact ⟨[], rfl, Nat.le_refl _, ⟨by simp, .nil, .nil⟩, fun _ _ _ => Iff.rfl⟩
  | cons first rest =>
      have started : Merging (first :: rest) [] first rest :=
        ⟨ranged, ordered, List.pairwise_singleton _ _, Nat.le_refl _, fun _ _ _ => Iff.rfl⟩
      obtain ⟨written, last, ran, done⟩ := started.run
      refine ⟨written ++ [last], ?_, done.shorter,
        ⟨done.ranged, done.ordered, done.separated⟩, done.assigns⟩
      simp only [mergeBaseDescriptors, ran, ok_bind]

/-! ## Normalizing -/

/-- The two checks on the sorted slice accept exactly the disjoint ranges. -/
theorem validateNonOverlapping_iff {live : List MemoryDescriptor}
    (ranged : ∀ descriptor ∈ live, Ranged descriptor) :
    validateNonOverlapping (insertionSort MemoryDescriptor.physicalStart live) = .ok () ↔
      DisjointRanges live := by
  have same := insertionSort_perm MemoryDescriptor.physicalStart live
  have sortedRanged : ∀ descriptor ∈ insertionSort MemoryDescriptor.physicalStart live,
      Ranged descriptor := fun descriptor member => ranged descriptor (same.mem_iff.mp member)
  constructor
  · intro checked
    have ordered := checkWindows_ordered
      (fun descriptor member => (sortedRanged descriptor member).nonempty) checked
    exact (same.pairwise_iff Apart.symm).mp ordered.apart
  · intro apart
    refine checkWindows_of_ordered (fun descriptor member =>
      (sortedRanged descriptor member).bounded) ?_
    exact ordered_of_apart (insertionSort_sorted _ _)
      (fun descriptor member => (sortedRanged descriptor member).start_lt_stop)
      ((same.pairwise_iff Apart.symm).mpr apart)

/-- What the input must be. -/
structure Normalizable (output : List MemoryDescriptor) (len : Nat) : Prop where
  fits : len ≤ output.length
  ranged : ∀ descriptor ∈ output.take len, Ranged descriptor
  disjoint : DisjointRanges (output.take len)

theorem normalizeMappedMemoryMap_eq_ok {output : List MemoryDescriptor} {len : Nat}
    (input : Normalizable output len) :
    ∃ merged, normalizeMappedMemoryMap output len =
        .ok (merged.length, filled output.length merged) ∧ merged.length ≤ output.length ∧
      Normal merged ∧ ∀ address kind attributes, Assigns merged address kind attributes ↔
        Assigns (output.take len) address kind attributes := by
  have same := insertionSort_perm MemoryDescriptor.physicalStart (output.take len)
  have checked : checkAll (fun descriptor : MemoryDescriptor =>
      validateRange descriptor.physicalStart descriptor.pageCount) (output.take len) = .ok () :=
    checkAll_eq_ok.mpr fun descriptor member =>
      validateRange_iff_ranged.mpr (input.ranged descriptor member)
  have overlapFree := (validateNonOverlapping_iff input.ranged).mpr input.disjoint
  have sortedRanged : ∀ descriptor ∈
      insertionSort MemoryDescriptor.physicalStart (output.take len), Ranged descriptor :=
    fun descriptor member => input.ranged descriptor (same.mem_iff.mp member)
  obtain ⟨merged, ran, shorter, normal, assigns⟩ := mergeBaseDescriptors_normal sortedRanged
    (checkWindows_ordered (fun descriptor member => (sortedRanged descriptor member).nonempty)
      overlapFree)
  refine ⟨merged, ?_, ?_, normal, ?_⟩
  · rw [normalizeMappedMemoryMap, if_neg (Nat.not_lt.mpr input.fits)]
    simp only [checked, overlapFree, ran, ok_bind]
  · have fits := input.fits
    rw [same.length_eq, List.length_take] at shorter
    omega
  · intro address kind attributes
    rw [assigns]
    exact colored_perm same

theorem normalizable_of_ok {output : List MemoryDescriptor} {len : Nat}
    {result : Nat × List MemoryDescriptor}
    (ran : normalizeMappedMemoryMap output len = .ok result) : Normalizable output len := by
  simp only [normalizeMappedMemoryMap, guard_eq_ok] at ran
  obtain ⟨fits, ran⟩ := ran
  obtain ⟨_, checked, ran⟩ := bind_eq_ok.mp ran
  obtain ⟨_, overlapFree, _⟩ := bind_eq_ok.mp ran
  have ranged : ∀ descriptor ∈ output.take len, Ranged descriptor := fun descriptor member =>
    validateRange_iff_ranged.mp (checkAll_eq_ok.mp checked descriptor member)
  exact ⟨by omega, ranged, (validateNonOverlapping_iff ranged).mp overlapFree⟩

/-- Normalizing accepts exactly the buffers whose live ranges are nonempty,
aligned, inside the address space and disjoint.  The result is sorted, disjoint
and fully merged, every address keeps its kind and attributes, and the rest of
the buffer is empty. -/
theorem normalizeMappedMemoryMap_normalizes (output : List MemoryDescriptor) (len : Nat) :
    ((∃ result, normalizeMappedMemoryMap output len = .ok result) ↔
      len ≤ output.length ∧
      (∀ descriptor ∈ output.take len, 0 < descriptor.pageCount ∧
        descriptor.physicalStart % memoryPageSize = 0 ∧
        descriptor.physicalStart + descriptor.pageCount * memoryPageSize < 2 ^ 64) ∧
      DisjointRanges (output.take len)) ∧
    ∀ count result, normalizeMappedMemoryMap output len = .ok (count, result) →
      result.length = output.length ∧ count ≤ result.length ∧
      (result.take count).Pairwise
        (fun left right => left.physicalStart < right.physicalStart) ∧
      DisjointRanges (result.take count) ∧
      (∀ left ∈ result.take count, ∀ right ∈ result.take count, ¬ Continues left right) ∧
      (∀ address kind attributes, Assigns (result.take count) address kind attributes ↔
        Assigns (output.take len) address kind attributes) ∧
      ∀ descriptor ∈ result.drop count, descriptor = emptyDescriptor := by
  refine ⟨⟨?_, ?_⟩, ?_⟩
  · intro accepted
    obtain ⟨result, ran⟩ := accepted
    have input := normalizable_of_ok ran
    exact ⟨input.fits, fun descriptor member => ⟨(input.ranged descriptor member).nonempty,
      (input.ranged descriptor member).aligned, (input.ranged descriptor member).bounded⟩,
      input.disjoint⟩
  · intro input
    obtain ⟨fits, ranged, disjoint⟩ := input
    obtain ⟨merged, ran, _⟩ := normalizeMappedMemoryMap_eq_ok ⟨fits, fun descriptor member =>
      ⟨(ranged descriptor member).1, (ranged descriptor member).2.1,
        (ranged descriptor member).2.2⟩, disjoint⟩
    exact ⟨_, ran⟩
  · intro count result ran
    obtain ⟨merged, same, shorter, normal, assigns⟩ :=
      normalizeMappedMemoryMap_eq_ok (normalizable_of_ok ran)
    rw [same] at ran
    cases ran
    rw [take_filled]
    refine ⟨by simp [filled, shorter], by simp [filled], normal.sorted, normal.ordered.apart, ?_,
      assigns, by simp [filled]⟩
    intro left leftMember right rightMember
    exact normal.not_continues leftMember rightMember

end UnnamedOS.MemoryMap
