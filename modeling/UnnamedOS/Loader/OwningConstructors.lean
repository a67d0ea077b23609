import UnnamedOS.Loader.BootstrapStack
import UnnamedOS.Loader.SegmentCustody

namespace UnnamedOS.Loader

open UnnamedOS.Data UnnamedOS.BootProtocol

/-! # Constructors that take pages over

Two owners are built from a backend and pages that are already allocated.  The
caller has given the pages up by then, so a constructor that fails is the last
one who can free them. -/

variable {α β δ ε : Type}

/-- A failed construction has freed every page allocation once, and a
successful one has freed none. -/
def HandsBack (backend : α → β × List SegmentEvent) (before : List SegmentEvent)
    (passed : List OwnedAllocation) : Except (δ × (β × List SegmentEvent)) α → Prop
  | .ok owner => (backend owner).2 = before
  | .error (_, after) => ∃ made : List (Attempt OwnedAllocation),
      after.2 = before ++ made.map .freed ∧ (made.map Attempt.resource).Perm passed

/-- `from_validated` with the backend that an error leaves behind: no exit of
the function calls it. -/
def PreparedBootInfo.fromValidatedDropping (backend : β) (allocations : BootDataAllocations)
    (bootInfo : BootInfo) (descriptors : List MemoryDescriptor)
    (provisionalMap : ProvisionalMapMetadata) :
    Except (PreparedBootInfoError × β) (PreparedBootInfo β) :=
  (fromValidated backend allocations bootInfo descriptors provisionalMap).mapError
    fun error => (error, backend)

theorem freeAllocation_made (ops : PageBackend β ε) (state : β × List SegmentEvent)
    (pages : OwnedAllocation) :
    ∃ made : List (Attempt OwnedAllocation),
      (ops.logged.freeAllocation state pages).2.2 = state.2 ++ made.map .freed ∧
        (made.map Attempt.resource).Perm [pages] := by
  obtain ⟨made, extended, freed⟩ := free_freedEach ops.logged_records state pages
  exact ⟨made, extended, List.Perm.of_eq freed⟩

theorem BootstrapStack.fromInitialized_handsBack (ops : PageBackend β ε)
    (state : β × List SegmentEvent) (allocation : PageAllocation) (forbidden : List StackRange) :
    HandsBack BootstrapStack.backend state.2 [allocation.pages]
      (fromInitialized ops.logged state allocation forbidden) := by
  unfold fromInitialized
  split
  · exact freeAllocation_made ops state allocation.pages
  · split
    · exact freeAllocation_made ops state allocation.pages
    · rfl

/-- Nothing is freed on an error, so arguments that are refused lose the four
allocations. -/
theorem PreparedBootInfo.fromValidatedDropping_handsBack_iff (state : β × List SegmentEvent)
    (allocations : BootDataAllocations) (bootInfo : BootInfo)
    (descriptors : List MemoryDescriptor) (provisionalMap : ProvisionalMapMetadata) :
    HandsBack PreparedBootInfo.backend state.2 (allocations.ordered.map PageAllocation.pages)
        (fromValidatedDropping state allocations bootInfo descriptors provisionalMap) ↔
      Admissible allocations bootInfo descriptors := by
  unfold fromValidatedDropping
  cases ran : fromValidated state allocations bootInfo descriptors provisionalMap with
  | ok prepared =>
      obtain ⟨admissible, rfl⟩ := fromValidated_eq_ok.mp ran
      exact iff_of_true rfl admissible
  | error reason =>
      refine iff_of_false ?_ fun admissible => ?_
      · intro handsBack
        obtain ⟨made, extended, freed⟩ := handsBack
        have none : made.map SegmentEvent.freed = [] := List.self_eq_append_right.mp extended
        have count := freed.length_eq
        rw [List.map_eq_nil_iff.mp none] at count
        contradiction
      · rw [fromValidated_eq_ok.mpr ⟨admissible, rfl⟩] at ran
        contradiction

/-- The stack's constructor hands its pages back on every failure; the boot
data's does so only for arguments with which it cannot fail. -/
theorem owning_constructors_handBack (ops : PageBackend β ε) (state : β × List SegmentEvent) :
    (∀ allocation forbidden, HandsBack BootstrapStack.backend state.2 [allocation.pages]
      (BootstrapStack.fromInitialized ops.logged state allocation forbidden)) ∧
    ∀ allocations bootInfo descriptors provisionalMap,
      HandsBack PreparedBootInfo.backend state.2 (allocations.ordered.map PageAllocation.pages)
          (PreparedBootInfo.fromValidatedDropping state allocations bootInfo descriptors
            provisionalMap) ↔
        PreparedBootInfo.Admissible allocations bootInfo descriptors :=
  ⟨BootstrapStack.fromInitialized_handsBack ops state,
    PreparedBootInfo.fromValidatedDropping_handsBack_iff state⟩

/-- A valid block whose map stands behind the page allocated for it: four live
allocations are taken over and none is freed. -/
theorem PreparedBootInfo.fromValidated_leaks :
    PreparedBootInfo.fromValidatedDropping ((), ([] : List SegmentEvent))
        ⟨⟨0x5_1000, 1⟩, ⟨0x5_2000, 1⟩, ⟨0x5_3000, 1⟩, ⟨0x5_4000, 1⟩⟩
        (.new ⟨0x5_4000, 1, 32, 1, 0, 32, 0⟩ ⟨0x8000_0000, 3072, 32, 24, 32, 1, 0⟩)
        [⟨memoryKindUsable, 0, 0x10_0000, 1, 0⟩] ⟨48, 48, 1, 7, .provisional⟩ =
      .error (.mapOutsideAllocation, (), []) := rfl

end UnnamedOS.Loader
