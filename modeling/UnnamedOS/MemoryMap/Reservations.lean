import UnnamedOS.MemoryMap.Normalize

namespace UnnamedOS.MemoryMap

open UnnamedOS.Data UnnamedOS.BootProtocol

/-! # Reservations over the firmware's map

The ranges the loader claims are collected in a fixed array, sorted, and laid
over the base map: each base range is split around the reservations that meet
it. -/

inductive ReservationSource where
  | kernelImage
  | bootInfo
  | rawMemoryMap
  | conversionScratch
  | convertedMemoryMap
  | framebuffer
  | bootstrapStack
  | pageTable
deriving DecidableEq, Repr

structure Reservation where
  physicalStart : Nat
  pageCount : Nat
  kind : Nat
  source : ReservationSource
deriving DecidableEq, Repr

namespace Reservation

/-- One past the last byte of the reserved pages. -/
def stop (reservation : Reservation) : Nat :=
  reservation.physicalStart + reservation.pageCount * memoryPageSize

abbrev Contains (reservation : Reservation) (address : Nat) : Prop :=
  Covers physicalStart stop reservation address

def WellFormed (reservation : Reservation) : Prop :=
  validateRange reservation.physicalStart reservation.pageCount = .ok ()

end Reservation

/-- The used part of the array; `push` lets nothing else in. -/
structure ReservationList where
  items : List Reservation
  wellFormed : ∀ reservation ∈ items, reservation.WellFormed
  bounded : items.length ≤ reservationCapacity

namespace ReservationList

def new : ReservationList := ⟨[], by simp, by simp⟩

def push (list : ReservationList) (reservation : Reservation) :
    Except MapBuildError Unit × ReservationList :=
  match checked : validateRange reservation.physicalStart reservation.pageCount with
  | .error reason => (.error reason, list)
  | .ok () =>
      if full : list.items.length = reservationCapacity then (.error .reservationCapacity, list)
      else
        (.ok (), {
          items := list.items ++ [reservation]
          wellFormed := by
            intro other member
            rcases List.mem_append.mp member with member | member
            · exact list.wellFormed other member
            · rw [List.mem_singleton.mp member]
              exact checked
          bounded := by
            have bounded := list.bounded
            simp only [List.length_append, List.length_singleton]
            omega })

/-- The array is sorted before it is checked, so it stays sorted on an error. -/
def finish (list : ReservationList) : Except MapBuildError Unit × ReservationList :=
  let sorted := insertionSort Reservation.physicalStart list.items
  (checkWindows Reservation.physicalStart Reservation.pageCount .reservationOverlap sorted, {
    items := sorted
    wellFormed := fun reservation member =>
      list.wellFormed reservation ((insertionSort_perm _ _).mem_iff.mp member)
    bounded := Nat.le_trans (Nat.le_of_eq (insertionSort_perm _ _).length_eq) list.bounded })

end ReservationList

/-- `append_descriptor`; `live` is the part of the output written so far. -/
def appendDescriptor (capacity : Nat) (live : List MemoryDescriptor)
    (descriptor : MemoryDescriptor) (allowMerge : Bool) :
    Except MapBuildError (List MemoryDescriptor) :=
  let push :=
    if live.length = capacity then .error .outputCapacity else .ok (live ++ [descriptor])
  if descriptor.pageCount = 0 then .ok live
  else if allowMerge then
    match live.getLast? with
    | none => push
    | some previous => do
        let previousEnd ← rangeEnd previous.physicalStart previous.pageCount
        if previousEnd = descriptor.physicalStart ∧ previous.kind = descriptor.kind ∧
            previous.attributes = descriptor.attributes then do
          let pageCount ←
            okOr (checkedAdd previous.pageCount descriptor.pageCount) .rangeOverflow
          .ok (live.dropLast ++ [{ previous with pageCount }])
        else push
  else push

/-- The piece of a base descriptor between two addresses. -/
def fragment (descriptor : MemoryDescriptor) (start stop : Nat) : MemoryDescriptor where
  kind := descriptor.kind
  reserved0 := 0
  physicalStart := start
  pageCount := (stop - start) / memoryPageSize
  attributes := descriptor.attributes

/-- What is left of a base descriptor before `stop`, if anything. -/
def appendFragment (capacity : Nat) (live : List MemoryDescriptor) (descriptor : MemoryDescriptor)
    (cursor stop : Nat) : Except MapBuildError (List MemoryDescriptor) :=
  if cursor < stop then appendDescriptor capacity live (fragment descriptor cursor stop) true
  else .ok live

/-- The piece of a reservation between two addresses. -/
def reservedFragment (reservation : Reservation) (start stop : Nat) : MemoryDescriptor where
  kind := reservation.kind
  reserved0 := 0
  physicalStart := start
  pageCount := (stop - start) / memoryPageSize
  attributes := 0

/-- The body of the loop over the reservations: `cursor` is the first byte of
the descriptor not yet written, `covered` the reservation's page counter. -/
def overlayReservation (capacity : Nat) (descriptor : MemoryDescriptor) (descriptorEnd cursor : Nat)
    (live : List MemoryDescriptor) (reservation : Reservation) (covered : Nat) :
    Except MapBuildError (Nat × List MemoryDescriptor × Nat) := do
  let reservationEnd ← rangeEnd reservation.physicalStart reservation.pageCount
  let overlapStart := max cursor reservation.physicalStart
  let overlapEnd := min descriptorEnd reservationEnd
  if overlapStart ≥ overlapEnd then .ok (cursor, live, covered)
  else do
    let live ← appendFragment capacity live descriptor cursor overlapStart
    let live ← appendDescriptor capacity live
      (reservedFragment reservation overlapStart overlapEnd) false
    let covered ←
      okOr (checkedAdd covered ((overlapEnd - overlapStart) / memoryPageSize)) .rangeOverflow
    .ok (overlapEnd, live, covered)

/-- The loop over the reservations, each with its counter. -/
def overlayReservations (capacity : Nat) (descriptor : MemoryDescriptor) (descriptorEnd : Nat) :
    Nat → List MemoryDescriptor → List (Reservation × Nat) →
      Except MapBuildError (Nat × List MemoryDescriptor × List (Reservation × Nat))
  | cursor, live, [] => .ok (cursor, live, [])
  | cursor, live, (reservation, covered) :: rest => do
      let (cursor, live, covered) ←
        overlayReservation capacity descriptor descriptorEnd cursor live reservation covered
      let (cursor, live, rest) ←
        overlayReservations capacity descriptor descriptorEnd cursor live rest
      .ok (cursor, live, (reservation, covered) :: rest)

/-- The body of the loop over the base descriptors. -/
def overlayDescriptor (capacity : Nat)
    (written : List MemoryDescriptor × List (Reservation × Nat)) (descriptor : MemoryDescriptor) :
    Except MapBuildError (List MemoryDescriptor × List (Reservation × Nat)) := do
  let (live, tallies) := written
  let _ ← descriptor.validate.mapError fun _ => .rangeOverflow
  let descriptorEnd ← rangeEnd descriptor.physicalStart descriptor.pageCount
  let (cursor, live, tallies) ←
    overlayReservations capacity descriptor descriptorEnd descriptor.physicalStart live tallies
  let live ← appendFragment capacity live descriptor cursor descriptorEnd
  .ok (live, tallies)

/-- `apply_reservations` on an output slice of length `capacity`: the length of
the live prefix and the slice. -/
def applyReservations (base : List MemoryDescriptor) (reservations : ReservationList)
    (capacity : Nat) : Except MapBuildError (Nat × List MemoryDescriptor) := do
  validateNonOverlapping base
  let (live, tallies) ← base.foldlM (overlayDescriptor capacity)
    ([], reservations.items.map fun reservation => (reservation, 0))
  checkAll (fun tally =>
    if tally.1.source ≠ .framebuffer ∧ tally.2 ≠ tally.1.pageCount then
      .error .reservationOutsideMap
    else .ok ()) tallies
  validateNonOverlapping live
  .ok (live.length, filled capacity live)

/-! ## Well-formed reservations -/

theorem Reservation.WellFormed.spec {reservation : Reservation}
    (wellFormed : reservation.WellFormed) :
    0 < reservation.pageCount ∧ reservation.physicalStart % memoryPageSize = 0 ∧
      reservation.stop < wordLimit :=
  validateRange_eq_ok.mp wellFormed

theorem Reservation.WellFormed.start_lt_stop {reservation : Reservation}
    (wellFormed : reservation.WellFormed) : reservation.physicalStart < reservation.stop := by
  obtain ⟨nonempty, _, _⟩ := wellFormed.spec
  simp only [Reservation.stop, memoryPageSize]
  omega

/-- Sorting keeps the reservations. -/
theorem ReservationList.finish_perm {list finished : ReservationList}
    {result : Except MapBuildError Unit} (done : list.finish = (result, finished)) :
    finished.items.Perm list.items := by
  obtain ⟨_, rfl⟩ := Prod.ext_iff.mp done
  exact insertionSort_perm _ _

theorem ReservationList.finish_ordered {list finished : ReservationList}
    (done : list.finish = (.ok (), finished)) :
    Ordered Reservation.physicalStart Reservation.stop finished.items := by
  obtain ⟨checked, rfl⟩ := Prod.ext_iff.mp done
  exact checkWindows_ordered (fun reservation member =>
    (ReservationList.wellFormed _ reservation member).spec.1) checked

end UnnamedOS.MemoryMap
