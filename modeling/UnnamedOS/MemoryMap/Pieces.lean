import UnnamedOS.MemoryMap.Overlay

namespace UnnamedOS.MemoryMap

open UnnamedOS.Data UnnamedOS.BootProtocol

/-! # The pieces of the overlaid map

How many descriptors the overlay can need, when it succeeds, and which of them
are the reservations' own. -/

/-! ## Success -/

/-- Every page of the reservation lies in a descriptor of the map. -/
def Reservation.PagesIn (reservation : Reservation) (base : List MemoryDescriptor) : Prop :=
  ∀ page < reservation.pageCount, ∃ descriptor ∈ base,
    descriptor.physicalStart ≤ reservation.physicalStart + page * memoryPageSize ∧
      reservation.physicalStart + (page + 1) * memoryPageSize ≤ descriptor.stop

instance (reservation : Reservation) (base : List MemoryDescriptor) :
    Decidable (reservation.PagesIn base) :=
  inferInstanceAs (Decidable (∀ page < _, _))

section

variable {base : List MemoryDescriptor} {reservation : Reservation}

theorem Reservation.pagesIn_iff (valid : ∀ descriptor ∈ base, descriptor.Valid)
    (wellFormed : reservation.WellFormed) :
    reservation.PagesIn base ↔ ∀ address, reservation.Contains address → InMap base address := by
  obtain ⟨_, startAligned, _⟩ := wellFormed.spec
  constructor
  · intro pages address covers
    obtain ⟨low, high⟩ := covers
    simp only [Reservation.stop, memoryPageSize] at high
    have inside : (address - reservation.physicalStart) / memoryPageSize <
        reservation.pageCount := by
      simp only [memoryPageSize]
      omega
    obtain ⟨descriptor, member, starts, stops⟩ := pages _ inside
    refine ⟨descriptor, member, ?_, ?_⟩
    · simp only [memoryPageSize] at starts
      omega
    · simp only [memoryPageSize] at stops
      omega
  · intro complete page inside
    have covers : reservation.Contains
        (reservation.physicalStart + page * memoryPageSize) := by
      simp only [Covers, Reservation.stop, memoryPageSize]
      omega
    obtain ⟨descriptor, member, low, high⟩ := complete _ covers
    refine ⟨descriptor, member, low, ?_⟩
    have stopAligned := (valid descriptor member).stop_aligned
    simp only [memoryPageSize] at startAligned stopAligned high ⊢
    omega

theorem incomplete_iff {reservations : List Reservation} (inputs : Overlayable base reservations) :
    Incomplete base reservations ↔
      ¬ ∀ reservation ∈ reservations, reservation.source ≠ .framebuffer →
        reservation.PagesIn base := by
  have pages : ∀ reservation ∈ reservations, (reservation.PagesIn base ↔
      ∀ address, reservation.Contains address → InMap base address) :=
    fun reservation member =>
      Reservation.pagesIn_iff inputs.valid (inputs.wellFormed reservation member)
  constructor
  · intro incomplete complete
    obtain ⟨reservation, member, plain, address, covers, outside⟩ := incomplete
    exact outside ((pages reservation member).mp (complete reservation member plain) address covers)
  · intro missing
    push Not at missing
    obtain ⟨reservation, member, plain, missing⟩ := missing
    rw [pages reservation member] at missing
    push Not at missing
    exact ⟨reservation, member, plain, missing⟩

/-- With a slot for every endpoint of the two lists the overlay fails only for
a reservation that is partly outside the map. -/
theorem applyReservations_outcome {list finished : ReservationList} {capacity : Nat}
    (done : list.finish = (.ok (), finished)) (ordered : InOrder base)
    (valid : ∀ descriptor ∈ base, ∃ validated, descriptor.validate = .ok validated)
    (room : base.length + 2 * finished.items.length ≤ capacity) :
    ((∀ reservation ∈ finished.items, reservation.source ≠ .framebuffer →
        reservation.PagesIn base) →
      ∃ len output, applyReservations base finished capacity = .ok (len, output)) ∧
    ((¬ ∀ reservation ∈ finished.items, reservation.source ≠ .framebuffer →
        reservation.PagesIn base) →
      applyReservations base finished capacity = .error .reservationOutsideMap) ∧
    ∀ reason, applyReservations base finished capacity = .error reason →
      reason = .reservationOutsideMap := by
  have inputs : Overlayable base finished.items :=
    ⟨ordered, fun descriptor member => MemoryDescriptor.validate_iff.mp (valid descriptor member),
      ReservationList.finish_ordered done, finished.wellFormed⟩
  have ends : Ends _ _ (applyReservations base finished capacity) := applyReservations_ends inputs
  rw [← incomplete_iff inputs]
  cases ran : applyReservations base finished capacity with
  | ok result =>
      have complete : ¬ Incomplete base finished.items := by
        intro incomplete
        obtain ⟨reservation, member, plain, address, covers, outside⟩ := incomplete
        obtain ⟨live, _, map, _⟩ := ends.of_ok ran
        have inMap := map.complete reservation member plain address covers
        exact outside ((map.sameCover address).mp inMap)
      exact ⟨fun _ => ⟨result.1, result.2, rfl⟩, fun incomplete => absurd incomplete complete,
        by simp⟩
  | error reason =>
      have stopped : reason = .reservationOutsideMap ∧ Incomplete base finished.items := by
        cases ends.of_error ran with
        | inl cramped => exact absurd room (Nat.not_le_of_lt cramped.2)
        | inr incomplete => exact incomplete
      obtain ⟨rfl, incomplete⟩ := stopped
      exact ⟨fun pages => absurd pages ((incomplete_iff inputs).mp incomplete), fun _ => rfl,
        fun _ same => (Except.error.inj same).symm⟩

end

theorem applyReservations_outcome_sample :
    (∃ len output, applyReservations sampleBase sampleReservations.finish.2 6 =
        .ok (len, output)) ∧
      applyReservations (sampleBase.take 1) sampleReservations.finish.2 5 =
        .error .reservationOutsideMap := by
  have done : sampleReservations.finish = (.ok (), sampleReservations.finish.2) := by rfl
  have valid : ∀ descriptor ∈ sampleBase, ∃ validated, descriptor.validate = .ok validated :=
    fun descriptor member => MemoryDescriptor.validate_iff.mpr
      (validateDescriptors_eq_ok.mp (by rfl : validateDescriptors () sampleBase = .ok ())
        descriptor member)
  constructor
  · exact (applyReservations_outcome done (by decide) valid (by decide)).1 (by decide)
  · have firstValid : ∀ descriptor ∈ sampleBase.take 1,
        ∃ validated, descriptor.validate = .ok validated :=
      fun descriptor member => valid descriptor (List.mem_of_mem_take member)
    exact (applyReservations_outcome done (by decide) firstValid (by decide)).2.1 (by decide)

/-! ## The reservations' own pieces -/

/-- The reservation takes some of the descriptor's pages. -/
abbrev Meets (descriptor : MemoryDescriptor) (reservation : Reservation) : Prop :=
  max descriptor.physicalStart reservation.physicalStart < min descriptor.stop reservation.stop

/-- Each non-empty intersection of a reservation with a base descriptor is a
descriptor of its own, and no descriptor reaches out of one. -/
structure Explicit (base : List MemoryDescriptor) (reservations : List Reservation)
    (map : List MemoryDescriptor) : Prop where
  own : ∀ descriptor ∈ base, ∀ reservation ∈ reservations, Meets descriptor reservation →
    ∃ piece ∈ map,
      piece.physicalStart = max descriptor.physicalStart reservation.physicalStart ∧
      piece.pageCount = overlap descriptor reservation / memoryPageSize
  unmerged : ∀ descriptor ∈ base, ∀ reservation ∈ reservations, ∀ piece ∈ map, ∀ address,
    descriptor.Contains address → reservation.Contains address → piece.Contains address →
      max descriptor.physicalStart reservation.physicalStart ≤ piece.physicalStart ∧
        piece.stop ≤ min descriptor.stop reservation.stop

/-- Right behind a reserved stretch lies unreserved memory that the overlay
cannot tell from it: its kind is the reservation's, its attributes are zero. -/
def RunsOn (base : List MemoryDescriptor) (reservations : List Reservation)
    (descriptor : MemoryDescriptor) (reservation : Reservation) : Prop :=
  ∃ next ∈ base, next.Contains (min descriptor.stop reservation.stop) ∧
    (∀ other ∈ reservations, ¬ other.Contains (min descriptor.stop reservation.stop)) ∧
      next.kind = reservation.kind ∧ next.attributes = 0

instance (base : List MemoryDescriptor) (reservations : List Reservation)
    (descriptor : MemoryDescriptor) (reservation : Reservation) :
    Decidable (RunsOn base reservations descriptor reservation) :=
  inferInstanceAs (Decidable (∃ next ∈ base, _))

section

variable {base : List MemoryDescriptor} {reservations : List Reservation}
  {reservation : Reservation} {descriptor : MemoryDescriptor} {live : List MemoryDescriptor}

/-- The picture goes on without a cut behind a reserved stretch exactly if it
runs on. -/
theorem Overlayable.runsOn_iff (inputs : Overlayable base reservations)
    (member : descriptor ∈ base) (reserved : reservation ∈ reservations)
    (meets : Meets descriptor reservation) :
    RunsOn base reservations descriptor reservation ↔
      overlayAt base reservations (min descriptor.stop reservation.stop) =
          some (reservation.kind, 0) ∧
        ¬ Begins base reservations (min descriptor.stop reservation.stop) := by
  constructor
  · intro runsOn
    obtain ⟨next, nextMember, contained, free, kind, attributes⟩ := runsOn
    have kept := inputs.overlayAt_kept nextMember contained free
    rw [kind, attributes] at kept
    exact ⟨kept, not_begins_of_free free⟩
  · intro continues
    obtain ⟨color, uncut⟩ := continues
    have inMap : InMap base (min descriptor.stop reservation.stop) := by
      by_contra outside
      rw [overlayAt_outside outside] at color
      contradiction
    obtain ⟨next, nextMember, contained⟩ := inMap
    have free : ∀ other ∈ reservations,
        ¬ other.Contains (min descriptor.stop reservation.stop) := by
      intro other claimed covers
      apply uncut
      rw [inputs.begins_iff nextMember contained claimed covers]
      -- Either the descriptor or the reservation stops here, and the next one starts here.
      cases Nat.le_total descriptor.stop reservation.stop with
      | inl descriptorFirst =>
          rw [Nat.min_eq_left descriptorFirst] at contained ⊢
          exact .inl (inputs.ordered.lower_eq_upper member (by omega) nextMember contained)
      | inr reservationFirst =>
          rw [Nat.min_eq_right reservationFirst] at covers ⊢
          exact .inr (inputs.reservationsOrdered.lower_eq_upper reserved (by omega) claimed covers)
    have kept := inputs.overlayAt_kept nextMember contained free
    rw [color, Option.some.injEq, Prod.mk.injEq] at kept
    exact ⟨next, nextMember, contained, free, kept.1.symm, kept.2.symm⟩

/-- The descriptor that starts with a reserved stretch, and when it stops with
it. -/
theorem Drawn.exists_piece (drawn : Drawn base reservations wordLimit live)
    (inputs : Overlayable base reservations) (member : descriptor ∈ base)
    (reserved : reservation ∈ reservations)
    (meets : Meets descriptor reservation) :
    ∃ piece ∈ live,
      piece.physicalStart = max descriptor.physicalStart reservation.physicalStart ∧
      (piece.kind, piece.attributes) = (reservation.kind, 0) ∧
      (piece.stop = min descriptor.stop reservation.stop ↔
        ¬ RunsOn base reservations descriptor reservation) := by
  have bounded := (inputs.valid descriptor member).bounded
  have shared : ∀ address, max descriptor.physicalStart reservation.physicalStart ≤ address →
      address < min descriptor.stop reservation.stop →
      descriptor.Contains address ∧ reservation.Contains address := by
    intro address low high
    exact ⟨⟨by omega, by omega⟩, by omega, by omega⟩
  have begins : ∀ address, max descriptor.physicalStart reservation.physicalStart ≤ address →
      address < min descriptor.stop reservation.stop →
      (Begins base reservations address ↔
        max descriptor.physicalStart reservation.physicalStart = address) := by
    intro address low high
    obtain ⟨contained, covers⟩ := shared address low high
    rw [inputs.begins_iff member contained reserved covers]
    omega
  obtain ⟨piece, inLive, starts, color, reaches⟩ := drawn.cut.exists_span drawn.painted.paints
    drawn.proper ((begins _ (Nat.le_refl _) meets).mpr rfl) meets (by omega)
    (fun address low high => by
      obtain ⟨contained, covers⟩ := shared address low high
      exact inputs.overlayAt_reserved member contained reserved covers)
    (fun address low high mark => by
      have first := (begins address (by omega) high).mp mark
      omega)
  refine ⟨piece, inLive, starts, color, ?_⟩
  rw [drawn.cut.upper_eq_iff drawn.painted.paints drawn.proper inLive (by omega) reaches (by omega),
    inputs.runsOn_iff member reserved meets, color]

/-- Whatever follows it, a reservation starts a descriptor of its kind. -/
theorem applyReservations_starts {list finished : ReservationList}
    {output : List MemoryDescriptor} {capacity len : Nat}
    (done : list.finish = (.ok (), finished))
    (ran : applyReservations base finished capacity = .ok (len, output))
    (reserved : reservation ∈ finished.items) (plain : reservation.source ≠ .framebuffer) :
    ∃ piece ∈ output.take len, piece.physicalStart = reservation.physicalStart ∧
      piece.kind = reservation.kind := by
  have inputs := applyReservations_overlayable done ran
  obtain ⟨map, drawn⟩ := applyReservations_drawn done ran
  have forward := (finished.wellFormed reservation reserved).start_lt_stop
  obtain ⟨descriptor, member, low, high⟩ := (map.sameCover reservation.physicalStart).mp
    (map.complete reservation reserved plain _ ⟨Nat.le_refl _, forward⟩)
  have meets : Meets descriptor reservation := by omega
  obtain ⟨piece, inMap, starts, color, _⟩ := drawn.exists_piece inputs member reserved meets
  rw [Nat.max_eq_right low] at starts
  exact ⟨piece, inMap, starts, congrArg Prod.fst color⟩

/-- A piece that starts with a reserved stretch has its page count exactly if it
stops with it. -/
theorem pageCount_eq_iff {piece : MemoryDescriptor} (valid : descriptor.Valid)
    (wellFormed : reservation.WellFormed)
    (meets : Meets descriptor reservation)
    (starts : piece.physicalStart = max descriptor.physicalStart reservation.physicalStart) :
    piece.pageCount = overlap descriptor reservation / memoryPageSize ↔
      piece.stop = min descriptor.stop reservation.stop := by
  have pages := overlap_aligned valid wellFormed
  have reaches : piece.stop = max descriptor.physicalStart reservation.physicalStart +
      piece.pageCount * memoryPageSize := by rw [MemoryDescriptor.stop, starts]
  simp only [overlap] at pages ⊢
  rw [reaches]
  constructor
  · intro counted
    rw [counted, pages]
    omega
  · intro stops
    simp only [memoryPageSize] at stops ⊢
    omega

/-- The reservations keep their own descriptors exactly as long as none of them
runs on into unreserved memory of its kind without attributes: that memory is
appended with merging allowed and swallows the reserved piece. -/
theorem applyReservations_explicit_iff {list finished : ReservationList}
    {output : List MemoryDescriptor} {capacity len : Nat}
    (done : list.finish = (.ok (), finished))
    (ran : applyReservations base finished capacity = .ok (len, output)) :
    Explicit base finished.items (output.take len) ↔
      ∀ descriptor ∈ base, ∀ reservation ∈ finished.items, Meets descriptor reservation →
        ¬ RunsOn base finished.items descriptor reservation := by
  have inputs := applyReservations_overlayable done ran
  obtain ⟨map, drawn⟩ := applyReservations_drawn done ran
  constructor
  · intro explicit descriptor member reservation reserved meets
    obtain ⟨piece, inMap, starts, _, stops⟩ :=
      drawn.exists_piece inputs member reserved meets
    obtain ⟨own, ownInMap, ownStarts, ownPages⟩ :=
      explicit.own descriptor member reservation reserved meets
    rw [← stops, ← pageCount_eq_iff (inputs.valid descriptor member)
      (inputs.wellFormed reservation reserved) meets starts, ← ownPages]
    -- Two descriptors of the map with one first byte are the same.
    have proper := drawn.proper piece inMap
    have ownProper := drawn.proper own ownInMap
    rw [map.ordered.unique inMap ⟨Nat.le_refl _, proper⟩ ownInMap ⟨by omega, by omega⟩]
  · intro stop
    constructor
    · intro descriptor member reservation reserved meets
      obtain ⟨piece, inMap, starts, _, stops⟩ :=
        drawn.exists_piece inputs member reserved meets
      refine ⟨piece, inMap, starts, ?_⟩
      rw [pageCount_eq_iff (inputs.valid descriptor member)
        (inputs.wellFormed reservation reserved) meets starts, stops]
      exact stop descriptor member reservation reserved meets
    · intro descriptor member reservation reserved other otherInMap address contained covers holds
      obtain ⟨low, high⟩ := contained
      obtain ⟨reservedLow, reservedHigh⟩ := covers
      have meets : Meets descriptor reservation := by omega
      obtain ⟨piece, inMap, starts, _, stops⟩ :=
        drawn.exists_piece inputs member reserved meets
      have exactly := stops.mpr (stop descriptor member reservation reserved meets)
      rw [map.ordered.unique otherInMap holds inMap ⟨by omega, by omega⟩]
      exact ⟨Nat.le_of_eq starts.symm, Nat.le_of_eq exactly⟩

end

theorem applyReservations_explicit_iff_sample :
    Explicit sampleBase sampleReservations.finish.2.items sampleMap := by
  have done : sampleReservations.finish = (.ok (), sampleReservations.finish.2) := by rfl
  have ran : applyReservations sampleBase sampleReservations.finish.2 8 =
      .ok (6, filled 8 sampleMap) := by decide
  exact (applyReservations_explicit_iff done ran).mpr (by decide)

/-- One page of loader memory reserved as loader memory, in front of another. -/
def loaderReservation : ReservationList :=
  (ReservationList.new.push ⟨0x8000, 1, memoryKindLoader, .kernelImage⟩).2

theorem applyReservations_swallows_loaderReservation :
    loaderReservation.finish.1 = .ok () ∧
      applyReservations [⟨memoryKindLoader, 0, 0x8000, 2, 0⟩] loaderReservation.finish.2 4 =
        .ok (1, filled 4 [⟨memoryKindLoader, 0, 0x8000, 2, 0⟩]) ∧
      ¬ Explicit [⟨memoryKindLoader, 0, 0x8000, 2, 0⟩] loaderReservation.finish.2.items
        [⟨memoryKindLoader, 0, 0x8000, 2, 0⟩] := by
  refine ⟨by rfl, by decide, ?_⟩
  intro explicit
  obtain ⟨piece, inMap, _, pages⟩ := explicit.own _ (List.mem_singleton_self _)
    ⟨0x8000, 1, memoryKindLoader, .kernelImage⟩ (by decide) (by decide)
  rw [List.mem_singleton.mp inMap] at pages
  exact absurd pages (by decide)

end UnnamedOS.MemoryMap
