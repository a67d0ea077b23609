import UnnamedOS.MemoryMap.Drawing

namespace UnnamedOS.MemoryMap

open UnnamedOS.Data UnnamedOS.BootProtocol

/-! # The overlaid map

What the two loops of `apply_reservations` do, and the map they leave. -/

/-! ## The loop over the reservations -/

/-- Between two iterations: the descriptor is written up to `cursor`, none of
the reservations already seen reaches into the rest of it, and the others
start no earlier than the cursor unless nothing is written yet. -/
structure Midway (base : List MemoryDescriptor) (reservations : List Reservation)
    (descriptor : MemoryDescriptor) (seen ahead : List Reservation) (cursor : Nat)
    (live : List MemoryDescriptor) : Prop where
  painted : Painted (overlayAt base reservations) cursor live
  low : descriptor.physicalStart ≤ cursor
  high : cursor ≤ descriptor.stop
  aligned : cursor % memoryPageSize = 0
  clear : ∀ reservation ∈ seen, ∀ address, cursor ≤ address → address < descriptor.stop →
    ¬ reservation.Contains address
  coming : ∀ reservation ∈ ahead,
    cursor = descriptor.physicalStart ∨ cursor ≤ reservation.physicalStart

/-- The bytes a descriptor and a reservation share. -/
def overlap (descriptor : MemoryDescriptor) (reservation : Reservation) : Nat :=
  min descriptor.stop reservation.stop - max descriptor.physicalStart reservation.physicalStart

theorem overlap_ends_aligned {descriptor : MemoryDescriptor} {reservation : Reservation}
    {cursor : Nat} (valid : descriptor.Valid) (wellFormed : reservation.WellFormed)
    (aligned : cursor % memoryPageSize = 0) :
    max cursor reservation.physicalStart % memoryPageSize = 0 ∧
      min descriptor.stop reservation.stop % memoryPageSize = 0 := by
  have stop := valid.stop_aligned
  obtain ⟨_, reservedStart, _⟩ := wellFormed.spec
  simp only [Reservation.stop, memoryPageSize] at *
  omega

section

variable {base : List MemoryDescriptor} {reservations seen ahead : List Reservation}
  {descriptor : MemoryDescriptor} {reservation : Reservation}
  {capacity cursor stop covered : Nat} {live next : List MemoryDescriptor}

/-- No reservation reaches into what is left of the descriptor before `stop`. -/
theorem Midway.free (midway : Midway base reservations descriptor seen ahead cursor live)
    (split : reservations = seen ++ ahead) (within : stop ≤ descriptor.stop)
    (later : ∀ reservation ∈ ahead, stop ≤ max cursor reservation.physicalStart) :
    ∀ address, cursor ≤ address → address < stop → descriptor.Contains address ∧
      ∀ reservation ∈ reservations, ¬ reservation.Contains address := by
  intro address past short
  have low := midway.low
  refine ⟨⟨by omega, by omega⟩, ?_⟩
  intro reservation reserved covers
  rw [split] at reserved
  rcases List.mem_append.mp reserved with reserved | reserved
  · exact midway.clear reservation reserved address past (by omega) covers
  · have starts := later reservation reserved
    have reservedLow := covers.1
    omega

/-- A reservation that does not meet the rest of the descriptor changes nothing. -/
theorem Midway.skip
    (midway : Midway base reservations descriptor seen (reservation :: ahead) cursor live)
    (apart : min descriptor.stop reservation.stop ≤ max cursor reservation.physicalStart) :
    Midway base reservations descriptor (seen ++ [reservation]) ahead cursor live := by
  refine ⟨midway.painted, midway.low, midway.high, midway.aligned, ?_, ?_⟩
  · intro other seenOther address past before contains
    rcases List.mem_append.mp seenOther with seenOther | seenOther
    · exact midway.clear other seenOther address past before contains
    · rw [List.mem_singleton.mp seenOther] at contains
      obtain ⟨reservedLow, reservedHigh⟩ := contains
      omega
  · intro other later
    exact midway.coming other (List.mem_cons_of_mem _ later)

/-- One that meets it is left behind once its stretch is drawn. -/
theorem Midway.pass (inputs : Overlayable base reservations)
    (midway : Midway base reservations descriptor seen (reservation :: ahead) cursor live)
    (split : reservations = seen ++ reservation :: ahead)
    (meets : max cursor reservation.physicalStart < min descriptor.stop reservation.stop)
    (aligned : min descriptor.stop reservation.stop % memoryPageSize = 0)
    (painted : Painted (overlayAt base reservations) (min descriptor.stop reservation.stop) next) :
    Midway base reservations descriptor (seen ++ [reservation]) ahead
      (min descriptor.stop reservation.stop) next := by
  have following := (split ▸ inputs.reservationsOrdered).following
  have low := midway.low
  refine ⟨painted, by omega, by omega, aligned, ?_, ?_⟩
  · intro other seenOther address past before contains
    rcases List.mem_append.mp seenOther with seenOther | seenOther
    · exact midway.clear other seenOther address (by omega) before contains
    · rw [List.mem_singleton.mp seenOther] at contains
      obtain ⟨_, reservedHigh⟩ := contains
      omega
  · intro other later
    have starts := following other later
    right
    omega

/-- One iteration moves the cursor past the reservation and counts the pages
it shares with the descriptor. -/
theorem Midway.step (inputs : Overlayable base reservations) (member : descriptor ∈ base)
    (midway : Midway base reservations descriptor seen (reservation :: ahead) cursor live)
    (drawn : Drawn base reservations cursor live)
    (split : reservations = seen ++ reservation :: ahead)
    (fits : covered + overlap descriptor reservation / memoryPageSize < wordLimit) :
    Ends (fun result =>
        Midway base reservations descriptor (seen ++ [reservation]) ahead result.1 result.2.1 ∧
        Drawn base reservations result.1 result.2.1 ∧
        result.2.2 = covered + overlap descriptor reservation / memoryPageSize)
      (Cramped base reservations capacity)
      (overlayReservation capacity descriptor descriptor.stop cursor live reservation covered) := by
  have reserved : reservation ∈ reservations := by simp [split]
  have valid := inputs.valid descriptor member
  have wellFormed := inputs.wellFormed reservation reserved
  have following := (split ▸ inputs.reservationsOrdered).following
  have coming := midway.coming reservation (by simp)
  have low := midway.low
  -- The cursor is at the descriptor's start or still before the reservation.
  have sameStart : max descriptor.physicalStart reservation.physicalStart =
      max cursor reservation.physicalStart := by omega
  have ended : rangeEnd reservation.physicalStart reservation.pageCount = .ok reservation.stop :=
    rangeEnd_eq_ok.mpr ⟨rfl, wellFormed.spec.2.2⟩
  refine Ends.step ended ?_
  by_cases apart : max cursor reservation.physicalStart ≥ min descriptor.stop reservation.stop
  · have disjoint : overlap descriptor reservation = 0 := by
      unfold overlap
      omega
    rw [if_pos apart]
    exact .returns ⟨midway.skip apart, drawn, by simp [disjoint]⟩
  · have meets := Nat.lt_of_not_le apart
    obtain ⟨fromAligned, untilAligned⟩ := overlap_ends_aligned valid wellFormed midway.aligned
    rw [if_neg apart]
    refine (drawn.appendFragment inputs member midway.aligned fromAligned (by omega) (by omega)
      (midway.free split (by omega) ?_)).bind ?_
    · intro other later
      rcases List.mem_cons.mp later with rfl | later
      · exact Nat.le_refl _
      · have starts := following other later
        omega
    intro before _ drawnBefore
    refine (drawnBefore.appendReserved inputs member reserved fromAligned untilAligned sameStart rfl
      meets).bind ?_
    intro after _ drawnAfter
    rw [overlap, sameStart] at fits
    refine Ends.step (okOr_eq_ok.mpr (checkedAdd_eq_some.mpr ⟨fits, rfl⟩)) (.returns ?_)
    exact ⟨midway.pass inputs split meets untilAligned drawnAfter.painted, drawnAfter,
      by rw [overlap, sameStart]⟩

/-- The whole loop leaves no reservation ahead. -/
theorem Midway.run (inputs : Overlayable base reservations) (member : descriptor ∈ base)
    {tallies : List (Reservation × Nat)}
    (midway : Midway base reservations descriptor seen (tallies.map Prod.fst) cursor live)
    (drawn : Drawn base reservations cursor live)
    (split : reservations = seen ++ tallies.map Prod.fst)
    (fits : ∀ tally ∈ tallies, tally.2 + overlap descriptor tally.1 / memoryPageSize < wordLimit) :
    Ends (fun result =>
        Midway base reservations descriptor reservations [] result.1 result.2.1 ∧
        Drawn base reservations result.1 result.2.1 ∧
        result.2.2 = tallies.map fun tally =>
          (tally.1, tally.2 + overlap descriptor tally.1 / memoryPageSize))
      (Cramped base reservations capacity)
      (overlayReservations capacity descriptor descriptor.stop cursor live tallies) := by
  induction tallies generalizing seen cursor live with
  | nil =>
      obtain rfl : reservations = seen := by simpa using split
      exact .returns ⟨midway, drawn, rfl⟩
  | cons tally rest ih =>
      refine (midway.step inputs member drawn split (fits tally (by simp))).bind ?_
      intro stepped _ passed
      obtain ⟨midwayNext, drawnNext, counted⟩ := passed
      refine (ih midwayNext drawnNext (by simpa using split) fun later inRest =>
        fits later (List.mem_cons_of_mem _ inRest)).bind ?_
      intro rested _ finished
      obtain ⟨exit, drawnExit, tallied⟩ := finished
      exact .returns ⟨exit, drawnExit, by rw [tallied, counted, List.map_cons]⟩

end

/-! ## The loop over the descriptors -/

/-- After the descriptors `written`: the map is painted as far as they go, and
each counter times the page size is what its reservation shares with them. -/
structure Overlaid (base : List MemoryDescriptor) (reservations : List Reservation)
    (written : List MemoryDescriptor) (reached : Nat) (live : List MemoryDescriptor)
    (tallies : List (Reservation × Nat)) : Prop where
  painted : Painted (overlayAt base reservations) reached live
  behind : ∀ descriptor ∈ written, descriptor.stop ≤ reached
  listed : tallies.map Prod.fst = reservations
  counted : ∀ tally ∈ tallies, tally.2 * memoryPageSize =
    overlapTotal MemoryDescriptor.physicalStart MemoryDescriptor.stop tally.1.physicalStart
      tally.1.stop written

theorem overlap_aligned {descriptor : MemoryDescriptor} {reservation : Reservation}
    (valid : descriptor.Valid) (wellFormed : reservation.WellFormed) :
    overlap descriptor reservation / memoryPageSize * memoryPageSize =
      overlap descriptor reservation := by
  have start := valid.aligned
  have stop := valid.stop_aligned
  obtain ⟨_, reservedStart, _⟩ := wellFormed.spec
  simp only [overlap, Reservation.stop, memoryPageSize] at *
  omega

section

variable {base written ahead : List MemoryDescriptor} {reservations : List Reservation}
  {descriptor : MemoryDescriptor} {capacity reached : Nat} {live next : List MemoryDescriptor}
  {tallies tallies' : List (Reservation × Nat)}

/-- Nothing of the base lies between the last descriptor and the next. -/
theorem Overlaid.gap (inputs : Overlayable base reservations)
    (split : base = written ++ descriptor :: ahead)
    (overlaid : Overlaid base reservations written reached live tallies) {address : Nat}
    (past : reached ≤ address) (short : address < descriptor.physicalStart) :
    ¬ InMap base address := by
  have following := (split ▸ inputs.ordered).following
  have proper := (inputs.valid descriptor (by simp [split])).start_lt_stop
  intro inMap
  obtain ⟨other, otherMember, low, high⟩ := inMap
  rw [split] at otherMember
  rcases List.mem_append.mp otherMember with earlier | later
  · have ended := overlaid.behind other earlier
    omega
  · rcases List.mem_cons.mp later with rfl | later
    · omega
    · have starts := following other later
      omega

theorem Overlaid.counted_next (inputs : Overlayable base reservations) (member : descriptor ∈ base)
    (overlaid : Overlaid base reservations written reached live tallies)
    {tally : Reservation × Nat} (inTallies : tally ∈ tallies) :
    (tally.2 + overlap descriptor tally.1 / memoryPageSize) * memoryPageSize =
      overlapTotal MemoryDescriptor.physicalStart MemoryDescriptor.stop tally.1.physicalStart
        tally.1.stop (written ++ [descriptor]) := by
  have reserved : tally.1 ∈ reservations := by
    rw [← overlaid.listed]
    exact List.mem_map_of_mem inTallies
  have pages := overlap_aligned (inputs.valid descriptor member) (inputs.wellFormed _ reserved)
  rw [Nat.add_mul, pages, overlaid.counted tally inTallies]
  simp [overlapTotal, overlap]

/-- A reservation shares no more pages with the map than it has, so its counter
never overflows. -/
theorem Overlaid.fits (inputs : Overlayable base reservations)
    (split : base = written ++ descriptor :: ahead)
    (overlaid : Overlaid base reservations written reached live tallies) :
    ∀ tally ∈ tallies, tally.2 + overlap descriptor tally.1 / memoryPageSize < wordLimit := by
  intro tally inTallies
  have member : descriptor ∈ base := by simp [split]
  have counted := overlaid.counted_next inputs member inTallies
  have reserved : tally.1 ∈ reservations := by
    rw [← overlaid.listed]
    exact List.mem_map_of_mem inTallies
  obtain ⟨_, _, bounded⟩ := (inputs.wellFormed _ reserved).spec
  have ordered : InOrder (written ++ [descriptor]) := by
    have whole := inputs.ordered
    rw [split, List.append_cons] at whole
    exact (List.pairwise_append.mp whole).1
  have total : overlapTotal MemoryDescriptor.physicalStart MemoryDescriptor.stop
      tally.1.physicalStart tally.1.stop (written ++ [descriptor]) ≤
        tally.1.stop - tally.1.physicalStart := ordered.overlapTotal_le
  rw [← counted] at total
  simp only [memoryPageSize] at total ⊢
  omega

theorem Overlaid.step (inputs : Overlayable base reservations)
    (split : base = written ++ descriptor :: ahead)
    (overlaid : Overlaid base reservations written reached live tallies)
    (drawn : Drawn base reservations reached live) (before : reached ≤ descriptor.physicalStart) :
    Ends (fun state =>
        Overlaid base reservations (written ++ [descriptor]) descriptor.stop state.1 state.2 ∧
        Drawn base reservations descriptor.stop state.1)
      (Cramped base reservations capacity) (overlayDescriptor capacity (live, tallies) descriptor) := by
  have member : descriptor ∈ base := by simp [split]
  have valid := inputs.valid descriptor member
  obtain ⟨validated, validates⟩ := MemoryDescriptor.validate_iff.mpr valid
  have ended : rangeEnd descriptor.physicalStart descriptor.pageCount = .ok descriptor.stop :=
    rangeEnd_eq_ok.mpr ⟨rfl, valid.bounded⟩
  have atStart : Drawn base reservations descriptor.physicalStart live :=
    drawn.skip before fun _ past short => overlaid.gap inputs split past short
  have entry : Midway base reservations descriptor [] (tallies.map Prod.fst)
      descriptor.physicalStart live :=
    ⟨atStart.painted, Nat.le_refl _, Nat.le_of_lt valid.start_lt_stop, valid.aligned, by simp,
      fun _ _ => .inl rfl⟩
  refine Ends.step (mapError_eq_ok.mpr validates) (Ends.step ended ?_)
  refine (entry.run inputs member atStart (by simp [overlaid.listed])
    (overlaid.fits inputs split)).bind ?_
  intro looped _ exits
  obtain ⟨exit, drawnExit, tallied⟩ := exits
  refine (drawnExit.appendFragment inputs member exit.aligned valid.stop_aligned exit.high
    (Nat.le_refl _) (exit.free (by simp) (Nat.le_refl _) (by simp))).bind ?_
  intro rested _ drawnRest
  refine .returns ⟨⟨drawnRest.painted, ?_, ?_, ?_⟩, drawnRest⟩
  · refine forall_mem_append_singleton ?_ (Nat.le_refl _)
    intro other earlier
    have ended := overlaid.behind other earlier
    have proper := valid.start_lt_stop
    omega
  · rw [tallied, List.map_map]
    exact overlaid.listed
  · rw [tallied]
    intro tally tallyMember
    obtain ⟨old, oldMember, rfl⟩ := List.mem_map.mp tallyMember
    exact overlaid.counted_next inputs member oldMember

/-- Every base descriptor passed `validate` in a run of the loop that ended. -/
theorem overlayDescriptor_valid {state final : List MemoryDescriptor × List (Reservation × Nat)}
    (ran : base.foldlM (overlayDescriptor capacity) state = .ok final) :
    ∀ descriptor ∈ base, descriptor.Valid := by
  apply foldlM_invariant (fun before _ => ∀ descriptor ∈ before, descriptor.Valid) (by simp) ?_ ran
  intro before descriptor after current next _ earlier stepped
  obtain ⟨_, validated, _⟩ := bind_eq_ok.mp stepped
  have valid := MemoryDescriptor.validate_iff.mp ⟨_, mapError_eq_ok.mp validated⟩
  exact forall_mem_append_singleton earlier valid

/-- The loop over the whole base map, from the empty output, draws the picture
to the end of the address space. -/
theorem Overlaid.run (inputs : Overlayable base reservations) :
    Ends (fun state => Overlaid base reservations base wordLimit state.1 state.2 ∧
        Drawn base reservations wordLimit state.1)
      (Cramped base reservations capacity)
      (base.foldlM (overlayDescriptor capacity)
        ([], reservations.map fun reservation => (reservation, 0))) := by
  refine (Ends.foldlM (fun written state => ∃ reached ≤ wordLimit,
      (Overlaid base reservations written reached state.1 state.2 ∧
        Drawn base reservations reached state.1) ∧
      ∀ ahead, base = written ++ ahead →
        ∀ descriptor ∈ ahead, reached ≤ descriptor.physicalStart) ?_ ?_).imp ?_ fun _ => id
  · have drawn : Drawn base reservations 0 [] := .empty
    exact ⟨0, Nat.zero_le _, ⟨⟨drawn.painted, by simp, by simp [Function.comp_def],
      by simp [overlapTotal]⟩, drawn⟩, fun _ _ _ _ => Nat.zero_le _⟩
  · intro written descriptor ahead state split current
    obtain ⟨reached, _, ⟨overlaid, drawn⟩, before⟩ := current
    refine (overlaid.step inputs split drawn (before _ split descriptor (by simp))).imp ?_
      fun _ => id
    intro next _ stepped
    have bounded := (inputs.valid descriptor (by simp [split])).bounded
    refine ⟨descriptor.stop, Nat.le_of_lt bounded, stepped, ?_⟩
    intro rest splitRest
    have sameRest : ahead = rest := by simpa [split] using splitRest
    exact sameRest ▸ (split ▸ inputs.ordered).following
  · intro state _ looped
    obtain ⟨reached, limit, ⟨overlaid, drawn⟩, _⟩ := looped
    have toTheEnd : Drawn base reservations wordLimit state.1 := by
      refine drawn.skip limit ?_
      intro address past _ inMap
      obtain ⟨descriptor, member, _, high⟩ := inMap
      have ended := overlaid.behind descriptor member
      omega
    exact ⟨⟨toTheEnd.painted,
      fun descriptor member => Nat.le_of_lt (inputs.valid descriptor member).bounded,
      overlaid.listed, overlaid.counted⟩, toTheEnd⟩

end

/-! ## The finished map -/

/-- `map` is `base` with the reservations laid over it, byte by byte. -/
structure OverlayOf (base : List MemoryDescriptor) (reservations : List Reservation)
    (map : List MemoryDescriptor) : Prop where
  ordered : InOrder map
  valid : ∀ descriptor ∈ map, ∃ validated, descriptor.validate = .ok validated
  sameCover : ∀ address, InMap map address ↔ InMap base address
  reserved : ∀ descriptor ∈ map, ∀ reservation ∈ reservations, ∀ address,
    descriptor.Contains address → reservation.Contains address →
      descriptor.kind = reservation.kind ∧ descriptor.attributes = 0
  kept : ∀ descriptor ∈ map, ∀ source ∈ base, ∀ address,
    descriptor.Contains address → source.Contains address →
    (∀ reservation ∈ reservations, ¬ reservation.Contains address) →
      descriptor.kind = source.kind ∧ descriptor.attributes = source.attributes
  complete : ∀ reservation ∈ reservations, reservation.source ≠ .framebuffer →
    ∀ address, reservation.Contains address → InMap map address

/-- Some byte of a reservation other than the framebuffer's is outside the map. -/
def Incomplete (base : List MemoryDescriptor) (reservations : List Reservation) : Prop :=
  ∃ reservation ∈ reservations, reservation.source ≠ .framebuffer ∧
    ∃ address, reservation.Contains address ∧ ¬ InMap base address

section

variable {base : List MemoryDescriptor} {reservations : List Reservation}
  {live : List MemoryDescriptor} {reached : Nat} {tallies : List (Reservation × Nat)}

/-- Past the last descriptor there is nothing to paint, so a painting of all
of the base is right everywhere. -/
theorem Overlaid.agrees (overlaid : Overlaid base reservations base reached live tallies)
    (address : Nat) (color : Nat × Nat) :
    (∃ descriptor ∈ live, descriptor.Contains address ∧
        (descriptor.kind, descriptor.attributes) = color) ↔
      overlayAt base reservations address = some color := by
  by_cases before : address < reached
  · exact overlaid.painted.paints.agrees address before color
  · have outside : ¬ InMap base address := by
      rintro ⟨descriptor, member, _, high⟩
      have ended := overlaid.behind descriptor member
      omega
    rw [overlayAt_outside outside]
    simp only [reduceCtorEq, iff_false]
    exact not_colored_of_ge overlaid.painted.paints.within (Nat.le_of_not_lt before)

/-- The counters are exact: one is full if and only if the map holds every byte
of its reservation. -/
theorem Overlaid.full_iff (inputs : Overlayable base reservations)
    (overlaid : Overlaid base reservations base reached live tallies)
    {tally : Reservation × Nat} (member : tally ∈ tallies) :
    tally.2 = tally.1.pageCount ↔ ∀ address, tally.1.Contains address → InMap base address := by
  have counted := overlaid.counted tally member
  have length : tally.1.stop - tally.1.physicalStart = tally.1.pageCount * memoryPageSize := by
    rw [Reservation.stop, Nat.add_sub_cancel_left]
  have complete : (∀ address, tally.1.Contains address → InMap base address) ↔
      overlapTotal MemoryDescriptor.physicalStart MemoryDescriptor.stop tally.1.physicalStart
        tally.1.stop base = tally.1.stop - tally.1.physicalStart := by
    rw [inputs.ordered.overlapTotal_eq_iff]
    simp only [Covers, and_imp]
  rw [complete, ← counted, length]
  simp

theorem Overlaid.overlayOf (inputs : Overlayable base reservations)
    (overlaid : Overlaid base reservations base reached live tallies)
    (full : ∀ reservation ∈ reservations, reservation.source ≠ .framebuffer →
      ∀ address, reservation.Contains address → InMap base address) :
    OverlayOf base reservations live := by
  have sameCover : ∀ address, InMap live address ↔ InMap base address := by
    intro address
    constructor
    · rintro ⟨descriptor, member, contained⟩
      have color := (overlaid.agrees address _).mp ⟨descriptor, member, contained, rfl⟩
      by_contra outside
      rw [overlayAt_outside outside] at color
      contradiction
    · rintro ⟨source, member, contained⟩
      have found : ∃ color, overlayAt base reservations address = some color := by
        rw [overlayAt, inputs.ordered.find?_eq_some member contained]
        exact ⟨_, rfl⟩
      obtain ⟨color, found⟩ := found
      obtain ⟨descriptor, inLive, contains, _⟩ := (overlaid.agrees address color).mpr found
      exact ⟨descriptor, inLive, contains⟩
  refine ⟨overlaid.painted.paints.ordered, ?_, sameCover, ?_, ?_, ?_⟩
  · intro descriptor member
    exact MemoryDescriptor.validate_iff.mpr (overlaid.painted.valid descriptor member)
  · intro descriptor member reservation reserved address contained covered
    have color := (overlaid.agrees address _).mp ⟨descriptor, member, contained, rfl⟩
    obtain ⟨source, inBase, contains⟩ := (sameCover address).mp ⟨descriptor, member, contained⟩
    rw [inputs.overlayAt_reserved inBase contains reserved covered] at color
    simp only [Option.some.injEq, Prod.mk.injEq] at color
    exact ⟨color.1.symm, color.2.symm⟩
  · intro descriptor member source inBase address contained contains free
    have color := (overlaid.agrees address _).mp ⟨descriptor, member, contained, rfl⟩
    rw [inputs.overlayAt_kept inBase contains free] at color
    simp only [Option.some.injEq, Prod.mk.injEq] at color
    exact ⟨color.1.symm, color.2.symm⟩
  · intro reservation reserved plain address covered
    rw [sameCover]
    exact full reservation reserved plain address covered

/-- The reported length is that of the live prefix. -/
theorem applyReservations_length {list : ReservationList} {output : List MemoryDescriptor}
    {capacity len : Nat} (ran : applyReservations base list capacity = .ok (len, output)) :
    (output.take len).length = len := by
  obtain ⟨_, _, ran⟩ := bind_eq_ok.mp ran
  obtain ⟨⟨live, _⟩, _, ran⟩ := bind_eq_ok.mp ran
  obtain ⟨_, _, ran⟩ := bind_eq_ok.mp ran
  obtain ⟨_, _, ran⟩ := bind_eq_ok.mp ran
  simp only [Except.ok.injEq, Prod.mk.injEq] at ran
  obtain ⟨rfl, rfl⟩ := ran
  rw [take_filled]

/-- The check of the counters after the loops. -/
theorem Overlaid.coverage_ends (inputs : Overlayable base reservations)
    (overlaid : Overlaid base reservations base reached live tallies) :
    Ends (fun _ => ∀ reservation ∈ reservations, reservation.source ≠ .framebuffer →
        ∀ address, reservation.Contains address → InMap base address)
      (fun reason => reason = .reservationOutsideMap ∧ Incomplete base reservations)
      (checkAll (fun tally : Reservation × Nat =>
        if tally.1.source ≠ .framebuffer ∧ tally.2 ≠ tally.1.pageCount then
          .error MapBuildError.reservationOutsideMap
        else .ok ()) tallies) := by
  rw [← overlaid.listed]
  simp only [List.forall_mem_map]
  refine Ends.checkAll ?_
  intro tally member
  have fullIff := overlaid.full_iff inputs member
  refine Ends.guard ?_ ?_
  · intro short
    rw [ne_eq, ne_eq, fullIff] at short
    push Not at short
    exact ⟨rfl, tally.1, List.mem_map_of_mem member, short⟩
  · intro full
    refine .returns ?_
    intro plain
    rw [← fullIff]
    by_contra short
    exact full ⟨plain, short⟩

theorem applyReservations_ends {list : ReservationList} {capacity : Nat}
    (inputs : Overlayable base list.items) :
    Ends (fun result => ∃ live, result = (live.length, filled capacity live) ∧
        OverlayOf base list.items live ∧ Drawn base list.items wordLimit live)
      (fun reason => Cramped base list.items capacity reason ∨
        reason = .reservationOutsideMap ∧ Incomplete base list.items)
      (applyReservations base list capacity) := by
  have baseChecked : validateNonOverlapping base = .ok () :=
    checkWindows_of_ordered (fun descriptor member => (inputs.valid descriptor member).bounded)
      inputs.ordered
  refine Ends.step baseChecked ?_
  refine ((Overlaid.run inputs).imp (fun _ _ => id) fun _ => .inl).bind ?_
  intro state _ looped
  obtain ⟨overlaid, drawn⟩ := looped
  refine ((overlaid.coverage_ends inputs).imp (fun _ _ => id) fun _ => .inr).bind ?_
  intro _ _ complete
  have map := overlaid.overlayOf inputs complete
  have liveChecked : validateNonOverlapping state.1 = .ok () :=
    checkWindows_of_ordered
      (fun descriptor member => (overlaid.painted.valid descriptor member).bounded) map.ordered
  exact Ends.step liveChecked (.returns ⟨state.1, rfl, map, drawn⟩)

/-- Whatever `apply_reservations` accepts satisfies what the loops assume. -/
theorem applyReservations_overlayable {list finished : ReservationList}
    {result : Nat × List MemoryDescriptor} {capacity : Nat}
    (done : list.finish = (.ok (), finished))
    (ran : applyReservations base finished capacity = .ok result) :
    Overlayable base finished.items := by
  obtain ⟨_, checkedBase, ran⟩ := bind_eq_ok.mp ran
  obtain ⟨_, looped, _⟩ := bind_eq_ok.mp ran
  have valid := overlayDescriptor_valid looped
  exact ⟨checkWindows_ordered (fun descriptor member => (valid descriptor member).nonempty)
    checkedBase, valid, ReservationList.finish_ordered done, finished.wellFormed⟩

theorem applyReservations_drawn {list finished : ReservationList}
    {output : List MemoryDescriptor} {capacity len : Nat}
    (done : list.finish = (.ok (), finished))
    (ran : applyReservations base finished capacity = .ok (len, output)) :
    OverlayOf base finished.items (output.take len) ∧
      Drawn base finished.items wordLimit (output.take len) := by
  have inputs := applyReservations_overlayable done ran
  obtain ⟨live, same, map⟩ := (applyReservations_ends inputs).of_ok ran
  rw [Prod.mk.injEq] at same
  rw [same.1, same.2, take_filled]
  exact map

theorem applyReservations_overlayOf {list finished : ReservationList}
    {output : List MemoryDescriptor} {capacity len : Nat}
    (done : list.finish = (.ok (), finished))
    (ran : applyReservations base finished capacity = .ok (len, output)) :
    OverlayOf base finished.items (output.take len) :=
  (applyReservations_drawn done ran).1

/-- Once `finish` and `apply_reservations` have succeeded, the live part of the
output is the base map with the reservations laid over it; with no `USABLE`
reservation nothing becomes usable and nothing reserved stays so. -/
theorem applyReservations_overlays {list finished : ReservationList}
    {output : List MemoryDescriptor} {capacity len : Nat}
    (done : list.finish = (.ok (), finished))
    (ran : applyReservations base finished capacity = .ok (len, output)) :
    OverlayOf base finished.items (output.take len) ∧
      ((∀ reservation ∈ finished.items, reservation.kind ≠ memoryKindUsable) →
        (∀ address, Usable (output.take len) address → Usable base address) ∧
          ∀ reservation ∈ finished.items, ∀ address, reservation.Contains address →
            ¬ Usable (output.take len) address) := by
  have overlay := applyReservations_overlayOf done ran
  refine ⟨overlay, fun kinds => ?_⟩
  have reserved : ∀ reservation ∈ finished.items, ∀ address, reservation.Contains address →
      ¬ Usable (output.take len) address := by
    rintro reservation member address covered ⟨descriptor, inMap, contained, usable⟩
    apply kinds reservation member
    rw [← (overlay.reserved descriptor inMap reservation member address contained covered).1]
    exact usable
  refine ⟨?_, reserved⟩
  intro address isUsable
  obtain ⟨descriptor, inMap, contained, usable⟩ := isUsable
  obtain ⟨source, inBase, contains⟩ :=
    (overlay.sameCover address).mp ⟨descriptor, inMap, contained⟩
  have free : ∀ reservation ∈ finished.items, ¬ reservation.Contains address :=
    fun reservation member covered =>
      reserved reservation member address covered ⟨descriptor, inMap, contained, usable⟩
  have same := overlay.kept descriptor inMap source inBase address contained contains free
  exact ⟨source, inBase, contains, same.1 ▸ usable⟩

end

/-- Two touching base ranges, the second one loader memory. -/
def sampleBase : List MemoryDescriptor :=
  [⟨memoryKindUsable, 0, 0x1000, 4, 7⟩, ⟨memoryKindLoader, 0, 0x5000, 4, 9⟩]

/-- A kernel image across both ranges, pushed before a boot block below it. -/
def sampleReservations : ReservationList :=
  let kernel := (ReservationList.new.push
    ⟨0x4000, 2, memoryKindKernelImage, .kernelImage⟩).2
  (kernel.push ⟨0x2000, 1, memoryKindBootInfo, .bootInfo⟩).2

/-- The six fragments of the sample. -/
def sampleMap : List MemoryDescriptor :=
  [⟨memoryKindUsable, 0, 0x1000, 1, 7⟩, ⟨memoryKindBootInfo, 0, 0x2000, 1, 0⟩,
    ⟨memoryKindUsable, 0, 0x3000, 1, 7⟩, ⟨memoryKindKernelImage, 0, 0x4000, 1, 0⟩,
    ⟨memoryKindKernelImage, 0, 0x5000, 1, 0⟩, ⟨memoryKindLoader, 0, 0x6000, 3, 9⟩]

theorem applyReservations_overlays_sample :
    sampleReservations.finish.1 = .ok () ∧
      applyReservations sampleBase sampleReservations.finish.2 8 = .ok (6, filled 8 sampleMap) ∧
      OverlayOf sampleBase sampleReservations.finish.2.items sampleMap ∧
      ¬ Usable sampleMap 0x4000 := by
  have done : sampleReservations.finish = (.ok (), sampleReservations.finish.2) := by rfl
  have ran : applyReservations sampleBase sampleReservations.finish.2 8 =
      .ok (6, filled 8 sampleMap) := by decide
  obtain ⟨overlay, usable⟩ := applyReservations_overlays done ran
  refine ⟨by decide, ran, overlay, ?_⟩
  apply (usable (by decide)).2 ⟨0x4000, 2, memoryKindKernelImage, .kernelImage⟩ (by decide)
  decide

end UnnamedOS.MemoryMap
