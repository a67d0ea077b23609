import UnnamedOS.Data.SpanCuts
import UnnamedOS.MemoryMap.Reservations

namespace UnnamedOS.MemoryMap

open UnnamedOS.Data UnnamedOS.BootProtocol

/-! # The map being drawn

`overlayAt` says what the finished map should hold at an address.  The loops of
`apply_reservations` draw that picture from the lowest address up, one call of
`append_descriptor` after the other; a reserved piece always starts a
descriptor of its own. -/

/-- Kind and attributes of an address: its reservation's kind with no
attributes, else those of its base descriptor. -/
def overlayAt (base : List MemoryDescriptor) (reservations : List Reservation) (address : Nat) :
    Option (Nat × Nat) :=
  (base.find? fun descriptor => descriptor.Contains address).map
    fun descriptor =>
      match reservations.find? fun reservation => reservation.Contains address with
      | some reservation => (reservation.kind, 0)
      | none => (descriptor.kind, descriptor.attributes)

/-- The live prefix is the picture up to `reached`, in descriptors that pass
`validate`. -/
structure Painted (picture : Nat → Option (Nat × Nat)) (reached : Nat)
    (live : List MemoryDescriptor) : Prop where
  paints : Paints MemoryDescriptor.physicalStart MemoryDescriptor.stop
    (fun descriptor => (descriptor.kind, descriptor.attributes)) picture reached live
  valid : ∀ descriptor ∈ live, descriptor.Valid

/-! ## Appending -/

section

variable {picture : Nat → Option (Nat × Nat)} {capacity reached : Nat}
  {live next : List MemoryDescriptor} {descriptor : MemoryDescriptor}

theorem Painted.push (painted : Painted picture reached live) (valid : descriptor.Valid)
    (starts : descriptor.physicalStart = reached)
    (plain : ∀ address, descriptor.Contains address →
      picture address = some (descriptor.kind, descriptor.attributes)) :
    Painted picture descriptor.stop (live ++ [descriptor]) where
  paints := painted.paints.append starts (Nat.le_of_lt valid.start_lt_stop) plain
  valid := forall_mem_append_singleton painted.valid valid

/-- The previous descriptor takes over the pages of one that continues it. -/
theorem Painted.merge {previous : MemoryDescriptor}
    (painted : Painted picture reached (live ++ [previous])) (valid : descriptor.Valid)
    (starts : descriptor.physicalStart = reached) (continues : Continues previous descriptor)
    (plain : ∀ address, descriptor.Contains address →
      picture address = some (descriptor.kind, descriptor.attributes)) :
    Painted picture descriptor.stop
      (live ++ [{ previous with pageCount := previous.pageCount + descriptor.pageCount }]) := by
  have previousValid := painted.valid previous (by simp)
  have longerStop := continues.stop
  obtain ⟨touches, sameKind, sameAttributes⟩ := continues
  rw [← longerStop]
  constructor
  · apply painted.paints.extend ?_ ?_ (Nat.le_of_lt previousValid.start_lt_stop)
      (touches.trans starts)
    · rw [longerStop, ← starts]
      exact Nat.le_of_lt valid.start_lt_stop
    · intro address low high
      rw [longerStop] at high
      simp only [sameKind, sameAttributes]
      exact plain address ⟨by omega, high⟩
    · rfl
    · rfl
  · apply forall_mem_append_singleton
    · intro other member
      exact painted.valid other (List.mem_append_left _ member)
    · exact ⟨previousValid.reserved, Nat.add_pos_left previousValid.nonempty _,
        previousValid.aligned, longerStop ▸ valid.bounded⟩

/-- A descriptor that the overlay cuts between two page boundaries. -/
theorem cut_spec {stop : Nat} (reserved : descriptor.reserved0 = 0)
    (pages : descriptor.pageCount = (stop - descriptor.physicalStart) / memoryPageSize)
    (startAligned : descriptor.physicalStart % memoryPageSize = 0)
    (stopAligned : stop % memoryPageSize = 0) (forward : descriptor.physicalStart < stop)
    (bounded : stop < wordLimit) : descriptor.Valid ∧ descriptor.stop = stop := by
  have reaches : descriptor.stop = stop := by
    simp only [MemoryDescriptor.stop, memoryPageSize] at *
    omega
  have nonempty : 0 < descriptor.pageCount := by
    simp only [memoryPageSize] at *
    omega
  exact ⟨⟨reserved, nonempty, startAligned, reaches ▸ bounded⟩, reaches⟩

end

/-! ## The picture -/

/-- What the loops may assume of the two lists they run over. -/
structure Overlayable (base : List MemoryDescriptor) (reservations : List Reservation) : Prop where
  ordered : InOrder base
  valid : ∀ descriptor ∈ base, descriptor.Valid
  reservationsOrdered : Ordered Reservation.physicalStart Reservation.stop reservations
  wellFormed : ∀ reservation ∈ reservations, reservation.WellFormed

section

variable {base : List MemoryDescriptor} {reservations : List Reservation}
  {descriptor : MemoryDescriptor} {reservation : Reservation} {address : Nat}

theorem overlayAt_outside (outside : ¬ InMap base address) :
    overlayAt base reservations address = none := by
  have absent : base.find? (fun descriptor => descriptor.Contains address) = none := by
    rw [List.find?_eq_none]
    intro descriptor member contained
    exact outside ⟨descriptor, member, of_decide_eq_true contained⟩
  rw [overlayAt, absent, Option.map_none]

theorem Overlayable.overlayAt_reserved (inputs : Overlayable base reservations)
    (member : descriptor ∈ base) (contained : descriptor.Contains address)
    (reserved : reservation ∈ reservations) (covered : reservation.Contains address) :
    overlayAt base reservations address = some (reservation.kind, 0) := by
  rw [overlayAt, inputs.ordered.find?_eq_some member contained, Option.map_some,
    inputs.reservationsOrdered.find?_eq_some reserved covered]

theorem Overlayable.overlayAt_kept (inputs : Overlayable base reservations)
    (member : descriptor ∈ base) (contained : descriptor.Contains address)
    (free : ∀ reservation ∈ reservations, ¬ reservation.Contains address) :
    overlayAt base reservations address = some (descriptor.kind, descriptor.attributes) := by
  have absent : reservations.find? (fun reservation => reservation.Contains address) = none := by
    rw [List.find?_eq_none]
    intro reservation reserved covered
    exact free reservation reserved (of_decide_eq_true covered)
  rw [overlayAt, inputs.ordered.find?_eq_some member contained, Option.map_some, absent]

end

/-! ## One call of `append_descriptor` -/

/-- The two ways a descriptor gets into the output. -/
inductive Appended (live : List MemoryDescriptor) (descriptor : MemoryDescriptor)
    (allowMerge : Bool) : List MemoryDescriptor → Prop where
  | pushed
      (alone : allowMerge = true → ∀ last, live.getLast? = some last →
        ¬ Continues last descriptor) :
      Appended live descriptor allowMerge (live ++ [descriptor])
  | merged {before : List MemoryDescriptor} {previous : MemoryDescriptor}
      (allowed : allowMerge = true) (shape : live = before ++ [previous])
      (continues : Continues previous descriptor) :
      Appended live descriptor allowMerge
        (before ++ [{ previous with pageCount := previous.pageCount + descriptor.pageCount }])

section

variable {capacity : Nat} {live : List MemoryDescriptor} {descriptor : MemoryDescriptor}
  {allowMerge : Bool}

theorem appendDescriptor_ends (lives : ∀ other ∈ live, other.Valid) (valid : descriptor.Valid) :
    Ends (Appended live descriptor allowMerge)
      (fun reason => reason = .outputCapacity ∧ live.length = capacity ∧
        Appended live descriptor allowMerge (live ++ [descriptor]))
      (appendDescriptor capacity live descriptor allowMerge) := by
  have pushes
      (alone : allowMerge = true → ∀ last, live.getLast? = some last →
        ¬ Continues last descriptor) :
      Ends (Appended live descriptor allowMerge)
        (fun reason => reason = .outputCapacity ∧ live.length = capacity ∧
          Appended live descriptor allowMerge (live ++ [descriptor]))
        (if live.length = capacity then .error MapBuildError.outputCapacity
          else .ok (live ++ [descriptor])) :=
    Ends.guard (fun full => ⟨rfl, full, .pushed alone⟩) (fun _ => .returns (.pushed alone))
  have nonempty : descriptor.pageCount ≠ 0 := Nat.ne_of_gt valid.nonempty
  simp only [appendDescriptor, nonempty, ↓reduceIte]
  cases allowMerge with
  | false => exact pushes (by simp)
  | true =>
      simp only [↓reduceIte]
      cases last : live.getLast? with
      | none => exact pushes (by simp [last])
      | some previous =>
          have previousValid := lives previous (List.mem_of_getLast? last)
          have ended : rangeEnd previous.physicalStart previous.pageCount = .ok previous.stop :=
            rangeEnd_eq_ok.mpr ⟨rfl, previousValid.bounded⟩
          refine Ends.step ended ?_
          by_cases continues : Continues previous descriptor
          · have together : checkedAdd previous.pageCount descriptor.pageCount =
                some (previous.pageCount + descriptor.pageCount) := by
              have touches := continues.1
              have bounded := valid.bounded
              refine checkedAdd_eq_some.mpr ⟨?_, rfl⟩
              simp only [MemoryDescriptor.stop, memoryPageSize] at touches bounded
              omega
            obtain ⟨before, shape⟩ := List.getLast?_eq_some_iff.mp last
            simp only [Continues] at continues
            rw [if_pos continues, together, okOr_some, ok_bind, shape, List.dropLast_concat,
              ← shape]
            exact .returns (.merged rfl shape continues)
          · have alone : ∀ last, live.getLast? = some last → ¬ Continues last descriptor := by
              intro other isLast
              rw [last, Option.some.injEq] at isLast
              exact isLast ▸ continues
            simp only [Continues] at continues
            rw [if_neg continues]
            exact pushes fun _ => alone

end

/-! ## The drawing -/

/-- A reserved stretch of a base descriptor begins at the address. -/
def Begins (base : List MemoryDescriptor) (reservations : List Reservation) (address : Nat) : Prop :=
  ∃ descriptor ∈ base, ∃ reservation ∈ reservations,
    descriptor.Contains address ∧ reservation.Contains address ∧
      (descriptor.physicalStart = address ∨ reservation.physicalStart = address)

/-- The live prefix is painted up to `reached` and cut where reserved
stretches begin. -/
structure Drawn (base : List MemoryDescriptor) (reservations : List Reservation) (reached : Nat)
    (live : List MemoryDescriptor) : Prop where
  painted : Painted (overlayAt base reservations) reached live
  cut : Cut MemoryDescriptor.physicalStart MemoryDescriptor.stop
    (fun descriptor => (descriptor.kind, descriptor.attributes)) (Begins base reservations)
    reached live

/-- Where a descriptor of the drawing can start. -/
def endpoints (base : List MemoryDescriptor) (reservations : List Reservation) : List Nat :=
  base.map MemoryDescriptor.physicalStart ++ reservations.map Reservation.physicalStart ++
    reservations.map Reservation.stop

/-- The only error of the loops: there is no room for a descriptor at every
endpoint. -/
def Cramped (base : List MemoryDescriptor) (reservations : List Reservation) (capacity : Nat)
    (reason : MapBuildError) : Prop :=
  reason = .outputCapacity ∧ capacity < base.length + 2 * reservations.length

section

variable {base : List MemoryDescriptor} {reservations : List Reservation}
  {live next : List MemoryDescriptor} {descriptor piece : MemoryDescriptor}
  {allowMerge : Bool} {address reached capacity : Nat}

theorem mem_endpoints : address ∈ endpoints base reservations ↔
    (∃ descriptor ∈ base, descriptor.physicalStart = address) ∨
      (∃ reservation ∈ reservations, reservation.physicalStart = address) ∨
        ∃ reservation ∈ reservations, reservation.stop = address := by
  simp [endpoints]

theorem Begins.mem_endpoints (begins : Begins base reservations address) :
    address ∈ endpoints base reservations := by
  obtain ⟨descriptor, member, reservation, reserved, _, _, starts⟩ := begins
  rw [MemoryMap.mem_endpoints]
  cases starts with
  | inl starts => exact .inl ⟨descriptor, member, starts⟩
  | inr starts => exact .inr (.inl ⟨reservation, reserved, starts⟩)

/-- Between two endpoints the picture does not change. -/
theorem Overlayable.overlayAt_before (inputs : Overlayable base reservations) {color : Nat × Nat}
    (here : overlayAt base reservations address = some color)
    (inside : address ∉ endpoints base reservations) :
    ∃ point, address = point + 1 ∧ overlayAt base reservations point = some color := by
  rw [MemoryMap.mem_endpoints] at inside
  have covered : InMap base address := by
    by_contra outside
    rw [overlayAt_outside outside] at here
    contradiction
  obtain ⟨descriptor, member, low, high⟩ := covered
  have notFirst : descriptor.physicalStart ≠ address := fun starts =>
    inside (.inl ⟨descriptor, member, starts⟩)
  have contained : descriptor.Contains (address - 1) := ⟨by omega, by omega⟩
  refine ⟨address - 1, by omega, ?_⟩
  rw [← here]
  by_cases reserved : ∃ reservation ∈ reservations, reservation.Contains address
  · obtain ⟨reservation, reserved, covers⟩ := reserved
    have notReservedFirst : reservation.physicalStart ≠ address := fun starts =>
      inside (.inr (.inl ⟨reservation, reserved, starts⟩))
    have coversBefore : reservation.Contains (address - 1) := by
      obtain ⟨reservedLow, reservedHigh⟩ := covers
      exact ⟨by omega, by omega⟩
    rw [inputs.overlayAt_reserved member contained reserved coversBefore,
      inputs.overlayAt_reserved member ⟨low, high⟩ reserved covers]
  · have free : ∀ reservation ∈ reservations, ¬ reservation.Contains address :=
      fun reservation member covers => reserved ⟨reservation, member, covers⟩
    have freeBefore : ∀ reservation ∈ reservations, ¬ reservation.Contains (address - 1) := by
      intro reservation member covers
      have notStop : reservation.stop ≠ address := fun stops =>
        inside (.inr (.inr ⟨reservation, member, stops⟩))
      obtain ⟨reservedLow, reservedHigh⟩ := covers
      exact free reservation member ⟨by omega, by omega⟩
    rw [inputs.overlayAt_kept member contained freeBefore,
      inputs.overlayAt_kept member ⟨low, high⟩ free]

/-- Inside a reserved stretch only its first byte is a beginning. -/
theorem Overlayable.begins_iff (inputs : Overlayable base reservations) {reservation : Reservation}
    (member : descriptor ∈ base) (contained : descriptor.Contains address)
    (reserved : reservation ∈ reservations) (covers : reservation.Contains address) :
    Begins base reservations address ↔
      descriptor.physicalStart = address ∨ reservation.physicalStart = address := by
  constructor
  · intro begins
    obtain ⟨other, otherMember, claim, claimed, otherContains, claimCovers, starts⟩ := begins
    rw [inputs.ordered.unique member contained otherMember otherContains,
      inputs.reservationsOrdered.unique reserved covers claimed claimCovers]
    exact starts
  · intro starts
    exact ⟨descriptor, member, reservation, reserved, contained, covers, starts⟩

theorem not_begins_of_free (free : ∀ reservation ∈ reservations, ¬ reservation.Contains address) :
    ¬ Begins base reservations address := by
  intro begins
  obtain ⟨_, _, reservation, reserved, _, covers, _⟩ := begins
  exact free reservation reserved covers

theorem Drawn.empty : Drawn base reservations 0 [] := ⟨⟨.empty, by simp⟩, .empty⟩

theorem Drawn.proper (drawn : Drawn base reservations reached live) :
    ∀ descriptor ∈ live, descriptor.physicalStart < descriptor.stop :=
  fun descriptor member => (drawn.painted.valid descriptor member).start_lt_stop

/-- Nothing is drawn over addresses outside the base map. -/
theorem Drawn.skip {further : Nat} (drawn : Drawn base reservations reached live)
    (forward : reached ≤ further)
    (outside : ∀ address, reached ≤ address → address < further → ¬ InMap base address) :
    Drawn base reservations further live where
  painted := ⟨drawn.painted.paints.skip forward fun address past short =>
    overlayAt_outside (outside address past short), drawn.painted.valid⟩
  cut := by
    refine drawn.cut.skip ?_
    intro address past short begins
    obtain ⟨descriptor, member, _, _, contained, _⟩ := begins
    exact outside address past short ⟨descriptor, member, contained⟩

/-- A piece drawn in its colour, with a mark on its first byte exactly if it
may not be merged. -/
theorem Drawn.appended (drawn : Drawn base reservations reached live) (valid : piece.Valid)
    (starts : piece.physicalStart = reached)
    (plain : ∀ address, piece.Contains address →
      overlayAt base reservations address = some (piece.kind, piece.attributes))
    (marks : ∀ address, piece.Contains address →
      (Begins base reservations address ↔ allowMerge = false ∧ piece.physicalStart = address))
    (appended : Appended live piece allowMerge next) :
    Drawn base reservations piece.stop next := by
  have forward := valid.start_lt_stop
  cases appended with
  | pushed alone =>
      refine ⟨drawn.painted.push valid starts plain,
        drawn.cut.append drawn.painted.paints drawn.proper forward starts ?_ ?_⟩
      · intro address past before begins
        have first := ((marks address ⟨by omega, before⟩).mp begins).2
        omega
      · intro last isLast touches same
        refine (marks _ ⟨Nat.le_refl _, forward⟩).mpr ⟨?_, rfl⟩
        rw [Prod.mk.injEq] at same
        by_contra merges
        exact alone (by simpa using merges) last isLast ⟨touches, same⟩
  | merged allowed shape continues =>
      subst shape
      refine ⟨drawn.painted.merge valid starts continues plain, ?_⟩
      have longerStop := continues.stop
      rw [← longerStop]
      refine drawn.cut.extend drawn.painted.paints drawn.proper rfl rfl (by omega) ?_
      intro address past before begins
      have unmergeable := ((marks address ⟨by omega, by omega⟩).mp begins).1
      rw [allowed] at unmergeable
      contradiction

/-- Every descriptor of the drawing starts at an endpoint of its own. -/
theorem Drawn.length_le (drawn : Drawn base reservations reached live)
    (inputs : Overlayable base reservations) :
    live.length ≤ base.length + 2 * reservations.length := by
  have starts : ∀ descriptor ∈ live,
      descriptor.physicalStart ∈ endpoints base reservations := by
    intro descriptor member
    have forward := drawn.proper descriptor member
    have within := drawn.painted.paints.within descriptor member
    have here : overlayAt base reservations descriptor.physicalStart =
        some (descriptor.kind, descriptor.attributes) :=
      (drawn.painted.paints.agrees _ (by omega) _).mp
        ⟨descriptor, member, ⟨Nat.le_refl _, forward⟩, rfl⟩
    by_contra inside
    obtain ⟨point, after, continues⟩ := inputs.overlayAt_before here inside
    have begins := drawn.cut.marked_of_continues drawn.painted.paints drawn.proper member after
      continues
    exact inside begins.mem_endpoints
  have bound := drawn.painted.paints.ordered.length_le drawn.proper starts
  simp only [endpoints, List.length_append, List.length_map] at bound
  omega

theorem Drawn.appendDescriptor {stop : Nat} (drawn : Drawn base reservations reached live)
    (inputs : Overlayable base reservations) (valid : piece.Valid)
    (starts : piece.physicalStart = reached) (stops : piece.stop = stop)
    (plain : ∀ address, piece.Contains address →
      overlayAt base reservations address = some (piece.kind, piece.attributes))
    (marks : ∀ address, piece.Contains address →
      (Begins base reservations address ↔ allowMerge = false ∧ piece.physicalStart = address)) :
    Ends (Drawn base reservations stop) (Cramped base reservations capacity)
      (MemoryMap.appendDescriptor capacity live piece allowMerge) := by
  subst stops
  refine (appendDescriptor_ends drawn.painted.valid valid).imp ?_ ?_
  · intro next _ appended
    exact drawn.appended valid starts plain marks appended
  · intro reason stopped
    obtain ⟨rfl, full, appended⟩ := stopped
    -- The list that did not fit would have been drawn as well.
    have fits := (drawn.appended valid starts plain marks appended).length_le inputs
    rw [List.length_append, List.length_singleton] at fits
    exact ⟨rfl, by omega⟩

/-- The unreserved stretch from `reached` to `stop` is drawn with its base
descriptor's kind. -/
theorem Drawn.appendFragment {stop : Nat} (drawn : Drawn base reservations reached live)
    (inputs : Overlayable base reservations) (member : descriptor ∈ base)
    (aligned : reached % memoryPageSize = 0) (stopAligned : stop % memoryPageSize = 0)
    (forward : reached ≤ stop) (within : stop ≤ descriptor.stop)
    (free : ∀ address, reached ≤ address → address < stop → descriptor.Contains address ∧
      ∀ reservation ∈ reservations, ¬ reservation.Contains address) :
    Ends (Drawn base reservations stop) (Cramped base reservations capacity)
      (MemoryMap.appendFragment capacity live descriptor reached stop) := by
  unfold MemoryMap.appendFragment
  by_cases proper : reached < stop
  · have bounded := (inputs.valid descriptor member).bounded
    obtain ⟨valid, reaches⟩ : (fragment descriptor reached stop).Valid ∧
        (fragment descriptor reached stop).stop = stop :=
      cut_spec rfl rfl aligned stopAligned proper (by omega)
    have unreserved : ∀ address, (fragment descriptor reached stop).Contains address →
        descriptor.Contains address ∧
          ∀ reservation ∈ reservations, ¬ reservation.Contains address := by
      intro address contained
      obtain ⟨low, high⟩ := contained
      exact free address low (by omega)
    rw [if_pos proper]
    apply drawn.appendDescriptor inputs valid rfl reaches
    · intro address contained
      obtain ⟨inside, clear⟩ := unreserved address contained
      have color := inputs.overlayAt_kept member inside clear
      exact color
    · intro address contained
      simp [not_begins_of_free (unreserved address contained).2]
  · obtain rfl : reached = stop := by omega
    rw [if_neg proper]
    exact .returns drawn

/-- The stretch from `reached` to `stop` that a reservation takes of a base
descriptor is drawn with the reservation's kind. -/
theorem Drawn.appendReserved {reservation : Reservation} {stop : Nat}
    (drawn : Drawn base reservations reached live) (inputs : Overlayable base reservations)
    (member : descriptor ∈ base) (reserved : reservation ∈ reservations)
    (aligned : reached % memoryPageSize = 0) (stopAligned : stop % memoryPageSize = 0)
    (starts : max descriptor.physicalStart reservation.physicalStart = reached)
    (stops : min descriptor.stop reservation.stop = stop) (meets : reached < stop) :
    Ends (Drawn base reservations stop) (Cramped base reservations capacity)
      (MemoryMap.appendDescriptor capacity live (reservedFragment reservation reached stop)
        false) := by
  have bounded := (inputs.valid descriptor member).bounded
  obtain ⟨valid, reaches⟩ : (reservedFragment reservation reached stop).Valid ∧
      (reservedFragment reservation reached stop).stop = stop :=
    cut_spec rfl rfl aligned stopAligned meets (by omega)
  have shared : ∀ address, (reservedFragment reservation reached stop).Contains address →
      descriptor.Contains address ∧ reservation.Contains address := by
    intro address contained
    obtain ⟨low, high⟩ := contained
    have past : reached ≤ address := low
    exact ⟨⟨by omega, by omega⟩, by omega, by omega⟩
  apply drawn.appendDescriptor inputs valid rfl reaches
  · intro address contained
    obtain ⟨inside, covers⟩ := shared address contained
    exact inputs.overlayAt_reserved member inside reserved covers
  · intro address contained
    obtain ⟨inside, covers⟩ := shared address contained
    have past : reached ≤ address := contained.1
    rw [inputs.begins_iff member inside reserved covers]
    simp only [reservedFragment, true_and]
    omega

end

end UnnamedOS.MemoryMap
