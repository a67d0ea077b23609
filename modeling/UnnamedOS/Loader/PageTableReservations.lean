import UnnamedOS.BootProtocol.PageTableFrames
import UnnamedOS.Loader.PageTables
import UnnamedOS.MemoryMap.Overlay

namespace UnnamedOS.Loader

open UnnamedOS.Data UnnamedOS.BootProtocol UnnamedOS.MemoryMap UnnamedOS.PageTable

/-! # Reserving the page tables' frames

The frames are sorted and pushed as runs of adjacent pages; after the overlay
an independent check looks every frame up in the final map. -/

inductive PageTableReservationError where
  | map (reason : MapBuildError)
  | incompleteCoverage (frameSlot : Nat)
  | usableFrame (frameSlot : Nat)
  | wrongKind (frameSlot : Nat)
  | rangeOverflow
deriving DecidableEq, Repr

structure PageTableReservationProof where
  frameCount : Nat
  rootFrame : Nat
  fingerprint : Nat
deriving DecidableEq, Repr

/-- `to_le_bytes` of a `u64`. -/
def toLeBytes (value : Nat) : List Nat :=
  (List.range 8).map fun position => value / 256 ^ position % 256

/-- `frame_fingerprint`: the hash of the frames' addresses, byte by byte. -/
def frameFingerprint (frames : List PhysicalFrame) : Nat :=
  frames.foldl (fun hash frame =>
    (toLeBytes frame.address).foldl (fun hash byte =>
      (hash ^^^ byte) * 0x0000_0100_0000_01b3 % wordLimit) hash) 0xcbf2_9ce4_8422_2325

/-- A run of page-table frames as a reservation. -/
def pageTableReservation (start pages : Nat) : Reservation :=
  ⟨start, pages, memoryKindPageTable, .pageTable⟩

/-- The run under construction: the list so far, and the run's start and
length. -/
structure FrameRun where
  reservations : ReservationList
  start : Nat
  pages : Nat

/-- One iteration of the loop over the sorted frames.  An error keeps what has
been pushed. -/
def FrameRun.step (run : FrameRun) (frame : PhysicalFrame) :
    Except (PageTableReservationError × ReservationList) FrameRun := do
  let length ← okOr (checkedMul run.pages memoryPageSize) (.rangeOverflow, run.reservations)
  let expected ← okOr (checkedAdd run.start length) (.rangeOverflow, run.reservations)
  if frame.address = expected then do
    let pages ← okOr (checkedAdd run.pages 1) (.rangeOverflow, run.reservations)
    .ok { run with pages }
  else
    match run.reservations.push (pageTableReservation run.start run.pages) with
    | (.error reason, reservations) => .error (.map reason, reservations)
    | (.ok _, reservations) => .ok ⟨reservations, frame.address, 1⟩

/-- `append_page_table_reservations`; only an empty slice sorts to an empty one. -/
def appendPageTableReservations (frames : List PhysicalFrame) (reservations : ReservationList) :
    Except PageTableReservationError Unit × ReservationList :=
  if frames.length > pageTableFrameCapacity then
    (.error (.incompleteCoverage frameSlotRoot), reservations)
  else
    match insertionSort PhysicalFrame.address frames with
    | [] => (.error (.incompleteCoverage frameSlotRoot), reservations)
    | first :: rest =>
        match rest.foldlM FrameRun.step ⟨reservations, first.address, 1⟩ with
        | .error (reason, reservations) => (.error reason, reservations)
        | .ok run =>
            match run.reservations.push (pageTableReservation run.start run.pages) with
            | (.error reason, reservations) => (.error (.map reason), reservations)
            | (.ok _, reservations) => (.ok (), reservations)

/-- The inner loop of `verify_page_table_reservations`: the kind of the first
descriptor around the frame. -/
def coveringKind (frame : PhysicalFrame) :
    List MemoryDescriptor → Except PageTableReservationError (Option Nat)
  | [] => .ok none
  | descriptor :: rest => do
      let length ← okOr (checkedMul descriptor.pageCount memoryPageSize) .rangeOverflow
      let stop ← okOr (checkedAdd descriptor.physicalStart length) .rangeOverflow
      if descriptor.physicalStart ≤ frame.address ∧ frame.address < stop then
        .ok (some descriptor.kind)
      else coveringKind frame rest

def checkReservedFrame (descriptors : List MemoryDescriptor) (indexed : PhysicalFrame × Nat) :
    Except PageTableReservationError Unit := do
  let slot ← okOr (frameSlotFromIndex indexed.2) (.incompleteCoverage frameSlotRoot)
  let covering ← coveringKind indexed.1 descriptors
  let kind ← okOr covering (.incompleteCoverage slot)
  if kind = memoryKindUsable then .error (.usableFrame slot)
  else if kind ≠ memoryKindPageTable then .error (.wrongKind slot)
  else .ok ()

def verifyPageTableReservations (frames : List PhysicalFrame)
    (descriptors : List MemoryDescriptor) :
    Except PageTableReservationError PageTableReservationProof :=
  match frames with
  | [] => .error (.incompleteCoverage frameSlotRoot)
  | root :: _ => do
      checkAll (checkReservedFrame descriptors) frames.zipIdx
      .ok {
        frameCount := frames.length
        rootFrame := root.address
        fingerprint := frameFingerprint frames }

/-! ## The runs are the frames -/

/-- The first addresses of a reservation's pages. -/
def pagesOf (reservation : Reservation) : List Nat :=
  (List.range reservation.pageCount).map fun page =>
    reservation.physicalStart + page * memoryPageSize

theorem pagesOf_single (start : Nat) : pagesOf (pageTableReservation start 1) = [start] := by
  simp [pagesOf, pageTableReservation]

theorem pagesOf_succ (start pages : Nat) :
    pagesOf (pageTableReservation start (pages + 1)) =
      pagesOf (pageTableReservation start pages) ++ [start + pages * memoryPageSize] := by
  simp [pagesOf, pageTableReservation, List.range_succ]

theorem contains_iff_pagesOf {reservation : Reservation} {address : Nat} :
    reservation.Contains address ↔
      ∃ page ∈ pagesOf reservation, page ≤ address ∧ address < page + memoryPageSize := by
  simp only [pagesOf, List.mem_map, List.mem_range, Covers, Reservation.stop, memoryPageSize]
  constructor
  · intro contains
    refine ⟨_, ⟨(address - reservation.physicalStart) / 4096, by omega, rfl⟩, by omega, by omega⟩
  · intro paged
    obtain ⟨_, ⟨page, below, rfl⟩, lower, upper⟩ := paged
    omega

theorem push_items {reservations after : ReservationList} {reservation : Reservation}
    (pushed : reservations.push reservation = (.ok (), after)) :
    after.items = reservations.items ++ [reservation] := by
  unfold ReservationList.push at pushed
  split at pushed
  · simp at pushed
  · split at pushed
    · simp at pushed
    · simp only [Prod.mk.injEq, true_and] at pushed
      rw [← pushed]

/-- The loop between two frames: what it has pushed, with the open run, has
the pages of the frames it has consumed. -/
def Coalesced (before : ReservationList) (frames : List PhysicalFrame) (run : FrameRun) : Prop :=
  ∃ runs, run.reservations.items = before.items ++ runs ∧
    (∀ reservation ∈ runs, reservation.kind = memoryKindPageTable ∧
      reservation.source = .pageTable) ∧
    (runs ++ [pageTableReservation run.start run.pages]).flatMap pagesOf =
      frames.map PhysicalFrame.address

theorem Coalesced.step {before : ReservationList} {frames : List PhysicalFrame}
    {run next : FrameRun} {frame : PhysicalFrame} (coalesced : Coalesced before frames run)
    (stepped : run.step frame = .ok next) : Coalesced before (frames ++ [frame]) next := by
  obtain ⟨runs, items, kinds, pages⟩ := coalesced
  simp only [FrameRun.step, bind_eq_ok, okOr_eq_ok, checkedMul_eq_some, checkedAdd_eq_some]
    at stepped
  obtain ⟨_, ⟨_, rfl⟩, _, ⟨_, rfl⟩, stepped⟩ := stepped
  split at stepped
  · rename_i adjacent
    simp only [bind_eq_ok, okOr_eq_ok, checkedAdd_eq_some, Except.ok.injEq] at stepped
    obtain ⟨_, ⟨_, rfl⟩, rfl⟩ := stepped
    refine ⟨runs, items, kinds, ?_⟩
    simp only [List.flatMap_append, List.flatMap_singleton, pagesOf_succ] at pages ⊢
    rw [← List.append_assoc, pages, List.map_append, List.map_singleton, adjacent]
  · split at stepped
    · contradiction
    · rename_i reservations pushed
      cases stepped
      refine ⟨runs ++ [pageTableReservation run.start run.pages], ?_, ?_, ?_⟩
      · rw [push_items pushed, items, List.append_assoc]
      · exact forall_mem_append_singleton kinds ⟨rfl, rfl⟩
      · rw [List.flatMap_append, pages, List.flatMap_singleton, pagesOf_single, List.map_append,
          List.map_singleton]

/-- What a successful call has appended: page-table runs whose pages are the
frames, in the order of their addresses. -/
theorem appendPageTableReservations_eq_ok {frames : List PhysicalFrame}
    {reservations appended : ReservationList}
    (ran : appendPageTableReservations frames reservations = (.ok (), appended)) :
    frames ≠ [] ∧ frames.length ≤ pageTableFrameCapacity ∧
    ∃ runs, appended.items = reservations.items ++ runs ∧
      (∀ reservation ∈ runs, reservation.kind = memoryKindPageTable ∧
        reservation.source = .pageTable) ∧
      (runs.flatMap pagesOf).Perm (frames.map PhysicalFrame.address) := by
  unfold appendPageTableReservations at ran
  split at ran
  · simp at ran
  rename_i bounded
  have sameFrames := insertionSort_perm PhysicalFrame.address frames
  split at ran
  · simp at ran
  rename_i first rest sorted
  rw [sorted] at sameFrames
  split at ran
  · simp at ran
  rename_i run looped
  split at ran
  · simp at ran
  rename_i final pushed
  simp only [Prod.mk.injEq, true_and] at ran
  subst ran
  have coalesced : Coalesced reservations ([first] ++ rest) run := by
    refine foldlM_invariant (fun consumed run => Coalesced reservations ([first] ++ consumed) run)
      ⟨[], by simp, by simp, by simp [pagesOf_single]⟩ ?_ looped
    intro before frame after current next _ holds stepped
    rw [← List.append_assoc]
    exact holds.step stepped
  obtain ⟨runs, items, kinds, pages⟩ := coalesced
  refine ⟨?_, by omega, runs ++ [pageTableReservation run.start run.pages], ?_, ?_, ?_⟩
  · intro empty
    rw [empty] at sameFrames
    simpa using sameFrames.length_eq
  · rw [push_items pushed, items, List.append_assoc]
  · exact forall_mem_append_singleton kinds ⟨rfl, rfl⟩
  · rw [pages]
    exact sameFrames.map _

/-- The check's search is a first match once every end fits a word. -/
theorem coveringKind_eq {frame : PhysicalFrame} {descriptors : List MemoryDescriptor}
    (valid : ∀ descriptor ∈ descriptors, descriptor.Valid) :
    coveringKind frame descriptors =
      .ok ((descriptors.find? fun descriptor => descriptor.Contains frame.address).map
        MemoryDescriptor.kind) := by
  induction descriptors with
  | nil => rfl
  | cons descriptor rest ih =>
      have bounded := (valid descriptor (by simp)).bounded
      simp only [MemoryDescriptor.stop] at bounded
      have length : checkedMul descriptor.pageCount memoryPageSize =
          some (descriptor.pageCount * memoryPageSize) :=
        checkedMul_eq_some.mpr ⟨by omega, rfl⟩
      have stop : checkedAdd descriptor.physicalStart (descriptor.pageCount * memoryPageSize) =
          some descriptor.stop := checkedAdd_eq_some.mpr ⟨bounded, rfl⟩
      simp only [coveringKind, length, stop, okOr_some, ok_bind]
      by_cases here : descriptor.Contains frame.address
      · rw [List.find?_cons_of_pos (by simpa using here)]
        exact if_pos here
      · rw [List.find?_cons_of_neg (by simpa using here),
          ← ih fun other member => valid other (List.mem_cons_of_mem _ member)]
        exact if_neg here

/-- A frame is accepted when the first descriptor around it is page-table
memory. -/
theorem checkReservedFrame_iff {descriptors : List MemoryDescriptor} {frame : PhysicalFrame}
    {position : Nat} (slot : position < 2 ^ 32)
    (valid : ∀ descriptor ∈ descriptors, descriptor.Valid) :
    checkReservedFrame descriptors (frame, position) = .ok () ↔
      ∃ found, descriptors.find? (fun descriptor => descriptor.Contains frame.address) =
        some found ∧ found.kind = memoryKindPageTable := by
  simp only [checkReservedFrame, frameSlotFromIndex, if_pos slot, coveringKind_eq valid, okOr_some,
    ok_bind]
  cases descriptors.find? fun descriptor => descriptor.Contains frame.address with
  | none => simp
  | some found =>
      simp only [Option.map_some, okOr_some, ok_bind, guard_eq_ok, ne_eq, not_not, and_true,
        Option.some.injEq, exists_eq_left']
      constructor
      · intro kinds
        exact kinds.2
      · intro kind
        exact ⟨by rw [kind]; decide, kind⟩

theorem verifyPageTableReservations_iff {descriptors : List MemoryDescriptor}
    {frames : List PhysicalFrame} (nonempty : frames ≠ []) (slots : frames.length ≤ 2 ^ 32)
    (valid : ∀ descriptor ∈ descriptors, descriptor.Valid) :
    (∃ proof, verifyPageTableReservations frames descriptors = .ok proof) ↔
      ∀ frame ∈ frames, ∃ found, descriptors.find?
        (fun descriptor => descriptor.Contains frame.address) = some found ∧
          found.kind = memoryKindPageTable := by
  have checked : checkAll (checkReservedFrame descriptors) frames.zipIdx = .ok () ↔
      ∀ frame ∈ frames, ∃ found, descriptors.find?
        (fun descriptor => descriptor.Contains frame.address) = some found ∧
          found.kind = memoryKindPageTable := by
    rw [checkAll_eq_ok]
    constructor
    · intro passes frame member
      obtain ⟨position, bound, same⟩ := List.mem_iff_getElem.mp member
      have indexed : (frame, position) ∈ frames.zipIdx := by
        rw [List.mk_mem_zipIdx_iff_getElem?, List.getElem?_eq_getElem bound, same]
      exact (checkReservedFrame_iff (by omega) valid).mp (passes _ indexed)
    · intro kinds indexed member
      obtain ⟨_, position, same⟩ := List.mem_zipIdx member
      have inFrames : indexed.1 ∈ frames := by
        rw [same]
        exact List.getElem_mem _
      exact (checkReservedFrame_iff (by omega) valid).mpr (kinds _ inFrames)
  rw [← checked]
  cases frames with
  | nil => contradiction
  | cons root rest =>
      simp only [verifyPageTableReservations, bind_eq_ok, Except.ok.injEq]
      exact ⟨fun accepted => accepted.choose_spec.choose_spec.1, fun passes => ⟨_, (), passes, rfl⟩⟩

/-! ## From the frames to the map -/

/-- Some descriptor makes the address page-table memory. -/
def IsPageTable (map : List MemoryDescriptor) (address : Nat) : Prop :=
  ∃ descriptor ∈ map, descriptor.Contains address ∧ descriptor.kind = memoryKindPageTable

/-- Reservations that `finish` found disjoint have no page in common. -/
theorem flatMap_pagesOf_nodup {runs : List Reservation}
    (apart : runs.Pairwise (Apart Reservation.physicalStart Reservation.stop)) :
    (runs.flatMap pagesOf).Nodup := by
  refine List.nodup_flatMap.mpr ⟨?_, ?_⟩
  · intro reservation _
    refine List.Nodup.map ?_ List.nodup_range
    intro left right same
    simp only [memoryPageSize] at same
    omega
  · refine List.Pairwise.imp ?_ apart
    intro left right disjoint page inLeft inRight
    have low : left.Contains page :=
      contains_iff_pagesOf.mpr ⟨page, inLeft, Nat.le_refl _, by simp⟩
    have high : right.Contains page :=
      contains_iff_pagesOf.mpr ⟨page, inRight, Nat.le_refl _, by simp⟩
    simp only [Covers] at low high
    cases disjoint with
    | inl before => omega
    | inr after => omega

/-- The runs contain what lies in the frames. -/
theorem runs_contain_iff {runs : List Reservation} {frames : List PhysicalFrame}
    (pages : (runs.flatMap pagesOf).Perm (frames.map PhysicalFrame.address)) {address : Nat} :
    (∃ reservation ∈ runs, reservation.Contains address) ↔
      ∃ frame ∈ frames, frame.address ≤ address ∧ address < frame.address + memoryPageSize := by
  simp only [contains_iff_pagesOf]
  constructor
  · intro contained
    obtain ⟨reservation, member, page, inPages, around⟩ := contained
    have listed := pages.mem_iff.mp (List.mem_flatMap.mpr ⟨reservation, member, inPages⟩)
    obtain ⟨frame, inFrames, rfl⟩ := List.mem_map.mp listed
    exact ⟨frame, inFrames, around⟩
  · intro framed
    obtain ⟨frame, inFrames, around⟩ := framed
    obtain ⟨reservation, member, inPages⟩ :=
      List.mem_flatMap.mp (pages.mem_iff.mpr (List.mem_map_of_mem inFrames))
    exact ⟨reservation, member, frame.address, inPages, around⟩

/-- What a page-table run reserves is page-table memory in the finished map. -/
theorem isPageTable_of_run {base map : List MemoryDescriptor} {listed : List Reservation}
    {run : Reservation} {address : Nat} (overlay : OverlayOf base listed map)
    (member : run ∈ listed) (kind : run.kind = memoryKindPageTable)
    (source : run.source = .pageTable) (contains : run.Contains address) :
    IsPageTable map address := by
  obtain ⟨descriptor, inMap, contained⟩ :=
    overlay.complete run member (by simp [source]) address contains
  refine ⟨descriptor, inMap, contained, ?_⟩
  rw [(overlay.reserved descriptor inMap run member address contained contains).1, kind]

/-- Without page-table memory in the base map it comes from a reservation. -/
theorem reserved_of_isPageTable {base map : List MemoryDescriptor} {listed : List Reservation}
    {address : Nat} (overlay : OverlayOf base listed map)
    (baseKinds : ∀ descriptor ∈ base, descriptor.kind ≠ memoryKindPageTable)
    (isPageTable : IsPageTable map address) :
    ∃ reservation ∈ listed, reservation.kind = memoryKindPageTable ∧
      reservation.Contains address := by
  obtain ⟨descriptor, inMap, contained, kind⟩ := isPageTable
  by_cases covered : ∃ reservation ∈ listed, reservation.Contains address
  · obtain ⟨reservation, member, contains⟩ := covered
    have reserved := overlay.reserved descriptor inMap reservation member address contained contains
    exact ⟨reservation, member, reserved.1.symm.trans kind, contains⟩
  · obtain ⟨source, inBase, contains⟩ :=
      (overlay.sameCover address).mp ⟨descriptor, inMap, contained⟩
    have kept := overlay.kept descriptor inMap source inBase address contained contains
      fun reservation member covers => covered ⟨reservation, member, covers⟩
    exact absurd (kept.1.symm.trans kind) (baseKinds source inBase)

/-- Once the frames' reservations are laid over the base map, the frames are
distinct, the check accepts the map, and without other page-table memory the
page tables in the map are those frames. -/
theorem appendPageTableReservations_reserves {frames : List PhysicalFrame}
    {reservations appended finished : ReservationList} {base output : List MemoryDescriptor}
    {capacity len : Nat}
    (ran : appendPageTableReservations frames reservations = (.ok (), appended))
    (done : appended.finish = (.ok (), finished))
    (applied : applyReservations base finished capacity = .ok (len, output)) :
    frames.Nodup ∧
    (∃ proof, verifyPageTableReservations frames (output.take len) = .ok proof) ∧
    ((∀ descriptor ∈ base, descriptor.kind ≠ memoryKindPageTable) →
      (∀ reservation ∈ reservations.items, reservation.kind ≠ memoryKindPageTable) →
      ∀ address, IsPageTable (output.take len) address ↔
        ∃ frame ∈ frames, frame.address ≤ address ∧ address < frame.address + memoryPageSize) := by
  obtain ⟨nonempty, bounded, runs, items, kinds, pages⟩ := appendPageTableReservations_eq_ok ran
  have overlay := applyReservations_overlayOf done applied
  have listed : finished.items.Perm (reservations.items ++ runs) := by
    rw [← items]
    exact ReservationList.finish_perm done
  have runListed : ∀ run ∈ runs, run ∈ finished.items := fun run member =>
    listed.mem_iff.mpr (List.mem_append_right _ member)
  have apart : runs.Pairwise (Apart Reservation.physicalStart Reservation.stop) :=
    (List.pairwise_append.mp ((listed.pairwise_iff Apart.symm).mp
      (ReservationList.finish_ordered done).apart)).2.1
  have framePage : ∀ frame ∈ frames, ∃ run ∈ runs, run.Contains frame.address := fun frame member =>
    (runs_contain_iff pages).mpr ⟨frame, member, Nat.le_refl _, by simp⟩
  refine ⟨?_, ?_, ?_⟩
  · exact List.Nodup.of_map _ (pages.nodup_iff.mp (flatMap_pagesOf_nodup apart))
  · have valid : ∀ descriptor ∈ output.take len, descriptor.Valid := fun descriptor member =>
      MemoryDescriptor.validate_iff.mp (overlay.valid descriptor member)
    refine (verifyPageTableReservations_iff nonempty (Nat.le_trans bounded (by decide)) valid).mpr ?_
    intro frame member
    obtain ⟨run, inRuns, contains⟩ := framePage frame member
    obtain ⟨kind, source⟩ := kinds run inRuns
    obtain ⟨descriptor, inMap, contained, isTable⟩ :=
      isPageTable_of_run overlay (runListed run inRuns) kind source contains
    exact ⟨descriptor, overlay.ordered.find?_eq_some inMap contained, isTable⟩
  · intro baseKinds otherKinds address
    rw [← runs_contain_iff pages]
    constructor
    · intro isPageTable
      obtain ⟨reservation, member, kind, contains⟩ :=
        reserved_of_isPageTable overlay baseKinds isPageTable
      rcases List.mem_append.mp (listed.mem_iff.mp member) with old | new
      · exact absurd kind (otherKinds reservation old)
      · exact ⟨reservation, new, contains⟩
    · intro covered
      obtain ⟨run, inRuns, contains⟩ := covered
      obtain ⟨kind, source⟩ := kinds run inRuns
      exact isPageTable_of_run overlay (runListed run inRuns) kind source contains

/-- Two adjacent frames and one apart, given out of order. -/
def sampleFrames : List PhysicalFrame :=
  [⟨0x4000, by decide, by decide, by decide⟩, ⟨0x9000, by decide, by decide, by decide⟩,
    ⟨0x3000, by decide, by decide, by decide⟩]

def sampleFrameBase : List MemoryDescriptor :=
  [⟨memoryKindUsable, 0, 0x1000, 3, 7⟩, ⟨memoryKindLoader, 0, 0x4000, 8, 9⟩]

def sampleFrameMap : List MemoryDescriptor :=
  [⟨memoryKindUsable, 0, 0x1000, 2, 7⟩, ⟨memoryKindPageTable, 0, 0x3000, 1, 0⟩,
    ⟨memoryKindPageTable, 0, 0x4000, 1, 0⟩, ⟨memoryKindLoader, 0, 0x5000, 4, 9⟩,
    ⟨memoryKindPageTable, 0, 0x9000, 1, 0⟩, ⟨memoryKindLoader, 0, 0xa000, 2, 9⟩]

theorem appendPageTableReservations_reserves_sample :
    (∃ proof, verifyPageTableReservations sampleFrames sampleFrameMap = .ok proof) ∧
      IsPageTable sampleFrameMap 0x4567 := by
  let appended := (appendPageTableReservations sampleFrames .new).2
  have ran : appendPageTableReservations sampleFrames .new = (.ok (), appended) :=
    Prod.ext (by decide +kernel) rfl
  have done : appended.finish = (.ok (), appended.finish.2) := Prod.ext (by decide +kernel) rfl
  have applied : applyReservations sampleFrameBase appended.finish.2 8 =
      .ok (6, filled 8 sampleFrameMap) := by decide +kernel
  obtain ⟨_, verified, pageTables⟩ := appendPageTableReservations_reserves ran done applied
  refine ⟨verified, (pageTables (by decide) (by simp [ReservationList.new]) 0x4567).mpr ?_⟩
  decide

/-! ## The protocol's check of the same frames -/

/-- The frame as the ownership record lists it. -/
def ownedFrame (frame : PhysicalFrame) : OwnedPageTableFrame := ⟨frame.address, 0⟩

theorem validateFrameAddress_frame (frame : PhysicalFrame) :
    validateFrameAddress frame.address pageTablePhysicalCap = .ok () := by
  obtain ⟨address, nonzero, supported, aligned⟩ := frame
  simp only [Layout.supportedPhysicalEnd, Layout.pageSize] at supported aligned
  have stop : checkedAdd address memoryPageSize = some (address + memoryPageSize) :=
    checkedAdd_eq_some.mpr ⟨by simp only [memoryPageSize, wordLimit]; omega, rfl⟩
  have inside : ¬ address + memoryPageSize > pageTablePhysicalCap := by
    simp only [memoryPageSize, pageTablePhysicalCap]
    omega
  rw [validateFrameAddress, if_neg (by simp only [memoryPageSize]; omega), stop, okOr_some, ok_bind,
    if_neg inside]

theorem mem_zipIdx_ownedFrame {frames : List PhysicalFrame} {listed : OwnedPageTableFrame}
    {position : Nat} : (listed, position) ∈ (frames.map ownedFrame).zipIdx ↔
      ∃ frame, frames[position]? = some frame ∧ ownedFrame frame = listed := by
  rw [List.mk_mem_zipIdx_iff_getElem?, List.getElem?_map, Option.map_eq_some_iff]

/-- The record's frame list is in order whatever the map is; only the frames'
places are left to check. -/
theorem ownsFrames_iff {frames : List PhysicalFrame} {descriptors : List MemoryDescriptor}
    {ownership : ValidatedPageTableOwnership} (nonempty : frames ≠ []) (distinct : frames.Nodup)
    (cap : ownership.raw.physicalAddressCap = pageTablePhysicalCap)
    (root : ownership.raw.rootPhysicalFrame = (frames.head nonempty).address)
    (count : ownership.raw.ownedFrameCount = frames.length) :
    OwnsFrames ownership (frames.map ownedFrame) descriptors ↔
      ∀ frame ∈ frames, InPageTableMemory descriptors frame.address := by
  constructor
  · intro owns frame member
    obtain ⟨position, found⟩ := List.mem_iff_getElem?.mp member
    exact (owns.owned _ (mem_zipIdx_ownedFrame.mpr ⟨frame, found, rfl⟩)).held
  · intro held
    refine ⟨by rw [List.length_map, count], ?_, ?_⟩
    · rintro ⟨listed, position⟩ member
      obtain ⟨frame, found, rfl⟩ := mem_zipIdx_ownedFrame.mp member
      refine ⟨rfl, by rw [cap]; exact validateFrameAddress_frame frame, ?_,
        held frame (List.mem_of_getElem? found)⟩
      intro previous earlier same
      rw [← List.map_take, List.mem_map] at earlier
      obtain ⟨other, inTake, rfl⟩ := earlier
      obtain ⟨index, otherFound⟩ := List.mem_iff_getElem?.mp inTake
      rw [List.getElem?_take] at otherFound
      split at otherFound
      · rename_i before
        obtain ⟨bound, _⟩ := List.getElem?_eq_some_iff.mp otherFound
        have sameFrame : other = frame := PhysicalFrame.ext same
        rw [sameFrame, ← found] at otherFound
        exact absurd ((List.getElem?_inj bound distinct).mp otherFound) (Nat.ne_of_lt before)
      · contradiction
    · have addresses : (frames.map ownedFrame).zipIdx.map (fun frame => frame.1.physicalFrame) =
          frames.map PhysicalFrame.address := by
        have firsts := congrArg (List.map OwnedPageTableFrame.physicalFrame)
          (List.zipIdx_map_fst 0 (frames.map ownedFrame))
        rwa [List.map_map, List.map_map] at firsts
      rw [rootsIn, addresses, root]
      refine List.count_eq_one_of_mem (distinct.map fun left right same => PhysicalFrame.ext same) ?_
      exact List.mem_map_of_mem (List.head_mem nonempty)

/-- Over a map of disjoint valid descriptors the loader's check of the frames
and the protocol's accept the same lists. -/
theorem verifyPageTableReservations_agrees {descriptors : List MemoryDescriptor}
    {frames : List PhysicalFrame} {ownership : PageTableOwnership}
    {validated : ValidatedPageTableOwnership}
    (valid : ∀ descriptor ∈ descriptors, ∃ checked, descriptor.validate = .ok checked)
    (disjoint : descriptors.Pairwise
      (Apart MemoryDescriptor.physicalStart MemoryDescriptor.stop))
    (nonempty : frames ≠ []) (distinct : frames.Nodup)
    (accepted : ownership.validate = .ok validated)
    (root : ownership.rootPhysicalFrame = (frames.head nonempty).address)
    (count : ownership.ownedFrameCount = frames.length)
    (width : ownership.ownedFrameCount < 2 ^ 32) :
    ((∃ proof, verifyPageTableReservations frames descriptors = .ok proof) ↔
      validatePageTableFrames validated (frames.map ownedFrame) descriptors = .ok ()) ∧
    validatePageTableFrames validated (frames.map ownedFrame) descriptors ≠ .error .panic := by
  obtain ⟨rfl, cap⟩ := PageTableOwnership.validate_raw accepted
  have sound : ∀ descriptor ∈ descriptors, descriptor.Valid := fun descriptor member =>
    MemoryDescriptor.validate_iff.mp (valid descriptor member)
  have ends := @validatePageTableFrames_ends validated (frames.map ownedFrame) descriptors width
  rw [verifyPageTableReservations_iff nonempty (by omega) sound]
  rw [ownsFrames_iff nonempty distinct cap root count] at ends
  have places (frame : PhysicalFrame) :
      (∃ found, descriptors.find? (fun descriptor => descriptor.Contains frame.address) =
        some found ∧ found.kind = memoryKindPageTable) ↔
      InPageTableMemory descriptors frame.address := by
    constructor
    · intro covering
      obtain ⟨found, search, kind⟩ := covering
      have member := List.mem_of_find?_eq_some search
      exact ⟨found, member, kind, sound found member, by simpa using List.find?_some search⟩
    · intro holds
      obtain ⟨descriptor, member, kind, _, contains⟩ := holds
      exact ⟨descriptor, find?_eq_some_of_apart disjoint member contains, kind⟩
  simp only [places]
  cases ran : validatePageTableFrames validated (frames.map ownedFrame) descriptors with
  | ok _ => exact ⟨⟨fun _ => rfl, fun _ => ends.of_ok ran⟩, nofun⟩
  | error reason =>
      obtain ⟨checked, absent⟩ := ends.of_error ran
      exact ⟨⟨fun held => absurd held absent, nofun⟩, fun same => checked (Except.error.inj same)⟩

/-- Two adjacent frames, the upper one the root. -/
def tableFrames : List PhysicalFrame :=
  [⟨0x77_1000, by decide, by decide, by decide⟩, ⟨0x77_0000, by decide, by decide, by decide⟩]

def tableOwnership : PageTableOwnership where
  hierarchyVersion := 1
  pagingLevelCount := 4
  state := 2
  pageSize := 4096
  rootPhysicalFrame := 0x77_1000
  ownedFrameListPhysicalAddress := 0x20_0000
  ownedFrameCount := 2
  descriptorStride := 16
  physicalAddressCap := pageTablePhysicalCap
  reserved0 := 0
  reserved1 := 0
  reserved2 := 0

/-- Each frame has a descriptor of its own, in no order with the others. -/
def tableMap : List MemoryDescriptor :=
  [⟨memoryKindUsable, 0, 0x80_0000, 16, 15⟩, ⟨memoryKindPageTable, 0, 0x77_1000, 1, 0⟩,
    ⟨memoryKindUsable, 0, 0x10_0000, 0x100, 15⟩, ⟨memoryKindPageTable, 0, 0x77_0000, 1, 0⟩]

theorem verifyPageTableReservations_agrees_tableFrames :
    (∃ proof, verifyPageTableReservations tableFrames tableMap = .ok proof) ∧
    validatePageTableFrames ⟨tableOwnership, 32⟩ (tableFrames.map ownedFrame) tableMap =
      .ok () := by
  have accepted : tableOwnership.validate = .ok ⟨tableOwnership, 32⟩ := rfl
  have valid : ∀ descriptor ∈ tableMap, ∃ checked, descriptor.validate = .ok checked := by
    simp only [tableMap, List.forall_mem_cons, List.not_mem_nil, false_imp_iff, implies_true,
      and_true]
    exact ⟨⟨_, rfl⟩, ⟨_, rfl⟩, ⟨_, rfl⟩, ⟨_, rfl⟩⟩
  have disjoint : tableMap.Pairwise
      (Apart MemoryDescriptor.physicalStart MemoryDescriptor.stop) := by decide
  have agrees := (verifyPageTableReservations_agrees valid disjoint (by decide : tableFrames ≠ [])
    (by decide) accepted rfl rfl (by decide)).1
  have verified : ∃ proof, verifyPageTableReservations tableFrames tableMap = .ok proof := ⟨_, rfl⟩
  exact ⟨verified, agrees.mp verified⟩

end UnnamedOS.Loader
