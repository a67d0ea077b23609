import UnnamedOS.Data.Runs
import UnnamedOS.Loader.PageTableReservations

namespace UnnamedOS.Loader

open UnnamedOS.Data UnnamedOS.BootProtocol UnnamedOS.MemoryMap UnnamedOS.PageTable

/-! # One reservation per run of frames

Over ascending frames the loop never runs out of words or slots, closes a run
only where the next frame is further away than one page, and so leaves the
maximal runs of adjacent frames. -/

/-- Reservations with at least one unreserved byte between them, in order. -/
abbrev Spread (left right : Reservation) : Prop :=
  Gapped Reservation.physicalStart Reservation.pageCount memoryPageSize left right

theorem push_succeeds {reservations : ReservationList} {reservation : Reservation}
    (wellFormed : reservation.WellFormed) (room : reservations.items.length < reservationCapacity) :
    ∃ after, reservations.push reservation = (.ok (), after) ∧
      after.items = reservations.items ++ [reservation] := by
  have pushed : ∃ after, reservations.push reservation = (.ok (), after) := by
    unfold ReservationList.push
    split
    · rename_i reason refused
      rw [Reservation.WellFormed, refused] at wellFormed
      contradiction
    · rw [dif_neg (Nat.ne_of_lt room)]
      exact ⟨_, rfl⟩
  obtain ⟨after, pushed⟩ := pushed
  exact ⟨after, pushed, push_items pushed⟩

/-- The loop between two ascending frames: the open run ends with the last
frame, and everything before it is spread out. -/
structure Spaced (before : ReservationList) (frames : List PhysicalFrame) (run : FrameRun) :
    Prop where
  pages : 0 < run.pages ∧ run.pages ≤ frames.length
  last : ∃ earlier last, frames = earlier ++ [last] ∧
    run.start + run.pages * memoryPageSize = last.address + memoryPageSize
  room : run.reservations.items.length < before.items.length + frames.length
  spread : ∃ runs, run.reservations.items = before.items ++ runs ∧
    (runs ++ [pageTableReservation run.start run.pages]).Pairwise Spread

namespace Spaced

variable {before : ReservationList} {frames : List PhysicalFrame} {run : FrameRun}
  {frame : PhysicalFrame}

theorem first (before : ReservationList) (frame : PhysicalFrame) :
    Spaced before [frame] ⟨before, frame.address, 1⟩ where
  pages := ⟨Nat.one_pos, Nat.le_refl 1⟩
  last := ⟨[], frame, rfl, by simp⟩
  room := by simp
  spread := ⟨[], by simp, List.pairwise_singleton _ _⟩

theorem wellFormed (spaced : Spaced before frames run) :
    (pageTableReservation run.start run.pages).WellFormed := by
  obtain ⟨_, last, _, stop⟩ := spaced.last
  have supported := last.supported
  have aligned := last.aligned
  have pages := spaced.pages
  simp only [Layout.supportedPhysicalEnd, Layout.pageSize, memoryPageSize] at supported aligned stop
  refine validateRange_eq_ok.mpr ⟨pages.1, ?_, ?_⟩
  · simp only [pageTableReservation, memoryPageSize]
    omega
  · simp only [pageTableReservation, memoryPageSize, wordLimit]
    omega

theorem step (spaced : Spaced before frames run)
    (ascending : ∀ earlier ∈ frames, earlier.address < frame.address)
    (room : before.items.length + frames.length ≤ reservationCapacity) :
    ∃ next, run.step frame = .ok next ∧ Spaced before (frames ++ [frame]) next := by
  obtain ⟨⟨positive, few⟩, ⟨earlier, last, split, stop⟩, free, runs, items, spread⟩ := spaced
  have follows : last.address < frame.address := ascending last (by simp [split])
  have wellFormed := Spaced.wellFormed ⟨⟨positive, few⟩, ⟨earlier, last, split, stop⟩, free, runs,
    items, spread⟩
  obtain ⟨_, _, bounded⟩ := wellFormed.spec
  simp only [Reservation.stop, pageTableReservation] at bounded
  have length : checkedMul run.pages memoryPageSize = some (run.pages * memoryPageSize) :=
    checkedMul_eq_some.mpr ⟨by omega, rfl⟩
  have expected : checkedAdd run.start (run.pages * memoryPageSize) =
      some (run.start + run.pages * memoryPageSize) := checkedAdd_eq_some.mpr ⟨bounded, rfl⟩
  simp only [FrameRun.step, length, expected, okOr_some, ok_bind]
  by_cases adjacent : frame.address = run.start + run.pages * memoryPageSize
  · have longer : checkedAdd run.pages 1 = some (run.pages + 1) :=
      checkedAdd_eq_some.mpr ⟨by simp only [memoryPageSize] at bounded; omega, rfl⟩
    rw [if_pos adjacent, longer, okOr_some, ok_bind]
    refine ⟨_, rfl, ⟨Nat.succ_pos _, by simpa using few⟩, ⟨frames, frame, rfl, ?_⟩, ?_, runs, items, ?_⟩
    · rw [Nat.add_mul, Nat.one_mul, ← Nat.add_assoc, adjacent]
    · simp only [List.length_append, List.length_singleton]
      omega
    · -- Only the end of the open run moves, and nothing is compared with that.
      obtain ⟨closed, _, below⟩ := List.pairwise_append.mp spread
      refine List.pairwise_append.mpr ⟨closed, List.pairwise_singleton _ _, ?_⟩
      intro left inRuns right inOpen
      rw [List.mem_singleton.mp inOpen]
      exact below left inRuns (pageTableReservation run.start run.pages) (List.mem_singleton_self _)
  · have slot : run.reservations.items.length < reservationCapacity := Nat.lt_of_lt_of_le free room
    obtain ⟨after, pushed, extended⟩ := push_succeeds wellFormed slot
    rw [if_neg adjacent, pushed]
    refine ⟨_, rfl, ⟨Nat.one_pos, by simp⟩, ⟨frames, frame, rfl, by simp⟩, ?_,
      runs ++ [pageTableReservation run.start run.pages], ?_, ?_⟩
    · simp only [extended, List.length_append, List.length_singleton]
      omega
    · rw [extended, items, List.append_assoc]
    · refine List.pairwise_append.mpr ⟨spread, List.pairwise_singleton _ _, ?_⟩
      have lastAligned := last.aligned
      have frameAligned := frame.aligned
      have beyond : run.start + run.pages * memoryPageSize < frame.address := by
        simp only [Layout.pageSize, memoryPageSize] at *
        omega
      obtain ⟨_, _, below⟩ := List.pairwise_append.mp spread
      intro left inRuns right inOpen
      rw [List.mem_singleton.mp inOpen]
      rcases List.mem_append.mp inRuns with old | isOpen
      · have under := below left old (pageTableReservation run.start run.pages)
          (List.mem_singleton_self _)
        simp only [Gapped, pageTableReservation] at under ⊢
        omega
      · rw [List.mem_singleton.mp isOpen]
        exact beyond

end Spaced

theorem insertionSort_ascending {frames : List PhysicalFrame} (distinct : frames.Nodup) :
    (insertionSort PhysicalFrame.address frames).Pairwise fun left right =>
      left.address < right.address := by
  have sorted := insertionSort_sorted PhysicalFrame.address frames
  have different := (insertionSort_perm PhysicalFrame.address frames).nodup_iff.mpr distinct
  refine (sorted.and different).imp ?_
  intro left right both
  exact Nat.lt_of_le_of_ne both.1 fun same => both.2 (PhysicalFrame.ext same)

/-- The loop runs to its end and leaves the runs spread out. -/
theorem appendPageTableReservations_spaced {frames : List PhysicalFrame}
    {reservations : ReservationList} (nonempty : frames ≠ [])
    (few : frames.length ≤ pageTableFrameCapacity) (distinct : frames.Nodup)
    (room : reservations.items.length + frames.length ≤ reservationCapacity) :
    ∃ appended runs, appendPageTableReservations frames reservations = (.ok (), appended) ∧
      appended.items = reservations.items ++ runs ∧ runs.Pairwise Spread := by
  have same := insertionSort_perm PhysicalFrame.address frames
  have ascending := insertionSort_ascending distinct
  cases sorted : insertionSort PhysicalFrame.address frames with
  | nil =>
      rw [sorted] at same
      exact absurd same.nil_eq.symm nonempty
  | cons first rest =>
      rw [sorted] at same ascending
      have count : rest.length + 1 = frames.length := same.length_eq
      have ended : ∃ run, rest.foldlM FrameRun.step ⟨reservations, first.address, 1⟩ = .ok run ∧
          Spaced reservations (first :: rest) run := by
        refine foldlM_succeeds (fun consumed run => Spaced reservations (first :: consumed) run)
          (.first reservations first) ?_
        intro before frame after current split spaced
        have consumed := congrArg List.length split
        rw [split, ← List.cons_append] at ascending
        have below := (List.pairwise_append.mp ascending).2.2
        refine spaced.step (fun earlier member => below earlier member frame (by simp)) ?_
        simp only [List.length_append, List.length_cons] at consumed ⊢
        omega
      obtain ⟨run, looped, spaced⟩ := ended
      have free : run.reservations.items.length < reservationCapacity := by
        have used := spaced.room
        simp only [List.length_cons] at used
        omega
      obtain ⟨runs, items, spread⟩ := spaced.spread
      obtain ⟨appended, pushed, extended⟩ := push_succeeds spaced.wellFormed free
      refine ⟨appended, runs ++ [pageTableReservation run.start run.pages], ?_, ?_, spread⟩
      · simp only [appendPageTableReservations, if_neg (Nat.not_lt.mpr few), sorted, looped, pushed]
      · rw [extended, items, List.append_assoc]

/-- The pages of the runs as points a page apart. -/
theorem lists_frames {runs : List Reservation} {frames : List PhysicalFrame}
    (pages : (runs.flatMap pagesOf).Perm (frames.map PhysicalFrame.address)) :
    Lists Reservation.physicalStart Reservation.pageCount memoryPageSize runs
      (fun address => ∃ frame ∈ frames, frame.address = address) := by
  intro address
  have listed := pages.mem_iff (a := address)
  simp only [List.mem_flatMap, pagesOf, List.mem_map, List.mem_range] at listed
  exact listed.symm

/-- Distinct frames in any order become one reservation for each maximal run
of adjacent frames, in ascending order behind the reservations already there. -/
theorem appendPageTableReservations_maximalRuns {frames : List PhysicalFrame}
    {reservations : ReservationList} (nonempty : 1 ≤ frames.length) (few : frames.length ≤ 8)
    (distinct : frames.Nodup) (room : reservations.items.length + 8 ≤ reservationCapacity) :
    ∃ appended runs, appendPageTableReservations frames reservations = (.ok (), appended) ∧
      appended.items = reservations.items ++ runs ∧
      (∀ reservation ∈ runs, reservation.kind = memoryKindPageTable ∧
        reservation.source = .pageTable) ∧
      runs.Pairwise (fun left right => left.physicalStart < left.stop ∧
        left.stop < right.physicalStart) ∧
      (∀ start pages, pageTableReservation start pages ∈ runs ↔
        MaximalRun (fun address => ∃ frame ∈ frames, frame.address = address) 4096 start pages) ∧
      ∀ address, (∃ reservation ∈ runs, reservation.Contains address) ↔
        ∃ frame ∈ frames, frame.address ≤ address ∧ address < frame.address + 4096 := by
  have full : reservations.items.length + frames.length ≤ reservationCapacity := by omega
  obtain ⟨appended, runs, ran, items, spread⟩ := appendPageTableReservations_spaced
    (List.length_pos_iff.mp nonempty) few distinct full
  obtain ⟨_, _, others, otherItems, kinds, pages⟩ := appendPageTableReservations_eq_ok ran
  obtain rfl : others = runs := List.append_cancel_left (otherItems.symm.trans items)
  have wellFormed : ∀ reservation ∈ others, reservation.WellFormed := fun reservation member =>
    appended.wellFormed reservation (by rw [items]; exact List.mem_append_right _ member)
  have lists := lists_frames pages
  refine ⟨appended, others, ran, items, kinds, ?_, ?_, fun address => runs_contain_iff pages⟩
  · refine spread.imp_of_mem ?_
    intro left right inRuns _ gap
    exact ⟨(wellFormed left inRuns).start_lt_stop, gap⟩
  · intro start count
    constructor
    · intro member
      exact lists.maximalRun (by decide) spread member (wellFormed _ member).spec.1
    · intro run
      obtain ⟨reservation, member, rfl, rfl⟩ := lists.exists_span (by decide) spread run
      obtain ⟨kind, source⟩ := kinds reservation member
      have same : pageTableReservation reservation.physicalStart reservation.pageCount =
          reservation := by rw [pageTableReservation, ← kind, ← source]
      rwa [same]

theorem appendPageTableReservations_maximalRuns_sample :
    ∃ appended runs, appendPageTableReservations sampleFrames .new = (.ok (), appended) ∧
      appended.items = runs ∧ pageTableReservation 0x3000 2 ∈ runs := by
  obtain ⟨appended, runs, ran, items, _, _, maximal, _⟩ := appendPageTableReservations_maximalRuns
    (by decide : 1 ≤ sampleFrames.length) (by decide) (by decide)
    (by decide : ReservationList.new.items.length + 8 ≤ reservationCapacity)
  refine ⟨appended, runs, ran, items, (maximal 0x3000 2).mpr ?_⟩
  exact ⟨by decide, by decide, by decide, fun point _ => by simp [sampleFrames]; omega⟩

end UnnamedOS.Loader
