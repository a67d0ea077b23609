import UnnamedOS.Loader.PageTableReservations
import UnnamedOS.Loader.PreparedBootInfo
import UnnamedOS.MemoryMap.Pieces

namespace UnnamedOS.Loader

open UnnamedOS.Data UnnamedOS.BootProtocol UnnamedOS.MemoryMap UnnamedOS.PageTable

/-! # The loader's reservations and their evidence

`reservations_for` lists what the loader claims; once the list is laid over the
map, `reservation_evidence` looks for the claimed kinds by counting
descriptors. -/

/-- `push(reservation)?` on a list that is dropped on an error. -/
def pushOrFail (list : ReservationList) (reservation : Reservation) :
    Except MapBuildError ReservationList :=
  match list.push reservation with
  | (.error reason, _) => .error reason
  | (.ok _, next) => .ok next

def segmentReservation (segment : SegmentMetadata) : Reservation where
  physicalStart := segment.allocationStart
  pageCount := segment.pageCount
  kind := memoryKindKernelImage
  source := .kernelImage

def allocationReservation (allocation : PageAllocation) (source : ReservationSource) (kind : Nat) :
    Reservation where
  physicalStart := allocation.pageStart
  pageCount := allocation.pageCount
  kind := kind
  source := source

/-- The array over which `reservations_for` pushes the boot data. -/
def BootDataAllocations.reservations (allocations : BootDataAllocations) : List Reservation :=
  [allocationReservation allocations.rawMap .rawMemoryMap memoryKindBootMemoryMap,
    allocationReservation allocations.conversionScratch .conversionScratch memoryKindBootMemoryMap,
    allocationReservation allocations.convertedMap .convertedMemoryMap memoryKindBootMemoryMap,
    allocationReservation allocations.bootInfo .bootInfo memoryKindBootInfo]

/-- The framebuffer's pages: its start rounded down, its end rounded up. -/
def framebufferReservation (framebufferStart framebufferLength : Nat) :
    Except MapBuildError Reservation := do
  let framebufferEnd ← okOr (checkedAdd framebufferStart framebufferLength) .rangeOverflow
  let pageStart := roundDown framebufferStart 0x1000
  let rounded ← okOr (checkedAdd framebufferEnd 0xfff) .rangeOverflow
  let pageEnd := roundDown rounded 0x1000
  .ok ⟨pageStart, (pageEnd - pageStart) / 4096, memoryKindFramebuffer, .framebuffer⟩

def reservationsFor {β : Type} (loaded : LoadedKernel β) (allocations : BootDataAllocations)
    (framebufferStart framebufferLength : Nat) (stack : Option PageAllocation) :
    Except MapBuildError ReservationList := do
  let segments ← (loaded.segments.map segmentReservation).foldlM pushOrFail .new
  let buffers ← allocations.reservations.foldlM pushOrFail segments
  let framebuffer ← framebufferReservation framebufferStart framebufferLength
  let screen ← pushOrFail buffers framebuffer
  match stack with
  | none => .ok screen
  | some stack =>
      pushOrFail screen (allocationReservation stack .bootstrapStack memoryKindBootstrapStack)

/-- What the loop of `reservation_evidence` has seen. -/
structure Evidence where
  kernel : Bool
  bootInfo : Bool
  mapBuffers : Nat
  bootstrapStack : Bool
  pageTables : Bool
deriving DecidableEq, Repr

namespace Evidence

def none : Evidence := ⟨false, false, 0, false, false⟩

def see (evidence : Evidence) (descriptor : MemoryDescriptor) : Evidence :=
  if descriptor.kind = memoryKindKernelImage then { evidence with kernel := true }
  else if descriptor.kind = memoryKindBootInfo then { evidence with bootInfo := true }
  else if descriptor.kind = memoryKindBootMemoryMap then
    { evidence with mapBuffers := evidence.mapBuffers + 1 }
  else if descriptor.kind = memoryKindBootstrapStack then
    { evidence with bootstrapStack := true }
  else if descriptor.kind = memoryKindPageTable then { evidence with pageTables := true }
  else evidence

end Evidence

/-- `reservation_evidence`; the flag is the feature `kernel-handoff-test`. -/
def reservationEvidence (kernelHandoffTest : Bool) (descriptors : List MemoryDescriptor) : Bool :=
  let evidence := descriptors.foldl Evidence.see .none
  evidence.kernel && evidence.bootInfo && decide (evidence.mapBuffers ≥ 3) &&
    (!kernelHandoffTest || evidence.bootstrapStack) &&
    (!kernelHandoffTest || evidence.pageTables)

/-! ## What the loop counts -/

/-- Some descriptor has the kind. -/
def HasKind (descriptors : List MemoryDescriptor) (kind : Nat) : Prop :=
  ∃ descriptor ∈ descriptors, descriptor.kind = kind

theorem foldl_see (descriptors : List MemoryDescriptor) (evidence : Evidence) :
    descriptors.foldl Evidence.see evidence = {
      kernel := evidence.kernel || descriptors.any (·.kind = memoryKindKernelImage)
      bootInfo := evidence.bootInfo || descriptors.any (·.kind = memoryKindBootInfo)
      mapBuffers := evidence.mapBuffers + descriptors.countP (·.kind = memoryKindBootMemoryMap)
      bootstrapStack :=
        evidence.bootstrapStack || descriptors.any (·.kind = memoryKindBootstrapStack)
      pageTables := evidence.pageTables || descriptors.any (·.kind = memoryKindPageTable) } := by
  induction descriptors generalizing evidence with
  | nil => simp
  | cons descriptor rest ih =>
      rw [List.foldl_cons, ih, Evidence.see]
      simp only [List.any_cons, List.countP_cons]
      split_ifs with isKernel isInfo isBuffer isStack isTable <;>
        simp_all [Nat.add_assoc, Nat.add_comm]

/-- The source counts in an `i32`, which a slice shorter than `2^31` cannot
overflow. -/
theorem foldl_see_mapBuffers_le (descriptors : List MemoryDescriptor) :
    (descriptors.foldl Evidence.see .none).mapBuffers ≤ descriptors.length := by
  rw [foldl_see, Evidence.none, Nat.zero_add]
  exact List.countP_le_length

/-- The gate passes when each kind is there, the boot memory map three times. -/
theorem reservationEvidence_iff {kernelHandoffTest : Bool} {descriptors : List MemoryDescriptor} :
    reservationEvidence kernelHandoffTest descriptors = true ↔
      HasKind descriptors memoryKindKernelImage ∧ HasKind descriptors memoryKindBootInfo ∧
      3 ≤ descriptors.countP (·.kind = memoryKindBootMemoryMap) ∧
      (kernelHandoffTest = true → HasKind descriptors memoryKindBootstrapStack ∧
        HasKind descriptors memoryKindPageTable) := by
  simp only [reservationEvidence, foldl_see, Evidence.none, HasKind, Bool.false_or, Nat.zero_add,
    Bool.and_eq_true, Bool.or_eq_true, List.any_eq_true, decide_eq_true_eq, and_assoc]
  cases kernelHandoffTest with
  | false => simp
  | true => simp

/-! ## What the loader reserves -/

section

variable {list next : ReservationList} {reservation : Reservation} {reservations : List Reservation}

theorem pushOrFail_items (pushed : pushOrFail list reservation = .ok next) :
    next.items = list.items ++ [reservation] := by
  unfold pushOrFail at pushed
  split at pushed
  · contradiction
  · rename_i _ pushes
    cases pushed
    exact push_items pushes

theorem foldlM_pushOrFail_items (pushed : reservations.foldlM pushOrFail list = .ok next) :
    next.items = list.items ++ reservations := by
  induction reservations generalizing list with
  | nil =>
      cases pushed
      simp
  | cons reservation rest ih =>
      obtain ⟨middle, first, later⟩ := foldlM_cons_eq_ok.mp pushed
      rw [ih later, pushOrFail_items first, List.append_assoc, List.singleton_append]

end

section

variable {β : Type} {loaded : LoadedKernel β} {allocations : BootDataAllocations}
  {framebufferStart framebufferLength : Nat} {stack : Option PageAllocation}
  {reservations : ReservationList}

/-- The list in the order of the pushes. -/
theorem reservationsFor_items
    (ran : reservationsFor loaded allocations framebufferStart framebufferLength stack =
      .ok reservations) :
    ∃ framebuffer, framebufferReservation framebufferStart framebufferLength = .ok framebuffer ∧
      reservations.items = loaded.segments.map segmentReservation ++ allocations.reservations ++
        [framebuffer] ++ stack.toList.map fun stack =>
          allocationReservation stack .bootstrapStack memoryKindBootstrapStack := by
  obtain ⟨segments, pushedSegments, ran⟩ := bind_eq_ok.mp ran
  obtain ⟨buffers, pushedBuffers, ran⟩ := bind_eq_ok.mp ran
  obtain ⟨framebuffer, rounded, ran⟩ := bind_eq_ok.mp ran
  obtain ⟨screen, pushedScreen, ran⟩ := bind_eq_ok.mp ran
  have screenItems : screen.items = loaded.segments.map segmentReservation ++
      allocations.reservations ++ [framebuffer] := by
    rw [pushOrFail_items pushedScreen, foldlM_pushOrFail_items pushedBuffers,
      foldlM_pushOrFail_items pushedSegments]
    simp [ReservationList.new]
  refine ⟨framebuffer, rounded, ?_⟩
  cases stack with
  | none =>
      cases ran
      simpa using screenItems
  | some stack => rw [pushOrFail_items ran, screenItems, Option.toList_some, List.map_singleton]

end

/-! ## The evidence of an overlaid map -/

section

variable {list finished : ReservationList} {base output : List MemoryDescriptor}
  {capacity len kind : Nat}

theorem hasKind_of_reserved (done : list.finish = (.ok (), finished))
    (ran : applyReservations base finished capacity = .ok (len, output))
    {reservation : Reservation} (reserved : reservation ∈ finished.items)
    (plain : reservation.source ≠ .framebuffer) : HasKind (output.take len) reservation.kind := by
  obtain ⟨piece, inMap, _, sameKind⟩ := applyReservations_starts done ran reserved plain
  exact ⟨piece, inMap, sameKind⟩

/-- Reservations of one kind start as many descriptors of that kind, however
close they lie to each other. -/
theorem length_le_countP_of_reserved (done : list.finish = (.ok (), finished))
    (ran : applyReservations base finished capacity = .ok (len, output))
    {claims : List Reservation} (distinct : claims.Nodup)
    (reserved : ∀ reservation ∈ claims, reservation ∈ finished.items ∧
      reservation.source ≠ .framebuffer ∧ reservation.kind = kind) :
    claims.length ≤ (output.take len).countP (·.kind = kind) := by
  have starts : (claims.map Reservation.physicalStart).Nodup := by
    refine List.Nodup.map_on ?_ distinct
    intro left leftMember right rightMember same
    have leftListed := (reserved left leftMember).1
    have rightListed := (reserved right rightMember).1
    have leftForward := (finished.wellFormed left leftListed).start_lt_stop
    have rightForward := (finished.wellFormed right rightListed).start_lt_stop
    exact (ReservationList.finish_ordered done).unique leftListed ⟨Nat.le_refl _, leftForward⟩
      rightListed ⟨by omega, by omega⟩
  have begun : claims.map Reservation.physicalStart ⊆
      ((output.take len).filter (·.kind = kind)).map MemoryDescriptor.physicalStart := by
    intro start member
    obtain ⟨reservation, inClaims, rfl⟩ := List.mem_map.mp member
    obtain ⟨listed, plain, rfl⟩ := reserved reservation inClaims
    obtain ⟨piece, inMap, same, sameKind⟩ := applyReservations_starts done ran listed plain
    rw [← same]
    exact List.mem_map_of_mem (List.mem_filter.mpr ⟨inMap, by simpa using sameKind⟩)
  rw [List.countP_eq_length_filter]
  simpa using (List.subperm_of_subset starts begun).length_le

end

/-- What the loader has claimed by the time its list is finished. -/
structure Claimed {β : Type} (loaded : LoadedKernel β) (allocations : BootDataAllocations)
    (stack : PageAllocation) (items : List Reservation) : Prop where
  segments : ∀ segment ∈ loaded.segments, segmentReservation segment ∈ items
  bootData : ∀ reservation ∈ allocations.reservations, reservation ∈ items
  stack : allocationReservation stack .bootstrapStack memoryKindBootstrapStack ∈ items
  pageTables : ∃ run ∈ items, run.kind = memoryKindPageTable ∧ run.source = .pageTable

section

variable {β : Type} {loaded : LoadedKernel β} {allocations : BootDataAllocations}
  {framebufferStart framebufferLength : Nat} {stack : PageAllocation}
  {frames : List PhysicalFrame} {reservations appended finished : ReservationList}

theorem finish_claimed
    (reserved : reservationsFor loaded allocations framebufferStart framebufferLength (some stack) =
      .ok reservations)
    (tables : appendPageTableReservations frames reservations = (.ok (), appended))
    (done : appended.finish = (.ok (), finished)) :
    Claimed loaded allocations stack finished.items := by
  obtain ⟨framebuffer, _, items⟩ := reservationsFor_items reserved
  obtain ⟨nonempty, _, runs, appendedItems, kinds, pages⟩ :=
    appendPageTableReservations_eq_ok tables
  have listed : ∀ reservation, reservation ∈ finished.items ↔
      reservation ∈ reservations.items ∨ reservation ∈ runs := by
    intro reservation
    rw [(ReservationList.finish_perm done).mem_iff, appendedItems, List.mem_append]
  simp only [items] at listed
  constructor
  · intro segment member
    rw [listed]
    simp [List.mem_map_of_mem member]
  · intro reservation member
    rw [listed]
    simp [member]
  · rw [listed]
    simp
  · obtain ⟨frame, inFrames⟩ := List.exists_mem_of_ne_nil _ nonempty
    obtain ⟨run, inRuns, _⟩ := (runs_contain_iff pages).mpr
      ⟨frame, inFrames, Nat.le_refl _, Nat.lt_add_of_pos_right (by decide)⟩
    exact ⟨run, (listed run).mpr (.inr inRuns), kinds run inRuns⟩

/-- The gate at the end of the conversion never rejects a map over which the
loader's own reservations were laid. -/
theorem reservationEvidence_of_overlaid {base output : List MemoryDescriptor} {capacity len : Nat}
    (segments : loaded.segments ≠ [])
    (reserved : reservationsFor loaded allocations framebufferStart framebufferLength (some stack) =
      .ok reservations)
    (tables : appendPageTableReservations frames reservations = (.ok (), appended))
    (done : appended.finish = (.ok (), finished))
    (ran : applyReservations base finished capacity = .ok (len, output))
    (kernelHandoffTest : Bool) :
    reservationEvidence kernelHandoffTest (output.take len) = true := by
  have claimed := finish_claimed reserved tables done
  rw [reservationEvidence_iff]
  refine ⟨?_, ?_, ?_, fun _ => ⟨?_, ?_⟩⟩
  · obtain ⟨segment, member⟩ := List.exists_mem_of_ne_nil _ segments
    exact hasKind_of_reserved done ran (claimed.segments segment member)
      (by simp [segmentReservation])
  · exact hasKind_of_reserved done ran
      (claimed.bootData (allocationReservation allocations.bootInfo .bootInfo memoryKindBootInfo)
        (by simp [BootDataAllocations.reservations])) (by simp [allocationReservation])
  · -- The three buffers differ in their source, so none stands for another.
    have distinct : (allocations.reservations.take 3).Nodup := by
      simp [BootDataAllocations.reservations, allocationReservation]
    have kinds : ∀ reservation ∈ allocations.reservations.take 3,
        reservation.source ≠ .framebuffer ∧ reservation.kind = memoryKindBootMemoryMap := by
      simp [BootDataAllocations.reservations, allocationReservation]
    exact length_le_countP_of_reserved done ran distinct fun reservation member =>
      ⟨claimed.bootData reservation (List.mem_of_mem_take member), kinds reservation member⟩
  · exact hasKind_of_reserved done ran claimed.stack (by simp [allocationReservation])
  · obtain ⟨run, inItems, kind, source⟩ := claimed.pageTables
    rw [← kind]
    exact hasKind_of_reserved done ran inItems (by simp [source])

end

/-- A kernel of one segment. -/
def oneSegmentKernel : LoadedKernel Unit where
  entryPoint := 0x20_0000
  loadRange := ⟨0x20_0000, 0x20_2000⟩
  segments := [⟨0x20_0000, 0x20_1800, 0x20_0000, 0x20_2000, 2, 5, 0x1800, 0x1800⟩]
  totalPages := 2
  entrySegmentIndex := 0
  owner := ⟨(), [(⟨0x20_0000, 2⟩, true)]⟩

/-- Its reservations, with the four boot-data pages side by side. -/
def oneSegmentReservations : Except MapBuildError ReservationList :=
  reservationsFor oneSegmentKernel
    ⟨⟨0x1_0000, 1⟩, ⟨0x1_1000, 1⟩, ⟨0x1_2000, 1⟩, ⟨0x1_3000, 1⟩⟩ 0x8000_0010 0x1234
    (some ⟨0x1_4000, 16⟩)

theorem reservationEvidence_of_overlaid_oneSegmentKernel :
    ∃ appended : ReservationList, ∃ len output,
      applyReservations [⟨memoryKindUsable, 0, 0x1000, 0x1000, 0⟩] appended.finish.2 32 =
        .ok (len, output) ∧
      reservationEvidence true (output.take len) = true := by
  let reservations := oneSegmentReservations.toOption.getD .new
  let appended := (appendPageTableReservations sampleFrames reservations).2
  have reserved : oneSegmentReservations = .ok reservations := by
    obtain ⟨list, ran⟩ := exists_of_isOk (by decide +kernel : oneSegmentReservations.isOk = true)
    simp [reservations, ran, Except.toOption]
  have tables : appendPageTableReservations sampleFrames reservations = (.ok (), appended) :=
    Prod.ext (by decide +kernel) (by simp only [appended])
  have done : appended.finish = (.ok (), appended.finish.2) := Prod.ext (by decide +kernel) rfl
  have applies : (applyReservations [⟨memoryKindUsable, 0, 0x1000, 0x1000, 0⟩]
      appended.finish.2 32).isOk = true := by decide +kernel
  obtain ⟨⟨len, output⟩, ran⟩ := exists_of_isOk applies
  rw [oneSegmentReservations] at reserved
  exact ⟨appended, len, output, ran, reservationEvidence_of_overlaid (List.cons_ne_nil _ _) reserved
    tables done ran true⟩

end UnnamedOS.Loader
