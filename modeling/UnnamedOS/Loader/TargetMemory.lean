import UnnamedOS.Data.Memory
import UnnamedOS.Loader.TargetOwnership

namespace UnnamedOS.Loader

open UnnamedOS.Data

/-! # The bytes of the loaded kernel

The backend zeroes, copies and verifies in separate passes over all items.
Each pass works on the page range of one item at a time. -/

inductive MemoryError where
  | range
  | copyMismatch
  | nonZeroBss
  | nonZeroPadding
deriving DecidableEq, Repr

/-- `bytes.get(start..stop)`. -/
def getRange (bytes : List UInt8) (start stop : Nat) : Option (List UInt8) :=
  if start ≤ stop ∧ stop ≤ bytes.length then some ((bytes.drop start).take (stop - start)) else none

/-- `copy_target`: the target it leaves; an error leaves it as it was. -/
def copyTarget (item : LoadItem) (source target : List UInt8) :
    Except MemoryError (List UInt8) := do
  let pageLength ← okOr (toWord item.pageLength) .range
  if target.length ≠ pageLength then .error .range
  else do
    let sourceStart ← okOr (toWord item.sourceOffset) .range
    let fileSize ← okOr (toWord item.fileSize) .range
    let sourceEnd ← okOr (checkedAdd sourceStart fileSize) .range
    let copyStart ← okOr (toWord item.copyOffset) .range
    let copyEnd ← okOr (checkedAdd copyStart fileSize) .range
    let sourceBytes ← okOr (getRange source sourceStart sourceEnd) .range
    let _ ← okOr (getRange target copyStart copyEnd) .range
    .ok (target.take copyStart ++ sourceBytes ++ target.drop copyEnd)

def initializeTarget (item : LoadItem) (source target : List UInt8) :
    Except MemoryError (List UInt8) :=
  copyTarget item source (List.replicate target.length 0)

def verifyTarget (item : LoadItem) (source target : List UInt8) : Except MemoryError Unit := do
  let pageLength ← okOr (toWord item.pageLength) .range
  if target.length ≠ pageLength then .error .range
  else do
    let sourceStart ← okOr (toWord item.sourceOffset) .range
    let fileSize ← okOr (toWord item.fileSize) .range
    let memorySize ← okOr (toWord item.memorySize) .range
    let copyStart ← okOr (toWord item.copyOffset) .range
    let sourceEnd ← okOr (checkedAdd sourceStart fileSize) .range
    let copyEnd ← okOr (checkedAdd copyStart fileSize) .range
    let memoryEnd ← okOr (checkedAdd copyStart memorySize) .range
    let sourceBytes ← okOr (getRange source sourceStart sourceEnd) .range
    let copied ← okOr (getRange target copyStart copyEnd) .range
    if copied ≠ sourceBytes then .error .copyMismatch
    else do
      let bss ← okOr (getRange target copyEnd memoryEnd) .range
      if ¬ bss.all (· = 0) then .error .nonZeroBss
      else do
        let padding ← okOr (getRange target memoryEnd pageLength) .range
        if ¬ padding.all (· = 0) then .error .nonZeroPadding
        else .ok ()

/-! ## One target -/

/-- What the page range of an item has to hold. -/
def loadedBytes (source : List UInt8) (item : LoadItem) : List UInt8 :=
  (source.drop item.sourceOffset).take item.fileSize ++
    List.replicate (item.pageLength - item.fileSize) 0

section

variable {segment : SegmentSpec} {item : LoadItem} {source target : List UInt8}

theorem getRange_eq_some {bytes : List UInt8} {start stop : Nat} (forward : start ≤ stop)
    (inside : stop ≤ bytes.length) :
    getRange bytes start stop = some ((bytes.drop start).take (stop - start)) :=
  if_pos ⟨forward, inside⟩

theorem toWord_fits {value : Nat} (fits : value < wordLimit) : toWord value = some value :=
  toWord_eq_some.mpr ⟨fits, rfl⟩

theorem checkedAdd_fits {left right : Nat} (fits : left + right < wordLimit) :
    checkedAdd left right = some (left + right) :=
  checkedAdd_eq_some.mpr ⟨fits, rfl⟩

/-- The sizes of a made item, as the copy and the check use them. -/
theorem Made.sizes {sourceLength : Nat} (made : Made sourceLength segment item) :
    item.fileSize ≤ item.memorySize ∧ item.memorySize ≤ item.pageLength ∧
      item.pageLength < wordLimit ∧ item.sourceOffset + item.fileSize ≤ sourceLength ∧
      item.sourceOffset + item.fileSize < wordLimit := by
  obtain ⟨offset, file, memory, _, target, start, stop, _, inMemory, inPages, inFile, bounded,
    endBounded⟩ := made
  omega

theorem length_loadedBytes (made : Made source.length segment item) :
    (loadedBytes source item).length = item.pageLength := by
  obtain ⟨inMemory, inPages, _, inFile, _⟩ := made.sizes
  simp only [loadedBytes, List.length_append, List.length_take, List.length_drop,
    List.length_replicate]
  omega

theorem initializeTarget_loads (made : Made source.length segment item)
    (sized : target.length = item.pageLength) :
    initializeTarget item source target = .ok (loadedBytes source item) := by
  obtain ⟨inMemory, inPages, pageBound, inFile, fileBound⟩ := made.sizes
  have copied := getRange_eq_some (Nat.le_add_right item.sourceOffset item.fileSize) inFile
  have window := @getRange_eq_some (List.replicate item.pageLength 0) 0 item.fileSize
    (Nat.zero_le _) (by rw [List.length_replicate]; omega)
  simp only [initializeTarget, copyTarget, sized, List.length_replicate, made.copyOffset,
    toWord_fits pageBound, toWord_fits (show item.sourceOffset < wordLimit by omega),
    toWord_fits (show item.fileSize < wordLimit by omega),
    toWord_fits (show 0 < wordLimit by decide), checkedAdd_fits fileBound,
    checkedAdd_fits (show 0 + item.fileSize < wordLimit by omega), copied, Nat.zero_add, window,
    okOr_some, ok_bind]
  simp [loadedBytes]

theorem loadedBytes_file (made : Made source.length segment item) {offset : Nat}
    (inFile : offset < item.fileSize) :
    (loadedBytes source item)[offset]? = source[item.sourceOffset + offset]? := by
  obtain ⟨_, _, _, bounded, _⟩ := made.sizes
  rw [loadedBytes, List.getElem?_append_left, List.getElem?_take_of_lt inFile, List.getElem?_drop]
  simp only [List.length_take, List.length_drop]
  omega

/-- Past the file's bytes a loaded target is zero. -/
theorem loadedBytes_drop (made : Made source.length segment item) {start : Nat}
    (past : item.fileSize ≤ start) :
    (loadedBytes source item).drop start =
      List.replicate (item.pageLength - item.fileSize - (start - item.fileSize)) 0 := by
  obtain ⟨_, _, _, inFile, _⟩ := made.sizes
  have copied : ((source.drop item.sourceOffset).take item.fileSize).length = item.fileSize := by
    simp only [List.length_take, List.length_drop]
    omega
  rw [loadedBytes, List.drop_append, List.drop_eq_nil_of_le (by omega), copied,
    List.drop_replicate, List.nil_append]

theorem loadedBytes_zero (made : Made source.length segment item) {offset : Nat}
    (past : item.fileSize ≤ offset) (below : offset < item.pageLength) :
    (loadedBytes source item)[offset]? = some 0 := by
  have rest := loadedBytes_drop made past
  have first : ((loadedBytes source item).drop offset)[0]? = some 0 := by
    rw [rest, List.getElem?_replicate]
    exact if_pos (by omega)
  rwa [List.getElem?_drop, Nat.add_zero] at first

theorem verifyTarget_accepts (made : Made source.length segment item) :
    verifyTarget item source (loadedBytes source item) = .ok () := by
  obtain ⟨inMemory, inPages, pageBound, inFile, fileBound⟩ := made.sizes
  have sized := length_loadedBytes made
  have expected := getRange_eq_some (Nat.le_add_right item.sourceOffset item.fileSize) inFile
  have copied := @getRange_eq_some (loadedBytes source item) 0 item.fileSize
    (Nat.zero_le _) (by omega)
  have bss := @getRange_eq_some (loadedBytes source item) item.fileSize item.memorySize inMemory
    (by omega)
  have padding := @getRange_eq_some (loadedBytes source item) item.memorySize item.pageLength
    inPages (by omega)
  have same : (loadedBytes source item).take item.fileSize =
      (source.drop item.sourceOffset).take item.fileSize := by
    rw [loadedBytes, List.take_append_of_le_length, List.take_take, Nat.min_self]
    simp only [List.length_take, List.length_drop]
    omega
  simp only [verifyTarget, sized, made.copyOffset, toWord_fits pageBound,
    toWord_fits (show item.sourceOffset < wordLimit by omega),
    toWord_fits (show item.fileSize < wordLimit by omega),
    toWord_fits (show item.memorySize < wordLimit by omega),
    toWord_fits (show 0 < wordLimit by decide), checkedAdd_fits fileBound,
    checkedAdd_fits (show 0 + item.fileSize < wordLimit by omega),
    checkedAdd_fits (show 0 + item.memorySize < wordLimit by omega), Nat.zero_add, expected,
    copied, bss, padding, okOr_some, ok_bind]
  simp [same, loadedBytes_drop made (Nat.le_refl _), loadedBytes_drop made inMemory]

end

/-! ## The passes -/

variable {β ε : Type}

/-- A backend over bytes: an allocation may leave anything in the pages it
grants, and the three operations work on the item's page range only. -/
structure ByteBacked (ops : SegmentBackend β ε) (memory : β → Nat → UInt8) : Prop where
  allocates : ∀ state start count, ∃ next, ops.allocateAt state start count = (.ok (), next) ∧
    ∀ address, ¬ (start ≤ address ∧ address < start + count * loadPageSize) →
      memory next address = memory state address
  zeroes : ∀ state item, ∃ next, ops.zero state item = (.ok (), next) ∧
    Wrote item.pageStart item.pageLength (List.replicate item.pageLength 0)
      (memory state) (memory next)
  copies : ∀ state item source target,
    copyTarget item source (window (memory state) item.pageStart item.pageLength) = .ok target →
    ∃ next, ops.copy state item source = (.ok (), next) ∧
      Wrote item.pageStart item.pageLength target (memory state) (memory next)
  verifies : ∀ state item source,
    verifyTarget item source (window (memory state) item.pageStart item.pageLength) = .ok () →
    ∃ next, ops.verify state item source = (.ok (), next) ∧ memory next = memory state

variable {ops : SegmentBackend β ε} {memory : β → Nat → UInt8} {items : List LoadItem}

/-- The address lies in the page range of one of the items. -/
def InItems (items : List LoadItem) (address : Nat) : Prop :=
  ∃ item ∈ items, item.pageStart ≤ address ∧ address < item.pageStart + item.pageLength

theorem allocateTargets_succeeds (backed : ByteBacked ops memory)
    (pages : ∀ item ∈ items, item.pageCount * loadPageSize = item.pageLength) (backend : β)
    (done : List (OwnedAllocation × Bool)) :
    ∃ owner, allocateTargets ops.toPageBackend backend done (items.map LoadItem.allocation) =
        .ok owner ∧
      ∀ address, ¬ InItems items address → memory owner.backend address = memory backend address := by
  induction items generalizing backend done with
  | nil => exact ⟨⟨backend, done⟩, rfl, fun _ _ => rfl⟩
  | cons item rest ih =>
      obtain ⟨next, granted, outside⟩ := backed.allocates backend item.pageStart item.pageCount
      obtain ⟨owner, ran, kept⟩ := ih (fun other member =>
        pages other (List.mem_cons_of_mem _ member)) next (done ++ [(item.allocation, true)])
      refine ⟨owner, ?_, ?_⟩
      · simp only [List.map_cons, allocateTargets, LoadItem.allocation, granted]
        exact ran
      · intro address away
        have awayRest : ¬ InItems rest address := by
          intro inside
          obtain ⟨other, member, around⟩ := inside
          exact away ⟨other, List.mem_cons_of_mem _ member, around⟩
        rw [kept address awayRest, outside address]
        rw [pages item (by simp)]
        intro around
        exact away ⟨item, by simp, around⟩

/-- A pass whose operation fills the window of each item, given what stood
there when the pass began. -/
theorem workTargets_passes {kind : LoadWorkKind} {work : β → LoadItem → Except ε Unit × β}
    {content : LoadItem → List UInt8} (owner : TargetOwnership β)
    (apart : items.Pairwise fun left right => ¬ PagesMeet left right)
    (works : ∀ state, ∀ item ∈ items, window (memory state) item.pageStart item.pageLength =
        window (memory owner.backend) item.pageStart item.pageLength →
      ∃ next, work state item = (.ok (), next) ∧
        Wrote item.pageStart item.pageLength (content item) (memory state) (memory next)) :
    ∃ backend, workTargets kind work owner items = .ok { owner with backend } ∧
      Passed LoadItem.pageStart LoadItem.pageLength content items (memory owner.backend)
        (memory backend) := by
  induction items generalizing owner with
  | nil => exact ⟨owner.backend, rfl, .nil⟩
  | cons item rest ih =>
      obtain ⟨itemApart, restApart⟩ := List.pairwise_cons.mp apart
      have separate : ∀ other ∈ rest, item.pageStart + item.pageLength ≤ other.pageStart ∨
          other.pageStart + other.pageLength ≤ item.pageStart := by
        intro other member
        have clear := itemApart other member
        simp only [PagesMeet] at clear
        omega
      obtain ⟨next, worked, wrote⟩ := works owner.backend item (by simp) rfl
      -- The windows still to come are as they were.
      have untouched : ∀ other ∈ rest, window (memory next) other.pageStart other.pageLength =
          window (memory owner.backend) other.pageStart other.pageLength := by
        intro other member
        refine window_congr ?_
        intro offset below
        refine wrote.outside _ ?_
        have clear := separate other member
        omega
      obtain ⟨backend, ran, passed⟩ := ih { owner with backend := next } restApart (by
        intro state other member same
        exact works state other (List.mem_cons_of_mem _ member)
          (same.trans (untouched other member)))
      refine ⟨backend, ?_, .cons wrote passed separate⟩
      simp only [workTargets, worked]
      exact ran

/-- The four phases succeed and leave every item's range loaded. -/
theorem prepareTargets_passes (backed : ByteBacked ops memory) {plan : LoadPlan}
    {source : List UInt8}
    (made : ∀ item ∈ plan.items, ∃ segment, Made source.length segment item) (backend : β) :
    ∃ owner, prepareTargets ops plan source backend = .ok ⟨some owner⟩ ∧
      (∀ item ∈ plan.items, window (memory owner.backend) item.pageStart item.pageLength =
        loadedBytes source item) ∧
      ∀ address, ¬ InItems plan.items address →
        memory owner.backend address = memory backend address := by
  have pages : ∀ item ∈ plan.items, item.pageCount * loadPageSize = item.pageLength := by
    intro item member
    obtain ⟨segment, made⟩ := made item member
    exact made.pages
  obtain ⟨allocated, allocatedRan, allocatedKept⟩ :=
    allocateTargets_succeeds backed pages backend []
  obtain ⟨zeroed, zeroedRan, zeroedPass⟩ := @workTargets_passes β ε memory plan.items .zero
    ops.zero (fun item => List.replicate item.pageLength 0) allocated plan.apart
    (fun state item _ _ => backed.zeroes state item)
  obtain ⟨copied, copiedRan, copiedPass⟩ := @workTargets_passes β ε memory plan.items .copy
    (fun state item => ops.copy state item source) (loadedBytes source)
    { allocated with backend := zeroed } plan.apart (by
      intro state item member same
      obtain ⟨segment, made⟩ := made item member
      refine backed.copies state item source _ ?_
      have initialized := initializeTarget_loads made
        (@length_window _ (memory state) item.pageStart item.pageLength)
      rw [initializeTarget, length_window] at initialized
      rw [same, zeroedPass.inside item member]
      exact initialized)
  obtain ⟨verified, verifiedRan, verifiedPass⟩ := @workTargets_passes β ε memory plan.items .verify
    (fun state item => ops.verify state item source) (loadedBytes source)
    { allocated with backend := copied } plan.apart (by
      intro state item member same
      obtain ⟨segment, made⟩ := made item member
      have stands := same.trans (copiedPass.inside item member)
      obtain ⟨next, accepted, unchanged⟩ := backed.verifies state item source (by
        rw [stands]
        exact verifyTarget_accepts made)
      refine ⟨next, accepted, ?_⟩
      rw [unchanged]
      exact wrote_same stands)
  refine ⟨{ allocated with backend := verified }, ?_, verifiedPass.inside, ?_⟩
  · have listed : (TargetOwnership.new plan backend).slots.map Prod.fst =
        plan.items.map LoadItem.allocation := by
      simp [TargetOwnership.new]
    simp only [prepareTargets, listed]
    simp only [TargetOwnership.new, allocatedRan, zeroedRan, copiedRan, verifiedRan, ok_bind]
  · intro address away
    have clear : ∀ item ∈ plan.items,
        ¬ (item.pageStart ≤ address ∧ address < item.pageStart + item.pageLength) := by
      intro item member around
      exact away ⟨item, member, around⟩
    calc memory verified address
        = memory copied address := verifiedPass.outside address clear
      _ = memory zeroed address := copiedPass.outside address clear
      _ = memory allocated.backend address := zeroedPass.outside address clear
      _ = memory backend address := allocatedKept address away

/-- A segment's pages, once its item's window is loaded. -/
theorem Made.pages_loaded {source : List UInt8} {segment : SegmentSpec} {item : LoadItem}
    {bytes : Nat → UInt8} (made : Made source.length segment item)
    (loaded : window bytes item.pageStart item.pageLength = loadedBytes source item) :
    (∀ k < segment.fileSize, source[segment.fileOffset + k]? =
      some (bytes (segment.target + k))) ∧
    ∀ address, segment.InPages address →
      ¬ (segment.target ≤ address ∧ address < segment.target + segment.fileSize) →
      bytes address = 0 := by
  obtain ⟨inMemory, inPages, _⟩ := made.sizes
  have start : item.pageStart = segment.target := made.pageStart.trans made.target
  have byte : ∀ offset < item.pageLength, (loadedBytes source item)[offset]? =
      some (bytes (segment.target + offset)) := by
    intro offset below
    rw [← loaded, getElem?_window below, start]
  refine ⟨?_, ?_⟩
  · intro k inFile
    have below : k < item.fileSize := made.fileSize ▸ inFile
    rw [← made.sourceOffset, ← loadedBytes_file made below]
    exact byte k (by omega)
  · intro address paged pastFile
    obtain ⟨low, high⟩ := paged
    have stop := made.pageEnd
    have first := made.target
    have size := made.fileSize
    have offset := byte (address - segment.target) (by omega)
    rw [loadedBytes_zero made (by omega) (by omega), Option.some.injEq] at offset
    rw [offset]
    congr 1
    omega

/-- For every plan `build` makes and any backend over bytes, `prepare_targets`
succeeds.  Every segment's file bytes then stand at its target, the rest of its
pages is zero, and nothing else in memory has changed. -/
theorem prepareTargets_loads (backed : ByteBacked ops memory) {entry : Nat}
    {segments : List SegmentSpec} {allocation : SourceAllocation} {plan : LoadPlan}
    (built : LoadPlan.build entry segments allocation = .ok plan) {source : List UInt8}
    (length : source.length = allocation.fileLength) (backend : β) :
    ∃ owner, prepareTargets ops plan source backend = .ok ⟨some owner⟩ ∧
      (∀ segment ∈ segments,
        (∀ k < segment.fileSize, source[segment.fileOffset + k]? =
          some (memory owner.backend (segment.target + k))) ∧
        ∀ address, segment.InPages address →
          ¬ (segment.target ≤ address ∧ address < segment.target + segment.fileSize) →
          memory owner.backend address = 0) ∧
      (∀ address, (∀ segment ∈ segments, ¬ segment.InPages address) →
        memory owner.backend address = memory backend address) ∧
      ∀ address, allocation.InPages address →
        memory owner.backend address = memory backend address := by
  have places := LoadPlan.build_places built
  obtain ⟨owner, ran, loaded, kept⟩ := @prepareTargets_passes β ε ops memory backed plan source (by
    intro item member
    obtain ⟨segment, _, made⟩ := places.wanted item member
    exact ⟨segment, length ▸ made⟩) backend
  refine ⟨owner, ran, ?_, ?_, ?_⟩
  · intro segment member
    obtain ⟨item, inPlan, made⟩ := places.planned segment member
    rw [← length] at made
    exact made.pages_loaded (loaded item inPlan)
  · intro address outside
    refine kept address ?_
    intro inside
    obtain ⟨item, inPlan, low, high⟩ := inside
    obtain ⟨segment, member, made⟩ := places.wanted item inPlan
    refine outside segment member ⟨?_, ?_⟩
    · exact made.pageStart ▸ low
    · exact made.pageEnd ▸ high
  · intro address inSource
    refine kept address ?_
    intro inside
    obtain ⟨item, inPlan, around⟩ := inside
    exact places.clear item inPlan address inSource around

/-! ## A byte memory -/

/-- The three operations of the firmware backend, on a memory that grants every
allocation. -/
def memoryBackend : SegmentBackend (Nat → UInt8) MemoryError where
  allocateAt memory _ _ := (.ok (), memory)
  free memory _ _ := (.ok (), memory)
  zero memory item := (.ok (), store memory item.pageStart (List.replicate item.pageLength 0))
  copy memory item source :=
    match copyTarget item source (window memory item.pageStart item.pageLength) with
    | .error reason => (.error reason, memory)
    | .ok target => (.ok (), store memory item.pageStart target)
  verify memory item source :=
    (verifyTarget item source (window memory item.pageStart item.pageLength), memory)

theorem length_copyTarget {item : LoadItem} {source target copied : List UInt8}
    (ran : copyTarget item source target = .ok copied) : copied.length = target.length := by
  simp only [copyTarget, bind_eq_ok, okOr_eq_ok, toWord_eq_some, checkedAdd_eq_some, guard_eq_ok,
    getRange, Option.ite_none_right_eq_some, Option.some.injEq, Except.ok.injEq] at ran
  obtain ⟨_, _, _, sourceStart, _, fileSize, _, _, ⟨_, rfl⟩, copyStart, _, _, ⟨_, rfl⟩, _,
    ⟨inSource, rfl⟩, _, ⟨inTarget, _⟩, rfl⟩ := ran
  simp only [List.length_append, List.length_take, List.length_drop]
  omega

theorem memoryBackend_byteBacked : ByteBacked memoryBackend id where
  allocates := fun memory _ _ => ⟨memory, rfl, fun _ _ => rfl⟩
  zeroes := fun memory item => ⟨_, rfl, wrote_store (by simp)⟩
  copies := by
    intro memory item source target copied
    refine ⟨store memory item.pageStart target, ?_, wrote_store ?_⟩
    · simp only [memoryBackend]
      rw [show window memory item.pageStart item.pageLength =
        window (id memory) item.pageStart item.pageLength from rfl, copied]
    · rw [length_copyTarget copied, length_window]
  verifies := by
    intro memory item source accepted
    exact ⟨memory, Prod.ext accepted rfl, rfl⟩

/-- Two file bytes and three zero bytes. -/
def sampleSegment : SegmentSpec := ⟨1, 2, 5, 0x20_0000, 5⟩

/-- One file byte, and zeros into a second page. -/
def dataSegment : SegmentSpec := ⟨0, 1, 0x1400, 0x20_2000, 6⟩

def sampleSource : SourceAllocation := ⟨0x10_0000, 1, 3⟩

/-- Two segments with an untouched page between them. -/
theorem prepareTargets_loads_sample :
    ∃ plan owner,
      LoadPlan.build 0x20_0000 [dataSegment, sampleSegment] sampleSource = .ok plan ∧
      prepareTargets memoryBackend plan [7, 8, 9] (fun _ => 0xff) = .ok ⟨some owner⟩ ∧
      owner.backend 0x20_0000 = 8 ∧ owner.backend 0x20_0fff = 0 ∧
      owner.backend 0x20_1000 = 0xff ∧ owner.backend 0x20_2000 = 7 ∧
      owner.backend 0x20_3fff = 0 := by
  have accepted : (LoadPlan.build 0x20_0000 [dataSegment, sampleSegment] sampleSource).isOk =
      true := by decide +kernel
  obtain ⟨plan, built⟩ := exists_of_isOk accepted
  obtain ⟨owner, ran, loaded, kept, _⟩ := prepareTargets_loads memoryBackend_byteBacked built
    (show [7, 8, 9].length = sampleSource.fileLength from rfl) fun _ => 0xff
  obtain ⟨file, rest⟩ := loaded sampleSegment (by simp)
  obtain ⟨dataFile, dataRest⟩ := loaded dataSegment (by simp)
  refine ⟨plan, owner, built, ran, ?_, ?_, ?_, ?_, ?_⟩
  · simpa [sampleSegment] using (file 0 (by decide)).symm
  · exact rest 0x20_0fff ⟨by decide, by decide⟩ (by decide)
  · refine kept 0x20_1000 ?_
    simp [sampleSegment, dataSegment, SegmentSpec.InPages, SegmentSpec.pageStart,
      SegmentSpec.pageEnd]
  · simpa [dataSegment] using (dataFile 0 (by decide)).symm
  · exact dataRest 0x20_3fff ⟨by decide, by decide⟩ (by decide)

end UnnamedOS.Loader
