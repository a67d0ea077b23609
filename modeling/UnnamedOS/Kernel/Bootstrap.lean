import UnnamedOS.Kernel.Handoff
import UnnamedOS.Loader.ExitProtocol
import UnnamedOS.Loader.PublishedMemory

namespace UnnamedOS.Kernel

open UnnamedOS.Data UnnamedOS.BootProtocol UnnamedOS.MemoryMap UnnamedOS.Loader UnnamedOS.PageTable

/-! # The kernel's side of the jump

The kernel trusts nothing but its registers: it reads the wire block and the
descriptors out of memory, which is mapped to itself, and checks both again. -/

def stackBytes : Nat := 64 * 1024
def stackCanary : Nat := 0x554e_4f53_5354_414b

structure HandoffInputs where
  bootInfoAddress : Nat
  stackBottom : Nat
  stackTop : Nat
  entryRsp : Nat
deriving DecidableEq, Repr

def validateHandoffInputs (input : HandoffInputs) : Except KernelValidationError Unit :=
  if input.bootInfoAddress = 0 ∨ ¬ input.bootInfoAddress % 8 = 0 then .error .pointer
  else if ¬ input.stackBottom % 4096 = 0 ∨ ¬ input.stackTop % 16 = 0 ∨
      input.entryRsp ≠ input.stackTop then .error .stack
  else if checkedSub input.stackTop input.stackBottom ≠ some stackBytes then .error .stack
  else .ok ()

def validateCanary (observed : Nat) : Except KernelValidationError Unit :=
  if observed = stackCanary then .ok () else .error .stack

/-- The ranges that must not be usable; `kernel` is the range between the
linker's symbols. -/
def bootTargets (kernel : PhysicalRange) (inputs : HandoffInputs) (boot : BootInfo) :
    Option (List PhysicalRange) := do
  let bootInfoEnd ← checkedAdd inputs.bootInfoAddress bootInfoSize
  let mapEnd ← checkedAdd boot.memoryMap.physicalAddress boot.memoryMap.byteLength
  some [kernel, ⟨inputs.stackBottom, inputs.stackTop⟩, ⟨inputs.bootInfoAddress, bootInfoEnd⟩,
    ⟨boot.memoryMap.physicalAddress, mapEnd⟩]

section

variable {φ : Type}

/-- `kernel_bootstrap`; the result is the code for the debug port. -/
def kernelBootstrap (kernel : PhysicalRange) (inputs : HandoffInputs) :
    Program (Machine φ) BootStop Nat := do
  writeLine "UNOS:P1I:KERNEL_ENTRY"
  orFail (validateHandoffInputs inputs).toOption "UNOS:P1I:FAIL"
  let memory ← readMemory
  let bootInfo := BootInfo.record.load memory inputs.bootInfoAddress
  orFail (validateCanary (loadWord memory inputs.stackBottom)).toOption "UNOS:P1I:FAIL"
  writeLine "UNOS:P1I:STACK_OK"
  let _ ← orFail bootInfo.validate.toOption "UNOS:P1I:FAIL"
  writeLine "UNOS:P1I:BOOTINFO_OK"
  let mapPointer := bootInfo.memoryMap.physicalAddress
  if mapPointer = 0 ∨ ¬ mapPointer % memoryDescriptorAlignment = 0 then
    postExitFailure "UNOS:P1I:FAIL"
  else do
    let descriptors := MemoryDescriptor.record.loadAll memory mapPointer
      bootInfo.memoryMap.descriptorCount
    let targets ← orFail (bootTargets kernel inputs bootInfo) "UNOS:P1I:FAIL"
    orFail (validateBootState bootInfo descriptors targets).toOption "UNOS:P1I:FAIL"
    writeLine "UNOS:P1I:MEMORY_MAP_OK"
    writeLine "UNOS:P1I:PASS"
    pure 0x10

end

/-! ## The jump -/

/-- What the processor holds when the loader has jumped. -/
structure EntryRegisters where
  rip : Nat
  rdi : Nat
  rsi : Nat
  rdx : Nat
  rsp : Nat
deriving DecidableEq, Repr

/-- The registers that `jump_to_kernel` sets before `jmp rax`. -/
def entryRegisters (arguments : KernelArguments) : EntryRegisters where
  rip := arguments.entry
  rdi := arguments.bootInfo
  rsi := arguments.stackBottom
  rdx := arguments.stackTop
  rsp := arguments.stackTop

/-- The length of `mov rcx, rsp` and `call kernel_bootstrap`. -/
def startCallLength : Nat := 3 + 5

/-- The call leaves the address of the instruction behind it on the stack. -/
def calledMemory (registers : EntryRegisters) (memory : Nat → UInt8) : Nat → UInt8 :=
  store memory (registers.rsp - 8) (leBytes 8 (registers.rip + startCallLength))

/-- What the code at `rip` does, for any value of the registers. -/
abbrev Code (φ : Type) : Type := EntryRegisters → Program (Machine φ) BootStop Nat

section

variable {φ : Type}

/-- `_start`: the stack pointer is copied before the call moves it. -/
def start (kernel : PhysicalRange) : Code φ := fun registers => do
  writeMemory (calledMemory registers)
  kernelBootstrap kernel ⟨registers.rdi, registers.rsi, registers.rdx, registers.rsp⟩

/-- What the loader jumps to runs. -/
def startKernel (code : Code φ) (arguments : KernelArguments) : Program (Machine φ) BootStop Nat :=
  code (entryRegisters arguments)

end

def kernelLines : List String :=
  ["UNOS:P1I:KERNEL_ENTRY", "UNOS:P1I:STACK_OK", "UNOS:P1I:BOOTINFO_OK", "UNOS:P1I:MEMORY_MAP_OK",
    "UNOS:P1I:PASS"]

/-- The run has left through the debug port after these lines.  Nothing is said
of the memory: what the kernel's own frames leave on its stack is not followed. -/
def ExitsWith {φ : Type} (machine : Machine φ) (code : Nat) (texts : List String)
    (outcome : Except BootStop Nat × Machine φ) : Prop :=
  ∃ memory, outcome = (.ok code, (machine.withMemory memory).say texts)

theorem ExitsWith.after {φ : Type} {machine : Machine φ} {memory : Nat → UInt8} {code : Nat}
    {first texts : List String} {outcome : Except BootStop Nat × Machine φ}
    (exits : ExitsWith ((machine.withMemory memory).say first) code texts outcome) :
    ExitsWith machine code (first ++ texts) outcome := by
  obtain ⟨left, rfl⟩ := exits
  refine ⟨left, ?_⟩
  rw [say_withMemory, withMemory_withMemory, say_say]

theorem kernelBootstrap_passes {φ : Type} {kernel : PhysicalRange} {inputs : HandoffInputs}
    {machine : Machine φ} {boot : BootInfo} {validated : ValidatedBootInfo}
    {targets : List PhysicalRange}
    (registers : validateHandoffInputs inputs = .ok ())
    (block : BootInfo.record.load machine.hardware.memory inputs.bootInfoAddress = boot)
    (canary : loadWord machine.hardware.memory inputs.stackBottom = stackCanary)
    (wire : boot.validate = .ok validated)
    (pointer : ¬ (boot.memoryMap.physicalAddress = 0 ∨
      ¬ boot.memoryMap.physicalAddress % memoryDescriptorAlignment = 0))
    (ranges : bootTargets kernel inputs boot = some targets)
    (accepted : validateBootState boot (MemoryDescriptor.record.loadAll machine.hardware.memory
      boot.memoryMap.physicalAddress boot.memoryMap.descriptorCount) targets = .ok ()) :
    kernelBootstrap kernel inputs machine = (.ok 0x10, machine.say kernelLines) := by
  have intact : validateCanary (loadWord machine.hardware.memory inputs.stackBottom) = .ok () :=
    if_pos canary
  rw [kernelBootstrap, Program.bind_of_ok writeLine_run, Program.bind_of_ok (orFail_ok registers),
    Program.bind_of_ok readMemory_run, say_hardware]
  simp only [block]
  rw [Program.bind_of_ok (orFail_ok intact), Program.bind_of_ok writeLine_run,
    Program.bind_of_ok (orFail_ok wire), Program.bind_of_ok writeLine_run, if_neg pointer, ranges,
    Program.bind_of_ok orFail_some, Program.bind_of_ok (orFail_ok accepted)]
  simp only [Program.bind_of_ok writeLine_run, Program.pure_run, say_say]
  rfl

/-! ## From the loader's last state to the kernel's last line -/

/-- The linker's range lies in the pages of the segments. -/
structure LiesIn (segments : List SegmentMetadata) (kernel : PhysicalRange) : Prop where
  proper : kernel.start < kernel.stop
  covered : ∀ address, kernel.Contains address → ∃ segment ∈ segments,
    (segmentReservation segment).Contains address

/-- The segments are those of the kernel, and its `_start` is their entry point. -/
structure Linked {φ : Type} (entryPoint : Nat) (segments : List SegmentMetadata) (code : Code φ)
    (kernel : PhysicalRange) : Prop extends LiesIn segments kernel where
  entry : ∀ registers, registers.rip = entryPoint → code registers = start kernel registers

section

variable {φ : Type} {transferred : TransferredHandoff} {stack : TransferredBootstrapStack}
  {tables : TransferredActivationPreparedPageTables} {frames : List PhysicalFrame}
  {mapped base : List MemoryDescriptor} {items : List Reservation} {final : FinalDescriptors}
  {finalMap : CapturedMapMeta} {machine : Machine φ} {bootInfo : BootInfo} {code : Code φ}
  {kernel : PhysicalRange}

theorem nonUsable_of_reserved (map : FinalMapOf transferred stack frames mapped base items final)
    {address : Nat} (reserved : ∃ reservation ∈ items,
      reservation.source ≠ .framebuffer ∧ reservation.Contains address) :
    NonUsable final.live address ∧ ¬ Usable final.live address := by
  obtain ⟨reservation, listed, plain, contains⟩ := reserved
  refine OverlayOf.nonUsable map.overlay ?_ listed plain contains
  intro other inItems usable
  have known := map.claims.kinds other inItems
  rw [usable] at known
  exact absurd known (by decide)

/-- A range inside the reservations passes the kernel's walk. -/
theorem coveredNonUsable_of_reserved
    (map : FinalMapOf transferred stack frames mapped base items final) {range : PhysicalRange}
    (reserved : ∀ address, range.Contains address → ∃ reservation ∈ items,
      reservation.source ≠ .framebuffer ∧ reservation.Contains address) :
    coveredNonUsable range final.live = .ok true := by
  refine coveredFrom_of_nonUsable (fun _ member => map.valid member) ?_
  intro address low high
  exact nonUsable_of_reserved map (reserved address ⟨low, high⟩)

theorem validateHandoffInputs_delivered (delivered : Delivered transferred stack tables)
    {address : Nat} (nonzero : address ≠ 0) (aligned : address % 4096 = 0) :
    validateHandoffInputs ⟨address, stack.bottom, stack.top, stack.top⟩ = .ok () := by
  obtain ⟨bottom, top⟩ := delivered.stackBounds
  have size : checkedSub stack.top stack.bottom = some stackBytes := by
    rw [top, checkedSub]
    simp [stackBytes]
  simp only [validateHandoffInputs, size]
  rw [if_neg (by omega), if_neg (by simp only [ne_eq, not_true_eq_false, or_false]; omega),
    if_neg (by simp)]

/-- Each of the four ranges lies in what the loader has reserved. -/
theorem bootTargets_reserved (delivered : Delivered transferred stack tables)
    (map : FinalMapOf transferred stack tables.frames mapped base items final)
    (finalized : Finalized transferred stack tables finalMap machine final bootInfo)
    (image : LiesIn transferred.segments kernel) :
    ∃ targets, bootTargets kernel ⟨transferred.bootInfoAddress, stack.bottom, stack.top, stack.top⟩
        bootInfo = some targets ∧
      ∀ range ∈ targets, range.start < range.stop ∧ ∀ address, range.Contains address →
        ∃ reservation ∈ items, reservation.source ≠ .framebuffer ∧
          reservation.Contains address := by
  obtain ⟨rfl, validated, wire⟩ := buildBootInfo_eq_ok finalized.built
  obtain ⟨byteLength, shape⟩ := validate_memoryMap wire
  obtain ⟨_, _, _, _, _, bytes, _, bounded⟩ := validateMemoryMap_eq_ok.mp shape
  obtain ⟨_, stackTop⟩ := delivered.stackBounds
  obtain ⟨_, room⟩ := checkBuffers_eq_some finalized.buffers
  obtain ⟨page, _, limit⟩ := (map.claims.wellFormed _ map.claims.bootInfo).spec
  have short := map.bounded
  have positive := List.length_pos_of_ne_nil map.nonempty
  rw [← map.liveLength] at short
  simp only [BootInfo.new, memoryMapInfo, allocationReservation, Reservation.stop, memoryPageSize,
    convertedDescriptorCapacity, memoryDescriptorSize] at bytes bounded room page limit short
  have infoEnd : checkedAdd transferred.bootInfoAddress bootInfoSize =
      some (transferred.bootInfoAddress + bootInfoSize) := by
    rw [checkedAdd_eq_some, finalized.address, bootInfoSize]
    exact ⟨by omega, rfl⟩
  have mapEnd : checkedAdd transferred.allocations.convertedMap.pageStart
      (final.live.length * memoryDescriptorSize) =
      some (transferred.allocations.convertedMap.pageStart +
        final.live.length * memoryDescriptorSize) := by
    rw [checkedAdd_eq_some, memoryDescriptorSize]
    exact ⟨by omega, rfl⟩
  have stackProper : stack.bottom < stack.top := by omega
  have infoProper : transferred.bootInfoAddress < transferred.bootInfoAddress + bootInfoSize :=
    Nat.lt_add_of_pos_right (by decide)
  have mapProper : transferred.allocations.convertedMap.pageStart <
      transferred.allocations.convertedMap.pageStart +
        final.live.length * memoryDescriptorSize :=
    Nat.lt_add_of_pos_right (Nat.mul_pos positive (by decide))
  refine ⟨[kernel, ⟨stack.bottom, stack.top⟩,
    ⟨transferred.bootInfoAddress, transferred.bootInfoAddress + bootInfoSize⟩,
    ⟨transferred.allocations.convertedMap.pageStart,
      transferred.allocations.convertedMap.pageStart +
        final.live.length * memoryDescriptorSize⟩], ?_, ?_⟩
  · simp only [bootTargets, BootInfo.new, memoryMapInfo, infoEnd, mapEnd, Option.bind_eq_bind,
      Option.bind_some]
  · simp only [List.forall_mem_cons, List.not_mem_nil, false_imp_iff, implies_true, and_true]
    refine ⟨⟨image.proper, ?_⟩, ⟨stackProper, ?_⟩, ⟨infoProper, ?_⟩, ⟨mapProper, ?_⟩⟩
    · intro address inside
      obtain ⟨segment, listed, contains⟩ := image.covered address inside
      exact ⟨_, map.claims.segments segment listed, by simp [segmentReservation], contains⟩
    · intro address inside
      obtain ⟨low, high⟩ := inside
      have high : address < stack.top := high
      refine ⟨_, map.claims.stackPages, by simp [stackReservation], low, ?_⟩
      simp only [Reservation.stop, stackReservation, bootstrapStackPages, memoryPageSize]
      omega
    · intro address inside
      obtain ⟨low, high⟩ := inside
      simp only [finalized.address, bootInfoSize] at low high
      refine ⟨_, map.claims.bootInfo, by simp [allocationReservation], low, ?_⟩
      simp only [Reservation.stop, allocationReservation, memoryPageSize]
      omega
    · intro address inside
      obtain ⟨low, high⟩ := inside
      simp only [memoryDescriptorSize] at high
      refine ⟨_, map.claims.converted, by simp [allocationReservation], low, ?_⟩
      simp only [Reservation.stop, allocationReservation, memoryPageSize]
      omega

/-- The return address that `_start` pushes stands in the stack's pages, which
hold neither the wire block nor the map, and far above the canary. -/
theorem calledMemory_keeps (delivered : Delivered transferred stack tables)
    (map : FinalMapOf transferred stack tables.frames mapped base items final)
    (finalized : Finalized transferred stack tables finalMap machine final bootInfo)
    (entry : Nat) (memory : Nat → UInt8) :
    let called := calledMemory (entryRegisters
      ⟨entry, transferred.bootInfoAddress, stack.bottom, stack.top⟩) memory
    BootInfo.record.load called transferred.bootInfoAddress =
        BootInfo.record.load memory transferred.bootInfoAddress ∧
      loadWord called stack.bottom = loadWord memory stack.bottom ∧
      MemoryDescriptor.record.loadAll called transferred.allocations.convertedMap.pageStart
          final.live.length =
        MemoryDescriptor.record.loadAll memory transferred.allocations.convertedMap.pageStart
          final.live.length := by
  intro called
  obtain ⟨_, top⟩ := delivered.stackBounds
  have room := (checkBuffers_eq_some finalized.buffers).2
  have short := map.bounded
  rw [← map.liveLength] at short
  have fromWire := map.claims.apart map.claims.stackPages map.claims.bootInfo
    (by simp [stackReservation, allocationReservation])
  have fromMap := map.claims.apart map.claims.stackPages map.claims.converted
    (by simp [stackReservation, allocationReservation])
  have page := (map.claims.wellFormed _ map.claims.bootInfo).spec.1
  have sizes : MemoryDescriptor.record.size = 32 ∧ BootInfo.record.size = 128 := ⟨rfl, rfl⟩
  simp only [Reservation.stop, stackReservation, allocationReservation, bootstrapStackPages,
    memoryPageSize, convertedDescriptorCapacity, memoryDescriptorSize]
    at room short fromWire fromMap page
  refine ⟨Record.load_store ?_, congrArg leValue (window_store_apart ?_), Record.loadAll_store ?_⟩
  · simp only [entryRegisters, length_leBytes, finalized.address, sizes.2]
    omega
  · simp only [entryRegisters, length_leBytes]
    omega
  · simp only [entryRegisters, length_leBytes, sizes.1]
    omega

/-- On the machine that the loader leaves, the kernel gets to its last line. -/
theorem startKernel_passes (delivered : Delivered transferred stack tables)
    (map : FinalMapOf transferred stack tables.frames mapped base items final)
    (finalized : Finalized transferred stack tables finalMap machine final bootInfo)
    (linked : Linked transferred.kernelEntry transferred.segments code kernel)
    (screen : transferred.framebuffer.Fits) {arguments : KernelArguments}
    (passed : arguments =
      ⟨transferred.kernelEntry, transferred.bootInfoAddress, stack.bottom, stack.top⟩) :
    let left := (machine.withMemory (publishedMemory transferred machine.hardware.memory final
      bootInfo)).say finalizeLines
    ExitsWith left 0x10 kernelLines (startKernel code arguments left) := by
  intro left
  subst passed
  obtain ⟨targets, ranges, reserved⟩ := bootTargets_reserved delivered map finalized linked.toLiesIn
  obtain ⟨same, validated, wire⟩ := buildBootInfo_eq_ok finalized.built
  obtain ⟨byteLength, shape⟩ := validate_memoryMap wire
  obtain ⟨pointer, _, _, _, _, bytes, length, bounded⟩ := validateMemoryMap_eq_ok.mp shape
  have mapInfo : bootInfo.memoryMap = memoryMapInfo transferred.allocations.convertedMap.pageStart
      final.live.length finalMap.descriptorVersion (final.live.length * memoryDescriptorSize) := by
    rw [same]
    rfl
  have aligned := (map.claims.wellFormed _ map.claims.converted).spec.2.1
  have descriptors := loadAll_publishedMemory map finalized machine.hardware.memory
  rw [← map.liveLength] at descriptors
  obtain ⟨block, word, list⟩ := calledMemory_keeps delivered map finalized transferred.kernelEntry
    left.hardware.memory
  rw [startKernel, linked.entry _ rfl, start, Program.bind_of_ok writeMemory_run]
  refine ⟨_, kernelBootstrap_passes
    (validateHandoffInputs_delivered delivered finalized.addressNonzero
      (finalized.address ▸ map.bootInfo_aligned))
    (block.trans (load_publishedMemory finalized screen machine.hardware.memory)) ?_ wire ?_ ranges
    ?_⟩
  · have canary := finalized.canary
    rw [delivered.canaryAddress, delivered.canaryValue] at canary
    exact word.trans canary
  · rw [mapInfo] at pointer ⊢
    simp only [memoryMapInfo, allocationReservation, memoryPageSize,
      memoryDescriptorAlignment] at aligned pointer ⊢
    omega
  · rw [mapInfo]
    simp only [memoryMapInfo, withMemory_memory]
    rw [list.trans descriptors]
    refine validateBootState_eq_ok.mpr ⟨⟨validated, wire⟩, ?_, ?_, ?_, ?_,
      fun _ member => map.valid member, ?_⟩
    · rw [mapInfo]
      rfl
    · rw [mapInfo]
      rfl
    · rw [mapInfo] at bounded bytes
      simp only [memoryMapInfo] at bounded bytes
      omega
    · rw [mapInfo]
      rfl
    · intro range member
      obtain ⟨proper, inside⟩ := reserved range member
      exact ⟨proper, coveredNonUsable_of_reserved map inside⟩

end

/-- The end of the boot: the loader after `ExitBootServices`, then the kernel. -/
def bootKernel {φ : Type} (transferred : TransferredHandoff) (finalMap : CapturedMapMeta)
    (rawStart rawLength : Nat) (code : Code φ) : Program (Machine φ) BootStop Nat := do
  let arguments ← finalizePostExit transferred finalMap rawStart rawLength
  startKernel code arguments

/-- Whatever map the firmware has left, a boot stops in the loader, at one of
five places, or the loader jumps to the entry point of the segments, and then
the kernel never refuses what it is given.  Of the pages that crossed, the
loader has at the jump changed only the two map buffers and the page of the
wire block. -/
theorem bootKernel_outcome {κ β σ ψ ε φ : Type} (frameOps : FrameBackend ψ ε)
    (ready : PageTableHandoffReady κ β σ ψ) (finalMap : CapturedMapMeta)
    (rawStart rawLength : Nat) (code : Code φ) (kernel : PhysicalRange)
    (linked : Linked ready.exit.kernel.entryPoint ready.exit.kernel.segments code kernel)
    (screen : ready.exit.bootInfo.framebuffer.Fits) (machine : Machine φ) :
    let transferred := (ready.crossExitBoundary frameOps).1
    let ended := bootKernel transferred finalMap rawStart rawLength code machine
    (∃ failure ∈ finalizeFailures,
      FailsWith machine (finalizeLines.take failure.1 ++ [failure.2]) ended) ∨
    ∃ arguments memory,
      finalizePostExit transferred finalMap rawStart rawLength machine =
        (.ok arguments, (machine.withMemory memory).say finalizeLines) ∧
      arguments.entry = ready.exit.kernel.entryPoint ∧
      (∀ segment ∈ ready.exit.kernel.segments, ∀ address,
        (segmentReservation segment).Contains address →
          memory address = machine.hardware.memory address) ∧
      (∀ address, ready.stack.bottom ≤ address → address < ready.stack.top →
        memory address = machine.hardware.memory address) ∧
      (∀ frame ∈ ready.pageTables.hierarchy.owner.frames, ∀ address, frame.address ≤ address →
        address < frame.address + memoryPageSize →
          memory address = machine.hardware.memory address) ∧
      ExitsWith machine 0x10 (finalizeLines ++ kernelLines) ended := by
  intro transferred ended
  have delivered := delivered_cross frameOps ready
  rcases finalizePostExit_cases delivered finalMap rawStart rawLength machine with
    ⟨failure, listed, fails⟩ | ⟨final, bootInfo, mapped, base, items, _, map, finalized, ran⟩
  · exact .inl ⟨failure, listed, fails.bind⟩
  · refine .inr ⟨_, publishedMemory transferred machine.hardware.memory final bootInfo, ran, rfl,
      ?_, ?_, ?_, ?_⟩
    · intro segment member address contains
      exact publishedMemory_outside map finalized (map.claims.segments segment member)
        (by simp [segmentReservation]) (by simp [segmentReservation])
        (by simp [segmentReservation]) contains _
    · intro address low high
      have contains : (stackReservation ready.stack.transfer.1).Contains address := ⟨low, high⟩
      exact publishedMemory_outside map finalized map.claims.stackPages (by simp [stackReservation])
        (by simp [stackReservation]) (by simp [stackReservation]) contains _
    · intro frame member address low high
      obtain ⟨run, listed, _, source, contains⟩ :=
        map.claims.framePages frame member address low high
      exact publishedMemory_outside map finalized listed (by simp [source]) (by simp [source])
        (by simp [source]) contains _
    · have continued : ended = _ := Program.bind_of_ok ran
      rw [continued]
      exact (startKernel_passes delivered map finalized linked screen rfl).after

/-- The firmware reports one range of conventional memory around all of it. -/
def lowMachine : Machine Unit :=
  (lowBoot ()).withMemory (store (lowBoot ()).hardware.memory 0x3_0000
    (UefiMemoryDescriptor.record.encode ⟨7, 0x1000, 0, 0x1000, 15⟩))

theorem bootKernel_outcome_lowReady :
    ExitsWith lowMachine 0x10 (finalizeLines ++ kernelLines)
      (bootKernel (lowReady.crossExitBoundary oneFrame).1 lowMap 0x3_0000 40
        (start ⟨0x20_0000, 0x20_1800⟩) lowMachine) := by
  have image : LiesIn lowReady.exit.kernel.segments ⟨0x20_0000, 0x20_1800⟩ := by
    refine ⟨by decide, ?_⟩
    intro address inside
    obtain ⟨low, high⟩ := inside
    refine ⟨_, List.mem_singleton_self _, low, Nat.lt_trans high (by decide)⟩
  have screen : lowReady.exit.bootInfo.framebuffer.Fits := by
    constructor <;> decide
  have runs : (bootKernel (lowReady.crossExitBoundary oneFrame).1 lowMap 0x3_0000 40
      (start ⟨0x20_0000, 0x20_1800⟩) lowMachine).1.isOk = true := by decide +kernel
  rcases bootKernel_outcome oneFrame lowReady lowMap 0x3_0000 40 _ _ ⟨image, fun _ _ => rfl⟩ screen
      lowMachine with
    ⟨_, _, _, stopped⟩ | ⟨_, _, _, _, _, _, _, exits⟩
  · rw [stopped] at runs
    contradiction
  · exact exits

end UnnamedOS.Kernel
