import UnnamedOS.KernelImage.Acceptance

namespace UnnamedOS.KernelImage

open UnnamedOS.Data

/-! # The validator decides acceptability

Each check of the parser is shown not to panic and to succeed exactly on its
part of `Acceptable`. -/

theorem rejected_ne_panic {error : ValidationError} : Failure.rejected error ≠ .panic := nofun

section

variable {bytes : Bytes}

theorem validateMagic_decides :
    Decides Failure.panic (validateMagic bytes)
      (4 ≤ bytes.length ∧ bytes.data.take 4 = elfMagic) := by
  unfold validateMagic
  apply Decides.congr (Decides.guard rejected_ne_panic fun long =>
    (?_ : Decides Failure.panic _ (bytes.data.take 4 = elfMagic)))
  · simp
  · have inside : 0 + 4 ≤ bytes.length := by omega
    have start : bytes.get 0 4 = some ⟨(bytes.data.take 4).toArray, by
        simp only [Bytes.length] at inside
        simp only [List.size_toArray, List.length_take]
        omega⟩ := by
      simp [Bytes.get, inside]
    apply Decides.step (congrArg unchecked start)
    apply (Decides.guard rejected_ne_panic fun _ => Decides.accept ()).congr
    simp

theorem validateHeader_decides {header : RawHeader} :
    Decides Failure.panic (validateHeader header) (HeaderAcceptable header) := by
  unfold validateHeader
  apply Decides.congr (.guard rejected_ne_panic fun _ => .guard rejected_ne_panic fun _ =>
    .guard rejected_ne_panic fun _ => .guard rejected_ne_panic fun _ =>
    .guard rejected_ne_panic fun _ => .guard rejected_ne_panic fun _ =>
    .guard rejected_ne_panic fun _ => .guard rejected_ne_panic fun _ =>
    .guard rejected_ne_panic fun _ => .guard rejected_ne_panic fun _ => .accept ())
  simp only [not_not, ne_eq, and_true, elfHeaderSize, programHeaderSize, maxProgramHeaders,
    gt_iff_lt, Nat.not_lt]
  constructor
  · intro holds
    obtain ⟨fileClass, endianness, identVersion, osAbi, objectType, machine, elfVersion, headerSize,
      entrySize, count⟩ := holds
    exact ⟨fileClass, endianness, identVersion, osAbi, objectType, machine, elfVersion, headerSize,
      entrySize, count⟩
  · intro acceptable
    exact ⟨acceptable.fileClass, acceptable.endianness, acceptable.identVersion, acceptable.osAbi,
      acceptable.objectType, acceptable.machine, acceptable.elfVersion, acceptable.headerSize,
      acceptable.programHeaderSize, acceptable.programHeaderCount⟩

theorem validateProgramTable_decides {header : RawHeader} :
    Decides Failure.panic (validateProgramTable ⟨bytes, header⟩)
      (header.programHeaderOffset + header.programHeaderSize * header.programHeaderCount ≤
        bytes.length) := by
  have bounded : bytes.length < wordLimit := bytes.bounded
  unfold validateProgramTable
  apply Decides.congr (.given rejected_ne_panic fun tableSize _ =>
    .given rejected_ne_panic fun tableEnd _ => .guard rejected_ne_panic fun _ => .accept ())
  simp only [checkedMul_eq_some, checkedAdd_eq_some, and_true, gt_iff_lt, Nat.not_lt]
  constructor
  · intro holds
    obtain ⟨_, ⟨_, product⟩, _, ⟨_, sum⟩, inside⟩ := holds
    omega
  · intro inside
    exact ⟨_, ⟨by omega, rfl⟩, _, ⟨by omega, rfl⟩, inside⟩

/-! ## Sections -/

/-- A symbol inside a table that lies in the file. -/
theorem validateSymbol_decides {fileOffset index : Nat}
    (inside : fileOffset + 24 * index + 24 ≤ bytes.length) :
    Decides Failure.panic (validateSymbol bytes fileOffset 24 index)
      (bytes.word 2 (fileOffset + 24 * index + 6) ≠ 0) := by
  have bounded : bytes.length < wordLimit := bytes.bounded
  have product : checkedMul index 24 = some (24 * index) :=
    checkedMul_eq_some.mpr ⟨by omega, Nat.mul_comm _ _⟩
  have symbol : checkedAdd fileOffset (24 * index) = some (fileOffset + 24 * index) :=
    checkedAdd_eq_some.mpr ⟨by omega, rfl⟩
  have position : checkedAdd (fileOffset + 24 * index) 6 = some (fileOffset + 24 * index + 6) :=
    checkedAdd_eq_some.mpr ⟨by omega, rfl⟩
  unfold validateSymbol
  apply Decides.step (congrArg (require · _) product)
  apply Decides.step (congrArg (require · _) symbol)
  apply Decides.step (congrArg unchecked position)
  apply Decides.step (require_inside _ (by omega))
  apply (Decides.guard rejected_ne_panic fun _ => Decides.accept ()).congr
  simp

theorem validateSymbolTable_decides {offset size : Nat} (inside : offset + 64 ≤ bytes.length) :
    Decides Failure.panic (validateSymbolTable bytes offset size)
      (SymbolsAcceptable bytes (bytes.word 8 (offset + 24)) (bytes.word 8 (offset + 56)) size) := by
  have bounded : bytes.length < wordLimit := bytes.bounded
  have offsetPosition : checkedAdd offset 24 = some (offset + 24) :=
    checkedAdd_eq_some.mpr ⟨by omega, rfl⟩
  have sizePosition : checkedAdd offset 56 = some (offset + 56) :=
    checkedAdd_eq_some.mpr ⟨by omega, rfl⟩
  unfold validateSymbolTable
  apply Decides.step (congrArg unchecked offsetPosition)
  apply Decides.step (require_inside _ (by omega))
  apply Decides.step (congrArg unchecked sizePosition)
  apply Decides.step (require_inside _ (by omega))
  generalize bytes.word 8 (offset + 24) = fileOffset
  generalize bytes.word 8 (offset + 56) = entrySize
  apply Decides.congr (.guard rejected_ne_panic fun shape => .given rejected_ne_panic
    fun stop found => .guard rejected_ne_panic fun fits =>
      (?_ : Decides Failure.panic _ (∀ index ∈ List.range' 1 (size / 24 - 1),
        bytes.word 2 (fileOffset + 24 * index + 6) ≠ 0)))
  · simp only [elf64SymbolSize, checkedAdd_eq_some, List.mem_range'_1, gt_iff_lt]
    constructor
    · intro holds
      obtain ⟨shape, stop, ⟨bound, sum⟩, fits, defined⟩ := holds
      obtain ⟨rfl, whole⟩ : entrySize = 24 ∧ size % entrySize = 0 := by
        constructor <;> omega
      exact ⟨rfl, whole, by omega, fun index low high => defined index (by omega)⟩
    · intro acceptable
      have inFile := acceptable.inFile
      have whole := acceptable.whole
      obtain rfl := acceptable.entrySize
      exact ⟨by omega, _, ⟨by omega, rfl⟩, by omega, fun index range =>
        acceptable.defined index range.1 (by omega)⟩
  · obtain ⟨rfl, whole⟩ : entrySize = 24 ∧ size % entrySize = 0 := by
      simp only [elf64SymbolSize] at shape
      constructor <;> omega
    obtain ⟨_, rfl⟩ := checkedAdd_eq_some.mp found
    apply Decides.checkAll
    intro index member
    have range := List.mem_range'_1.mp member
    apply validateSymbol_decides
    omega

theorem validateSection_decides {header : RawHeader} {index : Nat}
    (entrySize : header.sectionHeaderSize = 64)
    (inside : header.sectionHeaderOffset + index * 64 + 64 ≤ bytes.length) :
    Decides Failure.panic (validateSection ⟨bytes, header⟩ index)
      (SectionAcceptable bytes (header.sectionHeaderOffset + index * 64)) := by
  have bounded : bytes.length < wordLimit := bytes.bounded
  have relative : checkedMul index header.sectionHeaderSize = some (index * 64) :=
    checkedMul_eq_some.mpr ⟨by rw [entrySize]; omega, by rw [entrySize]⟩
  have position : checkedAdd header.sectionHeaderOffset (index * 64) =
      some (header.sectionHeaderOffset + index * 64) := checkedAdd_eq_some.mpr ⟨by omega, rfl⟩
  unfold validateSection
  apply Decides.step (congrArg (require · _) relative)
  apply Decides.step (congrArg (require · _) position)
  generalize header.sectionHeaderOffset + index * 64 = offset at inside ⊢
  have typePosition : checkedAdd offset 4 = some (offset + 4) :=
    checkedAdd_eq_some.mpr ⟨by omega, rfl⟩
  have sizePosition : checkedAdd offset 32 = some (offset + 32) :=
    checkedAdd_eq_some.mpr ⟨by omega, rfl⟩
  have typeInside : offset + 4 + 4 ≤ bytes.length := by omega
  have sizeInside : offset + 32 + 8 ≤ bytes.length := by omega
  apply Decides.step (congrArg unchecked typePosition)
  apply Decides.step (require_inside _ typeInside)
  apply Decides.step (congrArg unchecked sizePosition)
  apply Decides.step (require_inside _ sizeInside)
  apply Decides.congr (.guard rejected_ne_panic fun _ => .branch (validateSymbolTable_decides inside))
  constructor
  · intro holds
    obtain ⟨relocations, symbols⟩ := holds
    exact ⟨fun relocation => by_contra fun size => relocations ⟨relocation, size⟩, symbols⟩
  · intro acceptable
    exact ⟨fun both => both.2 (acceptable.relocations both.1), acceptable.symbols⟩

theorem validateSectionTable_decides {header : RawHeader} :
    Decides Failure.panic (validateSectionTable ⟨bytes, header⟩)
      (header.sectionHeaderCount = 0 ∨ header.sectionHeaderSize = 64 ∧
        header.sectionHeaderOffset + 64 * header.sectionHeaderCount ≤ bytes.length ∧
        ∀ index < header.sectionHeaderCount,
          SectionAcceptable bytes (header.sectionHeaderOffset + index * 64)) := by
  have bounded : bytes.length < wordLimit := bytes.bounded
  unfold validateSectionTable
  apply Decides.congr (.early fun _ => .guard rejected_ne_panic fun entrySize =>
    .given rejected_ne_panic fun tableSize sized => .given rejected_ne_panic fun tableEnd ended =>
      .guard rejected_ne_panic fun fits => (?_ : Decides Failure.panic _
        (∀ index ∈ List.range header.sectionHeaderCount,
          SectionAcceptable bytes (header.sectionHeaderOffset + index * 64))))
  · simp only [sectionHeaderSize, checkedMul_eq_some, checkedAdd_eq_some, List.mem_range, not_not,
      ne_eq]
    apply or_congr_right
    constructor
    · intro holds
      obtain ⟨entrySize, _, ⟨_, product⟩, _, ⟨_, sum⟩, fits, each⟩ := holds
      rw [entrySize] at product
      exact ⟨entrySize, by omega, each⟩
    · intro holds
      obtain ⟨entrySize, inside, each⟩ := holds
      rw [entrySize]
      exact ⟨rfl, _, ⟨by omega, rfl⟩, _, ⟨by omega, rfl⟩, by omega, each⟩
  · have entrySize : header.sectionHeaderSize = 64 := not_not.mp entrySize
    obtain ⟨_, product⟩ := checkedMul_eq_some.mp sized
    obtain ⟨_, sum⟩ := checkedAdd_eq_some.mp ended
    simp only [entrySize] at product
    simp only at sum fits
    apply Decides.checkAll
    intro index member
    have count : index < header.sectionHeaderCount := List.mem_range.mp member
    apply validateSection_decides entrySize
    omega

/-! ## Load segments -/

theorem isPowerOfTwo_iff {value : Nat} : isPowerOfTwo value ↔ ∃ exponent, value = 2 ^ exponent := by
  constructor
  · intro power
    exact ⟨_, power.2.symm⟩
  · intro holds
    obtain ⟨exponent, same⟩ := holds
    rw [same]
    exact ⟨Nat.ne_of_gt (Nat.two_pow_pos exponent), by rw [Nat.log2_two_pow]⟩

theorem flags_writableExecutable {flags : Nat} :
    flags &&& (pfWrite ||| pfExecute) = pfWrite ||| pfExecute ↔ flags.testBit 1 ∧ flags.testBit 0 := by
  have mask : flags &&& 3 = flags % 4 := Nat.and_two_pow_sub_one_eq_mod flags 2
  have both : pfWrite ||| pfExecute = 3 := rfl
  rw [both, mask, Nat.testBit_eq_decide_div_mod_eq, Nat.testBit_eq_decide_div_mod_eq]
  simp only [decide_eq_true_eq, Nat.pow_one, Nat.pow_zero, Nat.div_one]
  omega

theorem flags_executable {flags : Nat} : flags &&& pfExecute ≠ 0 ↔ flags.testBit 0 := by
  rw [pfExecute, Nat.and_one_is_mod, Nat.testBit_eq_decide_div_mod_eq]
  simp only [decide_eq_true_eq, Nat.pow_zero, Nat.div_one]
  omega

theorem validateLoadSegment_decides {program : RawProgramHeader} :
    Decides Failure.panic (validateLoadSegment bytes program) (LoadAcceptable bytes program) := by
  have bounded : bytes.length < wordLimit := bytes.bounded
  unfold validateLoadSegment
  apply Decides.congr (.guard rejected_ne_panic fun nonempty => .guard rejected_ne_panic fun _ =>
    .given rejected_ne_panic fun fileEnd _ => .guard rejected_ne_panic fun _ =>
    .given rejected_ne_panic fun memoryEnd _ => .given rejected_ne_panic fun virtualEnd ended =>
    .guard rejected_ne_panic fun _ =>
      (?_ : Decides Failure.panic _ (isCanonical (virtualEnd - 1) ∧
        ¬ (program.alignment > 1 ∧ ¬ isPowerOfTwo program.alignment) ∧
        ¬ (program.alignment > 1 ∧ program.fileOffset % program.alignment ≠
          program.virtualAddress % program.alignment) ∧
        ¬ program.flags &&& (pfWrite ||| pfExecute) = pfWrite ||| pfExecute)))
  · simp only [checkedAdd_eq_some, not_not, gt_iff_lt, Nat.not_lt, not_and, ne_eq, isPowerOfTwo_iff,
      flags_writableExecutable]
    constructor
    · intro holds
      obtain ⟨nonempty, fileFits, _, ⟨_, fileSum⟩, inFile, _, ⟨physicalFits, _⟩, _, ⟨virtualFits, rfl⟩,
        first, last, power, congruent, permissions⟩ := holds
      have aligned : program.alignment ≤ 1 ∨ (∃ exponent, program.alignment = 2 ^ exponent) ∧
          program.fileOffset % program.alignment = program.virtualAddress % program.alignment := by
        by_cases small : program.alignment ≤ 1
        · exact .inl small
        · exact .inr ⟨power (by omega), congruent (by omega)⟩
      exact ⟨Nat.pos_of_ne_zero nonempty, fileFits, by omega, physicalFits, virtualFits, first, last,
        aligned, fun both => permissions both.1 both.2⟩
    · intro acceptable
      have nonempty := acceptable.nonempty
      have inFile := acceptable.inFile
      have aligned := acceptable.aligned
      refine ⟨by omega, acceptable.fileFits, _, ⟨by omega, rfl⟩, inFile, _,
        ⟨acceptable.physicalFits, rfl⟩, _, ⟨acceptable.virtualFits, rfl⟩,
        acceptable.firstCanonical, acceptable.lastCanonical, ?_, ?_,
        fun write execute => acceptable.notWritableExecutable ⟨write, execute⟩⟩
      · intro large
        exact (aligned.resolve_left (by omega)).1
      · intro large
        exact (aligned.resolve_left (by omega)).2
  · obtain ⟨_, sum⟩ := checkedAdd_eq_some.mp ended
    have last : checkedSub virtualEnd 1 = some (virtualEnd - 1) :=
      checkedSub_eq_some.mpr ⟨by omega, rfl⟩
    apply Decides.step (congrArg unchecked last)
    apply Decides.congr (.guard rejected_ne_panic fun _ => .guard rejected_ne_panic fun _ =>
      .guard rejected_ne_panic fun _ => .guard rejected_ne_panic fun _ => .accept _)
    simp only [not_not, and_true]

theorem validateLoadSegment_ends {program : RawProgramHeader} {physicalEnd virtualEnd : Nat}
    (ran : validateLoadSegment bytes program = .ok (physicalEnd, virtualEnd)) :
    physicalEnd = program.physicalAddress + program.memorySize ∧
      virtualEnd = program.virtualAddress + program.memorySize := by
  simp only [validateLoadSegment, guard_eq_ok, bind_eq_ok, okOr_eq_ok, checkedAdd_eq_some,
    Except.ok.injEq, Prod.mk.injEq] at ran
  obtain ⟨_, _, _, _, _, _, ⟨_, physical⟩, _, ⟨_, virtual⟩, _, _, _, _, _, _, _, rfl, rfl⟩ := ran
  exact ⟨physical.symm, virtual.symm⟩

/-! ## The loop over the program headers -/

/-- The parsed form of a file whose header is read. -/
abbrev imageOf (bytes : Bytes) : RawImage := ⟨bytes, headerOf bytes⟩

theorem parseProgramHeader_inside {offset : Nat} (inside : offset + 56 ≤ bytes.length) :
    parseProgramHeader bytes offset = some (programAt bytes offset) := by
  have bounded : bytes.length < wordLimit := bytes.bounded
  have position {distance : Nat} (near : distance ≤ 48) :
      checkedAdd offset distance = some (offset + distance) :=
    checkedAdd_eq_some.mpr ⟨by omega, rfl⟩
  have word4 {distance : Nat} (near : distance ≤ 4) :
      readU32 bytes (offset + distance) = some (bytes.word 4 (offset + distance)) :=
    Bytes.read_inside (by omega)
  have word8 {distance : Nat} (near : distance ≤ 48) :
      readU64 bytes (offset + distance) = some (bytes.word 8 (offset + distance)) :=
    Bytes.read_inside (by omega)
  have segmentType : readU32 bytes offset = some (bytes.word 4 offset) :=
    Bytes.read_inside (by omega)
  simp [parseProgramHeader, programAt, segmentType, position, word4, word8]

theorem programHeader_inside {raw : RawImage} {index : Nat}
    (entrySize : raw.header.programHeaderSize = 56)
    (listed : index < raw.header.programHeaderCount)
    (inside : raw.header.programHeaderOffset + index * 56 + 56 ≤ raw.bytes.length) :
    raw.programHeader index =
      some (programAt raw.bytes (raw.header.programHeaderOffset + index * 56)) := by
  have bounded : raw.bytes.length < wordLimit := raw.bytes.bounded
  have relative : checkedMul index 56 = some (index * 56) :=
    checkedMul_eq_some.mpr ⟨by omega, rfl⟩
  have position : checkedAdd raw.header.programHeaderOffset (index * 56) =
      some (raw.header.programHeaderOffset + index * 56) :=
    checkedAdd_eq_some.mpr ⟨by omega, rfl⟩
  rw [RawImage.programHeader, if_neg (Nat.not_le_of_lt listed), entrySize, relative,
    Option.bind_eq_bind, Option.bind_some, position, Option.bind_some]
  exact parseProgramHeader_inside inside

/-- The program table of the file lies in it and has entries of 56 bytes. -/
structure TableInside (bytes : Bytes) : Prop where
  entrySize : (headerOf bytes).programHeaderSize = 56
  inside : (headerOf bytes).programHeaderOffset + 56 * (headerOf bytes).programHeaderCount ≤
    bytes.length
  count : (headerOf bytes).programHeaderCount ≤ 128

theorem TableInside.programHeader (table : TableInside bytes) {index : Nat}
    (listed : index < (headerOf bytes).programHeaderCount) :
    (imageOf bytes).programHeader index = some (programOf bytes index) := by
  have inside := table.inside
  have entryInside : (headerOf bytes).programHeaderOffset + index * 56 + 56 ≤ bytes.length := by
    omega
  exact programHeader_inside table.entrySize listed entryInside

/-- What the inner loop asks of an earlier header. -/
structure ClearOf (program previous : RawProgramHeader) : Prop where
  physicalFits : previous.physicalAddress + previous.memorySize < wordLimit
  physical : ¬ rangesOverlap previous.physicalAddress
    (previous.physicalAddress + previous.memorySize) program.physicalAddress
    (program.physicalAddress + program.memorySize)
  virtualFits : previous.virtualAddress + previous.memorySize < wordLimit
  virtual : ¬ rangesOverlap previous.virtualAddress
    (previous.virtualAddress + previous.memorySize) program.virtualAddress
    (program.virtualAddress + program.memorySize)

theorem checkPrevious_decides (table : TableInside bytes) {program : RawProgramHeader}
    {previousIndex : Nat} (listed : previousIndex < (headerOf bytes).programHeaderCount) :
    Decides Failure.panic (checkPrevious (imageOf bytes) program
      (program.physicalAddress + program.memorySize) (program.virtualAddress + program.memorySize)
      previousIndex)
      ((programOf bytes previousIndex).segmentType = ptLoad →
        ClearOf program (programOf bytes previousIndex)) := by
  unfold checkPrevious
  apply Decides.step (congrArg (require · _) (table.programHeader listed))
  generalize programOf bytes previousIndex = previous
  apply Decides.congr (.early fun _ => .given rejected_ne_panic fun _ _ =>
    .guard rejected_ne_panic fun _ => .given rejected_ne_panic fun _ _ =>
    .guard rejected_ne_panic fun _ => .accept ())
  simp only [checkedAdd_eq_some, and_true]
  by_cases load : previous.segmentType = ptLoad
  · simp only [load, ne_eq, not_true_eq_false, false_or, forall_const]
    constructor
    · intro holds
      obtain ⟨_, ⟨physicalFits, rfl⟩, physical, _, ⟨virtualFits, rfl⟩, virtual⟩ := holds
      exact ⟨physicalFits, physical, virtualFits, virtual⟩
    · intro clear
      exact ⟨_, ⟨clear.physicalFits, rfl⟩, clear.physical, _, ⟨clear.virtualFits, rfl⟩,
        clear.virtual⟩
  · simp only [load, ne_eq, not_false_eq_true, true_or, IsEmpty.forall_iff]

/-- What one round of the outer loop asks of a header. -/
structure ProgramAcceptable (bytes : Bytes) (index : Nat) : Prop where
  notInterp : (programOf bytes index).segmentType ≠ ptInterp
  notDynamic : (programOf bytes index).segmentType ≠ ptDynamic
  notTls : (programOf bytes index).segmentType ≠ ptTls
  load : (programOf bytes index).segmentType = ptLoad →
    LoadAcceptable bytes (programOf bytes index) ∧
    ∀ previous < index, (programOf bytes previous).segmentType = ptLoad →
      ClearOf (programOf bytes index) (programOf bytes previous)

/-- The entry point lies in an executable load segment at this index. -/
def EntryAt (bytes : Bytes) (index : Nat) : Prop :=
  (programOf bytes index).segmentType = ptLoad ∧ (programOf bytes index).flags.testBit 0 ∧
    (programOf bytes index).virtualAddress ≤ (headerOf bytes).entry ∧
    (headerOf bytes).entry <
      (programOf bytes index).virtualAddress + (programOf bytes index).memorySize

/-- The locals of the loop after the given headers. -/
structure Scanned (bytes : Bytes) (before : List Nat) (scan : LoadScan) : Prop where
  bounded : scan.loadCount ≤ before.length
  none : scan.loadCount = 0 ↔ ∀ index ∈ before, (programOf bytes index).segmentType ≠ ptLoad
  entry : scan.entryIsExecutable = true ↔ ∃ index ∈ before, EntryAt bytes index

theorem scanLoad_decides (table : TableInside bytes) {scan : LoadScan} {index : Nat}
    (listed : index < (headerOf bytes).programHeaderCount) (small : scan.loadCount < 128) :
    Decides Failure.panic (scanLoad (imageOf bytes) scan index (programOf bytes index))
      (LoadAcceptable bytes (programOf bytes index) ∧
        ∀ previous < index, (programOf bytes previous).segmentType = ptLoad →
          ClearOf (programOf bytes index) (programOf bytes previous)) := by
  unfold scanLoad
  apply Decides.bind validateLoadSegment_decides
  intro holds ran
  obtain ⟨physicalEnd, virtualEnd⟩ := holds
  obtain ⟨rfl, rfl⟩ := validateLoadSegment_ends ran
  have earlier : Decides Failure.panic
      (checkAll (checkPrevious (imageOf bytes) (programOf bytes index) _ _) (List.range index))
      (∀ previous ∈ List.range index, (programOf bytes previous).segmentType = ptLoad →
        ClearOf (programOf bytes index) (programOf bytes previous)) :=
    Decides.checkAll fun previous member =>
      checkPrevious_decides table (Nat.lt_trans (List.mem_range.mp member) listed)
  have counted : (if scan.loadCount + 1 < 2 ^ 16 then some (scan.loadCount + 1) else none) =
      some (scan.loadCount + 1) := if_pos (by omega)
  dsimp only
  refine Decides.congr (earlier.bind fun _ _ => .step (congrArg unchecked counted) (.accept _)) ?_
  simp only [List.mem_range, and_true]

theorem scanProgram_decides (table : TableInside bytes) {scan : LoadScan} {index : Nat}
    (listed : index < (headerOf bytes).programHeaderCount) (small : scan.loadCount < 128) :
    Decides Failure.panic (scanProgram (imageOf bytes) scan index)
      (ProgramAcceptable bytes index) := by
  unfold scanProgram
  apply Decides.step (congrArg (require · _) (table.programHeader listed))
  apply Decides.congr (.guard rejected_ne_panic fun _ => .guard rejected_ne_panic fun _ =>
    .guard rejected_ne_panic fun _ => .branch (scanLoad_decides table listed small))
  constructor
  · intro holds
    obtain ⟨notInterp, notDynamic, notTls, load⟩ := holds
    exact ⟨notInterp, notDynamic, notTls, load⟩
  · intro acceptable
    exact ⟨acceptable.notInterp, acceptable.notDynamic, acceptable.notTls, acceptable.load⟩

/-- A load segment that passed counts, and may hold the entry point. -/
theorem scanLoad_scanned {scan next : LoadScan} {before : List Nat} {index : Nat}
    (load : (programOf bytes index).segmentType = ptLoad)
    (scanned : Scanned bytes before scan)
    (ran : scanLoad (imageOf bytes) scan index (programOf bytes index) = .ok next) :
    Scanned bytes (before ++ [index]) next := by
  simp only [scanLoad, bind_eq_ok, okOr_eq_ok, Option.ite_none_right_eq_some,
    Option.some.injEq, Except.ok.injEq] at ran
  obtain ⟨⟨physicalEnd, virtualEnd⟩, ended, _, _, _, ⟨_, rfl⟩, rfl⟩ := ran
  obtain ⟨rfl, rfl⟩ := validateLoadSegment_ends ended
  have bounded := scanned.bounded
  refine ⟨by simpa using bounded, ?_, ?_⟩
  · constructor
    · intro impossible
      simp at impossible
    · intro absent
      exact absurd load (absent index (by simp))
  · simp only [Bool.or_eq_true, decide_eq_true_eq, scanned.entry, flags_executable, ge_iff_le]
    constructor
    · rintro (⟨earlier, member, entry⟩ | here)
      · exact ⟨earlier, by simp [member], entry⟩
      · exact ⟨index, by simp, load, here⟩
    · rintro ⟨other, member, entry⟩
      rcases List.mem_append.mp member with member | member
      · exact .inl ⟨other, member, entry⟩
      · rw [List.mem_singleton.mp member] at entry
        exact .inr entry.2

theorem scanProgram_scanned (table : TableInside bytes) {scan next : LoadScan} {before : List Nat}
    {index : Nat} (listed : index < (headerOf bytes).programHeaderCount)
    (scanned : Scanned bytes before scan)
    (ran : scanProgram (imageOf bytes) scan index = .ok next) :
    Scanned bytes (before ++ [index]) next := by
  rw [scanProgram, require, table.programHeader listed, okOr_some, ok_bind] at ran
  obtain ⟨_, _, _, ran⟩ : _ ∧ _ ∧ _ ∧ _ := by simpa only [guard_eq_ok] using ran
  split at ran
  · rename_i load
    exact scanLoad_scanned load scanned ran
  · rename_i plain
    obtain rfl : scan = next := by simpa using ran
    have bounded := scanned.bounded
    refine ⟨by simp only [List.length_append]; omega, ?_, ?_⟩
    · simp only [scanned.none, List.mem_append, List.mem_singleton, or_imp, forall_and,
        forall_eq, ne_eq, plain, not_false_eq_true, and_true]
    · rw [scanned.entry]
      constructor
      · rintro ⟨earlier, member, entry⟩
        exact ⟨earlier, by simp [member], entry⟩
      · rintro ⟨other, member, entry⟩
        rcases List.mem_append.mp member with member | member
        · exact ⟨other, member, entry⟩
        · rw [List.mem_singleton.mp member] at entry
          exact absurd entry.1 plain

/-- The loop over all program headers. -/
theorem scanPrograms_decides (table : TableInside bytes) :
    Decides Failure.panic
      ((List.range (headerOf bytes).programHeaderCount).foldlM (scanProgram (imageOf bytes)) {})
      (∀ index < (headerOf bytes).programHeaderCount, ProgramAcceptable bytes index) := by
  have start : Scanned bytes [] {} := ⟨by simp, by simp, by simp⟩
  have listed {before after : List Nat} {index : Nat}
      (split : List.range (headerOf bytes).programHeaderCount = before ++ index :: after) :
      index < (headerOf bytes).programHeaderCount ∧ before.length < 128 := by
    have member : index ∈ List.range (headerOf bytes).programHeaderCount := by simp [split]
    have length := congrArg List.length split
    have count := table.count
    simp only [List.length_range, List.length_append, List.length_cons] at length
    exact ⟨List.mem_range.mp member, by omega⟩
  have looped : Decides Failure.panic
      ((List.range (headerOf bytes).programHeaderCount).foldlM (scanProgram (imageOf bytes)) {})
      (∀ index ∈ List.range (headerOf bytes).programHeaderCount,
        ProgramAcceptable bytes index) := by
    apply Decides.foldlM (Scanned bytes) start
    · intro before index after scan split scanned
      exact scanProgram_decides table (listed split).1
        (Nat.lt_of_le_of_lt scanned.bounded (listed split).2)
    · intro before index after scan next split scanned ran
      exact scanProgram_scanned table (listed split).1 scanned ran
  exact looped.congr (by simp only [List.mem_range])

theorem scanPrograms_scanned (table : TableInside bytes) {scan : LoadScan}
    (ran : (List.range (headerOf bytes).programHeaderCount).foldlM (scanProgram (imageOf bytes))
      {} = .ok scan) :
    Scanned bytes (List.range (headerOf bytes).programHeaderCount) scan := by
  apply foldlM_invariant (Scanned bytes) ⟨by simp, by simp, by simp⟩ ?_ ran
  intro before index after current next split scanned stepped
  have member : index ∈ List.range (headerOf bytes).programHeaderCount := by simp [split]
  exact scanProgram_scanned table (List.mem_range.mp member) scanned stepped

/-! ## The whole parser -/

theorem apart_of_not_overlap {left right : RawProgramHeader} (clear : ClearOf right left) :
    Apart left right := by
  have physical := clear.physical
  have virtual := clear.virtual
  simp only [rangesOverlap] at physical virtual
  exact ⟨by omega, by omega⟩

/-- The conditions on single headers are the conditions on loads and pairs of
loads. -/
theorem programsAcceptable_iff :
    (∀ index < (headerOf bytes).programHeaderCount, ProgramAcceptable bytes index) ↔
      (∀ index < (headerOf bytes).programHeaderCount,
        (programOf bytes index).segmentType ≠ ptInterp ∧
        (programOf bytes index).segmentType ≠ ptDynamic ∧
        (programOf bytes index).segmentType ≠ ptTls) ∧
      (∀ index, IsLoad bytes index → LoadAcceptable bytes (programOf bytes index)) ∧
      ∀ first second, first < second → IsLoad bytes first → IsLoad bytes second →
        Apart (programOf bytes first) (programOf bytes second) := by
  constructor
  · intro each
    refine ⟨?_, ?_, ?_⟩
    · intro index listed
      have acceptable := each index listed
      exact ⟨acceptable.notInterp, acceptable.notDynamic, acceptable.notTls⟩
    · intro index load
      exact ((each index load.1).load load.2).1
    · intro first second order firstLoad secondLoad
      exact apart_of_not_overlap
        (((each second secondLoad.1).load secondLoad.2).2 first order firstLoad.2)
  · intro holds index listed
    obtain ⟨noLinking, loads, apart⟩ := holds
    obtain ⟨notInterp, notDynamic, notTls⟩ := noLinking index listed
    refine ⟨notInterp, notDynamic, notTls, fun load => ⟨loads index ⟨listed, load⟩, ?_⟩⟩
    intro previous order previousLoad
    have isLoad : IsLoad bytes previous := ⟨Nat.lt_trans order listed, previousLoad⟩
    have acceptable := loads previous isLoad
    have separate := apart previous index order isLoad ⟨listed, load⟩
    have physical := separate.physical
    have virtual := separate.virtual
    refine ⟨acceptable.physicalFits, ?_, acceptable.virtualFits, ?_⟩
    · simp only [rangesOverlap]
      omega
    · simp only [rangesOverlap]
      omega

/-- What the last two checks ask, in terms of the headers seen. -/
theorem Scanned.accepts {scan : LoadScan}
    (scanned : Scanned bytes (List.range (headerOf bytes).programHeaderCount) scan) :
    (¬ scan.loadCount = 0 ∧
        ¬ (¬ isCanonical (headerOf bytes).entry ∨ scan.entryIsExecutable = false) ∧ True) ↔
      (∃ index, IsLoad bytes index) ∧ isCanonical (headerOf bytes).entry ∧
        ∃ index, IsLoad bytes index ∧ (programOf bytes index).flags.testBit 0 ∧
          (programOf bytes index).virtualAddress ≤ (headerOf bytes).entry ∧
          (headerOf bytes).entry <
            (programOf bytes index).virtualAddress + (programOf bytes index).memorySize := by
  have some : ¬ scan.loadCount = 0 ↔ ∃ index, IsLoad bytes index := by
    rw [scanned.none]
    simp [IsLoad]
  have entry : scan.entryIsExecutable = true ↔ ∃ index, IsLoad bytes index ∧
      (programOf bytes index).flags.testBit 0 ∧
      (programOf bytes index).virtualAddress ≤ (headerOf bytes).entry ∧
      (headerOf bytes).entry <
        (programOf bytes index).virtualAddress + (programOf bytes index).memorySize := by
    rw [scanned.entry]
    simp only [List.mem_range, EntryAt, IsLoad, and_assoc]
  rw [some, not_or, not_not, Bool.not_eq_false, entry, and_true]

/-- The checks that follow a header that could be read. -/
theorem parseRest_decides (long : 64 ≤ bytes.length) (magic : bytes.data.take 4 = elfMagic) :
    Decides Failure.panic (do
      validateHeader (headerOf bytes)
      validateProgramTable (imageOf bytes)
      validateSectionTable (imageOf bytes)
      let scan ←
        (List.range (headerOf bytes).programHeaderCount).foldlM (scanProgram (imageOf bytes)) {}
      if scan.loadCount = 0 then reject .noLoadSegments
      else if ¬ isCanonical (headerOf bytes).entry ∨ scan.entryIsExecutable = false then
        reject .entryOutsideExecutableSegment
      else .ok (ValidatedImage.mk (imageOf bytes) scan.loadCount scan.loadStart scan.loadEnd
        scan.virtualLoadStart scan.virtualLoadEnd)) (Acceptable bytes) := by
  refine Decides.congr (validateHeader_decides.bind fun _ headed =>
    validateProgramTable_decides.bind fun _ tabled => validateSectionTable_decides.bind fun _ _ =>
      (?_ : Decides Failure.panic _ ((∀ index < (headerOf bytes).programHeaderCount,
        ProgramAcceptable bytes index) ∧ (∃ index, IsLoad bytes index) ∧
        isCanonical (headerOf bytes).entry ∧ ∃ index, IsLoad bytes index ∧
          (programOf bytes index).flags.testBit 0 ∧
          (programOf bytes index).virtualAddress ≤ (headerOf bytes).entry ∧
          (headerOf bytes).entry <
            (programOf bytes index).virtualAddress + (programOf bytes index).memorySize))) ?_
  · have header := validateHeader_decides.exact.mp ⟨_, headed⟩
    have inside := validateProgramTable_decides.exact.mp ⟨_, tabled⟩
    rw [header.programHeaderSize] at inside
    have table : TableInside bytes :=
      ⟨header.programHeaderSize, inside, header.programHeaderCount⟩
    apply (scanPrograms_decides table).bind
    intro scan ran
    exact Decides.congr (.guard rejected_ne_panic fun _ => .guard rejected_ne_panic fun _ =>
      .accept _) (scanPrograms_scanned table ran).accepts
  · rw [programsAcceptable_iff]
    constructor
    · intro holds
      obtain ⟨header, inside, sections, ⟨noLinking, loads, apart⟩, someLoad, canonical,
        executable⟩ := holds
      rw [header.programHeaderSize] at inside
      exact ⟨long, magic, header, inside, sections, noLinking, someLoad, loads, apart, canonical,
        executable⟩
    · intro acceptable
      have inside := acceptable.programTable
      rw [← acceptable.header.programHeaderSize] at inside
      exact ⟨acceptable.header, inside, acceptable.sections, ⟨acceptable.noRuntimeLinking,
        acceptable.loads, acceptable.apart⟩, acceptable.someLoad, acceptable.entryCanonical,
        acceptable.entryExecutable⟩

theorem parse_decides (bytes : Bytes) :
    Decides Failure.panic (ValidatedImage.parse bytes) (Acceptable bytes) := by
  have decided : Decides Failure.panic (ValidatedImage.parse bytes)
      ((4 ≤ bytes.length ∧ bytes.data.take 4 = elfMagic) ∧ Acceptable bytes) := by
    unfold ValidatedImage.parse
    apply validateMagic_decides.bind
    intro _ ran
    have magic := (validateMagic_decides.exact.mp ⟨_, ran⟩).2
    by_cases long : 64 ≤ bytes.length
    · exact .step (parse_long long) (parseRest_decides long magic)
    · have short : RawImage.parse bytes = reject .headerTooSmall :=
        if_pos (Nat.lt_of_not_le long)
      rw [short]
      exact (Decides.reject rejected_ne_panic).congr
        ⟨False.elim, fun acceptable => long acceptable.long⟩
  apply decided.congr
  constructor
  · exact And.right
  · intro acceptable
    have long := acceptable.long
    exact ⟨⟨by omega, acceptable.magic⟩, acceptable⟩

/-- On every byte slice the parser ends without an index out of range, a
wrapped sum or an underflow, and it accepts exactly the acceptable images. -/
theorem parse_accepts_acceptable (bytes : Bytes) :
    ValidatedImage.parse bytes ≠ .error .panic ∧
      ((∃ image, ValidatedImage.parse bytes = .ok image) ↔ Acceptable bytes) :=
  ⟨(parse_decides bytes).safe, (parse_decides bytes).exact⟩

end

end UnnamedOS.KernelImage
