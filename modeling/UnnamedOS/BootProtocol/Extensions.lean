import UnnamedOS.BootProtocol.BootInfo
import UnnamedOS.Data.Bytes

namespace UnnamedOS.BootProtocol

open UnnamedOS.Data

/-! # The extension area

A major-2 envelope carries a sequence of records after the fixed block.  The
validator reads them from untrusted bytes; an index the source does not check
is modelled with the outcome `panic`. -/

@[simp] def bootEnvelopeAbiMajor : Nat := 2
@[simp] def extensionHeaderSize : Nat := 16
@[simp] def extensionVersion1 : Nat := 1
@[simp] def extensionFlagRequired : Nat := 1
@[simp] def extensionKindPageTableOwnership : Nat := 1
@[simp] def pageTableOwnershipSize : Nat := 80
@[simp] def ownedPageTableFrameSize : Nat := 16
@[simp] def ownedPageTableFrameAlignment : Nat := 8
@[simp] def pageTableHierarchyVersion : Nat := 1
@[simp] def pageTableStateTransitional : Nat := 1
@[simp] def pageTableStateFinal : Nat := 2
@[simp] def pageTablePhysicalCap : Nat := 0x0000_4000_0000_0000

inductive ExtensionError where
  | unsupportedEnvelopeVersion
  | extensionsForbiddenForV1
  | totalSizeMismatch
  | extensionAreaMisaligned
  | truncatedExtensionHeader
  | invalidExtensionHeaderSize
  | invalidExtensionSize
  | unsupportedExtensionFlags
  | unknownRequiredExtension
  | unsupportedPageTableExtensionVersion
  | duplicatePageTableOwnership
  | unsupportedHierarchyVersion
  | unsupportedPagingLevelCount
  | invalidPageTableState
  | unsupportedPageSize
  | invalidPhysicalAddressCap
  | invalidRootFrame
  | invalidOwnedFrameListAddress
  | emptyOwnedFrameList
  | invalidOwnedFrameStride
  | ownedFrameListSizeOverflow
  | ownedFrameListRangeOverflow
  | extensionCountOverflow
  | truncatedPageTableOwnership
  | reservedNotZero
  | ownedFrameCountMismatch
  | ownedFrameReservedNotZero
  | unalignedOwnedFrame
  | ownedFrameOutsidePhysicalCap
  | duplicateOwnedFrame
  | rootFrameMissingOrDuplicated
  | ownedFrameNotReserved
deriving DecidableEq, Repr

/-- How a run can end without a summary. -/
inductive ExtensionFailure where
  | panic
  | refused (error : ExtensionError)
deriving DecidableEq, Repr

structure ExtensionHeader where
  kind : Nat
  version : Nat
  headerSize : Nat
  totalSize : Nat
  flags : Nat
deriving DecidableEq, Repr

structure PageTableOwnership where
  hierarchyVersion : Nat
  pagingLevelCount : Nat
  state : Nat
  pageSize : Nat
  rootPhysicalFrame : Nat
  ownedFrameListPhysicalAddress : Nat
  ownedFrameCount : Nat
  descriptorStride : Nat
  physicalAddressCap : Nat
  reserved0 : Nat
  reserved1 : Nat
  reserved2 : Nat
deriving DecidableEq, Repr

structure ValidatedPageTableOwnership where
  raw : PageTableOwnership
  listByteLength : Nat
deriving DecidableEq, Repr

structure ExtensionSummary where
  pageTableOwnership : Option ValidatedPageTableOwnership
  extensionCount : Nat
deriving DecidableEq, Repr

def validateFrameAddress (address cap : Nat) : Except ExtensionError Unit :=
  if address = 0 ∨ ¬ address % memoryPageSize = 0 then
    .error (if address % memoryPageSize = 0 then .invalidRootFrame else .unalignedOwnedFrame)
  else do
    let stop ← okOr (checkedAdd address memoryPageSize) .ownedFrameOutsidePhysicalCap
    if stop > cap then .error .ownedFrameOutsidePhysicalCap else .ok ()

def PageTableOwnership.validate (ownership : PageTableOwnership) :
    Except ExtensionError ValidatedPageTableOwnership :=
  if ownership.hierarchyVersion ≠ pageTableHierarchyVersion then
    .error .unsupportedHierarchyVersion
  else if ownership.pagingLevelCount ≠ 4 then .error .unsupportedPagingLevelCount
  else if ownership.state ≠ pageTableStateTransitional ∧ ownership.state ≠ pageTableStateFinal then
    .error .invalidPageTableState
  else if ownership.pageSize ≠ memoryPageSize then .error .unsupportedPageSize
  else if ownership.physicalAddressCap ≠ pageTablePhysicalCap then
    .error .invalidPhysicalAddressCap
  else do
    validateFrameAddress ownership.rootPhysicalFrame ownership.physicalAddressCap
    if ownership.ownedFrameListPhysicalAddress = 0 ∨
        ¬ ownership.ownedFrameListPhysicalAddress % ownedPageTableFrameAlignment = 0 then
      .error .invalidOwnedFrameListAddress
    else if ownership.ownedFrameCount = 0 then .error .emptyOwnedFrameList
    else if ownership.descriptorStride < ownedPageTableFrameSize ∨
        ¬ ownership.descriptorStride % 8 = 0 then
      .error .invalidOwnedFrameStride
    else do
      let listByteLength ←
        okOr (checkedMul ownership.ownedFrameCount ownership.descriptorStride)
          .ownedFrameListSizeOverflow
      let listEnd ←
        okOr (checkedAdd ownership.ownedFrameListPhysicalAddress listByteLength)
          .ownedFrameListRangeOverflow
      if listEnd > ownership.physicalAddressCap then .error .invalidOwnedFrameListAddress
      else if ownership.reserved0 ≠ 0 ∨ ownership.reserved1 ≠ 0 ∨ ownership.reserved2 ≠ 0 then
        .error .reservedNotZero
      else .ok ⟨ownership, listByteLength⟩

/-- `read_u16`, `read_u32`, `read_u64` and `bytes[offset]`, by their width. -/
def readField (width : Nat) (bytes : Bytes) (offset : Nat) : Except ExtensionFailure Nat :=
  okOr (Bytes.read width bytes offset) .panic

def parseExtensionHeader (bytes : Bytes) : Except ExtensionFailure ExtensionHeader := do
  let kind ← readField 4 bytes 0
  let version ← readField 2 bytes 4
  let headerSize ← readField 2 bytes 6
  let totalSize ← readField 4 bytes 8
  let flags ← readField 4 bytes 12
  .ok { kind, version, headerSize, totalSize, flags }

def parsePageTableOwnership (bytes : Bytes) : Except ExtensionFailure PageTableOwnership := do
  let hierarchyVersion ← readField 2 bytes 0
  let pagingLevelCount ← readField 1 bytes 2
  let state ← readField 1 bytes 3
  let pageSize ← readField 4 bytes 4
  let rootPhysicalFrame ← readField 8 bytes 8
  let ownedFrameListPhysicalAddress ← readField 8 bytes 16
  let ownedFrameCount ← readField 4 bytes 24
  let descriptorStride ← readField 4 bytes 28
  let physicalAddressCap ← readField 8 bytes 32
  let reserved0 ← readField 8 bytes 40
  let reserved1 ← readField 8 bytes 48
  let reserved2 ← readField 8 bytes 56
  .ok { hierarchyVersion, pagingLevelCount, state, pageSize, rootPhysicalFrame,
        ownedFrameListPhysicalAddress, ownedFrameCount, descriptorStride, physicalAddressCap,
        reserved0, reserved1, reserved2 }

/-- What a record does to the ownership found so far. -/
def acceptRecord (bytes : Bytes) (headerEnd recordEnd : Nat) (header : ExtensionHeader)
    (ownership : Option ValidatedPageTableOwnership) :
    Except ExtensionFailure (Option ValidatedPageTableOwnership) :=
  if header.kind = extensionKindPageTableOwnership then
    if header.version ≠ extensionVersion1 then
      if header.flags &&& extensionFlagRequired ≠ 0 then
        .error (.refused .unsupportedPageTableExtensionVersion)
      else .ok ownership
    else if header.totalSize ≠ pageTableOwnershipSize then
      .error (.refused .truncatedPageTableOwnership)
    else if ownership.isSome then .error (.refused .duplicatePageTableOwnership)
    else do
      let payload ← okOr (bytes.slice headerEnd recordEnd) .panic
      let raw ← parsePageTableOwnership payload
      let validated ← raw.validate.mapError .refused
      .ok (some validated)
  else if header.flags &&& extensionFlagRequired ≠ 0 then
    .error (.refused .unknownRequiredExtension)
  else .ok ownership

/-- The body of the loop: where the record at `offset` ends, and the ownership
after it.  `!EXTENSION_FLAG_REQUIRED` is taken on 32 bits. -/
def readRecord (bytes : Bytes) (offset : Nat) (ownership : Option ValidatedPageTableOwnership) :
    Except ExtensionFailure (Nat × Option ValidatedPageTableOwnership) := do
  let headerEnd ← okOr (checkedAdd offset extensionHeaderSize) (.refused .invalidExtensionSize)
  if headerEnd > bytes.length then .error (.refused .truncatedExtensionHeader)
  else do
    let headerBytes ← okOr (bytes.slice offset headerEnd) .panic
    let header ← parseExtensionHeader headerBytes
    if header.headerSize ≠ extensionHeaderSize then
      .error (.refused .invalidExtensionHeaderSize)
    else if header.totalSize < header.headerSize ∨ ¬ header.totalSize % 8 = 0 then
      .error (.refused .invalidExtensionSize)
    else if header.flags &&& (2 ^ 32 - 1 - extensionFlagRequired) ≠ 0 then
      .error (.refused .unsupportedExtensionFlags)
    else do
      let recordEnd ← okOr (checkedAdd offset header.totalSize) (.refused .invalidExtensionSize)
      if recordEnd > bytes.length then .error (.refused .invalidExtensionSize)
      else do
        let ownership ← acceptRecord bytes headerEnd recordEnd header ownership
        .ok (recordEnd, ownership)

/-- The size check is what lets the loop end: every record moves the cursor. -/
theorem readRecord_advances {bytes : Bytes} {offset recordEnd : Nat}
    {ownership next : Option ValidatedPageTableOwnership}
    (ran : readRecord bytes offset ownership = .ok (recordEnd, next)) :
    offset + extensionHeaderSize ≤ recordEnd ∧ recordEnd ≤ bytes.length := by
  simp only [readRecord, bind_eq_ok, okOr_eq_ok, checkedAdd_eq_some, guard_eq_ok, Except.ok.injEq,
    Prod.mk.injEq] at ran
  obtain ⟨_, _, _, _, _, header, _, headerSize, sized, _, _, ⟨_, rfl⟩, inside, _, _, rfl, _⟩ := ran
  simp only [extensionHeaderSize] at headerSize ⊢
  omega

/-- The loop from `offset` on. -/
def scanRecords (bytes : Bytes) (offset extensionCount : Nat)
    (ownership : Option ValidatedPageTableOwnership) : Except ExtensionFailure ExtensionSummary :=
  if offset < bytes.length then
    match ran : readRecord bytes offset ownership with
    | .error failure => .error failure
    | .ok (recordEnd, next) =>
        if extensionCount + 1 < 2 ^ 32 then scanRecords bytes recordEnd (extensionCount + 1) next
        else .error (.refused .extensionCountOverflow)
  else .ok ⟨ownership, extensionCount⟩
termination_by bytes.length - offset
decreasing_by
  have advances := readRecord_advances ran
  simp only [extensionHeaderSize] at advances
  omega

def validateExtensionArea (envelopeMajor _abiMinor declaredTotalSize : Nat) (bytes : Bytes) :
    Except ExtensionFailure ExtensionSummary :=
  if bytes.length ≥ 2 ^ 32 ∨ bootInfoSize + bytes.length ≥ 2 ^ 32 then
    .error (.refused .totalSizeMismatch)
  else if declaredTotalSize ≠ bootInfoSize + bytes.length then
    .error (.refused .totalSizeMismatch)
  else if envelopeMajor = abiMajor then
    if declaredTotalSize ≠ bootInfoSize ∨ bytes.length ≠ 0 then
      .error (.refused .extensionsForbiddenForV1)
    else .ok ⟨none, 0⟩
  else if envelopeMajor ≠ bootEnvelopeAbiMajor then .error (.refused .unsupportedEnvelopeVersion)
  else if ¬ bytes.length % 8 = 0 then .error (.refused .extensionAreaMisaligned)
  else scanRecords bytes 0 0 none

end UnnamedOS.BootProtocol
