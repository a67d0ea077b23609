import UnnamedOS.Data.Fallible
import UnnamedOS.Data.Word
import UnnamedOS.Layout.Address
import UnnamedOS.Layout.MappingPlan
import UnnamedOS.Layout.PlanInvariant
import UnnamedOS.Data.Trie
import UnnamedOS.PageTable.Plan
import UnnamedOS.PageTable.Structure
import UnnamedOS.PageTable.Translation
import UnnamedOS.Data.Release
import UnnamedOS.PageTable.FrameOwner
import UnnamedOS.PageTable.FrameCustody
import UnnamedOS.PageTable.TransferredFrames
import UnnamedOS.X86.Walk
import UnnamedOS.Loader.PageTables
import UnnamedOS.PageTable.Walk
import UnnamedOS.PageTable.Aliases
import UnnamedOS.Loader.TransitionWalk
import UnnamedOS.BootProtocol.BootInfo
import UnnamedOS.BootProtocol.Extensions
import UnnamedOS.BootProtocol.ExtensionGrammar
import UnnamedOS.MemoryMap.Normalize
import UnnamedOS.Data.SpanMap
import UnnamedOS.Data.SpanCuts
import UnnamedOS.MemoryMap.Reservations
import UnnamedOS.MemoryMap.Drawing
import UnnamedOS.MemoryMap.Overlay
import UnnamedOS.MemoryMap.Pieces
import UnnamedOS.MemoryMap.NormalForm
import UnnamedOS.Kernel.BootState
import UnnamedOS.Loader.BootInformation
import UnnamedOS.Loader.PageTableReservations
import UnnamedOS.Data.Runs
import UnnamedOS.Loader.FrameRuns
import UnnamedOS.Loader.ReservationEvidence
import UnnamedOS.Kernel.Handoff
import UnnamedOS.Data.Bytes
import UnnamedOS.Data.Validator
import UnnamedOS.KernelImage.Parse
import UnnamedOS.KernelImage.Acceptance
import UnnamedOS.KernelImage.Decision
import UnnamedOS.KernelImage.Canonical
import UnnamedOS.Data.Slots
import UnnamedOS.Loader.LoadPlan
import UnnamedOS.Loader.SegmentCustody
import UnnamedOS.Loader.PreparedBootInfo
import UnnamedOS.Loader.ExitState
import UnnamedOS.Layout.Contract
import UnnamedOS.Layout.History
import UnnamedOS.Data.Memory
import UnnamedOS.Loader.TargetMemory
import UnnamedOS.Loader.Verification
import UnnamedOS.Data.Flags
import UnnamedOS.Loader.VerifiedCells
import UnnamedOS.Loader.VerifiedTables
import UnnamedOS.Loader.Activation
import UnnamedOS.Loader.BootstrapStack
import UnnamedOS.Loader.Handoff
import UnnamedOS.Loader.HandoffCustody
import UnnamedOS.Loader.OwningConstructors
import UnnamedOS.Loader.ExactRead
import UnnamedOS.Loader.ActivationLiveness
import UnnamedOS.Loader.ActivationWidth
import UnnamedOS.Data.Outcome
import UnnamedOS.PageTable.Completeness
import UnnamedOS.PageTable.Hierarchy
import UnnamedOS.Data.Output
import UnnamedOS.PageTable.Encoding
import UnnamedOS.PageTable.CanonicalEncoding
import UnnamedOS.Layout.Validation
import UnnamedOS.PageTable.Transition
import UnnamedOS.PageTable.StackGuard
import UnnamedOS.Loader.TransitionPlan
import UnnamedOS.KernelImage.BootImages
import UnnamedOS.Loader.LoadSuccess
import UnnamedOS.Loader.HigherHalfPlan
import UnnamedOS.Layout.DirectMap
import UnnamedOS.Layout.OrderIndependence
import UnnamedOS.PageTable.PageMap
import UnnamedOS.BootProtocol.PageTableFrames
import UnnamedOS.BootProtocol.ExtensionSplice
import UnnamedOS.Loader.PlanGeometry
import UnnamedOS.Loader.TargetContents
import UnnamedOS.Data.SecureHash
import UnnamedOS.Xtask.Sha256
import UnnamedOS.Xtask.Sha256Standard
import UnnamedOS.Data.Record
import UnnamedOS.BootProtocol.Wire
import UnnamedOS.Data.Program
import UnnamedOS.Loader.RawMap
import UnnamedOS.Loader.Machine
import UnnamedOS.Loader.PostExit
import UnnamedOS.Loader.FinalMap
import UnnamedOS.Loader.Finalization
import UnnamedOS.Loader.PublishedMemory
import UnnamedOS.Kernel.Bootstrap
import UnnamedOS.Loader.ExitProtocol
import UnnamedOS.Loader.ExitDiscipline
import UnnamedOS.Loader.UefiFirmware
import UnnamedOS.Loader.MapFidelity
import UnnamedOS.Loader.UefiBackends
import UnnamedOS.Loader.BootData
import UnnamedOS.Loader.PrepareAndExit
import UnnamedOS.Loader.KernelFile
import UnnamedOS.Loader.Main
import UnnamedOS.Data.Ledger
import UnnamedOS.Loader.Books
import UnnamedOS.Loader.KernelCustody
import UnnamedOS.Loader.HandoffResources
import UnnamedOS.Loader.BootDataCustody
import UnnamedOS.Loader.LoaderCustody
import UnnamedOS.Kernel.WholeBoot
import UnnamedOS.Data.Lines
import UnnamedOS.Loader.SerialTrace
import UnnamedOS.Xtask.HandoffTest
