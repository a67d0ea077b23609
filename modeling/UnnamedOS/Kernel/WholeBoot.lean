import UnnamedOS.Kernel.Bootstrap
import UnnamedOS.Loader.LoaderCustody

namespace UnnamedOS.Kernel

open UnnamedOS.Data UnnamedOS.BootProtocol UnnamedOS.MemoryMap UnnamedOS.Loader UnnamedOS.PageTable

/-! # The whole boot

What the loader still has on loan when it starts the kernel is known from its
calls alone, and what the kernel may use from the map that it reads.  The two
never meet. -/

def Holds (allocation : OwnedAllocation) (address : Nat) : Prop :=
  allocation.pageStart ≤ address ∧ address < allocation.pageStart + allocation.pageCount * 4096

section

variable {φ : Type} {ready : PageTableHandoffReady Unit Unit Unit Nat}
  {result : CapturedMapMeta × KernelArguments} {machine : Machine φ} {allocation : OwnedAllocation}
  {address : Nat}

theorem mem_of_heldResources {α : Type} {slots : List (α × Bool)} {resource : α}
    (held : resource ∈ heldResources slots) : resource ∈ slots.map Prod.fst := by
  rw [heldResources_eq] at held
  obtain ⟨slot, member, rfl⟩ := List.mem_map.mp held
  exact List.mem_map_of_mem (List.mem_of_mem_filter member)

theorem bootData_reserved {allocations : BootDataAllocations} {buffer : PageAllocation}
    (listed : buffer ∈ allocations.ordered) :
    ∃ source kind, source ≠ ReservationSource.framebuffer ∧
      allocationReservation buffer source kind ∈ allocations.reservations := by
  simp only [BootDataAllocations.ordered, List.mem_cons, List.not_mem_nil, or_false] at listed
  rcases listed with rfl | rfl | rfl | rfl
  · exact ⟨.rawMemoryMap, memoryKindBootMemoryMap, by simp,
      by simp [BootDataAllocations.reservations]⟩
  · exact ⟨.conversionScratch, memoryKindBootMemoryMap, by simp,
      by simp [BootDataAllocations.reservations]⟩
  · exact ⟨.convertedMemoryMap, memoryKindBootMemoryMap, by simp,
      by simp [BootDataAllocations.reservations]⟩
  · exact ⟨.bootInfo, memoryKindBootInfo, by simp, by simp [BootDataAllocations.reservations]⟩

/-- Each owner's pages are among the reservations of the final map. -/
theorem held_reserved {items : List Reservation}
    (image : ready.exit.kernel.held = ready.exit.kernel.segments.map SegmentMetadata.allocation)
    (claims : TransferredClaims (ready.crossExitBoundary idleFrames).1 ready.stack.transfer.1
      (ready.pageTables.transfer idleFrames).1.frames items)
    (held : allocation ∈ ready.held) (inside : Holds allocation address) :
    ∃ reservation ∈ items, reservation.source ≠ .framebuffer ∧ reservation.Contains address := by
  rw [PageTableHandoffReady.held, List.mem_append, List.mem_append, List.mem_append] at held
  rcases held with kernel | data | stack | tables
  · rw [image] at kernel
    obtain ⟨segment, listed, rfl⟩ := List.mem_map.mp kernel
    exact ⟨_, claims.segments segment listed, by simp [segmentReservation], inside⟩
  · have listed := mem_of_heldResources data
    rw [PreparedBootInfo.slots_fst] at listed
    obtain ⟨buffer, ordered, rfl⟩ := List.mem_map.mp listed
    obtain ⟨source, kind, plain, reserved⟩ := bootData_reserved ordered
    exact ⟨_, claims.bootData _ reserved, plain, inside⟩
  · unfold BootstrapStack.held at stack
    split at stack
    · obtain rfl := List.mem_singleton.mp stack
      refine ⟨_, claims.stackPages, by simp [stackReservation], ?_⟩
      have size := ready.stack.size
      obtain ⟨low, high⟩ := inside
      simp only [PageAllocation.pages, size] at low high
      exact ⟨low, high⟩
    · simp at stack
  · unfold heldFrames at tables
    split at tables
    · obtain ⟨start, listed, rfl⟩ := List.mem_map.mp tables
      obtain ⟨frame, member, rfl⟩ := List.mem_map.mp listed
      obtain ⟨low, high⟩ := inside
      simp only [framePage, Nat.one_mul] at low high
      obtain ⟨run, inItems, _, source, contains⟩ :=
        claims.framePages frame member address low high
      exact ⟨run, inItems, by simp [source], contains⟩
    · simp at tables

theorem nonUsable_of_departed (departed : Departed ready result machine)
    (held : allocation ∈ ready.held) (inside : Holds allocation address) :
    NonUsable (publishedMap machine.hardware.memory result.2.bootInfo) address ∧
      ¬ Usable (publishedMap machine.hardware.memory result.2.bootInfo) address := by
  obtain ⟨image, _, screen, mapped, middle, base, items, final, bootInfo, started⟩ := departed
  rw [started.publishedMap_eq screen]
  exact nonUsable_of_reserved started.map (held_reserved image started.map.claims held inside)

/-- A kernel that is linked as the loaded segments are passes all its checks. -/
theorem startKernel_of_departed (departed : Departed ready result machine) {code : Code φ}
    {kernel : PhysicalRange}
    (linked : Linked ready.exit.kernel.entryPoint ready.exit.kernel.segments code kernel) :
    ExitsWith machine 0x10 kernelLines (startKernel code result.2 machine) := by
  obtain ⟨_, _, screen, mapped, middle, base, items, final, bootInfo, map, finalized, passed,
    rfl⟩ := departed
  exact startKernel_passes (delivered_cross idleFrames ready) map finalized linked screen passed

end

section

variable {φ : Type} (firmware : Firmware φ) (features : TestFeatures)

/-- Under any firmware, a run does not reach the kernel, or the firmware has lent
one page twice, or no byte that is still on loan is usable in the map that the
kernel reads. -/
theorem loadKernel_published (state : φ) (hardware : Hardware) (systemTable : Bool) :
    let ended := loadKernel firmware features ⟨state, hardware, systemTable, []⟩
    (∃ reason, ended.1 = .error reason) ∨ ended.2.books = .error .lender ∨
      ∃ finalMap arguments account, ended.1 = .ok (finalMap, arguments) ∧
        ended.2.books = .ok account ∧
        ∀ allocation ∈ account.live, ∀ address, Holds allocation address →
          NonUsable (publishedMap ended.2.hardware.memory arguments.bootInfo) address ∧
            ¬ Usable (publishedMap ended.2.hardware.memory arguments.bootInfo) address := by
  intro ended
  cases ran : ended with
  | mk outcome after =>
      cases outcome with
      | error reason => exact .inl ⟨reason, rfl⟩
      | ok result =>
          obtain ⟨good, _⟩ := loadKernel_hands firmware features [] _ (owes_nothing state hardware
            systemTable)
          obtain ⟨held, ⟨ready, departed, rfl⟩, owes⟩ := good result after ran
          rw [List.append_nil] at owes
          rcases owes with fault | ⟨account, kept, live⟩
          · exact .inr (.inl fault)
          · refine .inr (.inr ⟨result.1, result.2, account, rfl, kept, ?_⟩)
            intro allocation member address inside
            exact nonUsable_of_departed departed (live.mem_iff.mp member) inside

/-- The whole of `main` under any firmware: it ends through the debug port, or
it jumps to the entry point of the loaded kernel.  Then the pages of the four
owners are the ones on loan, unless the firmware has lent one page twice, and a
kernel that is linked as the segments are gets to its last line. -/
theorem main_outcome (state : φ) (hardware : Hardware) (systemTable : Bool) :
    let ended := main firmware features ⟨state, hardware, systemTable, []⟩
    ended.1 = .error .failed ∨
      ∃ finalMap arguments, ∃ ready : PageTableHandoffReady Unit Unit Unit Nat,
        ended.1 = .ok (finalMap, arguments) ∧
        (ended.2.books = .error .lender ∨
          ∃ account, ended.2.books = .ok account ∧ account.live.Perm ready.held) ∧
        ready.exit.kernel.held = ready.exit.kernel.segments.map SegmentMetadata.allocation ∧
        arguments.entry = ready.exit.kernel.entryPoint ∧ ready.exit.kernel.Enterable ∧
        ∀ code kernel,
          Linked ready.exit.kernel.entryPoint ready.exit.kernel.segments code kernel →
          ExitsWith ended.2 0x10 kernelLines (startKernel code arguments ended.2) := by
  intro ended
  obtain ⟨good, _⟩ := loadKernel_hands firmware features [] _ (owes_nothing state hardware
    systemTable)
  cases ran : loadKernel firmware features ⟨state, hardware, systemTable, []⟩ with
  | mk outcome after =>
      cases outcome with
      | error reason =>
          cases reason with
          | failed =>
              have continued : ended = (.error .failed, after) :=
                Program.bind_of_ok (Program.attempt_eq_ok.mpr ran)
              exact .inl (congrArg Prod.fst continued)
          | returned error =>
              have continued : ended = (.error .failed, after.say [error.marker]) :=
                Program.bind_of_ok (Program.attempt_eq_ok.mpr ran)
              exact .inl (congrArg Prod.fst continued)
      | ok result =>
          have continued : ended = (.ok result, after) :=
            Program.bind_of_ok (Program.attempt_eq_ok.mpr ran)
          obtain ⟨held, ⟨ready, departed, rfl⟩, owes⟩ := good result after ran
          rw [List.append_nil] at owes
          rw [continued]
          exact .inr ⟨result.1, result.2, ready, rfl, owes, departed.image, departed.entry,
            departed.enterable, fun _ _ linked => startKernel_of_departed departed linked⟩

end

end UnnamedOS.Kernel
