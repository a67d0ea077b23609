import UnnamedOS.Loader.ExitProtocol
import UnnamedOS.Loader.PublishedMemory
import UnnamedOS.Loader.UefiFirmware

namespace UnnamedOS.Loader

open UnnamedOS.Data UnnamedOS.BootProtocol UnnamedOS.MemoryMap UnnamedOS.PageTable

/-! # From the firmware's map to the kernel's

Between the report of a map and the end of boot services the firmware may have
replaced it.  The map that the kernel reads is still the one that was in force
at the end, with the loader's own pages laid over it. -/

section

variable {φ ε : Type} {firmware : Firmware φ} {mapOf : φ → List UefiMemoryDescriptor}
  {keyOf : φ → Nat} {start length : Nat}

/-- The firmware's current map stands in the buffer, as it was captured. -/
def Describes (mapOf : φ → List UefiMemoryDescriptor) (start length : Nat)
    (captured : CapturedMapMeta) (machine : Machine φ) : Prop :=
  LaysOut (mapOf machine.firmware) captured.descriptorStride captured.mapSize
    (window machine.hardware.memory start length)

/-- The captured key is still the current one. -/
structure Current (mapOf : φ → List UefiMemoryDescriptor) (keyOf : φ → Nat) (start length : Nat)
    (captured : CapturedMapMeta) (machine : Machine φ) : Prop where
  key : captured.mapKey = keyOf machine.firmware
  describes : Describes mapOf start length captured machine

theorem Current.say {captured : CapturedMapMeta} {machine : Machine φ}
    (current : Current mapOf keyOf start length captured machine) (texts : List String) :
    Current mapOf keyOf start length captured (machine.say texts) :=
  ⟨current.key, current.describes⟩

theorem captureFrom_current (honest : Honest firmware mapOf keyOf start length)
    (attempts : List Nat) :
    Program.Triple (fun _ => True) (captureFrom firmware start length attempts)
      (Current mapOf keyOf start length) fun _ _ => True := by
  induction attempts with
  | nil => exact .stop fun _ _ => trivial
  | cons attempt later ih =>
      have looks : Program.Triple (fun _ => True)
          (.look Machine.systemTable : Program (Machine φ) Status Bool)
          (fun _ _ => True) fun _ _ => True := .look fun _ _ => trivial
      refine looks.bind ?_
      intro present
      split
      · exact .stop fun _ _ => trivial
      have asks : Program.Triple (fun _ => True) (ask firmware (.getMemoryMap start length))
          (fun reply machine => reply.status = .success →
            reply.mapKey = keyOf machine.firmware ∧
            LaysOut (mapOf machine.firmware) reply.descriptorStride reply.mapSize
              (window machine.hardware.memory start length))
          fun (_ : Status) _ => True :=
        .call fun machine _ => honest.reports machine.firmware machine.hardware
      refine asks.bind ?_
      intro reply
      split
      · rename_i success
        cases accepted : reply.accept length with
        | none => exact .stop fun _ _ => trivial
        | some captured =>
            refine .pure ?_
            intro machine reported
            obtain ⟨key, laid⟩ := reported success
            unfold MapReply.accept at accepted
            split at accepted
            · cases accepted
              exact ⟨key, laid⟩
            · contradiction
      · split
        · exact .stop fun _ _ => trivial
        · exact ih.imp (fun _ _ => trivial) (fun _ _ => id) fun _ _ => id

theorem captureMemoryMap_current (honest : Honest firmware mapOf keyOf start length) :
    Program.Triple (fun _ => True) (captureMemoryMap firmware start length).attempt
      (fun outcome machine => ∀ captured, outcome = .ok captured →
        Current mapOf keyOf start length captured machine)
      fun (_ : ε) _ => True := by
  refine Program.Triple.attempt ((captureFrom_current honest _).imp (fun _ => id) ?_ ?_)
  · intro captured machine current other same
    cases same
    exact current
  · simp

/-- An exit that succeeds right after the map was current leaves it current. -/
theorem attemptExit_describes (honest : Honest firmware mapOf keyOf start length)
    (policy : ExitRetryPolicy) (finalMap : CapturedMapMeta) :
    Program.Triple (Current mapOf keyOf start length finalMap)
      (attemptExit firmware policy finalMap)
      (fun result machine => result.1 = .success → Describes mapOf start length finalMap machine)
      fun _ _ => True := by
  rw [attemptExit]
  split
  · intro machine _
    exact ⟨by simp [postExitFailure_run], fun _ _ _ => trivial⟩
  · have asks : Program.Triple (Current mapOf keyOf start length finalMap)
        (ask firmware (.exitBootServices finalMap.mapKey))
        (fun status machine => status = .success →
          Describes mapOf start length finalMap machine)
        fun (_ : BootStop) _ => True := by
      refine .call ?_
      intro machine current success
      obtain ⟨same, kept⟩ := honest.exits finalMap.mapKey machine.firmware machine.hardware success
      have unchanged := honest.keyed (.exitBootServices finalMap.mapKey) machine.firmware
        machine.hardware (same.symm.trans current.key)
      have described := current.describes
      rw [Describes, ← kept, ← unchanged] at described
      exact described
    refine asks.bind ?_
    intro status
    exact .pure fun _ described => described

theorem retryExit_describes (honest : Honest firmware mapOf keyOf start length)
    (policy : ExitRetryPolicy) :
    Program.Triple (fun _ => True) (retryExit firmware start length policy)
      (fun result machine => result.1 = .success → Describes mapOf start length result.2 machine)
      fun _ _ => True := by
  refine (captureMemoryMap_current honest).bind ?_
  intro outcome
  cases outcome with
  | error reason =>
      intro machine _
      exact ⟨by simp [postExitFailure_run], fun _ _ _ => trivial⟩
  | ok retryMap =>
      refine ((attemptExit_describes honest policy retryMap).imp
        (fun _ current => current retryMap rfl) (fun _ _ => id) fun _ _ => id).bind ?_
      intro result
      exact .pure fun _ described => described

/-- However often the map changed, the one that is returned is in force. -/
theorem exitWithRetry_describes (honest : Honest firmware mapOf keyOf start length)
    (finalMap : CapturedMapMeta) :
    Program.Triple (Current mapOf keyOf start length finalMap)
      (exitWithRetry firmware start length finalMap)
      (Describes mapOf start length) fun _ _ => True := by
  refine (attemptExit_describes honest .new finalMap).bind ?_
  intro first
  have leaves : Program.Triple
      (fun machine => first.1 = .success → Describes mapOf start length finalMap machine)
      (lastExit firmware start length first finalMap)
      (fun last machine => last.1 = .success → Describes mapOf start length last.2 machine)
      fun _ _ => True := by
    rw [lastExit]
    split
    · exact (retryExit_describes honest first.2).imp (fun _ _ => trivial) (fun _ _ => id)
        fun _ _ => id
    · exact .pure fun _ described => described
  refine leaves.bind ?_
  intro last
  split
  · intro machine _
    exact ⟨by simp [postExitFailure_run], fun _ _ _ => trivial⟩
  · rename_i success
    intro machine described
    refine ⟨?_, by simp [Program.bind_of_ok writeLine_run]⟩
    intro finalMap after ran
    rw [Program.bind_of_ok writeLine_run] at ran
    cases ran
    exact described (not_not.mp success)

end

/-! ## The kernel's view -/

section

variable {transferred : TransferredHandoff} {stack : TransferredBootstrapStack}
  {frames : List PhysicalFrame} {mapped base : List MemoryDescriptor} {items : List Reservation}
  {final : FinalDescriptors}

theorem inMap_iff_assigns {map : List MemoryDescriptor} {address : Nat} :
    InMap map address ↔ ∃ kind attributes, Assigns map address kind attributes := by
  constructor
  · intro covered
    obtain ⟨descriptor, member, contains⟩ := covered
    exact ⟨_, _, descriptor, member, contains, rfl⟩
  · intro colored
    obtain ⟨_, _, descriptor, member, contains, _⟩ := colored
    exact ⟨descriptor, member, contains⟩

theorem FinalMapOf.inMap_mapped
    (map : FinalMapOf transferred stack frames mapped base items final) {address : Nat} :
    InMap base address ↔ InMap mapped address := by
  simp only [inMap_iff_assigns, map.assigns]

/-- Everything but the framebuffer lies in memory that the firmware described. -/
theorem FinalMapOf.owned_mapped
    (map : FinalMapOf transferred stack frames mapped base items final) {address kind : Nat}
    (owned : OwnedAs transferred stack frames address kind) (shown : kind ≠ memoryKindFramebuffer) :
    InMap mapped address := by
  obtain ⟨reservation, listed, inside, rfl⟩ := (map.claims.owned address kind).mp owned
  have covered := map.overlay.complete reservation listed
    (fun screen => shown (map.claims.screens reservation listed screen)) address inside
  exact map.inMap_mapped.mp ((map.overlay.sameCover address).mp covered)

/-- What the finished map says about an address: the owner's kind in the pages
that crossed, and what the firmware said everywhere else. -/
theorem FinalMapOf.assigns_live
    (map : FinalMapOf transferred stack frames mapped base items final)
    {address kind attributes : Nat} :
    Assigns final.live address kind attributes ↔
      (OwnedAs transferred stack frames address kind ∧ attributes = 0 ∧ InMap mapped address) ∨
      ((∀ other, ¬ OwnedAs transferred stack frames address other) ∧
        Assigns mapped address kind attributes) := by
  constructor
  · rintro ⟨descriptor, member, contains, color⟩
    obtain ⟨rfl, rfl⟩ := Prod.mk.inj color
    have inBase : InMap base address :=
      (map.overlay.sameCover address).mp ⟨descriptor, member, contains⟩
    by_cases reserved : ∃ reservation ∈ items, reservation.Contains address
    · obtain ⟨reservation, listed, inside⟩ := reserved
      obtain ⟨sameKind, plain⟩ :=
        map.overlay.reserved descriptor member reservation listed address contains inside
      exact .inl ⟨(map.claims.owned address _).mpr ⟨reservation, listed, inside, sameKind.symm⟩,
        plain, map.inMap_mapped.mp inBase⟩
    · obtain ⟨source, inSource, holds⟩ := inBase
      obtain ⟨sameKind, sameAttributes⟩ := map.overlay.kept descriptor member source inSource
        address contains holds fun reservation listed inside =>
          reserved ⟨reservation, listed, inside⟩
      refine .inr ⟨?_, ?_⟩
      · intro other owned
        obtain ⟨reservation, listed, inside, _⟩ := (map.claims.owned address other).mp owned
        exact reserved ⟨reservation, listed, inside⟩
      · rw [sameKind, sameAttributes, ← map.assigns]
        exact ⟨source, inSource, holds, rfl⟩
  · rintro (⟨owned, rfl, inMapped⟩ | ⟨free, assigned⟩)
    · obtain ⟨reservation, listed, inside, rfl⟩ := (map.claims.owned address kind).mp owned
      obtain ⟨descriptor, member, contains⟩ :=
        (map.overlay.sameCover address).mpr (map.inMap_mapped.mpr inMapped)
      obtain ⟨sameKind, plain⟩ :=
        map.overlay.reserved descriptor member reservation listed address contains inside
      exact ⟨descriptor, member, contains, Prod.ext sameKind plain⟩
    · obtain ⟨source, inSource, holds, color⟩ := (map.assigns address kind attributes).mpr assigned
      obtain ⟨descriptor, member, contains⟩ :=
        (map.overlay.sameCover address).mpr ⟨source, inSource, holds⟩
      obtain ⟨sameKind, sameAttributes⟩ := map.overlay.kept descriptor member source inSource
        address contains holds fun reservation listed inside =>
          free reservation.kind ((map.claims.owned address _).mpr ⟨reservation, listed, inside, rfl⟩)
      exact ⟨descriptor, member, contains, (Prod.ext sameKind sameAttributes).trans color⟩

end

section

variable {φ κ β σ ψ ε : Type} {firmware : Firmware φ} {mapOf : φ → List UefiMemoryDescriptor}
  {keyOf : φ → Nat}

theorem finalizePostExit_describes {transferred : TransferredHandoff}
    {stack : TransferredBootstrapStack} {tables : TransferredActivationPreparedPageTables}
    (delivered : Delivered transferred stack tables) {finalMap : CapturedMapMeta}
    {start length : Nat} (bounded : length < wordLimit) :
    Program.Triple (Describes mapOf start length finalMap)
      (finalizePostExit transferred finalMap start length)
      (fun arguments after => ∃ machine base items final bootInfo,
        Started transferred stack tables
          ((mapOf machine.firmware).map (mappedDescriptor mapUefiMemoryKindPostExit)) finalMap
          arguments after machine base items final bootInfo)
      fun _ _ => True := by
  intro machine described
  refine ⟨?_, fun _ _ _ => trivial⟩
  intro arguments after ran
  rcases finalizePostExit_cases delivered finalMap start length machine with
    ⟨_, _, _, stopped⟩ | ⟨final, bootInfo, mapped, base, items, converted, map, finalized, passed⟩
  · rw [stopped] at ran
    cases ran
  · rw [passed] at ran
    cases ran
    obtain rfl := LaysOut.convertRawMap described (by simpa using bounded) converted
    exact ⟨machine, base, items, final, bootInfo, map, finalized, rfl, rfl⟩

/-- Every run that reaches the kernel was finalized from the map in force. -/
theorem leaveBootServices_describes (frameOps : FrameBackend ψ ε)
    (ready : PageTableHandoffReady κ β σ ψ)
    (honest : Honest firmware mapOf keyOf ready.exit.bootInfo.allocations.rawMap.pageStart
      (ready.exit.bootInfo.allocations.rawMap.pageCount * 4096)) :
    Program.Triple (fun _ => True) (leaveBootServices firmware frameOps ready)
      (fun result after => ∃ machine base items final bootInfo,
        Started (ready.crossExitBoundary frameOps).1 ready.stack.transfer.1
          (ready.pageTables.transfer frameOps).1
          ((mapOf machine.firmware).map (mappedDescriptor mapUefiMemoryKindPostExit)) result.1
          result.2 after machine base items final bootInfo)
      fun _ _ => True := by
  rw [leaveBootServices]
  have asks : Program.Triple (fun _ => True) (ask firmware .setWatchdogTimer)
      (fun _ _ => True) fun (_ : BootStop) _ => True := .call fun _ _ => trivial
  refine asks.bind ?_
  intro timer
  split
  · exact .stop fun _ _ => trivial
  dsimp only
  set rawMap := ready.exit.bootInfo.allocations.rawMap
  split
  · exact .stop fun _ _ => trivial
  rename_i rawLength sized
  obtain ⟨bounded, rfl⟩ := checkedMul_eq_some.mp sized
  have looks : Program.Triple (fun _ => True)
      (.look Machine.systemTable : Program (Machine φ) BootStop Bool)
      (fun _ _ => True) fun _ _ => True := .look fun _ _ => trivial
  refine looks.bind ?_
  intro present
  split
  · exact .stop fun _ _ => trivial
  refine (captureMemoryMap_current honest).bind ?_
  intro outcome
  cases outcome with
  | error reason => exact .stop fun _ _ => trivial
  | ok firstMap =>
      have writes : Program.Triple
          (fun machine => ∀ captured, Except.ok firstMap = (.ok captured : Except Status _) →
            Current mapOf keyOf rawMap.pageStart (rawMap.pageCount * 4096) captured machine)
          (writeLine "UNOS:P1H:EXIT_READY" : Program (Machine φ) BootStop Unit)
          (fun _ => Current mapOf keyOf rawMap.pageStart (rawMap.pageCount * 4096) firstMap)
          fun _ _ => True :=
        .change fun _ current => (current firstMap rfl).say ["UNOS:P1H:EXIT_READY"]
      refine writes.bind fun _ => (exitWithRetry_describes honest firstMap).bind ?_
      intro finalMap
      refine (finalizePostExit_describes (delivered_cross frameOps ready) bounded).bind ?_
      intro arguments
      exact .pure fun _ started => started

/-- The descriptors that the kernel reads are in order, and together they say
of every address what the firmware's map said when boot services ended, except
that the pages which crossed carry their owner's kind.  Only the framebuffer can
lie outside the firmware's map. -/
theorem leaveBootServices_faithful (frameOps : FrameBackend ψ ε)
    (ready : PageTableHandoffReady κ β σ ψ)
    (honest : Honest firmware mapOf keyOf ready.exit.bootInfo.allocations.rawMap.pageStart
      (ready.exit.bootInfo.allocations.rawMap.pageCount * 4096))
    (screen : ready.exit.bootInfo.framebuffer.Fits) {machine after : Machine φ}
    {finalMap : CapturedMapMeta} {arguments : KernelArguments}
    (ran : leaveBootServices firmware frameOps ready machine =
      (.ok (finalMap, arguments), after)) :
    let bootInfo := BootInfo.record.load after.hardware.memory arguments.bootInfo
    let descriptors := MemoryDescriptor.record.loadAll after.hardware.memory
      bootInfo.memoryMap.physicalAddress bootInfo.memoryMap.descriptorCount
    let reported := (mapOf after.firmware).map (mappedDescriptor mapUefiMemoryKindPostExit)
    let Owned := OwnedAs (ready.crossExitBoundary frameOps).1 ready.stack.transfer.1
      (ready.pageTables.transfer frameOps).1.frames
    InOrder descriptors ∧
      (∀ address kind attributes, Assigns descriptors address kind attributes ↔
        (Owned address kind ∧ attributes = 0 ∧ InMap reported address) ∨
        ((∀ other, ¬ Owned address other) ∧ Assigns reported address kind attributes)) ∧
      ∀ address kind, Owned address kind → kind ≠ memoryKindFramebuffer →
        InMap reported address := by
  intro bootInfo descriptors reported Owned
  obtain ⟨before, base, items, final, block, started⟩ :=
    (leaveBootServices_describes frameOps ready honest machine trivial).1 _ _ ran
  have ended : before.firmware = after.firmware :=
    (congrArg Machine.firmware started.after).symm
  have read : descriptors = final.live := started.publishedMap_eq screen
  have map := started.map
  rw [ended] at map
  rw [read]
  exact ⟨map.overlay.ordered, fun _ _ _ => map.assigns_live,
    fun _ _ owned shown => map.owned_mapped owned shown⟩

/-- The page table stays known as one, although the firmware has redrawn the map
around it in the meantime. -/
theorem leaveBootServices_faithful_restless :
    ∃ finalMap arguments after,
      leaveBootServices uefiFirmware oneFrame lowReady (lowBoot restless) =
        (.ok (finalMap, arguments), after) ∧
      let bootInfo := BootInfo.record.load after.hardware.memory arguments.bootInfo
      Assigns (MemoryDescriptor.record.loadAll after.hardware.memory
        bootInfo.memoryMap.physicalAddress bootInfo.memoryMap.descriptorCount)
        0x7_0000 memoryKindPageTable 0 := by
  have returned : (leaveBootServices uefiFirmware oneFrame lowReady (lowBoot restless)).1.isOk =
      true := by decide +kernel
  cases ended : leaveBootServices uefiFirmware oneFrame lowReady (lowBoot restless) with
  | mk outcome after =>
      rw [ended] at returned
      cases outcome with
      | error reason => contradiction
      | ok result =>
          obtain ⟨_, assigns, mapped⟩ := leaveBootServices_faithful oneFrame lowReady
            (uefiFirmware_honest _ _) (by constructor <;> decide) ended
          have owned : OwnedAs (lowReady.crossExitBoundary oneFrame).1 lowReady.stack.transfer.1
              (lowReady.pageTables.transfer oneFrame).1.frames 0x7_0000 memoryKindPageTable :=
            .pageTable (List.mem_singleton_self lowTableFrame) (Nat.le_refl _)
              (Nat.lt_add_of_pos_right (by decide))
          exact ⟨result.1, result.2, after, rfl,
            (assigns _ _ _).mpr (.inl ⟨owned, rfl, mapped _ _ owned (by decide)⟩)⟩

end

end UnnamedOS.Loader
