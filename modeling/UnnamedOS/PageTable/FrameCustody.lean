import UnnamedOS.PageTable.FrameOwner

namespace UnnamedOS.PageTable

open UnnamedOS.Data UnnamedOS.Layout

/-! # What the frame backend sees

Running the owner over a backend that also writes down its calls shows every
call in order, for whatever behaviour the backend has.  All acquisitions come
before all releases, so the whole history is an opening and a list of release
attempts that follows the discipline of `Releases`. -/

inductive FrameEvent where
  | allocated (result : Option Nat)
  | zeroed (frame : PhysicalFrame) (done : Bool)
  | freed (attempt : Attempt Nat)
deriving DecidableEq

variable {β ε : Type} {capacity tableCapacity entryCapacity removalCapacity : Nat}

/-- The same backend, with its calls recorded. -/
def FrameBackend.logged (ops : FrameBackend β ε) : FrameBackend (β × List FrameEvent) ε where
  allocateFrame state :=
    match ops.allocateFrame state.1 with
    | (result, next) => (result, next, state.2 ++ [.allocated result.toOption])
  zeroFrame state frame :=
    match ops.zeroFrame state.1 frame with
    | (result, next) => (result, next, state.2 ++ [.zeroed frame result.isOk])
  freeFrame state address :=
    match ops.freeFrame state.1 address with
    | (result, next) => (result, next, state.2 ++ [.freed ⟨address, result.isOk⟩])

/-- The addresses `allocate_frame` returned, in order. -/
def allocations (log : List FrameEvent) : List Nat :=
  log.filterMap fun
    | .allocated result => result
    | _ => none

/-- The frames `zero_frame` succeeded on, in order. -/
def zeroings (log : List FrameEvent) : List PhysicalFrame :=
  log.filterMap fun
    | .zeroed frame true => some frame
    | _ => none

/-- The calls of `free_frame`, in order. -/
def frees (log : List FrameEvent) : List (Attempt Nat) :=
  log.filterMap fun
    | .freed attempt => some attempt
    | _ => none

section

variable (log more : List FrameEvent) (attempts : List (Attempt Nat))

@[simp] theorem allocations_append :
    allocations (log ++ more) = allocations log ++ allocations more :=
  List.filterMap_append

@[simp] theorem zeroings_append : zeroings (log ++ more) = zeroings log ++ zeroings more :=
  List.filterMap_append

@[simp] theorem frees_append : frees (log ++ more) = frees log ++ frees more :=
  List.filterMap_append

@[simp] theorem allocations_freed : allocations (attempts.map .freed) = [] := by
  simp [allocations, List.filterMap_map]

@[simp] theorem frees_freed : frees (attempts.map .freed) = attempts := by
  simp [frees, List.filterMap_map]

end

theorem FrameBackend.logged_records (ops : FrameBackend β ε) :
    Records ops.logged.freeFrame Prod.snd FrameEvent.freed := by
  intro state address
  rfl

/-- The history of a holder: `acquired` are the addresses it took, in order,
and `held` those it still has. -/
structure Tracked (log : List FrameEvent) (acquired held : List Nat) : Prop where
  distinct : acquired.Nodup
  addresses : ∃ repeated, allocations log = acquired ++ repeated ∧ ∀ address ∈ repeated, address ∈ acquired
  phases : ∃ opening made, log = opening ++ made.map .freed ∧ frees opening = [] ∧
    Releases false acquired.reverse made held.reverse

namespace Tracked

variable {log : List FrameEvent} {acquired held : List Nat}

/-- Nothing is released while frames are still being taken. -/
theorem opening (distinct : acquired.Nodup) (repeated : List Nat)
    (addresses : allocations log = acquired ++ repeated)
    (subset : ∀ address ∈ repeated, address ∈ acquired) (quiet : frees log = []) :
    Tracked log acquired acquired :=
  ⟨distinct, ⟨repeated, addresses, subset⟩, log, [], by simp, quiet, .stop _⟩

theorem extend (tracked : Tracked log acquired held) {left : List Nat}
    {made : List (Attempt Nat)} (releases : Releases false held.reverse made left.reverse) :
    Tracked (log ++ made.map .freed) acquired left := by
  obtain ⟨distinct, ⟨repeated, addresses, subset⟩, opening, before, split, quiet, earlier⟩ := tracked
  refine ⟨distinct, ⟨repeated, by simpa using addresses, subset⟩, opening, before ++ made, ?_,
    quiet, earlier.trans releases⟩
  rw [split, List.map_append, List.append_assoc]

theorem isPrefix (tracked : Tracked log acquired held) : held <+: acquired := by
  obtain ⟨_, _, _, _, _, _, releases⟩ := tracked
  exact List.reverse_suffix.mp releases.suffix

end Tracked

/-- The last call was refused, and the newest frame still held is the one it named. -/
def RefusedLast (log : List FrameEvent) (held : List Nat) : Prop :=
  ∃ earlier address, held = earlier ++ [address] ∧ (frees log).getLast? = some ⟨address, false⟩

/-- What one `try_release` does: releases from the newest frame down, and on
a refusal the refused frame and all earlier ones stay and are counted. -/
structure ReleaseStep (result : Except (FrameOwnerError ε) Unit)
    (before after : List FrameEvent) (held left : List Nat) : Prop where
  made : ∃ made, after = before ++ made.map .freed ∧ Releases false held.reverse made left.reverse
  finished : result = .ok () → left = []
  refused : ∀ error, result = .error error →
    error.remainingFrames = left.length ∧ RefusedLast after left

theorem releaseAll_step (ops : FrameBackend β ε) (state : β × List FrameEvent) (held : List Nat)
    {result : Except ε Unit} {after : β × List FrameEvent} {remaining : List Nat}
    (released : releaseAll ops.logged.freeFrame state held.reverse = (result, after, remaining)) :
    ReleaseStep (result.mapError fun source => ⟨source, remaining.length⟩) state.2 after.2
      held remaining.reverse := by
  have made := releaseAll_releases ops.logged_records state held.reverse
  rw [released] at made
  rw [← List.reverse_reverse remaining] at made
  rcases releaseAll_cases ops.logged_records state held.reverse with ⟨final, ran, _⟩ |
    ⟨source, final, freed, address, older, ran, _, extended⟩
  · rw [released] at ran
    cases ran
    refine ⟨made, fun _ => rfl, ?_⟩
    intro error failed
    simp [Except.mapError] at failed
  · rw [released] at ran
    cases ran
    refine ⟨made, ?_, ?_⟩
    · intro done
      simp [Except.mapError] at done
    · intro error failed
      simp only [Except.mapError, Except.error.injEq] at failed
      subst failed
      refine ⟨by simp, older.reverse, address, by simp, ?_⟩
      rw [extended, frees_append, frees_freed, ← List.append_assoc, List.getLast?_concat]

theorem IncompleteFrameOwner.tryRelease_step (ops : FrameBackend β ε)
    (owner : IncompleteFrameOwner (β × List FrameEvent) capacity) :
    ReleaseStep (owner.tryRelease ops.logged).1 owner.backend.2
      (owner.tryRelease ops.logged).2.backend.2 owner.frames
      (owner.tryRelease ops.logged).2.frames := by
  cases released : releaseAll ops.logged.freeFrame owner.backend owner.frames.reverse with
  | mk result rest =>
      have step := releaseAll_step ops owner.backend owner.frames released
      simp only [tryRelease, released]
      exact step

namespace PageTableFrameOwner

/-- The addresses behind the owner's frames. -/
def addresses (owner : PageTableFrameOwner β capacity) : List Nat :=
  owner.frames.map PhysicalFrame.address

theorem drop_owned (ops : FrameBackend β ε) (owner : PageTableFrameOwner β capacity)
    (owned : owner.owned = true) :
    owner.drop ops = dropAll ops.freeFrame owner.backend owner.addresses.reverse := by
  simp only [drop, owned, if_true, dropAll, addresses, ← List.map_reverse, List.foldl_map]
  rfl

/-- An owner that gave everything back has cleared its flag, and only then. -/
def Settled (owner : PageTableFrameOwner β capacity) : Prop :=
  owner.owned = false → owner.frames = []

theorem tryRelease_step (ops : FrameBackend β ε)
    (owner : PageTableFrameOwner (β × List FrameEvent) capacity) (settled : owner.Settled) :
    ReleaseStep (owner.tryRelease ops.logged).1 owner.backend.2
      (owner.tryRelease ops.logged).2.backend.2 owner.addresses
      (owner.tryRelease ops.logged).2.addresses ∧
    (owner.tryRelease ops.logged).2.Settled := by
  cases owned : owner.owned with
  | false =>
      have empty := settled owned
      simp only [tryRelease, owned, Bool.false_eq_true, if_false, addresses, empty, List.map_nil]
      refine ⟨⟨⟨[], by simp, .stop []⟩, fun _ => rfl, ?_⟩, settled⟩
      intro error failed
      contradiction
  | true =>
      cases released : releaseAll (freeOwned ops.logged) owner.backend owner.frames.reverse with
      | mk result rest =>
          obtain ⟨after, remaining⟩ := rest
          have mapped : releaseAll ops.logged.freeFrame owner.backend owner.addresses.reverse =
              (result, after, remaining.map PhysicalFrame.address) := by
            have named : releaseAll (fun state frame => ops.logged.freeFrame state
                (PhysicalFrame.address frame)) owner.backend owner.frames.reverse =
                  (result, after, remaining) := released
            rw [addresses, ← List.map_reverse, releaseAll_map, named]
          have step := releaseAll_step ops owner.backend owner.addresses mapped
          simp only [tryRelease, owned, if_true, released]
          refine ⟨?_, ?_⟩
          · simpa [addresses] using step
          · intro cleared
            have empty : result.isOk = true ∧ remaining = [] := by simpa using cleared
            simp [empty.2]

end PageTableFrameOwner

/-! ## The acquisition loop -/

namespace IncompleteFrameOwner

/-- Everything one iteration can do: take a new valid frame and zero it, or
roll back from an owner that holds what was taken and has freed nothing. -/
inductive Acquisition (ops : FrameBackend β ε)
    (owner : IncompleteFrameOwner (β × List FrameEvent) capacity) (slot : Nat) : Prop
  | taken (backend : β) (frame : PhysicalFrame)
      (ran : owner.acquire ops.logged slot =
        .ok ⟨(backend, owner.backend.2 ++ [.allocated (some frame.address), .zeroed frame true]),
          owner.frames ++ [frame.address]⟩)
      (fresh : frame.address ∉ owner.frames)
  | stopped (cause : FrameOwnerCause ε) (backend : β) (events : List FrameEvent)
      (added repeated : List Nat)
      (ran : owner.acquire ops.logged slot =
        .error (rollBack ops.logged
          ⟨(backend, owner.backend.2 ++ events), owner.frames ++ added⟩ cause))
      (distinct : owner.frames.Nodup → (owner.frames ++ added).Nodup)
      (allocated : allocations events = added ++ repeated)
      (inside : ∀ address ∈ repeated, address ∈ owner.frames)
      (quiet : frees events = [])

theorem nodup_push {frames : List Nat} {address : Nat} (fresh : address ∉ frames)
    (distinct : frames.Nodup) : (frames ++ [address]).Nodup := by
  rw [← List.concat_eq_append]
  exact distinct.concat fresh

theorem acquire_cases (ops : FrameBackend β ε)
    (owner : IncompleteFrameOwner (β × List FrameEvent) capacity) (slot : Nat)
    (room : owner.frames.length < capacity) : Acquisition ops owner slot := by
  have pushed (backend : β × List FrameEvent) (address : Nat) :
      push (⟨backend, owner.frames⟩ : IncompleteFrameOwner _ capacity) address =
        some ⟨backend, owner.frames ++ [address]⟩ := if_pos room
  cases allocated : ops.allocateFrame owner.backend.1 with
  | mk result next =>
      cases result with
      | error source =>
          refine .stopped (.allocation slot source) next [.allocated none] [] [] ?_ (by simp) rfl
            (by simp) rfl
          simp only [acquire, FrameBackend.logged, allocated, List.append_nil]
          rfl
      | ok address =>
          cases found : owner.frames.findIdx? (· = address) with
          | some earlier =>
              have member : address ∈ owner.frames := by
                obtain ⟨_, same, _⟩ := List.findIdx?_eq_some_iff_getElem.mp found
                simp only [decide_eq_true_eq] at same
                exact same ▸ List.getElem_mem _
              refine .stopped (.duplicateFrame slot earlier) next [.allocated (some address)] []
                [address] ?_ (by simp) rfl (by simpa using member) rfl
              simp only [acquire, FrameBackend.logged, allocated, found, List.append_nil]
              rfl
          | none =>
              have fresh : address ∉ owner.frames := by
                intro member
                simpa using List.findIdx?_eq_none_iff.mp found address member
              cases built : PhysicalFrame.new address with
              | error source =>
                  refine .stopped (.invalidFrame slot source) next [.allocated (some address)]
                    [address] [] ?_ (nodup_push fresh) rfl (by simp) rfl
                  simp only [acquire, FrameBackend.logged, allocated, found, built, pushed,
                    okOr_some, ok_bind]
                  rfl
              | ok frame =>
                  obtain rfl := PhysicalFrame.new_eq_ok.mp built
                  cases zeroed : ops.zeroFrame next frame with
                  | mk outcome final =>
                      cases outcome with
                      | error source =>
                          refine .stopped (.zeroing slot source) final
                            [.allocated (some frame.address), .zeroed frame false]
                            [frame.address] [] ?_ (nodup_push fresh) rfl (by simp) rfl
                          simp only [acquire, FrameBackend.logged, allocated, found, built,
                            pushed, okOr_some, ok_bind, zeroed]
                          simp [Except.toOption, Except.isOk, Except.toBool]
                      | ok done =>
                          refine .taken final frame ?_ fresh
                          simp only [acquire, FrameBackend.logged, allocated, found, built,
                            pushed, okOr_some, ok_bind, zeroed]
                          simp [Except.toOption, Except.isOk, Except.toBool]

end IncompleteFrameOwner

/-- The loop invariant: as many distinct valid frames as iterations, each
allocated and zeroed in order, and nothing freed. -/
structure Acquired (taken : Nat)
    (owner : IncompleteFrameOwner (β × List FrameEvent) capacity) : Prop where
  count : owner.frames.length = taken
  distinct : owner.frames.Nodup
  allocated : allocations owner.backend.2 = owner.frames
  zeroed : (zeroings owner.backend.2).map PhysicalFrame.address = owner.frames
  quiet : frees owner.backend.2 = []

theorem acquire_keeps {ops : FrameBackend β ε} {taken : Nat}
    {owner next : IncompleteFrameOwner (β × List FrameEvent) capacity}
    (acquired : Acquired taken owner) (room : taken < capacity)
    (stepped : owner.acquire ops.logged taken = .ok next) : Acquired (taken + 1) next := by
  cases owner.acquire_cases ops taken (acquired.count ▸ room) with
  | stopped cause backend events added repeated ran distinct allocated inside quiet =>
      rw [ran] at stepped
      contradiction
  | taken backend frame ran fresh =>
      rw [ran] at stepped
      cases stepped
      refine ⟨?_, IncompleteFrameOwner.nodup_push fresh acquired.distinct, ?_, ?_, ?_⟩
      · simp [acquired.count]
      · rw [allocations_append, acquired.allocated]
        rfl
      · rw [zeroings_append, List.map_append, acquired.zeroed]
        rfl
      · rw [frees_append, acquired.quiet]
        rfl

theorem acquire_rollBack {ops : FrameBackend β ε} {taken : Nat}
    {owner : IncompleteFrameOwner (β × List FrameEvent) capacity}
    {interrupted : Interrupted (β × List FrameEvent) ε capacity}
    (acquired : Acquired taken owner) (room : taken < capacity)
    (stopped : owner.acquire ops.logged taken = .error interrupted) :
    ∃ (error : FrameOwnerBuildError (β × List FrameEvent) ε capacity)
      (before : IncompleteFrameOwner (β × List FrameEvent) capacity),
      interrupted = .failed error ∧ error.owner = (before.tryRelease ops.logged).2 ∧
      Tracked before.backend.2 before.frames before.frames := by
  cases owner.acquire_cases ops taken (acquired.count ▸ room) with
  | taken backend frame ran fresh =>
      rw [ran] at stopped
      contradiction
  | stopped cause backend events added repeated ran distinct allocated inside quiet =>
      rw [ran] at stopped
      cases stopped
      refine ⟨_, _, rfl, rfl, .opening (distinct acquired.distinct) repeated ?_ ?_ ?_⟩
      · rw [allocations_append, acquired.allocated, allocated, List.append_assoc]
      · intro address member
        exact List.mem_append_left _ (inside address member)
      · rw [frees_append, acquired.quiet, quiet, List.append_nil]

/-! ## Whole runs -/

/-- The handle `allocate` returns: the owner, or the failure that still holds
what its rollback could not give back. -/
inductive Holder (β ε : Type) (capacity : Nat) where
  | complete (owner : PageTableFrameOwner β capacity)
  | failure (error : FrameOwnerBuildError β ε capacity)

namespace Holder

/-- The handle of an outcome; a panic leaves none. -/
def ofOutcome : Except (Interrupted β ε capacity) (PageTableFrameOwner β capacity) →
    Option (Holder β ε capacity)
  | .ok owner => some (.complete owner)
  | .error (.failed error) => some (.failure error)
  | .error .panicked => none

def backend : Holder β ε capacity → β
  | .complete owner => owner.backend
  | .failure error => error.owner.backend

/-- The addresses still owned; `frame_count` and `remaining_frames` count them. -/
def held : Holder β ε capacity → List Nat
  | .complete owner => owner.addresses
  | .failure error => error.owner.frames

def tryRelease (ops : FrameBackend β ε) :
    Holder β ε capacity → Except (FrameOwnerError ε) Unit × Holder β ε capacity
  | .complete owner => ((owner.tryRelease ops).1, .complete (owner.tryRelease ops).2)
  | .failure error =>
      ((error.owner.tryRelease ops).1, .failure ⟨error.cause, (error.owner.tryRelease ops).2⟩)

def drop (ops : FrameBackend β ε) : Holder β ε capacity → β
  | .complete owner => owner.drop ops
  | .failure error => error.owner.drop ops

/-- Any number of `try_release` calls, whatever each returns. -/
def retry (ops : FrameBackend β ε) : Nat → Holder β ε capacity → Holder β ε capacity
  | 0, holder => holder
  | count + 1, holder => retry ops count (holder.tryRelease ops).2

/-- The history of the handle's calls. -/
def log (holder : Holder (β × List FrameEvent) ε capacity) : List FrameEvent := holder.backend.2

def Settled : Holder β ε capacity → Prop
  | .complete owner => owner.Settled
  | .failure _ => True

variable (ops : FrameBackend β ε) {holder : Holder (β × List FrameEvent) ε capacity}
  {acquired : List Nat}

theorem tryRelease_step (settled : holder.Settled) :
    ReleaseStep (holder.tryRelease ops.logged).1 holder.log (holder.tryRelease ops.logged).2.log
      holder.held (holder.tryRelease ops.logged).2.held ∧
    (holder.tryRelease ops.logged).2.Settled := by
  cases holder with
  | complete owner => exact owner.tryRelease_step ops settled
  | failure error => exact ⟨error.owner.tryRelease_step ops, trivial⟩

theorem tryRelease_tracked (settled : holder.Settled)
    (tracked : Tracked holder.log acquired holder.held) :
    Tracked (holder.tryRelease ops.logged).2.log acquired (holder.tryRelease ops.logged).2.held := by
  obtain ⟨made, extended, releases⟩ := (tryRelease_step ops settled).1.made
  rw [extended]
  exact tracked.extend releases

theorem retry_tracked (count : Nat) (settled : holder.Settled)
    (tracked : Tracked holder.log acquired holder.held) :
    (holder.retry ops.logged count).Settled ∧
      Tracked (holder.retry ops.logged count).log acquired
        (holder.retry ops.logged count).held := by
  induction count generalizing holder with
  | zero => exact ⟨settled, tracked⟩
  | succ count ih => exact ih (tryRelease_step ops settled).2 (tryRelease_tracked ops settled tracked)

end Holder

/-- A history whose releases name only frames taken before, newest first, and
none again after it was given back. -/
structure Disciplined (log : List FrameEvent) : Prop where
  taken : ∀ before attempt after, log = before ++ .freed attempt :: after →
    attempt.resource ∈ allocations before
  reversed : (frees log).Pairwise fun earlier later =>
    (allocations log).idxOf later.resource ≤ (allocations log).idxOf earlier.resource
  once : (frees log).Pairwise fun earlier later =>
    earlier.accepted = true → later.resource ≠ earlier.resource

theorem disciplined_of_phases {opening : List FrameEvent} {acquired repeated left : List Nat}
    {made : List (Attempt Nat)} {lossy : Bool} (distinct : acquired.Nodup)
    (addresses : allocations opening = acquired ++ repeated) (quiet : frees opening = [])
    (releases : Releases lossy acquired.reverse made left) :
    Disciplined (opening ++ made.map .freed) := by
  have takes : ∀ address ∈ acquired, address ∈ allocations opening := by
    intro address member
    rw [addresses]
    exact List.mem_append_left _ member
  have accounted : Accounted _ _ (opening ++ made.map FrameEvent.freed) :=
    accounted_of_phases (fun _ => rfl) quiet takes releases distinct
  have positions := releases.descends distinct
  refine ⟨?_, ?_, accounted.once⟩
  · intro before attempt after split
    exact accounted.taken before _ after attempt split rfl
  · simp only [frees_append, quiet, frees_freed, List.nil_append, allocations_append, addresses,
      allocations_freed, List.append_nil]
    refine positions.imp_of_mem ?_
    intro earlier later earlierMade laterMade before
    rw [List.idxOf_append_of_mem (List.mem_reverse.mp (releases.mem laterMade)),
      List.idxOf_append_of_mem (List.mem_reverse.mp (releases.mem earlierMade))]
    exact before

/-- A complete owner: one distinct zeroed frame per planned table, slot by
slot in the order of allocation, and nothing freed on the way. -/
structure Complete (plan : ConstructionPlan tableCapacity entryCapacity removalCapacity)
    (owner : PageTableFrameOwner (β × List FrameEvent) capacity) : Prop where
  count : owner.frameCount = plan.tableCount
  distinct : owner.addresses.Nodup
  valid : ∀ frame ∈ owner.frames, frame.address ≠ 0 ∧ frame.address % pageSize = 0 ∧
    frame.address < supportedPhysicalEnd
  allocated : allocations owner.backend.2 = owner.addresses
  zeroed : zeroings owner.backend.2 = owner.frames
  quiet : frees owner.backend.2 = []

/-- The owner `allocate` makes of a finished loop. -/
def ofAcquired (incomplete : IncompleteFrameOwner (β × List FrameEvent) capacity) :
    PageTableFrameOwner (β × List FrameEvent) capacity :=
  { backend := incomplete.backend
    frames := zeroings incomplete.backend.2
    root := (zeroings incomplete.backend.2).head?
    owned := true }

theorem Acquired.addresses_ofAcquired {taken : Nat}
    {incomplete : IncompleteFrameOwner (β × List FrameEvent) capacity}
    (acquired : Acquired taken incomplete) : (ofAcquired incomplete).addresses = incomplete.frames :=
  acquired.zeroed

theorem Acquired.complete {plan : ConstructionPlan tableCapacity entryCapacity removalCapacity}
    {incomplete : IncompleteFrameOwner (β × List FrameEvent) capacity}
    (acquired : Acquired plan.tableCount incomplete) : Complete plan (ofAcquired incomplete) where
  count := by
    have count := congrArg List.length acquired.zeroed
    rw [List.length_map, acquired.count] at count
    exact count
  distinct := acquired.addresses_ofAcquired ▸ acquired.distinct
  valid frame _ := ⟨frame.nonzero, frame.aligned, frame.supported⟩
  allocated := acquired.allocated.trans acquired.addresses_ofAcquired.symm
  zeroed := rfl
  quiet := acquired.quiet

theorem allocate_tracked (ops : FrameBackend β ε) (start : β)
    (plan : ConstructionPlan tableCapacity entryCapacity removalCapacity) (capacity : Nat) :
    ∃ (holder : Holder (β × List FrameEvent) ε capacity) (acquired : List Nat),
      Holder.ofOutcome (PageTableFrameOwner.allocate ops.logged plan (start, [])) = some holder ∧
      holder.Settled ∧ Tracked holder.log acquired holder.held ∧
      match holder with
      | .complete owner => Complete plan owner ∧ owner.root = owner.frames.head?
      | .failure error =>
          error.owner.frames = [] ∨ RefusedLast error.owner.backend.2 error.owner.frames := by
  have opening : Acquired 0 (⟨(start, []), []⟩ :
      IncompleteFrameOwner (β × List FrameEvent) capacity) := ⟨rfl, .nil, rfl, rfl, rfl⟩
  unfold PageTableFrameOwner.allocate
  by_cases tooMany : plan.tableCount > capacity
  · rw [if_pos tooMany]
    refine ⟨_, [], rfl, trivial, ?_, .inl rfl⟩
    exact .opening .nil [] rfl (by simp) rfl
  · rw [if_neg tooMany]
    have kept (taken : Nat) (current next : IncompleteFrameOwner (β × List FrameEvent) capacity)
        (bound : taken < plan.tableCount) (acquired : Acquired taken current)
        (stepped : current.acquire ops.logged taken = .ok next) : Acquired (taken + 1) next :=
      acquire_keeps acquired (by omega) stepped
    cases ran : (List.range plan.tableCount).foldlM (IncompleteFrameOwner.acquire ops.logged)
        (⟨(start, []), []⟩ : IncompleteFrameOwner (β × List FrameEvent) capacity) with
    | error interrupted =>
        obtain ⟨taken, current, bound, acquired, stopped⟩ :=
          foldlM_range_error Acquired opening kept ran
        obtain ⟨error, before, rfl, owner, tracked⟩ :=
          acquire_rollBack acquired (by omega) stopped
        have step := before.tryRelease_step ops
        rw [← owner] at step
        refine ⟨.failure error, before.frames, rfl, trivial, ?_, ?_⟩
        · obtain ⟨made, extended, releases⟩ := step.made
          change Tracked error.owner.backend.2 _ _
          rw [extended]
          exact tracked.extend releases
        · cases result : (before.tryRelease ops.logged).1 with
          | ok done => exact .inl (step.finished result)
          | error reason => exact .inr (step.refused reason result).2
    | ok incomplete =>
        have acquired := foldlM_range_invariant Acquired opening kept ran
        have addresses : incomplete.frames.mapM PhysicalFrame.new =
            .ok (zeroings incomplete.backend.2) := mapM_new_eq_ok.mpr acquired.zeroed
        simp only [ok_bind, addresses, Except.mapError]
        refine ⟨.complete (ofAcquired incomplete), incomplete.frames, rfl, ?_, ?_,
          acquired.complete, rfl⟩
        · intro cleared
          contradiction
        · change Tracked incomplete.backend.2 _ (ofAcquired incomplete).addresses
          rw [acquired.addresses_ofAcquired]
          exact .opening acquired.distinct [] (by simpa using acquired.allocated)
            (by simp) acquired.quiet

namespace Tracked

variable {log : List FrameEvent} {acquired held : List Nat}

theorem disciplined (tracked : Tracked log acquired held) : Disciplined log := by
  obtain ⟨distinct, ⟨repeated, addresses, _⟩, opening, made, rfl, quiet, releases⟩ := tracked
  exact disciplined_of_phases distinct (by simpa using addresses) quiet releases

theorem disciplined_drop (tracked : Tracked log acquired held) {made : List (Attempt Nat)}
    (dropped : Releases true held.reverse made []) : Disciplined (log ++ made.map .freed) := by
  obtain ⟨distinct, ⟨repeated, addresses, _⟩, opening, before, rfl, quiet, releases⟩ := tracked
  rw [List.append_assoc, ← List.map_append]
  exact disciplined_of_phases distinct (by simpa using addresses) quiet
    (releases.weaken.trans dropped)

/-- A prefix of what was taken, so a prefix of what `allocate_frame` returned. -/
theorem held_isPrefix (tracked : Tracked log acquired held) : held <+: allocations log := by
  obtain ⟨repeated, addresses, _⟩ := tracked.addresses
  rw [addresses]
  exact tracked.isPrefix.trans (List.prefix_append acquired repeated)

/-- A frame that was taken has been given back once, or not at all while it is held. -/
theorem count (tracked : Tracked log acquired held) {address : Nat} (taken : address ∈ acquired) :
    (frees log).count ⟨address, true⟩ = if address ∈ held then 0 else 1 := by
  obtain ⟨distinct, _, opening, made, rfl, quiet, releases⟩ := tracked
  have count := releases.count (List.nodup_reverse.mpr distinct) (List.mem_reverse.mpr taken)
  rw [frees_append, quiet, List.nil_append, frees_freed, count]
  simp only [List.mem_reverse]

theorem mem_of_freed (tracked : Tracked log acquired held) {address : Nat}
    (freed : ⟨address, true⟩ ∈ frees log) : address ∈ acquired := by
  obtain ⟨_, _, opening, made, rfl, quiet, releases⟩ := tracked
  rw [frees_append, quiet, List.nil_append, frees_freed] at freed
  exact List.mem_reverse.mp (releases.mem freed)

theorem freed_iff (tracked : Tracked log acquired held) {address : Nat}
    (taken : address ∈ acquired) : ⟨address, true⟩ ∈ frees log ↔ address ∉ held := by
  rw [← List.count_pos_iff, tracked.count taken]
  by_cases kept : address ∈ held
  · simp [kept]
  · simp [kept]

/-- A holder with as many frames as it took has had none of them accepted back. -/
theorem whole (tracked : Tracked log acquired held) (count : held.length = acquired.length) :
    held = acquired ∧ ∀ address, ⟨address, true⟩ ∉ frees log := by
  have same := tracked.isPrefix.eq_of_length count
  refine ⟨same, ?_⟩
  intro address freed
  have taken := tracked.mem_of_freed freed
  exact (tracked.freed_iff taken).mp freed (same ▸ taken)

theorem released_once (tracked : Tracked log acquired []) {address : Nat}
    (taken : address ∈ allocations log) : (frees log).count ⟨address, true⟩ = 1 := by
  obtain ⟨repeated, addresses, subset⟩ := tracked.addresses
  have member : address ∈ acquired := by
    rw [addresses] at taken
    rcases List.mem_append.mp taken with first | again
    · exact first
    · exact subset address again
  simpa using tracked.count member

end Tracked

theorem Holder.drop_disciplined {ops : FrameBackend β ε}
    {holder : Holder (β × List FrameEvent) ε capacity} {acquired : List Nat}
    (tracked : Tracked holder.log acquired holder.held) :
    Disciplined (holder.drop ops.logged).2 := by
  cases holder with
  | complete owner =>
      cases owned : owner.owned with
      | false =>
          have unchanged : owner.drop ops.logged = owner.backend := by
            simp [PageTableFrameOwner.drop, owned]
          change Disciplined (owner.drop ops.logged).2
          rw [unchanged]
          exact tracked.disciplined
      | true =>
          obtain ⟨made, extended, _, releases⟩ :=
            dropAll_releases ops.logged_records owner.backend owner.addresses.reverse
          change Disciplined (owner.drop ops.logged).2
          rw [owner.drop_owned ops.logged owned, extended]
          exact tracked.disciplined_drop releases
  | failure error =>
      obtain ⟨made, extended, _, releases⟩ :=
        dropAll_releases ops.logged_records error.owner.backend error.owner.frames.reverse
      change Disciplined (error.owner.drop ops.logged).2
      rw [IncompleteFrameOwner.drop, extended]
      exact tracked.disciplined_drop releases

/-- Every run of `allocate`, any number of `try_release` calls and a final
drop or transfer, over every backend. -/
theorem allocate_run_custody (ops : FrameBackend β ε) (start : β)
    (plan : ConstructionPlan tableCapacity entryCapacity removalCapacity) (capacity retries : Nat) :
    ∃ holder : Holder (β × List FrameEvent) ε capacity,
      Holder.ofOutcome (PageTableFrameOwner.allocate ops.logged plan (start, [])) = some holder ∧
      -- frees only what was taken, newest first, never again after a success
      Disciplined (holder.retry ops.logged retries).log ∧
      Disciplined ((holder.retry ops.logged retries).drop ops.logged).2 ∧
      -- the rollback inside `allocate`
      (∀ error, holder = .failure error → holder.held <+: allocations holder.log ∧
        (holder.held = [] ∨ RefusedLast holder.log holder.held)) ∧
      -- each further `try_release`
      (∀ error next, (holder.retry ops.logged retries).tryRelease ops.logged = (.error error, next) →
        error.remainingFrames = next.held.length ∧ next.held <+: allocations next.log ∧
          RefusedLast next.log next.held) ∧
      (∀ next, (holder.retry ops.logged retries).tryRelease ops.logged = (.ok (), next) →
        next.held = [] ∧ ∀ address ∈ allocations next.log,
          (frees next.log).count ⟨address, true⟩ = 1) ∧
      -- an owner, and its transfer
      (∀ owner, holder = .complete owner → Complete plan owner) ∧
      ∀ owner, holder.retry ops.logged retries = .complete owner →
        (owner.transfer ops.logged).2 = owner.backend ∧
          (owner.transfer ops.logged).1.frames = owner.frames := by
  obtain ⟨holder, acquired, outcome, settled, tracked, shape⟩ :=
    allocate_tracked ops start plan capacity
  obtain ⟨laterSettled, laterTracked⟩ := Holder.retry_tracked ops retries settled tracked
  have step := Holder.tryRelease_step ops laterSettled
  have stepTracked := Holder.tryRelease_tracked ops laterSettled laterTracked
  refine ⟨holder, outcome, laterTracked.disciplined, Holder.drop_disciplined laterTracked,
    ?_, ?_, ?_, ?_, ?_⟩
  · rintro error rfl
    exact ⟨tracked.held_isPrefix, shape⟩
  · intro error next released
    rw [released] at step stepTracked
    obtain ⟨counted, refused⟩ := step.1.refused error rfl
    exact ⟨counted, stepTracked.held_isPrefix, refused⟩
  · intro next released
    rw [released] at step stepTracked
    have empty : next.held = [] := step.1.finished rfl
    refine ⟨empty, ?_⟩
    intro address taken
    rw [empty] at stepTracked
    exact stepTracked.released_once taken
  · rintro owner rfl
    exact shape.1
  · intro owner _
    exact ⟨rfl, rfl⟩

end UnnamedOS.PageTable
