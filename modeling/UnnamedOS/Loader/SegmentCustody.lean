import UnnamedOS.Loader.TargetOwnership

namespace UnnamedOS.Loader

open UnnamedOS.Data

/-! # What the page backend sees of the kernel's segments

The owner is run over a backend that writes its calls down.  Allocations come
first, the work on the pages next, releases last. -/

inductive SegmentEvent where
  | allocated (allocation : OwnedAllocation) (done : Bool)
  | worked (kind : LoadWorkKind) (item : LoadItem) (done : Bool)
  | freed (attempt : Attempt OwnedAllocation)
deriving DecidableEq

namespace SegmentEvent

/-- What an allocation that succeeded took. -/
def taken : SegmentEvent → Option OwnedAllocation
  | .allocated allocation true => some allocation
  | _ => none

def returned : SegmentEvent → Option (Attempt OwnedAllocation)
  | .freed attempt => some attempt
  | _ => none

@[simp] theorem taken_worked (kind : LoadWorkKind) (item : LoadItem) (done : Bool) :
    taken (.worked kind item done) = none := rfl

@[simp] theorem taken_freed (attempt : Attempt OwnedAllocation) : taken (.freed attempt) = none :=
  rfl

@[simp] theorem returned_worked (kind : LoadWorkKind) (item : LoadItem) (done : Bool) :
    returned (.worked kind item done) = none := rfl

@[simp] theorem returned_freed (attempt : Attempt OwnedAllocation) :
    returned (.freed attempt) = some attempt := rfl

end SegmentEvent

open SegmentEvent

variable {β ε : Type}

/-- The same allocator, with its calls recorded. -/
def PageBackend.logged (ops : PageBackend β ε) : PageBackend (β × List SegmentEvent) ε where
  allocateAt state pageStart pageCount :=
    match ops.allocateAt state.1 pageStart pageCount with
    | (result, next) =>
        (result, next, state.2 ++ [.allocated ⟨pageStart, pageCount⟩ result.isOk])
  free state pageStart pageCount :=
    match ops.free state.1 pageStart pageCount with
    | (result, next) =>
        (result, next, state.2 ++ [.freed ⟨⟨pageStart, pageCount⟩, result.isOk⟩])

/-- One of the three operations on the pages, recorded. -/
def loggedWork (kind : LoadWorkKind) (work : β → LoadItem → Except ε Unit × β)
    (state : β × List SegmentEvent) (item : LoadItem) :
    Except ε Unit × β × List SegmentEvent :=
  match work state.1 item with
  | (result, next) => (result, next, state.2 ++ [.worked kind item result.isOk])

def SegmentBackend.logged (ops : SegmentBackend β ε) :
    SegmentBackend (β × List SegmentEvent) ε where
  toPageBackend := ops.toPageBackend.logged
  zero := loggedWork .zero ops.zero
  copy state item source := loggedWork .copy (fun state item => ops.copy state item source) state item
  verify state item source :=
    loggedWork .verify (fun state item => ops.verify state item source) state item

theorem PageBackend.logged_records (ops : PageBackend β ε) :
    Records ops.logged.freeAllocation Prod.snd SegmentEvent.freed := by
  intro state allocation
  rfl

namespace TargetOwnership

/-- The history of the owner's calls. -/
def log (owner : TargetOwnership (β × List SegmentEvent)) : List SegmentEvent := owner.backend.2

/-- The indices and page ranges still owned, in order. -/
def held (owner : TargetOwnership β) : List (Nat × OwnedAllocation) := heldSlots 0 owner.slots

end TargetOwnership

/-! ## One release -/

/-- What one `try_release` does.  It frees from the highest owned index down;
at a refusal it stops, and that segment is the highest one still owned. -/
def ReleaseStep (result : Except (ReleaseError ε) Unit)
    (before after : TargetOwnership (β × List SegmentEvent)) : Prop :=
  (result = .ok () ∧ after.held = [] ∧
    after.log = before.log ++ (acceptances (before.held.map Prod.snd).reverse).map .freed) ∨
  ∃ source older index allocation released,
    before.held = older ++ (index, allocation) :: released ∧
    after.held = older ++ [(index, allocation)] ∧
    result = .error ⟨index, after.held.length, source⟩ ∧
    after.log = before.log ++ (acceptances (released.map Prod.snd).reverse ++
      [Attempt.mk allocation false]).map .freed

theorem TargetOwnership.tryRelease_step (ops : PageBackend β ε)
    (owner : TargetOwnership (β × List SegmentEvent)) :
    ReleaseStep (owner.tryRelease ops.logged).1 owner (owner.tryRelease ops.logged).2 := by
  rcases releaseSlots_cases ops.logged_records 0 owner.backend owner.slots with
    ⟨after, left, ran, none, _, _, made⟩ |
    ⟨source, after, left, older, index, allocation, released, _, ran, split, rest, _, made⟩
  · left
    simp only [tryRelease, ran]
    exact ⟨trivial, none, made⟩
  · right
    simp only [tryRelease, ran]
    refine ⟨source, older, index, allocation, released, split, rest, ?_, made⟩
    simp only [held, heldSlots_length, remainingSegments]

theorem TargetOwnership.tryRelease_releases (ops : PageBackend β ε)
    (owner : TargetOwnership (β × List SegmentEvent)) :
    ∃ made, (owner.tryRelease ops.logged).2.log = owner.log ++ made.map .freed ∧
      Releases false (heldResources owner.slots).reverse made
        (heldResources (owner.tryRelease ops.logged).2.slots).reverse := by
  rw [tryRelease_snd]
  exact releaseSlots_releases ops.logged_records owner.backend owner.slots

/-- A release takes nothing. -/
theorem TargetOwnership.tryRelease_taken (ops : PageBackend β ε)
    (owner : TargetOwnership (β × List SegmentEvent)) :
    (owner.tryRelease ops.logged).2.log.filterMap taken = owner.log.filterMap taken := by
  obtain ⟨made, extended, _⟩ := owner.tryRelease_releases ops
  simp [extended, List.filterMap_map, Function.comp_def]

/-! ## Preparation -/

/-- The owner after preparation has come as far as it did: exactly the slots
of the successful allocations are flagged, and nothing is released. -/
structure Opened (plan : LoadPlan) (count : Nat)
    (owner : TargetOwnership (β × List SegmentEvent)) : Prop where
  slots : owner.slots =
    (plan.items.take count).map (fun item => (item.allocation, true)) ++
      (plan.items.drop count).map fun item => (item.allocation, false)
  taken : owner.log.filterMap taken = (plan.items.take count).map LoadItem.allocation
  quiet : owner.log.filterMap returned = []

/-- A stage of the preparation ends with an owner that is opened throughout,
or with a failure that has what was allocated.  Only a refused allocation
leaves segments out. -/
def EndsOpened {α : Type} (plan : LoadPlan)
    (owner : α → Option (TargetOwnership (β × List SegmentEvent))) :
    Except (LoadWorkFailure (β × List SegmentEvent) ε) α → Prop
  | .ok value => ∃ opened, owner value = some opened ∧ Opened plan plan.items.length opened
  | .error failure => ∃ count, Opened plan count failure.owner ∧
      (failure.kind ≠ .allocate → count = plan.items.length)

theorem EndsOpened.bind {α : Type} {plan : LoadPlan}
    {owner : α → Option (TargetOwnership (β × List SegmentEvent))}
    {first : Except (LoadWorkFailure (β × List SegmentEvent) ε)
      (TargetOwnership (β × List SegmentEvent))}
    {next : TargetOwnership (β × List SegmentEvent) →
      Except (LoadWorkFailure (β × List SegmentEvent) ε) α}
    (ends : EndsOpened plan some first)
    (stage : ∀ opened, Opened plan plan.items.length opened → EndsOpened plan owner (next opened)) :
    EndsOpened plan owner (first >>= next) := by
  cases first with
  | error failure => exact ends
  | ok value =>
      obtain ⟨opened, same, isOpened⟩ := ends
      obtain rfl := Option.some.inj same
      exact stage value isOpened

theorem allocateTargets_opened (ops : PageBackend β ε) (state : β × List SegmentEvent)
    (done : List (OwnedAllocation × Bool)) (items : List OwnedAllocation) :
    match allocateTargets ops.logged state done items with
    | .ok owner => owner.slots = done ++ items.map (·, true) ∧
        owner.log = state.2 ++ items.map (.allocated · true)
    | .error failure => failure.kind = .allocate ∧ ∃ count,
        failure.owner.slots =
          done ++ ((items.take count).map (·, true) ++ (items.drop count).map (·, false)) ∧
        failure.owner.log.filterMap taken = state.2.filterMap taken ++ items.take count ∧
        failure.owner.log.filterMap returned = state.2.filterMap returned := by
  induction items generalizing state done with
  | nil => simp [allocateTargets, TargetOwnership.log]
  | cons item rest ih =>
      cases allocated : ops.allocateAt state.1 item.pageStart item.pageCount with
      | mk result next =>
          cases result with
          | error error =>
              simp only [allocateTargets, PageBackend.logged, allocated]
              refine ⟨trivial, 0, rfl, ?_, ?_⟩
              · simp [TargetOwnership.log, taken, Except.isOk, Except.toBool]
              · simp [TargetOwnership.log, returned]
          | ok value =>
              have later := ih (next, state.2 ++ [.allocated item true]) (done ++ [(item, true)])
              have stepped : allocateTargets ops.logged state done (item :: rest) =
                  allocateTargets ops.logged (next, state.2 ++ [.allocated item true])
                    (done ++ [(item, true)]) rest := by
                simp only [allocateTargets, PageBackend.logged, allocated]
                rfl
              rw [stepped]
              cases ran : allocateTargets ops.logged (next, state.2 ++ [.allocated item true])
                  (done ++ [(item, true)]) rest with
              | ok owner =>
                  rw [ran] at later
                  obtain ⟨slots, log⟩ := later
                  exact ⟨by simp [slots], by simp [log]⟩
              | error failure =>
                  rw [ran] at later
                  obtain ⟨kind, count, slots, takes, returns⟩ := later
                  refine ⟨kind, count + 1, ?_, ?_, ?_⟩
                  · simp [slots]
                  · simp [takes, taken]
                  · simp [returns, returned]

/-- The allocation loop of `prepare_targets`. -/
theorem allocateTargets_ends (ops : PageBackend β ε) (plan : LoadPlan) (start : β) :
    EndsOpened plan some
      (allocateTargets ops.logged (start, []) [] (plan.items.map LoadItem.allocation)) := by
  have allocation := allocateTargets_opened ops (start, []) [] (plan.items.map LoadItem.allocation)
  cases allocated : allocateTargets ops.logged (start, []) []
      (plan.items.map LoadItem.allocation) with
  | error failure =>
      rw [allocated] at allocation
      obtain ⟨kind, count, slots, takes, returns⟩ := allocation
      refine ⟨count, ⟨?_, ?_, returns⟩, fun other => absurd kind other⟩
      · simpa [← List.map_take, ← List.map_drop, Function.comp_def] using slots
      · simpa using takes
  | ok owner =>
      rw [allocated] at allocation
      obtain ⟨slots, log⟩ := allocation
      refine ⟨owner, rfl, ⟨?_, ?_, ?_⟩⟩
      · simpa [Function.comp_def] using slots
      · simp [log, List.filterMap_map, Function.comp_def, taken]
      · simp [log, List.filterMap_map, Function.comp_def, returned]

/-- The work on the pages touches neither the flags nor the allocations. -/
theorem workTargets_ends {plan : LoadPlan} {kind : LoadWorkKind}
    (work : β → LoadItem → Except ε Unit × β)
    {owner : TargetOwnership (β × List SegmentEvent)}
    (opened : Opened plan plan.items.length owner) (items : List LoadItem) :
    EndsOpened plan some (workTargets kind (loggedWork kind work) owner items) := by
  induction items generalizing owner with
  | nil => exact ⟨owner, rfl, opened⟩
  | cons item rest ih =>
      cases worked : work owner.backend.1 item with
      | mk result next =>
          have kept : Opened plan plan.items.length (⟨(next, owner.backend.2 ++
              [.worked kind item result.isOk]), owner.slots⟩ :
                TargetOwnership (β × List SegmentEvent)) := by
            refine ⟨opened.slots, ?_, ?_⟩
            · simpa [TargetOwnership.log, List.filterMap_cons] using opened.taken
            · simpa [TargetOwnership.log] using opened.quiet
          cases result with
          | error error =>
              simp only [workTargets, loggedWork, worked]
              exact ⟨_, kept, fun _ => rfl⟩
          | ok value =>
              simp only [workTargets, loggedWork, worked]
              exact ih kept

/-- However `prepare_targets` ends, its owner has what was allocated. -/
theorem prepareTargets_ends (ops : SegmentBackend β ε) (plan : LoadPlan) (source : List UInt8)
    (start : β) :
    EndsOpened plan VerifiedTargets.owner (prepareTargets ops.logged plan source (start, [])) := by
  have names : (TargetOwnership.new plan (start, ([] : List SegmentEvent))).slots.map Prod.fst =
      plan.items.map LoadItem.allocation := by
    simp [TargetOwnership.new, Function.comp_def]
  simp only [prepareTargets, names]
  apply EndsOpened.bind (allocateTargets_ends ops.toPageBackend plan start)
  intro owner opened
  apply EndsOpened.bind (workTargets_ends ops.zero opened plan.items)
  intro owner opened
  apply EndsOpened.bind (workTargets_ends (fun state item => ops.copy state item source) opened
    plan.items)
  intro owner opened
  apply EndsOpened.bind (workTargets_ends (fun state item => ops.verify state item source) opened
    plan.items)
  intro owner opened
  exact ⟨owner, rfl, opened⟩

/-! ## The caller's side

The caller is left with the failure or with the kernel it made of the targets.
Either can be asked to release, any number of times, and is dropped at the
end. -/

inductive SegmentHolder (β ε : Type) where
  | failed (failure : LoadWorkFailure β ε)
  | loaded (kernel : LoadedKernel β)

namespace SegmentHolder

def owner : SegmentHolder β ε → TargetOwnership β
  | .failed failure => failure.owner
  | .loaded kernel => kernel.owner

def tryRelease (ops : PageBackend β ε) :
    SegmentHolder β ε → Except (ReleaseError ε) Unit × SegmentHolder β ε
  | .failed failure => ((failure.tryRelease ops).1, .failed (failure.tryRelease ops).2)
  | .loaded kernel => ((kernel.tryRelease ops).1, .loaded (kernel.tryRelease ops).2)

/-- The holder after so many calls of `try_release`. -/
def retry (ops : PageBackend β ε) : Nat → SegmentHolder β ε → SegmentHolder β ε
  | 0, holder => holder
  | calls + 1, holder => retry ops calls (holder.tryRelease ops).2

def drop (ops : PageBackend β ε) (holder : SegmentHolder β ε) : β := holder.owner.drop ops

/-- `prepare_targets`, then `into_loaded_kernel` with the same plan. -/
def prepare (ops : SegmentBackend β ε) (plan : LoadPlan) (source : List UInt8) (backend : β) :
    Option (SegmentHolder β ε) :=
  match prepareTargets ops plan source backend with
  | .error failure => some (.failed failure)
  | .ok targets => (targets.intoLoadedKernel plan).1.map .loaded

theorem tryRelease_fst (ops : PageBackend β ε) (holder : SegmentHolder β ε) :
    (holder.tryRelease ops).1 = (holder.owner.tryRelease ops).1 := by
  cases holder <;> rfl

theorem tryRelease_owner (ops : PageBackend β ε) (holder : SegmentHolder β ε) :
    (holder.tryRelease ops).2.owner = (holder.owner.tryRelease ops).2 := by
  cases holder <;> rfl

theorem prepare_opened (ops : SegmentBackend β ε) (plan : LoadPlan) (source : List UInt8)
    (start : β) :
    ∃ holder count, prepare ops.logged plan source (start, []) = some holder ∧
      Opened plan count holder.owner ∧
      ((∀ failure, holder = .failed failure → failure.kind ≠ .allocate) →
        count = plan.items.length) := by
  have ends := prepareTargets_ends ops plan source start
  cases prepared : prepareTargets ops.logged plan source (start, []) with
  | error failure =>
      rw [prepared] at ends
      obtain ⟨count, opened, full⟩ := ends
      refine ⟨.failed failure, count, by simp [prepare, prepared], opened, ?_⟩
      intro other
      exact full (other failure rfl)
  | ok targets =>
      rw [prepared] at ends
      obtain ⟨owner, has, opened⟩ := ends
      refine ⟨.loaded (.fromVerified plan owner), _, ?_, opened, fun _ => rfl⟩
      simp [prepare, prepared, VerifiedTargets.intoLoadedKernel, has]

end SegmentHolder

/-! ## Whole runs -/

theorem LoadPlan.allocations_nodup (plan : LoadPlan) :
    (plan.items.map LoadItem.allocation).Nodup := by
  refine List.pairwise_map.mpr (plan.apart.imp_of_mem ?_)
  intro left right leftMember rightMember apart same
  have sameStart : left.pageStart = right.pageStart := congrArg OwnedAllocation.pageStart same
  have leftSize := plan.nonempty left leftMember
  have rightSize := plan.nonempty right rightMember
  exact apart ⟨by omega, by omega⟩

/-- After the opening the owner has only released, and holds what is left. -/
def Releasing (opening : List SegmentEvent) (owner : TargetOwnership (β × List SegmentEvent)) :
    Prop :=
  ∃ made, owner.log = opening ++ made.map .freed ∧
    Releases false (opening.filterMap taken).reverse made (heldResources owner.slots).reverse

theorem Opened.releasing {plan : LoadPlan} {count : Nat}
    {owner : TargetOwnership (β × List SegmentEvent)} (opened : Opened plan count owner) :
    Releasing owner.log owner := by
  have held : heldResources owner.slots = owner.log.filterMap SegmentEvent.taken := by
    have flagged := heldResources_flagged ((plan.items.take count).map LoadItem.allocation)
      ((plan.items.drop count).map LoadItem.allocation)
    rw [opened.slots, opened.taken]
    simpa [Function.comp_def] using flagged
  refine ⟨[], by simp, ?_⟩
  rw [held]
  exact .stop _

theorem Releasing.tryRelease {opening : List SegmentEvent}
    {owner : TargetOwnership (β × List SegmentEvent)} (releasing : Releasing opening owner)
    (ops : PageBackend β ε) : Releasing opening (owner.tryRelease ops.logged).2 := by
  obtain ⟨made, log, releases⟩ := releasing
  obtain ⟨more, extended, further⟩ := owner.tryRelease_releases ops
  exact ⟨made ++ more, by simp [extended, log], releases.trans further⟩

theorem SegmentHolder.retry_releasing {opening : List SegmentEvent} (ops : PageBackend β ε)
    (calls : Nat) {holder : SegmentHolder (β × List SegmentEvent) ε}
    (releasing : Releasing opening holder.owner) :
    Releasing opening (holder.retry ops.logged calls).owner := by
  induction calls generalizing holder with
  | zero => exact releasing
  | succ calls ih =>
      apply ih
      rw [tryRelease_owner]
      exact releasing.tryRelease ops

theorem Releasing.accounted {opening : List SegmentEvent}
    {owner : TargetOwnership (β × List SegmentEvent)} (releasing : Releasing opening owner)
    (quiet : opening.filterMap returned = []) (distinct : (opening.filterMap taken).Nodup) :
    Accounted taken returned owner.log := by
  obtain ⟨made, log, releases⟩ := releasing
  rw [log]
  exact accounted_of_phases returned_freed quiet (fun _ member => member) releases distinct

/-- `Drop` keeps the discipline too, although it goes on after a refusal. -/
theorem Releasing.accounted_drop {opening : List SegmentEvent}
    {owner : TargetOwnership (β × List SegmentEvent)} (releasing : Releasing opening owner)
    (quiet : opening.filterMap returned = []) (distinct : (opening.filterMap taken).Nodup)
    (ops : PageBackend β ε) : Accounted taken returned (owner.drop ops.logged).2 := by
  obtain ⟨made, log, releases⟩ := releasing
  obtain ⟨last, extended, dropped⟩ :=
    dropSlots_releases ops.logged_records owner.backend owner.slots
  have whole : (owner.drop ops.logged).2 = opening ++ (made ++ last).map .freed := by
    rw [List.map_append, ← List.append_assoc, ← log]
    exact extended
  rw [whole]
  exact accounted_of_phases returned_freed quiet (fun _ member => member)
    (releases.weaken.trans dropped) distinct

/-- An owner with nothing left has had each of its allocations accepted once. -/
theorem Releasing.count {opening : List SegmentEvent}
    {owner : TargetOwnership (β × List SegmentEvent)} (releasing : Releasing opening owner)
    (quiet : opening.filterMap returned = []) (distinct : (opening.filterMap taken).Nodup)
    (none : owner.held = []) {allocation : OwnedAllocation}
    (member : allocation ∈ opening.filterMap taken) :
    (owner.log.filterMap returned).count ⟨allocation, true⟩ = 1 := by
  obtain ⟨made, log, releases⟩ := releasing
  have empty : heldResources owner.slots = [] := by
    rw [heldResources, show heldSlots 0 owner.slots = [] from none, List.map_nil]
  have counted := releases.count (List.nodup_reverse.mpr distinct) (List.mem_reverse.mpr member)
  rw [log, List.filterMap_append, quiet, filterMap_returned returned_freed, List.nil_append]
  simpa [empty] using counted

theorem TargetOwnership.tryRelease_none (ops : PageBackend β ε) {owner : TargetOwnership β}
    (none : owner.held = []) : owner.tryRelease ops = (.ok (), owner) := by
  simp only [tryRelease, releaseSlots_none none]

theorem SegmentHolder.retry_none (ops : PageBackend β ε) {holder : SegmentHolder β ε}
    (none : holder.owner.held = []) (calls : Nat) : holder.retry ops calls = holder := by
  have still : (holder.tryRelease ops).2 = holder := by
    cases holder with
    | failed failure => simp only [tryRelease, LoadWorkFailure.tryRelease,
        TargetOwnership.tryRelease_none ops (show failure.owner.held = [] from none)]
    | loaded kernel => simp only [tryRelease, LoadedKernel.tryRelease,
        TargetOwnership.tryRelease_none ops (show kernel.owner.held = [] from none)]
  induction calls with
  | zero => rfl
  | succ calls ih => rw [retry, still, ih]

theorem ReleaseStep.held_of_ok {result : Except (ReleaseError ε) Unit}
    {before after : TargetOwnership (β × List SegmentEvent)}
    (step : ReleaseStep result before after) (ok : result = .ok ()) : after.held = [] := by
  rcases step with ⟨_, none, _⟩ | ⟨_, _, _, _, _, _, _, refused, _⟩
  · exact none
  · rw [ok] at refused
    contradiction

/-- What holds of a holder at any point after the preparation that the log
`opening` records: the calls so far and those of a drop, and what the next
`try_release` does. -/
structure InCustody (ops : PageBackend β ε) (opening : List SegmentEvent)
    (holder : SegmentHolder (β × List SegmentEvent) ε) : Prop where
  accounted : Accounted taken returned holder.owner.log
  dropped : Accounted taken returned (holder.drop ops.logged).2
  ascending : holder.owner.held.Pairwise fun left right => left.1 < right.1
  step : ReleaseStep (holder.tryRelease ops.logged).1 holder.owner
    (holder.tryRelease ops.logged).2.owner
  freed : (holder.tryRelease ops.logged).1 = .ok () →
    ∀ allocation ∈ opening.filterMap SegmentEvent.taken,
      ((holder.tryRelease ops.logged).2.owner.log.filterMap returned).count ⟨allocation, true⟩ = 1
  settled : (holder.tryRelease ops.logged).1 = .ok () →
    ∀ more, ((holder.tryRelease ops.logged).2).retry ops.logged more =
      (holder.tryRelease ops.logged).2

theorem Releasing.inCustody {opening : List SegmentEvent}
    {holder : SegmentHolder (β × List SegmentEvent) ε}
    (releasing : Releasing opening holder.owner)
    (quiet : opening.filterMap returned = []) (distinct : (opening.filterMap taken).Nodup)
    (ops : PageBackend β ε) : InCustody ops opening holder := by
  have step : ReleaseStep (holder.tryRelease ops.logged).1 holder.owner
      (holder.tryRelease ops.logged).2.owner := by
    rw [SegmentHolder.tryRelease_fst, SegmentHolder.tryRelease_owner]
    exact holder.owner.tryRelease_step ops
  have next : Releasing opening (holder.tryRelease ops.logged).2.owner := by
    rw [SegmentHolder.tryRelease_owner]
    exact releasing.tryRelease ops
  exact {
    accounted := releasing.accounted quiet distinct
    dropped := releasing.accounted_drop quiet distinct ops
    ascending := heldSlots_ascending 0 holder.owner.slots
    step := step
    freed := fun ok _ member => next.count quiet distinct (step.held_of_ok ok) member
    settled := fun ok => SegmentHolder.retry_none ops.logged (step.held_of_ok ok) }

/-- Whatever the backend answers, the run leaves a holder of exactly the
segments allocated, a prefix of the plan's, and through any number of releases
and the final drop the backend is asked to free only what it gave, and nothing
again that it took back. -/
theorem prepareTargets_custody (ops : SegmentBackend β ε) (plan : LoadPlan)
    (source : List UInt8) (start : β) :
    ∃ holder count, SegmentHolder.prepare ops.logged plan source (start, []) = some holder ∧
      Opened plan count holder.owner ∧
      ((∀ failure, holder = .failed failure → failure.kind ≠ .allocate) →
        count = plan.items.length) ∧
      ∀ calls, InCustody ops.toPageBackend holder.owner.log
        (holder.retry ops.toPageBackend.logged calls) := by
  obtain ⟨holder, count, prepared, opened, full⟩ :=
    SegmentHolder.prepare_opened ops plan source start
  have distinct : (holder.owner.log.filterMap taken).Nodup := by
    rw [opened.taken, List.map_take]
    exact plan.allocations_nodup.sublist (List.take_sublist _ _)
  refine ⟨holder, count, prepared, opened, full, ?_⟩
  intro calls
  exact (SegmentHolder.retry_releasing ops.toPageBackend calls opened.releasing).inCustody
    opened.quiet distinct ops.toPageBackend

end UnnamedOS.Loader
