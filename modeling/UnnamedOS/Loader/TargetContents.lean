import UnnamedOS.Loader.TargetMemory

namespace UnnamedOS.Loader

open UnnamedOS.Data

/-! # What a target holds

The copy writes through `target: &mut [u8]`, so a failure could leave a target
half written.  The in-place versions below keep the target of a failed run; the
check accepts exactly what they leave. -/

/-- A computation on a target that it may change before it fails. -/
abbrev OnTarget (α : Type) : Type := ExceptT MemoryError (StateM (List UInt8)) α

namespace OnTarget

variable {α : Type}

def runOn (run : OnTarget α) (target : List UInt8) : Except MemoryError α × List UInt8 :=
  StateT.run (ExceptT.run run) target

-- `value.ok_or(MemoryError::Range)?`
def require (value : Option α) : OnTarget α :=
  match value with
  | some found => pure found
  | none => throw .range

end OnTarget

open OnTarget

def copyTargetInPlace (item : LoadItem) (source : List UInt8) : OnTarget Unit := do
  let pageLength ← require (toWord item.pageLength)
  if (← get).length ≠ pageLength then throw .range
  else do
    let sourceStart ← require (toWord item.sourceOffset)
    let fileSize ← require (toWord item.fileSize)
    let sourceEnd ← require (checkedAdd sourceStart fileSize)
    let copyStart ← require (toWord item.copyOffset)
    let copyEnd ← require (checkedAdd copyStart fileSize)
    let sourceBytes ← require (getRange source sourceStart sourceEnd)
    let _ ← require (getRange (← get) copyStart copyEnd)
    modify fun target => target.take copyStart ++ sourceBytes ++ target.drop copyEnd

def initializeTargetInPlace (item : LoadItem) (source : List UInt8) : OnTarget Unit := do
  modify fun target => List.replicate target.length 0
  copyTargetInPlace item source

/-- What a computation that returns a new target amounts to in place. -/
def settle (target : List UInt8) :
    Except MemoryError (List UInt8) → Except MemoryError Unit × List UInt8
  | .ok written => (.ok (), written)
  | .error reason => (.error reason, target)

section

variable {item : LoadItem} {source target : List UInt8}

/-- A failing step comes before the write, so it keeps the target. -/
theorem runOn_require_bind {α : Type} {value : Option α} {next : α → OnTarget Unit}
    {written : α → Except MemoryError (List UInt8)}
    (rest : ∀ found, (next found).runOn target = settle target (written found)) :
    (require value >>= next).runOn target = settle target (okOr value .range >>= written) := by
  cases value with
  | none => rfl
  | some found => exact rest found

theorem copyTargetInPlace_runOn :
    (copyTargetInPlace item source).runOn target = settle target (copyTarget item source target) := by
  unfold copyTargetInPlace copyTarget
  refine runOn_require_bind fun pageLength => ?_
  change OnTarget.runOn (if target.length ≠ pageLength then throw MemoryError.range else _) target = _
  by_cases sized : target.length ≠ pageLength
  · rw [if_pos sized, if_pos sized]
    rfl
  · rw [if_neg sized, if_neg sized]
    refine runOn_require_bind fun sourceStart => ?_
    refine runOn_require_bind fun fileSize => ?_
    refine runOn_require_bind fun sourceEnd => ?_
    refine runOn_require_bind fun copyStart => ?_
    refine runOn_require_bind fun copyEnd => ?_
    refine runOn_require_bind fun sourceBytes => ?_
    change (require (getRange target copyStart copyEnd) >>= _).runOn target = _
    exact runOn_require_bind fun _ => rfl

theorem initializeTargetInPlace_runOn :
    (initializeTargetInPlace item source).runOn target =
      settle (List.replicate target.length 0) (initializeTarget item source target) :=
  copyTargetInPlace_runOn

/-! ## The check accepts nothing else -/

theorem verifyTarget_eq_loadedBytes {segment : SegmentSpec} (made : Made source.length segment item)
    (accepted : verifyTarget item source target = .ok ()) : target = loadedBytes source item := by
  obtain ⟨inMemory, inPages, _⟩ := made.sizes
  simp only [verifyTarget, made.copyOffset, bind_eq_ok, okOr_eq_ok, toWord_eq_some,
    checkedAdd_eq_some, guard_eq_ok, getRange, Option.ite_none_right_eq_some, Option.some.injEq]
    at accepted
  obtain ⟨_, ⟨_, rfl⟩, sized, _, ⟨_, rfl⟩, _, ⟨_, rfl⟩, _, ⟨_, rfl⟩, _, ⟨_, rfl⟩, _, ⟨_, rfl⟩, _,
    ⟨_, rfl⟩, _, ⟨_, rfl⟩, _, ⟨_, rfl⟩, _, ⟨_, rfl⟩, copied, _, ⟨_, rfl⟩, bss, _, ⟨_, rfl⟩,
    padding, _⟩ := accepted
  simp only [Nat.zero_add, Nat.sub_zero, List.drop_zero, Nat.add_sub_cancel_left, ne_eq, not_not,
    List.all_eq_true, decide_eq_true_eq] at sized copied bss padding
  -- The check reads the rest and the padding apart; together they are
  -- everything past the file's bytes.
  have zeros : target.drop item.fileSize =
      List.replicate (item.pageLength - item.fileSize) 0 := by
    refine List.eq_replicate_iff.mpr ⟨by rw [List.length_drop, sized], ?_⟩
    intro byte member
    rw [← List.take_append_drop (item.memorySize - item.fileSize) (target.drop item.fileSize),
      List.drop_drop, Nat.add_sub_cancel' inMemory] at member
    cases List.mem_append.mp member with
    | inl inBss => exact bss byte inBss
    | inr inPadding =>
        refine padding byte ?_
        rwa [List.take_of_length_le (by rw [List.length_drop, sized])]
  rw [loadedBytes, ← copied, ← zeros, List.take_append_drop]

end

/-- For the items of a plan, initializing leaves contents that do not depend on
what the target held, and the check accepts these contents and nothing else.
No failed copy, of any item, has changed its target. -/
theorem verifyTarget_iff_initialized :
    (∀ (entry : Nat) (segments : List SegmentSpec) (allocation : SourceAllocation)
        (plan : LoadPlan) (item : LoadItem) (source : List UInt8),
      LoadPlan.build entry segments allocation = .ok plan → item ∈ plan.items →
      source.length = allocation.fileLength →
      ∃ contents : List UInt8,
        (∀ previous : List UInt8, previous.length = item.pageLength →
          (initializeTargetInPlace item source).runOn previous = (.ok (), contents)) ∧
        ∀ target : List UInt8, target.length = item.pageLength →
          (verifyTarget item source target = .ok () ↔ target = contents)) ∧
    ∀ (item : LoadItem) (source target : List UInt8) (reason : MemoryError),
      ((copyTargetInPlace item source).runOn target).1 = .error reason →
      ((copyTargetInPlace item source).runOn target).2 = target := by
  constructor
  · intro entry segments allocation plan item source built member length
    obtain ⟨segment, _, made⟩ := (LoadPlan.build_places built).wanted item member
    rw [← length] at made
    refine ⟨loadedBytes source item, ?_, ?_⟩
    · intro previous sized
      rw [initializeTargetInPlace_runOn, initializeTarget_loads made sized]
      rfl
    · intro target _
      constructor
      · intro accepted
        exact verifyTarget_eq_loadedBytes made accepted
      · intro same
        rw [same]
        exact verifyTarget_accepts made
  · intro item source target reason failed
    rw [copyTargetInPlace_runOn] at failed ⊢
    cases copied : copyTarget item source target with
    | error _ => rfl
    | ok written =>
        rw [copied] at failed
        contradiction

theorem verifyTarget_iff_initialized_sample :
    ∃ plan item contents, LoadPlan.build 0x20_0000 [sampleSegment] sampleSource = .ok plan ∧
      item ∈ plan.items ∧
      (initializeTargetInPlace item [7, 8, 9]).runOn (List.replicate item.pageLength 0xff) =
        (.ok (), contents) ∧
      verifyTarget item [7, 8, 9] contents = .ok () := by
  have accepted : (LoadPlan.build 0x20_0000 [sampleSegment] sampleSource).isOk = true := by
    decide +kernel
  obtain ⟨plan, built⟩ := exists_of_isOk accepted
  obtain ⟨item, member, made⟩ := (LoadPlan.build_places built).planned sampleSegment (by simp)
  obtain ⟨contents, leaves, accepts⟩ := verifyTarget_iff_initialized.1 _ _ _ plan item [7, 8, 9]
    built member rfl
  have initialized := leaves (List.replicate item.pageLength 0xff) (by simp)
  refine ⟨plan, item, contents, built, member, initialized, (accepts contents ?_).mpr rfl⟩
  have made : Made ([7, 8, 9] : List UInt8).length sampleSegment item := made
  have same : contents = loadedBytes [7, 8, 9] item := by
    rw [initializeTargetInPlace_runOn, initializeTarget_loads made (by simp)] at initialized
    exact (congrArg Prod.snd initialized).symm
  rw [same, length_loadedBytes made]

end UnnamedOS.Loader
