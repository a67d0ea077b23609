import UnnamedOS.Loader.PreparedBootInfo

namespace UnnamedOS.Loader

open UnnamedOS.Data

/-! # Who owns the bootstrap stack

One allocation of sixteen pages below 4 GiB, with one ownership flag. -/

def uefiPageSize : Nat := 4096
def bootstrapStackPages : Nat := 16
def bootstrapStackSize : Nat := bootstrapStackPages * uefiPageSize
def bootstrapIdentityLimit : Nat := 0x1_0000_0000
def bootstrapStackCanary : Nat := 0x554e_4f53_5354_414b

/-- `ManuallyDrop`: an owner whose wrapper is dropped in its place. -/
structure ManuallyDrop (α : Type) where
  owner : α

/-- Dropping the wrapper runs no destructor; the owner's backend stays as it is. -/
def ManuallyDrop.drop {α β : Type} (wrapped : ManuallyDrop α) (backend : α → β) : β :=
  backend wrapped.owner

inductive BootstrapStackError where
  | wrongSize
  | misaligned
  | overflow
  | outsideIdentityRange
  | overlap
  | notInitialized
  | released
deriving DecidableEq, Repr

/-- `PhysicalRange` of the stack's module. -/
structure StackRange where
  start : Nat
  stop : Nat
deriving DecidableEq, Repr

structure TransferredBootstrapStack where
  bottom : Nat
  top : Nat
  canaryAddress : Nat
  canaryValue : Nat
deriving DecidableEq, Repr

def validateBootstrapStack (start pages : Nat) : Except BootstrapStackError StackRange :=
  if pages ≠ bootstrapStackPages then .error .wrongSize
  else if ¬ start % uefiPageSize = 0 then .error .misaligned
  else do
    let stop ← okOr (checkedAdd start bootstrapStackSize) .overflow
    if stop > bootstrapIdentityLimit then .error .outsideIdentityRange else .ok ⟨start, stop⟩

def rangesOverlap (left right : StackRange) : Bool :=
  left.start < right.stop && right.start < left.stop

theorem validateBootstrapStack_eq_ok {start pages : Nat} {range : StackRange}
    (valid : validateBootstrapStack start pages = .ok range) :
    pages = bootstrapStackPages ∧ start % uefiPageSize = 0 ∧
      start + bootstrapStackSize ≤ bootstrapIdentityLimit := by
  simp only [validateBootstrapStack, guard_eq_ok, not_not, bind_eq_ok, okOr_eq_ok,
    checkedAdd_eq_some, Except.ok.injEq] at valid
  obtain ⟨size, aligned, stop, ⟨_, rfl⟩, limit, _⟩ := valid
  exact ⟨size, aligned, Nat.le_of_not_lt limit⟩

/-- `BootstrapStack`, with what its constructor checks. -/
structure BootstrapStack (β : Type) where
  backend : β
  allocation : PageAllocation
  owned : Bool
  size : allocation.pageCount = bootstrapStackPages
  aligned : allocation.pageStart % uefiPageSize = 0
  limit : allocation.pageStart + bootstrapStackSize ≤ bootstrapIdentityLimit

namespace BootstrapStack

variable {β ε : Type}

/-- `from_initialized`; a refused allocation is given back, whatever the
backend answers. -/
def fromInitialized (ops : PageBackend β ε) (backend : β) (allocation : PageAllocation)
    (forbidden : List StackRange) : Except (BootstrapStackError × β) (BootstrapStack β) :=
  match valid : validateBootstrapStack allocation.pageStart allocation.pageCount with
  | .error error => .error (error, (ops.freeAllocation backend allocation.pages).2)
  | .ok range =>
      if forbidden.any (rangesOverlap range) then
        .error (.overlap, (ops.freeAllocation backend allocation.pages).2)
      else .ok {
        backend
        allocation
        owned := true
        size := (validateBootstrapStack_eq_ok valid).1
        aligned := (validateBootstrapStack_eq_ok valid).2.1
        limit := (validateBootstrapStack_eq_ok valid).2.2 }

def bottom (stack : BootstrapStack β) : Nat := stack.allocation.pageStart

def top (stack : BootstrapStack β) : Nat := stack.allocation.pageStart + bootstrapStackSize

def isReleased (stack : BootstrapStack β) : Bool := !stack.owned

def tryRelease (ops : PageBackend β ε) (stack : BootstrapStack β) :
    Except ε Unit × BootstrapStack β :=
  if stack.owned then
    match ops.freeAllocation stack.backend stack.allocation.pages with
    | (.error source, backend) => (.error source, { stack with backend })
    | (.ok _, backend) => (.ok (), { stack with backend, owned := false })
  else (.ok (), stack)

def transfer (stack : BootstrapStack β) : TransferredBootstrapStack × β :=
  let wrapped : ManuallyDrop (BootstrapStack β) := ⟨stack⟩
  ({ bottom := wrapped.owner.bottom
     top := wrapped.owner.top
     canaryAddress := wrapped.owner.bottom
     canaryValue := bootstrapStackCanary }, wrapped.drop backend)

/-- `Drop`: the state it leaves the backend in. -/
def drop (ops : PageBackend β ε) (stack : BootstrapStack β) : β :=
  if stack.owned then (ops.freeAllocation stack.backend stack.allocation.pages).2
  else stack.backend

end BootstrapStack

end UnnamedOS.Loader
