import UnnamedOS.Data.Ledger
import UnnamedOS.Loader.UefiBackends

namespace UnnamedOS.Loader

open UnnamedOS.Data UnnamedOS.PageTable

/-! # The firmware's pages

Every page that the loader uses is lent to it by the firmware.  The list of
events says which ranges were taken and which were given back; what the loader
has to answer for follows from that list alone. -/

/-- The two ranges have a page in common. -/
def OwnedAllocation.clash (left right : OwnedAllocation) : Bool :=
  decide (left.pageStart < right.pageStart + right.pageCount * 4096) &&
    decide (right.pageStart < left.pageStart + left.pageCount * 4096)

def Event.deal : Event → Option (Deal OwnedAllocation)
  | .asked (.allocatePages _ pages) (.ok pointer) => some (.took ⟨pointer.val, pages⟩)
  | .asked (.freePages start pages) (.ok _) => some (.gave ⟨start, pages⟩ true)
  | .asked (.freePages start pages) (.error _) => some (.gave ⟨start, pages⟩ false)
  | _ => none

def Machine.books {φ : Type} (machine : Machine φ) : Except Fault (Account OwnedAllocation) :=
  ledger OwnedAllocation.clash (machine.events.filterMap Event.deal)

/-- The requests that lend nothing and take nothing back. -/
def Request.Plain : Request → Prop
  | .allocatePages _ _ => False
  | .freePages _ _ => False
  | _ => True

section

variable {φ : Type}

def Machine.Owes (machine : Machine φ) (held : List OwnedAllocation) : Prop :=
  Data.Owes machine.books held

def Machine.Leaves (machine : Machine φ) (held : List OwnedAllocation) : Prop :=
  Data.Leaves machine.books held

variable {firmware : Firmware φ} {machine : Machine φ} {held rest : List OwnedAllocation}

@[simp] theorem books_say (texts : List String) : (machine.say texts).books = machine.books := by
  have silent : (texts.map Event.line).filterMap Event.deal = [] := by
    simp [List.filterMap_map, Function.comp_def, Event.deal]
  simp only [Machine.books, Machine.say, List.filterMap_append, silent, List.append_nil]

@[simp] theorem books_withMemory (memory : Nat → UInt8) :
    (machine.withMemory memory).books = machine.books := rfl

theorem books_asked (firmware : Firmware φ) (machine : Machine φ) (request : Request) :
    (machine.asked firmware request).2.books =
      match (Event.asked request (machine.asked firmware request).1).deal with
      | none => machine.books
      | some deal => machine.books >>= fun account => account.settle OwnedAllocation.clash deal := by
  have events : (machine.asked firmware request).2.events =
      machine.events ++ [.asked request (machine.asked firmware request).1] := rfl
  simp only [Machine.books, events, List.filterMap_append]
  cases deal : (Event.asked request (machine.asked firmware request).1).deal with
  | none => rw [List.filterMap_cons_none deal, List.filterMap_nil, List.append_nil]
  | some made => rw [List.filterMap_cons_some deal, List.filterMap_nil, ledger_concat]

theorem books_plain {request : Request} (plain : request.Plain) :
    (machine.asked firmware request).2.books = machine.books := by
  rw [books_asked]
  cases request with
  | allocatePages type pages => exact plain.elim
  | freePages start pages => exact plain.elim
  | _ => rfl

/-- No range begins at the null page. -/
theorem pageStart_ne_zero {account : Account OwnedAllocation} {allocation : OwnedAllocation}
    (kept : machine.books = .ok account) (live : allocation ∈ account.live) :
    allocation.pageStart ≠ 0 := by
  obtain ⟨event, _, taken⟩ := List.mem_filterMap.mp (took_of_live kept live)
  unfold Event.deal at taken
  split at taken
  · rename_i pointer _
    cases taken
    exact pointer.property
  · cases taken
  · cases taken
  · cases taken

/-! ## Taking and giving back -/

theorem allocatePages_cases (firmware : Firmware φ) (type : AllocateType) (pages : Nat)
    (owes : machine.Owes held) :
    (∃ status after, machine.asked firmware (.allocatePages type pages) = (.error status, after) ∧
      after.Owes held) ∨
    ∃ pointer after, machine.asked firmware (.allocatePages type pages) = (.ok pointer, after) ∧
      after.Owes (⟨pointer.val, pages⟩ :: held) ∧
      ∀ other ∈ held, OwnedAllocation.clash ⟨pointer.val, pages⟩ other = true →
        after.books = .error .lender := by
  have books := books_asked firmware machine (.allocatePages type pages)
  cases asked : machine.asked firmware (.allocatePages type pages) with
  | mk reply after =>
      rw [asked] at books
      cases reply with
      | error status =>
          refine .inl ⟨status, after, rfl, ?_⟩
          rw [Machine.Owes, books]
          exact owes
      | ok pointer =>
          refine .inr ⟨pointer, after, rfl, ?_, ?_⟩
          · rw [Machine.Owes, books]
            exact owes.took
          · intro other member meet
            rw [books]
            exact owes.clashes member meet

section

variable {ε : Type} (firmware : Firmware φ) (refused range : ε) {allocation : OwnedAllocation}

/-- The call is made, and it is one deal; only an account that has ended could
have the null page in it. -/
theorem freePages_deal (machine : Machine φ) {account : Account OwnedAllocation}
    (kept : machine.books = .ok account) (live : allocation ∈ account.live) :
    (freePages firmware refused range machine allocation.pageStart allocation.pageCount).2.books =
      machine.books >>= fun account => account.settle OwnedAllocation.clash (.gave allocation
        (freePages firmware refused range machine allocation.pageStart
          allocation.pageCount).1.isOk) := by
  have books := books_asked firmware machine
    (.freePages allocation.pageStart allocation.pageCount)
  rw [freePages, if_neg (pageStart_ne_zero kept live)]
  cases asked : machine.asked firmware
      (.freePages allocation.pageStart allocation.pageCount) with
  | mk reply after =>
      rw [asked] at books
      cases reply with
      | error status => exact books
      | ok done => exact books

/-- Once the accounts have ended, they stay so. -/
theorem freePages_ended (machine : Machine φ) (ended : machine.books = .error .lender)
    (start pages : Nat) :
    (freePages firmware refused range machine start pages).2.books = .error .lender := by
  have books := books_asked firmware machine (.freePages start pages)
  unfold freePages
  split
  · exact ended
  · refine books.trans ?_
    rw [ended]
    split
    · rfl
    · rfl

theorem freePages_gives :
    Gives (fun machine (allocation : OwnedAllocation) =>
        freePages firmware refused range machine allocation.pageStart allocation.pageCount)
      fun held (machine : Machine φ) => machine.Leaves held where
  perm := Leaves.perm
  gone := by
    intro machine allocation rest leaves
    rcases leaves with ended | ⟨account, lost, kept, live, refusals⟩
    · exact .inl (freePages_ended firmware refused range machine ended _ _)
    · rw [Machine.Leaves, freePages_deal firmware refused range machine kept
        (live.mem_iff.mpr (by simp))]
      exact Leaves.gave (.inr ⟨account, lost, kept, live, refusals⟩)
  kept := by
    intro machine allocation rest leaves failed
    rcases leaves with ended | ⟨account, lost, kept, live, refusals⟩
    · exact .inl (freePages_ended firmware refused range machine ended _ _)
    · rw [Machine.Leaves, freePages_deal firmware refused range machine kept
        (live.mem_iff.mpr (by simp)), failed]
      exact Leaves.refused (.inr ⟨account, lost, kept, live, refusals⟩)

theorem freePages_accepted (owes : machine.Owes (allocation :: rest))
    (accepted : (freePages firmware refused range machine allocation.pageStart
      allocation.pageCount).1.isOk = true) :
    (freePages firmware refused range machine allocation.pageStart
      allocation.pageCount).2.Owes rest := by
  rcases owes with ended | ⟨account, kept, live⟩
  · exact .inl (freePages_ended firmware refused range machine ended _ _)
  · rw [Machine.Owes, freePages_deal firmware refused range machine kept
      (live.mem_iff.mpr (by simp)), accepted]
    exact Owes.gave (.inr ⟨account, kept, live⟩)

end

/-! ## Programs that make no deals -/

section

variable {ε α β : Type}

abbrev Quiet (program : Program (Machine φ) ε α) : Prop := Program.Keeps Machine.books program

namespace Quiet

variable {program : Program (Machine φ) ε α} {next : α → Program (Machine φ) ε β}

theorem writeLine (text : String) : Quiet (writeLine text : Program (Machine φ) ε Unit) :=
  fun _ => books_say [text]

theorem writeMemory (update : (Nat → UInt8) → Nat → UInt8) :
    Quiet (writeMemory update : Program (Machine φ) ε Unit) := fun _ => rfl

theorem readMemory : Quiet (readMemory : Program (Machine φ) ε _) := fun _ => rfl

theorem ask {request : Request} (plain : request.Plain) :
    Quiet (ask firmware request : Program (Machine φ) ε _) := fun _ => books_plain plain

theorem bind (first : Quiet program) (second : ∀ value, Quiet (next value)) :
    Quiet (program >>= next) :=
  Program.Keeps.bind first second

theorem orReturn (outcome : Option α) (error : ε) :
    Quiet (orReturn outcome error : Program (Machine φ) (Stop ε) α) := by
  cases outcome with
  | none => exact .stop _
  | some value => exact .pure value

theorem failWith (marker : String) :
    Quiet (failWith marker : Program (Machine φ) (Stop ε) α) :=
  bind (writeLine marker) fun _ => .stop _

end Quiet

end

/-! ## Custody -/

section

variable {ε δ α β : Type}

/-- After an error that is returned, nothing but what was refused is left of
what the program had; where the run ends, the accounts are only not at fault. -/
def Settles (held : List OwnedAllocation) : Stop ε → Machine φ → Prop
  | .returned _, machine => machine.Leaves held
  | .failed, machine => machine.books ≠ .error .borrower

/-- The program takes over `spent` and returns with `gained`, and is silent on
all else that its caller answers for. -/
def Custody (spent : List OwnedAllocation) (program : Program (Machine φ) (Stop ε) α)
    (gained : α → List OwnedAllocation) : Prop :=
  ∀ rest, Program.Triple (fun machine => machine.Owes (spent ++ rest)) program
    (fun value machine => machine.Owes (gained value ++ rest)) (Settles rest)

/-- The same on one machine, of which more may be known. -/
def CustodyFrom (machine : Machine φ) (spent : List OwnedAllocation)
    (program : Program (Machine φ) (Stop ε) α) (gained : α → List OwnedAllocation) : Prop :=
  ∀ rest, machine.Owes (spent ++ rest) →
    (∀ value after, program machine = (.ok value, after) → after.Owes (gained value ++ rest)) ∧
    ∀ reason after, program machine = (.error reason, after) → Settles rest reason after

/-- The program does not return, and gives up all it had; some of it may be lost
from the start. -/
def Abandons (spent : List OwnedAllocation) (program : Program (Machine φ) (Stop ε) α) : Prop :=
  ∀ rest, Program.Triple (fun machine => machine.Leaves (spent ++ rest)) program
    (fun _ _ => False) (Settles rest)

def Drops (drop : Machine φ → Machine φ) (held : List OwnedAllocation) : Prop :=
  ∀ rest machine, machine.Leaves (held ++ rest) → (drop machine).Leaves rest

theorem Settles.of_leaves {reason : Stop ε} (leaves : machine.Leaves held) :
    Settles held reason machine := by
  cases reason with
  | returned error => exact leaves
  | failed => exact leaves.faultless

theorem Drops.comp {first second : Machine φ → Machine φ} {kept : List OwnedAllocation}
    (inner : Drops first held) (outer : Drops second kept) :
    Drops (fun machine => second (first machine)) (held ++ kept) := by
  intro rest machine leaves
  rw [List.append_assoc] at leaves
  exact outer rest _ (inner (kept ++ rest) machine leaves)

theorem Drops.perm {drop : Machine φ → Machine φ} {same : List OwnedAllocation}
    (drops : Drops drop held) (reordered : same.Perm held) : Drops drop same :=
  fun rest machine leaves => drops rest machine (leaves.perm (reordered.append_right rest))

/-- Slots that are dropped one by one. -/
theorem Drops.slots {free : Machine φ → OwnedAllocation → Except ε Unit × Machine φ}
    (gives : Gives free fun held machine => machine.Leaves held)
    (slots : List (OwnedAllocation × Bool)) :
    Drops (fun machine => dropSlots free machine slots) (heldResources slots) :=
  fun _ _ leaves => gives.dropSlots leaves

/-- An error that is raised past its owners. -/
theorem Drops.abandons {drop : Machine φ → Machine φ} (drops : Drops drop held) (error : ε) :
    Abandons held (unwinding drop (.stop (.returned error)) : Program (Machine φ) (Stop ε) α) := by
  intro rest machine leaves
  constructor
  · intro value after same
    cases same
  · intro reason after same
    cases same
    exact drops rest machine leaves

namespace Custody

variable {spent : List OwnedAllocation} {program : Program (Machine φ) (Stop ε) α}
  {gained : α → List OwnedAllocation} {next : α → Program (Machine φ) (Stop ε) β}
  {results : β → List OwnedAllocation}

theorem quiet (silent : Quiet program) : Custody [] program fun _ => [] := by
  intro rest machine owes
  have same := silent machine
  constructor
  · intro value after ran
    rw [ran] at same
    rw [Machine.Owes, same]
    exact owes
  · intro reason after ran
    rw [ran] at same
    refine Settles.of_leaves ?_
    rw [Machine.Leaves, same]
    exact owes.leaves

theorem pure {value : α} (same : spent = gained value) :
    Custody spent (Pure.pure value : Program (Machine φ) (Stop ε) α) gained := by
  subst same
  exact fun _ => .pure fun _ owes => owes

theorem look (observe : Machine φ → α) :
    Custody spent (.look observe : Program (Machine φ) (Stop ε) α) fun _ => spent :=
  fun _ => .look fun _ owes => owes

theorem writeLine (text : String) :
    Custody spent (writeLine text : Program (Machine φ) (Stop ε) Unit) fun _ => spent := by
  intro rest
  refine .change ?_
  intro machine owes
  have same : (machine.say [text]).books = machine.books := books_say [text]
  rw [Machine.Owes, ← same] at owes
  exact owes

theorem writeMemory (update : (Nat → UInt8) → Nat → UInt8) :
    Custody spent (writeMemory update : Program (Machine φ) (Stop ε) Unit) fun _ => spent :=
  fun _ => .change fun _ owes => owes

theorem stop (reason : Stop ε) :
    Custody [] (.stop reason : Program (Machine φ) (Stop ε) α) gained :=
  fun _ => .stop fun _ owes => .of_leaves owes.leaves

/-- The second program starts where the first has ended. -/
theorem bind_from (first : Custody spent program gained)
    (second : ∀ machine value after, program machine = (.ok value, after) →
      CustodyFrom after (gained value) (next value) results) :
    Custody spent (program >>= next) results := by
  intro rest
  refine (first rest).bind_run ?_
  intro machine value after ran middle reached
  obtain ⟨rfl, owes⟩ := reached
  exact second machine value middle ran rest owes

/-- The second program may rely on the first having run. -/
theorem bind (first : Custody spent program gained)
    (second : ∀ machine value after, program machine = (.ok value, after) →
      Custody (gained value) (next value) results) :
    Custody spent (program >>= next) results :=
  first.bind_from fun machine value after ran rest => second machine value after ran rest after

/-- The end of the run drops nothing. -/
theorem failWith (marker : String) :
    Custody spent (failWith marker : Program (Machine φ) (Stop ε) α) gained :=
  (writeLine marker).bind fun _ _ _ _ _ => .stop fun _ owes => owes.leaves.faultless

/-- Where there is no value there must be nothing to lose. -/
theorem orReturn_bind {outcome : Option α} {error : ε}
    (none : outcome = none → spent = [])
    (some : ∀ value, outcome = some value → Custody spent (next value) results) :
    Custody spent (orReturn outcome error >>= next) results := by
  cases outcome with
  | none =>
      rw [none rfl]
      exact stop _
  | some value => exact some value rfl

/-- A program that leaves an owner alone where it stops, and may add to it where
it returns. -/
theorem unwinds {drop : Machine φ → Machine φ} {kept : List OwnedAllocation}
    (drops : Drops drop kept)
    (framed : ∀ rest, Program.Triple (fun machine => machine.Owes (spent ++ kept ++ rest)) program
      (fun value machine => machine.Owes (gained value ++ rest)) (Settles (kept ++ rest))) :
    Custody (spent ++ kept) (unwinding drop program) gained := by
  intro rest
  refine Program.Triple.onStop (framed rest) ?_
  intro reason machine settled
  cases reason with
  | returned error => exact drops rest machine settled
  | failed => exact settled

/-- An error past an owner drops it. -/
theorem unwinding {drop : Machine φ → Machine φ} {kept : List OwnedAllocation}
    (drops : Drops drop kept) (custody : Custody spent program gained) :
    Custody (spent ++ kept) (unwinding drop program) fun value => gained value ++ kept := by
  refine unwinds drops ?_
  intro rest
  have framed := custody (kept ++ rest)
  simp only [← List.append_assoc] at framed
  exact framed

theorem unwinding_new {drop : Machine φ → Machine φ} {kept : List OwnedAllocation}
    (drops : Drops drop kept) (custody : Custody [] program gained) :
    Custody kept (Loader.unwinding drop program) fun value => gained value ++ kept :=
  unwinding drops custody

theorem unwinding_quiet {drop : Machine φ → Machine φ} {kept : List OwnedAllocation}
    (drops : Drops drop kept) (silent : Quiet program) :
    Custody kept (Loader.unwinding drop program) fun _ => kept :=
  unwinding drops (quiet silent)

/-- A loop whose every round keeps what its state holds. -/
theorem foldlM {ι : Type} {step : α → ι → Program (Machine φ) (Stop ε) α}
    {held : α → List OwnedAllocation}
    (steps : ∀ value item, Custody (held value) (step value item) held) (items : List ι)
    (start : α) : Custody (held start) (items.foldlM step start) held := by
  induction items generalizing start with
  | nil => exact pure rfl
  | cons item items ih => exact (steps start item).bind fun _ next _ _ => ih next

theorem returning {convert : ε → δ} (custody : Custody spent program gained) :
    Custody spent (returning convert program) gained := by
  intro rest
  refine Program.Triple.mapStop ((custody rest).imp (fun _ => id) (fun _ _ => id) ?_)
  intro reason machine settled
  cases reason with
  | returned error => exact settled
  | failed => exact settled

theorem perm {same : List OwnedAllocation} {others : α → List OwnedAllocation}
    (custody : Custody spent program gained) (start : same.Perm spent)
    (stop : ∀ machine value after, program machine = (.ok value, after) →
      (gained value).Perm (others value)) : Custody same program others := by
  intro rest machine owes
  obtain ⟨good, bad⟩ := custody rest machine (owes.perm (start.append_right rest))
  refine ⟨?_, bad⟩
  intro value after ran
  exact (good value after ran).perm ((stop machine value after ran).append_right rest)

end Custody

/-- What is handed on is not in the value, but known of it. -/
def Hands (spent : List OwnedAllocation) (program : Program (Machine φ) (Stop ε) α)
    (given : α → Machine φ → List OwnedAllocation → Prop) : Prop :=
  ∀ rest, Program.Triple (fun machine => machine.Owes (spent ++ rest)) program
    (fun value machine => ∃ held, given value machine held ∧ machine.Owes (held ++ rest))
    (Settles rest)

section

variable {spent : List OwnedAllocation} {program : Program (Machine φ) (Stop ε) α}
  {given : α → Machine φ → List OwnedAllocation → Prop}

theorem Custody.hands {gained : α → List OwnedAllocation} {next : α → Program (Machine φ) (Stop ε) β}
    {given : β → Machine φ → List OwnedAllocation → Prop} (first : Custody spent program gained)
    (second : ∀ machine value after, program machine = (.ok value, after) →
      Hands (gained value) (next value) given) : Hands spent (program >>= next) given := by
  intro rest
  refine (first rest).bind_run ?_
  intro machine value after ran
  exact (second machine value after ran rest).start fun _ reached => reached.2

theorem Hands.returning {convert : ε → δ} (hands : Hands spent program given) :
    Hands spent (returning convert program) given := by
  intro rest
  refine Program.Triple.mapStop ((hands rest).imp (fun _ => id) (fun _ _ => id) ?_)
  intro reason machine settled
  cases reason with
  | returned error => exact settled
  | failed => exact settled

theorem Abandons.hands (abandons : Abandons spent program) : Hands spent program given := by
  intro rest
  refine (abandons rest).imp ?_ ?_ fun _ _ => id
  · intro machine owes
    exact owes.leaves
  · intro value machine impossible
    exact impossible.elim

/-- A quiet program hands on what it was given, or it is dropped. -/
theorem Quiet.hands {drop : Machine φ → Machine φ} (silent : Quiet program)
    (drops : Drops drop spent)
    (spec : ∀ machine value after, program machine = (.ok value, after) →
      given value after spent) : Hands spent (unwinding drop program) given := by
  intro rest machine owes
  obtain ⟨good, bad⟩ := Custody.unwinding drops (.quiet silent) rest machine owes
  refine ⟨?_, bad⟩
  intro value after ran
  exact ⟨spent, spec machine value after (unwinding_eq_ok.mp ran), good value after ran⟩

end

/-- The range that a reply lends. -/
def lent (pages : Nat) : Except Status NonNull → List OwnedAllocation
  | .ok pointer => [⟨pointer.val, pages⟩]
  | .error _ => []

theorem Custody.allocatePages (firmware : Firmware φ) (type : AllocateType) (pages : Nat) :
    Custody [] (ask firmware (.allocatePages type pages) : Program (Machine φ) (Stop ε) _)
      (lent pages) := by
  intro rest
  refine .call ?_
  intro machine owes
  rcases allocatePages_cases firmware type pages owes with
    ⟨status, after, asked, owes⟩ | ⟨pointer, after, asked, owes, _⟩
  · rw [asked]
    exact owes
  · rw [asked]
    exact owes

theorem Abandons.custody {spent : List OwnedAllocation}
    {program : Program (Machine φ) (Stop ε) α} {gained : α → List OwnedAllocation}
    (abandons : Abandons spent program) : Custody spent program gained := by
  intro rest
  refine (abandons rest).imp ?_ ?_ fun _ _ => id
  · intro machine owes
    exact owes.leaves
  · intro value machine impossible
    exact impossible.elim

end

end

end UnnamedOS.Loader
