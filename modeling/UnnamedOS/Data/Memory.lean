import Mathlib.Data.List.Basic

namespace UnnamedOS.Data

/-! # Addressed memory

A memory gives every address a cell.  A window is read as a list and stored
back as a list of the same length; windows that are apart do not notice each
other's stores. -/

variable {α : Type}

def window (memory : Nat → α) (start length : Nat) : List α :=
  (List.range length).map fun offset => memory (start + offset)

def store (memory : Nat → α) (start : Nat) (cells : List α) (address : Nat) : α :=
  if start ≤ address then (cells[address - start]?).getD (memory address) else memory address

/-- One value over a whole window. -/
def fill (memory : Nat → α) (start length : Nat) (cell : α) (address : Nat) : α :=
  if start ≤ address ∧ address < start + length then cell else memory address

variable {memory other : Nat → α} {start length address : Nat} {cells : List α}

@[simp] theorem length_window : (window memory start length).length = length := by
  simp [window]

theorem getElem?_window {offset : Nat} (inside : offset < length) :
    (window memory start length)[offset]? = some (memory (start + offset)) := by
  simp [window, inside]

theorem window_congr (same : ∀ offset < length, memory (start + offset) = other (start + offset)) :
    window memory start length = window other start length := by
  refine List.map_congr_left ?_
  intro offset member
  exact same offset (List.mem_range.mp member)

theorem store_outside (outside : ¬ (start ≤ address ∧ address < start + cells.length)) :
    store memory start cells address = memory address := by
  unfold store
  split
  · have beyond : cells.length ≤ address - start := by omega
    simp [List.getElem?_eq_none beyond]
  · rfl

theorem window_store (sized : cells.length = length) :
    window (store memory start cells) start length = cells := by
  subst sized
  refine List.ext_getElem? ?_
  intro offset
  by_cases inside : offset < cells.length
  · rw [getElem?_window inside]
    simp [store, inside]
  · have beyond : cells.length ≤ offset := Nat.le_of_not_lt inside
    rw [List.getElem?_eq_none beyond, List.getElem?_eq_none (by simpa using beyond)]

/-- A window that the stored cells keep away from. -/
theorem window_store_apart {reader : Nat}
    (apart : reader + length ≤ start ∨ start + cells.length ≤ reader) :
    window (store memory start cells) reader length = window memory reader length := by
  refine window_congr ?_
  intro offset below
  exact store_outside (by omega)

/-- A window inside the stored cells. -/
theorem window_store_inside {offset : Nat} (inside : offset + length ≤ cells.length) :
    window (store memory start cells) (start + offset) length = (cells.drop offset).take length := by
  refine List.ext_getElem? ?_
  intro index
  by_cases below : index < length
  · rw [getElem?_window below, List.getElem?_take_of_lt below, List.getElem?_drop]
    have listed : offset + index < cells.length := by omega
    simp [store, listed, Nat.add_assoc]
  · have beyond : length ≤ index := Nat.le_of_not_lt below
    rw [List.getElem?_eq_none (by simpa using beyond), List.getElem?_eq_none]
    rw [List.length_take]
    omega

theorem window_add {more : Nat} :
    window memory start (length + more) =
      window memory start length ++ window memory (start + length) more := by
  simp [window, List.range_add, Nat.add_assoc]

/-- The cells are at the front of a window that is longer than they are. -/
theorem window_store_front (short : cells.length ≤ length) :
    window (store memory start cells) start length =
      cells ++ window memory (start + cells.length) (length - cells.length) := by
  obtain ⟨more, rfl⟩ := Nat.exists_eq_add_of_le short
  rw [window_add, window_store rfl, window_store_apart (.inr (Nat.le_refl _)),
    Nat.add_sub_cancel_left]

/-- The cells stand at `start`, and nothing else has changed. -/
structure Wrote (start length : Nat) (cells : List α) (before after : Nat → α) : Prop where
  inside : window after start length = cells
  outside : ∀ address, ¬ (start ≤ address ∧ address < start + length) →
    after address = before address

theorem wrote_store (sized : cells.length = length) :
    Wrote start length cells memory (store memory start cells) where
  inside := window_store sized
  outside := by
    intro address outside
    exact store_outside (by rwa [sized])

theorem wrote_same (stands : window memory start length = cells) :
    Wrote start length cells memory memory :=
  ⟨stands, fun _ _ => rfl⟩

/-! ## Passes over windows -/

/-- A pass has filled every item's window and changed nothing else. -/
structure Passed {ι : Type} (start length : ι → Nat) (content : ι → List α) (items : List ι)
    (before after : Nat → α) : Prop where
  inside : ∀ item ∈ items, window after (start item) (length item) = content item
  outside : ∀ address,
    (∀ item ∈ items, ¬ (start item ≤ address ∧ address < start item + length item)) →
    after address = before address

variable {ι : Type} {starts lengths : ι → Nat} {content : ι → List α} {item : ι}
  {items : List ι} {before middle after : Nat → α}

theorem Passed.nil : Passed starts lengths content [] before before :=
  ⟨by simp, fun _ _ => rfl⟩

/-- The rest of a pass keeps away from the window that was filled first. -/
theorem Passed.cons
    (first : Wrote (starts item) (lengths item) (content item) before middle)
    (rest : Passed starts lengths content items middle after)
    (apart : ∀ other ∈ items, starts item + lengths item ≤ starts other ∨
      starts other + lengths other ≤ starts item) :
    Passed starts lengths content (item :: items) before after where
  inside := by
    intro target member
    rcases List.mem_cons.mp member with rfl | later
    · rw [← first.inside]
      refine window_congr ?_
      intro offset below
      refine rest.outside _ ?_
      intro other otherMember
      have separate := apart other otherMember
      omega
    · exact rest.inside target later
  outside := by
    intro address outside
    rw [rest.outside address fun other member => outside other (List.mem_cons_of_mem _ member)]
    exact first.outside address (outside item (by simp))

end UnnamedOS.Data
