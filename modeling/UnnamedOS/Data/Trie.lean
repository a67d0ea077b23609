import Mathlib.Data.Finset.Insert
import Mathlib.Data.List.Induction

namespace UnnamedOS.Data

/-! # Tries over shared node stores

A node store gives every node and index at most one edge, to another node or
to a leaf.  When each node is the target of at most one edge, a path is
recovered from the node it reaches, and adding one edge changes the leaves of
exactly one path. -/

inductive Target (Node Leaf : Type) where
  | node (child : Node)
  | leaf (value : Leaf)
deriving DecidableEq

variable {Node Index Leaf : Type}

def Edges (Node Index Leaf : Type) : Type := Node → Index → Option (Target Node Leaf)

/-- Follow node edges along a path. -/
def descend (edges : Edges Node Index Leaf) (node : Node) : List Index → Option Node
  | [] => some node
  | index :: path =>
      match edges node index with
      | some (.node child) => descend edges child path
      | _ => none

/-- The leaf behind a path of node edges and one last leaf edge. -/
def leafAt (edges : Edges Node Index Leaf) (root : Node) (path : List Index) (last : Index) :
    Option Leaf :=
  match descend edges root path with
  | none => none
  | some node =>
      match edges node last with
      | some (.leaf value) => some value
      | _ => none

variable {edges : Edges Node Index Leaf} {root node target fresh : Node}
  {path other : List Index} {index last : Index} {value : Leaf}

theorem descend_append_singleton :
    descend edges root (path ++ [index]) =
      match descend edges root path with
      | none => none
      | some node =>
          match edges node index with
          | some (.node child) => some child
          | _ => none := by
  induction path generalizing root with
  | nil => rfl
  | cons first path ih =>
      simp only [List.cons_append, descend]
      cases edge : edges root first with
      | none => rfl
      | some next =>
          cases next with
          | leaf value => rfl
          | node child => exact ih

/-- Every node edge agrees with the parent recorded for its target, and the
root has none: the store is a forest that hangs from the root. -/
structure TreeShaped (edges : Edges Node Index Leaf) (root : Node)
    (parent : Node → Option (Node × Index)) : Prop where
  recorded : ∀ node index child, edges node index = some (.node child) →
    parent child = some (node, index)
  rootless : parent root = none

theorem TreeShaped.descend_injective {parent : Node → Option (Node × Index)}
    (shape : TreeShaped edges root parent)
    (first : descend edges root path = some node) (second : descend edges root other = some node) :
    path = other := by
  -- The last edge into a node is its recorded parent, so paths are compared from their ends.
  induction path using List.reverseRecOn generalizing node other with
  | nil =>
      cases other using List.reverseRecOn with
      | nil => rfl
      | append_singleton other last =>
          have same : root = node := by simpa [descend] using first
          rw [descend_append_singleton] at second
          split at second
          · contradiction
          · split at second
            · rename_i child edge
              cases second
              have recorded := shape.recorded _ _ _ edge
              rw [← same, shape.rootless] at recorded
              contradiction
            · contradiction
  | append_singleton path index ih =>
      rw [descend_append_singleton] at first
      split at first
      · contradiction
      · rename_i upper reached
        split at first
        · rename_i child edge
          cases first
          cases other using List.reverseRecOn with
          | nil =>
              have same : root = node := by simpa [descend] using second
              have recorded := shape.recorded _ _ _ edge
              rw [← same, shape.rootless] at recorded
              contradiction
          | append_singleton other last =>
              rw [descend_append_singleton] at second
              split at second
              · contradiction
              · rename_i otherUpper otherReached
                split at second
                · rename_i otherChild otherEdge
                  cases second
                  have recorded := shape.recorded _ _ _ edge
                  rw [shape.recorded _ _ _ otherEdge] at recorded
                  obtain ⟨rfl, rfl⟩ : otherUpper = upper ∧ last = index := by
                    simpa using recorded
                  rw [ih reached otherReached]
                · contradiction
        · contradiction

/-- The paths that lead to a node. -/
def Reaches (edges : Edges Node Index Leaf) (root : Node) (paths : Finset (List Index)) : Prop :=
  ∀ path, path ∈ paths ↔ ∃ node, descend edges root path = some node

/-- The path over a free slot is not one of them yet. -/
theorem Reaches.unopened {paths : Finset (List Index)} (reaches : Reaches edges root paths)
    (reached : descend edges root path = some node) (free : edges node index = none) :
    path ++ [index] ∉ paths := by
  rw [reaches, descend_append_singleton, reached]
  simp only [free]
  simp

section Update

variable [DecidableEq Node] [DecidableEq Index]

def addEdge (edges : Edges Node Index Leaf) (node : Node) (index : Index)
    (edge : Target Node Leaf) : Edges Node Index Leaf :=
  fun candidate position =>
    if candidate = node ∧ position = index then some edge else edges candidate position

theorem addEdge_self {edge : Target Node Leaf} : addEdge edges node index edge node index = some edge := by
  simp [addEdge]

theorem addEdge_other {edge : Target Node Leaf} {candidate : Node} {position : Index}
    (different : ¬ (candidate = node ∧ position = index)) :
    addEdge edges node index edge candidate position = edges candidate position :=
  if_neg different

/-- A leaf edge in a free slot leaves every descent as it was. -/
theorem descend_addEdge_leaf (free : edges node index = none) :
    descend (addEdge edges node index (.leaf value)) root other = descend edges root other := by
  induction other generalizing root with
  | nil => rfl
  | cons first rest ih =>
      simp only [descend]
      by_cases here : root = node ∧ first = index
      · obtain ⟨rfl, rfl⟩ := here
        rw [addEdge_self, free]
      · rw [addEdge_other here]
        split
        · exact ih
        · rfl

/-- Adding a leaf at the end of a path changes the leaf of that path only. -/
theorem leafAt_addEdge_leaf {parent : Node → Option (Node × Index)}
    (shape : TreeShaped edges root parent) (reached : descend edges root path = some node)
    (free : edges node index = none) :
    leafAt (addEdge edges node index (.leaf value)) root other last =
      if other = path ∧ last = index then some value else leafAt edges root other last := by
  unfold leafAt
  rw [descend_addEdge_leaf free]
  by_cases here : other = path ∧ last = index
  · obtain ⟨rfl, rfl⟩ := here
    rw [reached, if_pos ⟨rfl, rfl⟩]
    simp only [addEdge_self]
  · rw [if_neg here]
    cases found : descend edges root other with
    | none => rfl
    | some candidate =>
        have different : ¬ (candidate = node ∧ last = index) := by
          rintro ⟨rfl, rfl⟩
          exact here ⟨shape.descend_injective found reached, rfl⟩
        simp only [addEdge_other different]

/-- A node edge to a fresh, childless node opens exactly one new path. -/
theorem descend_addEdge_node {parent : Node → Option (Node × Index)}
    (shape : TreeShaped edges root parent) (reached : descend edges root path = some node)
    (free : edges node index = none) (distinct : fresh ≠ node)
    (childless : ∀ position, edges fresh position = none) :
    descend (addEdge edges node index (.node fresh)) root other =
      if other = path ++ [index] then some fresh else descend edges root other := by
  induction other using List.reverseRecOn with
  | nil => simp [descend]
  | append_singleton other last ih =>
      rw [descend_append_singleton, ih, descend_append_singleton]
      by_cases opened : other = path ++ [index]
      · -- Past the fresh node there is nothing, before or after the update.
        subst opened
        have before : descend edges root (path ++ [index]) = none := by
          rw [descend_append_singleton, reached]
          simp only [free]
        have longer : path ++ [index] ++ [last] ≠ path ++ [index] := by
          intro same
          have lengths := congrArg List.length same
          simp at lengths
        have stays : ¬ (fresh = node ∧ last = index) := fun both => distinct both.1
        rw [if_pos rfl, if_neg longer, before]
        simp only [addEdge_other stays, childless]
      · rw [if_neg opened]
        cases found : descend edges root other with
        | none =>
            have elsewhere : other ++ [last] ≠ path ++ [index] := by
              intro same
              obtain ⟨rfl, _⟩ := List.append_inj' same rfl
              rw [reached] at found
              contradiction
            rw [if_neg elsewhere]
        | some candidate =>
            by_cases here : candidate = node ∧ last = index
            · obtain ⟨rfl, rfl⟩ := here
              rw [shape.descend_injective found reached, if_pos rfl]
              simp only [addEdge_self]
            · have elsewhere : other ++ [last] ≠ path ++ [index] := by
                intro same
                obtain ⟨rfl, lasts⟩ := List.append_inj' same rfl
                rw [reached] at found
                cases found
                exact here ⟨rfl, by simpa using lasts⟩
              rw [if_neg elsewhere]
              simp only [addEdge_other here]

/-- Opening a path to a childless node adds and removes no leaf. -/
theorem leafAt_addEdge_node {parent : Node → Option (Node × Index)}
    (shape : TreeShaped edges root parent) (reached : descend edges root path = some node)
    (free : edges node index = none) (distinct : fresh ≠ node)
    (childless : ∀ position, edges fresh position = none) :
    leafAt (addEdge edges node index (.node fresh)) root other last =
      leafAt edges root other last := by
  unfold leafAt
  rw [descend_addEdge_node shape reached free distinct childless]
  by_cases opened : other = path ++ [index]
  · subst opened
    have before : descend edges root (path ++ [index]) = none := by
      rw [descend_append_singleton, reached]
      simp only [free]
    have stays : ¬ (fresh = node ∧ last = index) := fun both => distinct both.1
    rw [if_pos rfl, before]
    simp only [addEdge_other stays, childless]
  · rw [if_neg opened]
    cases found : descend edges root other with
    | none => rfl
    | some candidate =>
        by_cases here : candidate = node ∧ last = index
        · obtain ⟨rfl, rfl⟩ := here
          simp only [addEdge_self, free]
        · simp only [addEdge_other here]

namespace Reaches

variable {paths : Finset (List Index)}

theorem addNode {parent : Node → Option (Node × Index)} (shape : TreeShaped edges root parent)
    (reaches : Reaches edges root paths) (reached : descend edges root path = some node)
    (free : edges node index = none) (distinct : fresh ≠ node)
    (childless : ∀ position, edges fresh position = none) :
    Reaches (addEdge edges node index (.node fresh)) root (insert (path ++ [index]) paths) := by
  intro other
  rw [descend_addEdge_node shape reached free distinct childless, Finset.mem_insert, reaches]
  by_cases opened : other = path ++ [index] <;> simp [opened]

theorem addLeaf (reaches : Reaches edges root paths) (free : edges node index = none) :
    Reaches (addEdge edges node index (.leaf value)) root paths := by
  intro other
  rw [descend_addEdge_leaf free, reaches]

end Reaches

end Update

end UnnamedOS.Data
