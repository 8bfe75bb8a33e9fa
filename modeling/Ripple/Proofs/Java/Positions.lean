-- SUMMARY: Positions of nodes in a syntax tree: complete, without repetition, in the order of the visit.
import Ripple.Java.Syntax
import Mathlib.Data.List.Nodup

/-! # Positions in a syntax tree

A node is found by the turns on the way down to it. The positions of a tree are listed parents
first, as the nodes are visited; each leads to one node, and none is listed twice.
-/

namespace Ripple.Java

/-- A turn on the way down a tree: to a selector or to another child, counted from zero. -/
inductive Turn where
  | selector (i : Nat)
  | child (i : Nat)
deriving DecidableEq, Repr

abbrev Position := List Turn

namespace Node

def next? (node : Node) : Turn → Option Node
  | .selector i => node.selectors[i]?
  | .child i => node.children[i]?

/-- The node at a position. -/
def at? : Node → Position → Option Node
  | node, [] => some node
  | node, turn :: position => (node.next? turn).bind (at? · position)

theorem at?_cons {node found : Node} {turn : Turn} {position : Position} :
    node.at? (turn :: position) = some found ↔
      ∃ next, node.next? turn = some next ∧ next.at? position = some found :=
  Option.bind_eq_some_iff

end Node

mutual

/-- The positions of a tree. -/
def Node.positions : Node → List Position
  | .mk _ _ selectors children =>
    [] :: (positionsAll .selector 0 selectors ++ positionsAll .child 0 children)

/-- The positions of trees that are reached by turns counted from `first`. -/
def positionsAll (turn : Nat → Turn) (first : Nat) : List Node → List Position
  | [] => []
  | node :: nodes => node.positions.map (turn first :: ·) ++ positionsAll turn (first + 1) nodes

end

section
variable {turn : Nat → Turn} {first : Nat} {nodes : List Node} {position : Position}

theorem mem_positionsAll :
    position ∈ positionsAll turn first nodes ↔
      ∃ i node below, nodes[i]? = some node ∧ below ∈ node.positions ∧
        position = turn (first + i) :: below := by
  induction nodes generalizing first with
  | nil => simp [positionsAll]
  | cons node nodes ih =>
    rw [positionsAll, List.mem_append, List.mem_map, ih]
    constructor
    · rintro (⟨below, hbelow, rfl⟩ | ⟨i, found, below, hfound, hbelow, rfl⟩)
      · exact ⟨0, node, below, rfl, hbelow, rfl⟩
      · exact ⟨i + 1, found, below, hfound, hbelow, by rw [Nat.add_right_comm, Nat.add_assoc]⟩
    · rintro ⟨i, found, below, hfound, hbelow, rfl⟩
      cases i with
      | zero =>
        cases hfound
        exact .inl ⟨below, hbelow, rfl⟩
      | succ i =>
        exact .inr ⟨i, found, below, hfound, hbelow, by rw [Nat.add_right_comm, Nat.add_assoc]⟩

/-- What is listed by position is listed tree by tree. -/
theorem flatMap_positionsAll {α : Type} {f : Position → List α} {g : Node → Position → List α}
    (h : ∀ i node, nodes[i]? = some node → ∀ position,
      f (turn (first + i) :: position) = g node position) :
    (positionsAll turn first nodes).flatMap f =
      nodes.flatMap fun node => node.positions.flatMap (g node) := by
  induction nodes generalizing first with
  | nil => rfl
  | cons node nodes ih =>
    rw [positionsAll, List.flatMap_append, List.flatMap_map, List.flatMap_cons]
    congr 1
    · congr 1
      funext position
      exact h 0 node rfl position
    · apply ih
      intro i next hnext position
      rw [Nat.add_assoc, Nat.add_comm 1]
      exact h (i + 1) next hnext position

end

namespace Node

theorem cons_mem_positions {node : Node} {turn : Turn} {position : Position} :
    turn :: position ∈ node.positions ↔
      ∃ next, node.next? turn = some next ∧ position ∈ next.positions := by
  obtain ⟨role, line, selectors, children⟩ := node
  rw [positions, List.mem_cons, List.mem_append, mem_positionsAll, mem_positionsAll]
  constructor
  · rintro (h | ⟨i, next, below, hnext, hbelow, heq⟩ | ⟨i, next, below, hnext, hbelow, heq⟩)
    · cases h
    · rw [Nat.zero_add] at heq
      cases heq
      exact ⟨next, hnext, hbelow⟩
    · rw [Nat.zero_add] at heq
      cases heq
      exact ⟨next, hnext, hbelow⟩
  · rintro ⟨next, hnext, hbelow⟩
    cases turn with
    | selector i =>
      exact .inr (.inl ⟨i, next, position, hnext, hbelow, by rw [Nat.zero_add]⟩)
    | child i =>
      exact .inr (.inr ⟨i, next, position, hnext, hbelow, by rw [Nat.zero_add]⟩)

/-- The positions of a tree are those at which there is a node. -/
theorem mem_positions {node : Node} {position : Position} :
    position ∈ node.positions ↔ ∃ found, node.at? position = some found := by
  induction position generalizing node with
  | nil =>
    cases node
    simp [positions, at?]
  | cons turn position ih =>
    simp only [cons_mem_positions, at?_cons, ih]
    constructor
    · rintro ⟨next, hnext, found, hfound⟩
      exact ⟨found, next, hnext, hfound⟩
    · rintro ⟨found, next, hnext, hfound⟩
      exact ⟨next, hnext, found, hfound⟩

end Node

mutual

theorem Node.nodup_positions : ∀ node : Node, node.positions.Nodup
  | .mk _ _ selectors children => by
    rw [Node.positions, List.nodup_cons, List.nodup_append]
    refine ⟨?_, nodup_positionsAll (fun _ _ => Turn.selector.inj) 0 selectors,
      nodup_positionsAll (fun _ _ => Turn.child.inj) 0 children, ?_⟩
    · simp [mem_positionsAll]
    · intro position hposition other hother heq
      obtain ⟨i, node, below, -, -, rfl⟩ := mem_positionsAll.1 hposition
      obtain ⟨j, node, below, -, -, rfl⟩ := mem_positionsAll.1 hother
      cases heq

theorem nodup_positionsAll {turn : Nat → Turn} (hturn : ∀ i j, turn i = turn j → i = j)
    (first : Nat) : ∀ nodes : List Node, (positionsAll turn first nodes).Nodup
  | [] => List.nodup_nil
  | node :: nodes => by
    rw [positionsAll, List.nodup_append]
    refine ⟨node.nodup_positions.map fun _ _ h => (List.cons.inj h).2,
      nodup_positionsAll hturn (first + 1) nodes, ?_⟩
    -- the turns of the others come later
    intro position hposition other hother heq
    obtain ⟨below, -, rfl⟩ := List.mem_map.1 hposition
    obtain ⟨i, node, below, -, -, rfl⟩ := mem_positionsAll.1 hother
    have hfirst := hturn _ _ (List.cons.inj heq).1
    omega

end

end Ripple.Java
