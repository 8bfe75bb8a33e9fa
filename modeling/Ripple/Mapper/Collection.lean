-- SUMMARY: The text inside an element, collected step by step with a stack of the elements that are being read.
import Ripple.Mapper.Fragments
import Ripple.Text.Blank

/-! # The text of an element

The text of a statement is all text inside its element, in document order. A fragment that an
element stands for is read in its place, unless it is being read under the same name.

The elements that are being read are kept on a stack, and the names under which fragments are being
read in a list of their own.
-/

namespace Ripple

namespace Xml.Node

/-- The text of a run without the blanks around it, unless nothing is left. -/
def piece (content : String) : List (List Char) :=
  match Text.trim content.toList with
  | [] => []
  | trimmed => [trimmed]

mutual

/-- The number of nodes in a node, where an element counts twice: it is entered and left. -/
def size : Node → Nat
  | .text _ => 1
  | .element _ _ content => sizeAll content + 2

def sizeAll : List Node → Nat
  | [] => 0
  | node :: rest => size node + sizeAll rest

end

end Xml.Node

/-- An element that is being read. -/
structure Reading where
  /-- The nodes inside it that are still to come. -/
  rest : List Xml.Node
  /-- The name under which it was included, if it is a fragment. -/
  name : Option String := none

/-- The text of an element while it is being collected. -/
structure Collection where
  /-- The elements that are being read, innermost first. -/
  readings : List Reading
  /-- The names under which fragments are being read. -/
  expanding : List String := []
  pieces : List (List Char) := []

namespace Collection

/-- The names that are still expanded behind an element. -/
def released (name : Option String) (expanding : List String) : List String :=
  match name with
  | some name => expanding.erase name
  | none => expanding

variable (fragments : Fragments)

/-- The fragment to read in place of an element. -/
def included? (expanding : List String) (node : Xml.Node) : Option (String × Xml.Node) :=
  (fragments.referred? node).filter fun (name, _) => !expanding.contains name

/-- Reads a node: takes its text over, or begins to read the element or the fragment that it stands
for. -/
def read (c : Collection) : Xml.Node → Collection
  | .text content => { c with pieces := c.pieces ++ Xml.Node.piece content }
  | .element tag attributes content =>
    match included? fragments c.expanding (.element tag attributes content) with
    | some (name, fragment) =>
      { c with
        readings := ⟨fragment.content, some name⟩ :: c.readings
        expanding := name :: c.expanding }
    | none => { c with readings := ⟨content, none⟩ :: c.readings }

/-- One step: the next node of the innermost element is read, or the element is left behind. -/
def step (c : Collection) : Collection :=
  match c.readings with
  | [] => c
  | ⟨[], name⟩ :: outer => { c with readings := outer, expanding := released name c.expanding }
  | ⟨node :: rest, name⟩ :: outer =>
    read fragments { c with readings := ⟨rest, name⟩ :: outer } node

/-! ## Collecting ends

Inside a fragment there is one name less to expand, and its content is smaller than the base of the
weight. So a fragment weighs less than the element that stands for it.
-/

/-- How many names no fragment is being read under. -/
def unexpanded (expanding : List String) : Nat :=
  fragments.countP fun entry => !expanding.contains entry.1

/-- More than the size of any fragment. -/
def base : Nat :=
  fragments.foldr (fun entry total => Xml.Node.sizeAll entry.2.content + total + 1) 1

/-- The weight of what is still to be read. -/
def weightOf (expanding : List String) : List Reading → Nat
  | [] => 0
  | reading :: outer =>
    (Xml.Node.sizeAll reading.rest + 1) * Nat.pow (base fragments) (unexpanded fragments expanding) +
      weightOf (released reading.name expanding) outer

def weight (c : Collection) : Nat :=
  weightOf fragments c.expanding c.readings

theorem base_pos : 0 < base fragments := by
  unfold base
  cases fragments <;> simp

theorem pow_base_pos (n : Nat) : 0 < Nat.pow (base fragments) n := by
  induction n with
  | zero => exact Nat.one_pos
  | succ n ih => exact Nat.mul_pos ih (base_pos fragments)

theorem base_mul_pow_le {fewer more : Nat} (h : fewer < more) :
    base fragments * Nat.pow (base fragments) fewer ≤ Nat.pow (base fragments) more := by
  induction h with
  | refl => exact Nat.le_of_eq (Nat.mul_comm ..)
  | step _ ih => exact Nat.le_trans ih (Nat.le_mul_of_pos_right _ (base_pos fragments))

theorem unexpanded_cons_le (expanding : List String) (name : String) :
    unexpanded fragments (name :: expanding) ≤ unexpanded fragments expanding := by
  refine List.countP_mono_left fun entry _ h => ?_
  simp only [List.contains_cons, Bool.not_or, Bool.and_eq_true] at h
  exact h.2

section
variable {fragments : Fragments} {expanding : List String} {name : String} {fragment : Xml.Node}

theorem sizeAll_lt_base (h : fragments.lookup name = some fragment) :
    Xml.Node.sizeAll fragment.content < base fragments := by
  induction fragments with
  | nil => cases h
  | cons entry rest ih =>
    rw [List.lookup_cons] at h
    simp only [base, List.foldr_cons] at ih ⊢
    split at h
    · cases h
      omega
    · have := ih h
      omega

/-- Expanding a fragment leaves fewer names. -/
theorem unexpanded_cons_lt (h : fragments.lookup name = some fragment)
    (hnew : expanding.contains name = false) :
    unexpanded fragments (name :: expanding) < unexpanded fragments expanding := by
  induction fragments with
  | nil => cases h
  | cons entry rest ih =>
    have hrest := unexpanded_cons_le rest expanding name
    rw [List.lookup_cons] at h
    simp only [unexpanded, List.countP_cons, List.contains_cons] at ih hrest ⊢
    split at h
    next hname =>
      obtain rfl : name = entry.1 := by simpa using hname
      simp only [hnew, BEq.rfl, Bool.true_or, Bool.not_true, Bool.not_false]
      simp only [Bool.false_eq_true, if_false, if_true]
      omega
    next hother =>
      have hlt := ih h
      have hsame : (entry.1 == name) = false := by
        rw [beq_eq_false_iff_ne]
        rintro rfl
        simp at hother
      simp only [hsame, Bool.false_or]
      omega

/-- What is read in place of an element is the fragment that it refers to, if that is not being read
under its name. -/
theorem included?_eq_some {node : Xml.Node} :
    included? fragments expanding node = some (name, fragment) ↔
      node.reference? = some name ∧ fragments.lookup name = some fragment ∧ name ∉ expanding := by
  simp only [included?, Fragments.referred?, Option.filter_eq_some_iff, Option.bind_eq_bind,
    Option.bind_eq_some_iff, Option.pure_def, Option.some.injEq, Prod.mk.injEq]
  constructor
  · rintro ⟨⟨_, hname, _, hlookup, rfl, rfl⟩, hnew⟩
    exact ⟨hname, hlookup, by simpa using hnew⟩
  · rintro ⟨hname, hlookup, hnew⟩
    exact ⟨⟨name, hname, fragment, hlookup, rfl, rfl⟩, by simpa using hnew⟩

@[simp]
theorem released_some_cons (name : String) (expanding : List String) :
    released (some name) (name :: expanding) = expanding := by
  simp [released]

end

/-- What a node adds when it is read weighs less than the node did. -/
theorem weight_read_lt (c : Collection) (node : Xml.Node) :
    weight fragments (read fragments c node) <
      node.size * Nat.pow (base fragments) (unexpanded fragments c.expanding) +
        weight fragments c := by
  have hpos := pow_base_pos fragments (unexpanded fragments c.expanding)
  cases node with
  | text content =>
    rw [Xml.Node.size, Nat.one_mul]
    exact Nat.lt_add_of_pos_left hpos
  | element tag attributes content =>
    rw [Xml.Node.size, read]
    split
    next name fragment hincluded =>
      obtain ⟨-, hlookup, hnew⟩ := included?_eq_some.1 hincluded
      have hfragment : (Xml.Node.sizeAll fragment.content + 1) *
          Nat.pow (base fragments) (unexpanded fragments (name :: c.expanding)) ≤
            Nat.pow (base fragments) (unexpanded fragments c.expanding) :=
        Nat.le_trans (Nat.mul_le_mul_right _ (sizeAll_lt_base hlookup))
          (base_mul_pow_le _ (unexpanded_cons_lt hlookup (by simpa using hnew)))
      simp only [weight, weightOf, released_some_cons, Nat.add_mul] at hfragment ⊢
      omega
    next =>
      simp only [weight, weightOf, released, Nat.add_mul]
      omega

/-- Every step leaves less to read. -/
theorem weight_step_lt {c : Collection} (h : c.readings ≠ []) :
    weight fragments (step fragments c) < weight fragments c := by
  obtain ⟨readings, expanding, pieces⟩ := c
  match readings with
  | [] => exact absurd rfl h
  | ⟨[], name⟩ :: outer =>
    simp only [step, weight, weightOf, Xml.Node.sizeAll, Nat.zero_add, Nat.one_mul]
    exact Nat.lt_add_of_pos_left (pow_base_pos _ _)
  | ⟨node :: rest, name⟩ :: outer =>
    have hread := weight_read_lt fragments
      { readings := ⟨rest, name⟩ :: outer, expanding, pieces } node
    simp only [step, weight, weightOf, Xml.Node.sizeAll, Nat.add_mul] at hread ⊢
    omega

/-- Reads on until every element is left behind. -/
def run (c : Collection) : Collection :=
  if c.readings.isEmpty then c else run (step fragments c)
termination_by weight fragments c
decreasing_by
  rename_i h
  exact weight_step_lt fragments (by simpa using h)

end Collection

namespace Fragments

/-- The text of an element, with the fragments that it includes. -/
def textOf (fragments : Fragments) (node : Xml.Node) : String :=
  let pieces := (Collection.run fragments { readings := [⟨node.content, none⟩] }).pieces
  String.ofList (Text.singleSpaced ([' '].intercalate pieces))

end Fragments

end Ripple
