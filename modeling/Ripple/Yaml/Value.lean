-- SUMMARY: Values made from YAML nodes, with merged mappings and shared collections.
import Ripple.Datum
import Ripple.Yaml.Graph
import Ripple.Yaml.Scalar

/-! # From nodes to values

A collection that is met is put into a queue and filled when its turn comes, so that the order of
faults is that of the levels of a document. Merging changes the nodes of mappings, and what a
mapping takes over depends on what was filled before.
-/

namespace Ripple.Yaml

/-- A value inside a collection: a scalar, or a collection by its number. -/
inductive Item where
  | plain (value : Datum)
  | collection (id : Nat)

/-- What a collection holds. -/
inductive Holding where
  | unfilled
  | seq (items : List Item)
  | map (fields : List (Datum × Item))
  | set (items : List Datum)
  | pairs (fields : List (Item × Item))

/-- The state while values are made of nodes. -/
structure Builder where
  graph : Graph
  /-- The collections that were met. -/
  holdings : Array (Option Holding)
  /-- Those of them that are not filled yet, in the order in which they were met. -/
  queue : List Nat := []

abbrev Build (α : Type) := StateT Builder (Except Fault) α

namespace Build

def fail : Build α :=
  throw .malformedDocument

/-- The text of a scalar. A mapping with the key that stands for its value has the text of that
value; one that stands for itself has no end. -/
def scalarText (graph : Graph) : Nat → Nat → Except Fault (List Char)
  | 0, _ => .error .endless
  | fuel + 1, id =>
    match graph.body id with
    | .scalar text => .ok text
    | .mapping fields =>
      match fields.find? fun (key, _) => graph.tag key == .value with
      | some (_, value) => scalarText graph fuel value
      | none => .error .malformedDocument
    | .sequence _ => .error .malformedDocument

/-- The value of a node with the tag of a scalar. -/
def scalar (graph : Graph) (id : Nat) (tag : Tag) : Except Fault Datum := do
  let text ← scalarText graph (graph.size + 1) id
  match tag, graph.body id with
  | .moment, .mapping _ => throw .wrongType
  | _, _ => Scalar.read tag text

/-- The value of a node. A collection is only noted. -/
def item (id : Nat) : Build Item := do
  let builder ← get
  let tag := builder.graph.tag id
  if [.sequence, .mapping, .set, .pairs].contains tag then
    if let some none := builder.holdings[id]? then
      set { builder with
        holdings := builder.holdings.setIfInBounds id (some .unfilled), queue := builder.queue ++ [id] }
    return .collection id
  else if [.merge, .value, .unknown].contains tag then fail
  else return .plain (← scalar builder.graph id tag)

/-! ## Merging -/

mutual
/-- Merges into a mapping the fields that its merge keys ask for, in front of its own. The fields
before `place` have been looked at, and `merged` was taken over so far. -/
def flattenFrom (fuel : Nat) (id place : Nat) (merged : List (Nat × Nat)) : Build Unit :=
  match fuel with
  | 0 => throw .endless
  | fuel + 1 => do
    let graph := (← get).graph
    let fields := graph.fields id
    match fields[place]? with
    | none =>
      if !merged.isEmpty then
        modify fun b => { b with graph := b.graph.setBody id (.mapping (merged ++ fields)) }
    | some (key, value) =>
      if graph.tag key == .merge then
        modify fun b =>
          { b with graph := b.graph.setBody id (.mapping (fields.eraseIdx place)) }
        let taken ← mergedFields fuel value
        flattenFrom fuel id place (merged ++ taken)
      else
        if graph.tag key == .value then
          modify fun b => { b with graph := b.graph.setTag key .text }
        flattenFrom fuel id (place + 1) merged

/-- The fields that a merge key with a value takes over: those of a mapping, or of several, of which
the first counts most. -/
def mergedFields (fuel : Nat) (value : Nat) : Build (List (Nat × Nat)) :=
  match fuel with
  | 0 => throw .endless
  | fuel + 1 => do
    match (← get).graph.body value with
    | .mapping _ =>
      flattenFrom fuel value 0 []
      return (← get).graph.fields value
    | .sequence items => return (← flattenedAll fuel items).reverse.flatten
    | .scalar _ => fail

/-- The fields of mappings. -/
def flattenedAll (fuel : Nat) (ids : List Nat) : Build (List (List (Nat × Nat))) :=
  match fuel, ids with
  | 0, _ => throw .endless
  | _, [] => return []
  | fuel + 1, id :: rest => do
    match (← get).graph.body id with
    | .mapping _ =>
      flattenFrom fuel id 0 []
      let fields := (← get).graph.fields id
      return fields :: (← flattenedAll fuel rest)
    | _ => fail
end

/-- A bound for the steps of merging: every merge key is used once, and in between the fields of a
mapping are looked at. -/
def mergeBound (graph : Graph) : Nat :=
  let fields := graph.toList.flatMap fun node =>
    match node.body with
    | .mapping fields => fields
    | _ => []
  let links := graph.toList.flatMap fun node =>
    match node.body with
    | .sequence items => items
    | _ => []
  (fields.length + 2) * (fields.length + links.length + 4)

/-! ## Filling -/

/-- The fields of a mapping after merging. A later value of a key replaces an earlier one. -/
def fieldItems : List (Nat × Nat) → List (Datum × Item) → Build (List (Datum × Item))
  | [], found => return found
  | (key, value) :: rest, found => do
    match ← item key with
    | .collection _ => fail
    | .plain key => fieldItems rest (Datum.putKey key (← item value) found)

/-- The fields of a node that has to be a mapping. -/
def mappingItems (id : Nat) : Build (List (Datum × Item)) := do
  match (← get).graph.body id with
  | .mapping _ =>
    flattenFrom (mergeBound (← get).graph) id 0 []
    fieldItems ((← get).graph.fields id) []
  | _ => fail

/-- The pairs of a sequence of mappings with one field each. -/
def pairItems : List Nat → Build (List (Item × Item))
  | [] => return []
  | id :: rest => do
    match (← get).graph.body id with
    | .mapping [(key, value)] =>
      let pair := (← item key, ← item value)
      return pair :: (← pairItems rest)
    | _ => fail

/-- What the collection of a node holds. -/
def holding (id : Nat) : Build Holding := do
  let graph := (← get).graph
  match graph.tag id, graph.body id with
  | .sequence, .sequence items => return .seq (← items.mapM item)
  | .pairs, .sequence items => return .pairs (← pairItems items)
  | .mapping, _ => return .map (← mappingItems id)
  | .set, _ => return .set ((← mappingItems id).map (·.1))
  | _, _ => fail

/-- Fills the collections in the queue; `fuel` is at least the number of nodes. -/
def fillAll : Nat → Build Unit
  | 0 => return
  | fuel + 1 => do
    match (← get).queue with
    | [] => return
    | id :: rest =>
      modify fun b => { b with queue := rest }
      let holding ← holding id
      modify fun b => { b with holdings := b.holdings.setIfInBounds id (some holding) }
      fillAll fuel

end Build

/-! ## Unfolding -/

/-- How often a collection is unfolded inside itself. -/
def unfoldings : Nat := 3

/-- The value of an item, and the numbers of the collections around it that it has in it. -/
def unfold (holdings : Array (Option Holding)) : Nat → List Nat → Item → Datum × List Nat
  | _, _, .plain value => (value, [])
  | 0, _, .collection _ => (.null, [])
  | fuel + 1, around, .collection id =>
    let holding := (holdings[id]?.join).getD .unfilled
    if unfoldings ≤ around.count id then
      let empty := match holding with
        | .map _ => Datum.map []
        | _ => .seq []
      (.knot id empty, [id])
    else
      let inner (item : Item) : Datum × List Nat := unfold holdings fuel (id :: around) item
      let (value, knots) : Datum × List Nat :=
        match holding with
        | .unfilled => (.null, [])
        | .seq items =>
          let found := items.map inner
          (.seq (found.map (·.1)), found.flatMap (·.2))
        | .map fields =>
          let found := fields.map fun (key, item) => (key, inner item)
          (.map (found.map fun (key, value, _) => (key, value)), found.flatMap (·.2.2))
        | .set items => (.set items, [])
        | .pairs fields =>
          let found := fields.map fun (key, item) => (inner key, inner item)
          (.seq (found.map fun (key, item) => .pair key.1 item.1),
            found.flatMap fun (key, item) => key.2 ++ item.2)
      let knots := if around.contains id then id :: knots else knots
      (if knots.contains id then .knot id value else value, knots.eraseDups)

/-- The value of the node with a number. -/
def Graph.datum (graph : Graph) (root : Nat) : Except Fault Datum := do
  let build : Build Item := do
    let item ← Build.item root
    Build.fillAll (graph.size + 1)
    return item
  let (item, builder) ← build.run { graph, holdings := Array.replicate graph.size none }
  return (unfold builder.holdings ((unfoldings + 1) * graph.size + 1) [] item).1

end Ripple.Yaml
