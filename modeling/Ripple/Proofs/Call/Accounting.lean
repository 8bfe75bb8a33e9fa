-- SUMMARY: Every call in the body of a method is one call site or is counted once as unresolved.
import Ripple.Java.Source
import Ripple.Proofs.Call.Bodies
import Ripple.Proofs.Java.Positions
import Mathlib.Data.Set.Card

/-! # Every call is accounted for once

A call counts if it stands in the body of a method that is a member of a type, and the type is
reached from the types of the file through members that are types. Each such call becomes one call
site or is counted once as unresolved, also in lambdas, in local and anonymous types and behind
other calls. Nothing else is recorded.
-/

namespace Ripple

namespace NameContext

/-- The qualified name of the type with a path inside the type `outer`. -/
def nestedName (names : NameContext) (outer : Option String) : List String → String
  | [] => outer.getD ""
  | name :: path => nestedName names (some (names.declaredName name outer)) path

theorem nestedName_outerName? (names : NameContext) (before path : List String)
    (h : ∀ segment ∈ before ++ path, segment ≠ "") (hpath : before ++ path ≠ []) :
    names.nestedName (names.outerName? before) path = names.pathName (before ++ path) := by
  induction path generalizing before with
  | nil =>
    rw [List.append_nil] at hpath ⊢
    simp [nestedName, outerName?, hpath]
  | cons name path ih =>
    rw [List.append_cons] at h hpath ⊢
    have hbefore : ∀ segment ∈ before, segment ≠ "" := by
      intro segment hsegment
      exact h segment (by simp [hsegment])
    rw [nestedName, names.declaredName_outerName? hbefore, ← names.outerName?_append_singleton]
    exact ih _ h hpath

end NameContext

namespace Java

/-! ## Occurrences by position -/

namespace Node

/-- Where the node behind a turn stands. -/
def placeBehind (node : Node) : Turn → Place
  | .selector i => .selector node.role ((node.selectors.take i).map role)
  | .child _ => .free

/-- The occurrence at a position. -/
def occurrenceAt? (place : Place) (line : Nat) : Node → Position → Option Occurrence
  | node, [] => some ⟨place, node.line.getD line, node.role⟩
  | node, turn :: position =>
    (node.next? turn).bind
      (occurrenceAt? (node.placeBehind turn) (node.line.getD line) · position)

theorem occurrenceAt?_cons {place : Place} {line : Nat} {node next : Node} {turn : Turn}
    (h : node.next? turn = some next) (position : Position) :
    node.occurrenceAt? place line (turn :: position) =
      next.occurrenceAt? (node.placeBehind turn) (node.line.getD line) position := by
  rw [occurrenceAt?, h]
  rfl

theorem role_occurrenceAt? (place : Place) (line : Nat) (node : Node) (position : Position) :
    (node.occurrenceAt? place line position).map (·.role) = (node.at? position).map role := by
  induction position generalizing place line node with
  | nil => rfl
  | cons turn position ih =>
    rw [occurrenceAt?, at?]
    cases node.next? turn with
    | none => rfl
    | some next => exact ih _ _ next

section
variable {place : Place} {line : Nat} {node : Node} {position : Position}

theorem exists_occurrenceAt? {found : Node} (place : Place) (line : Nat)
    (h : node.at? position = some found) :
    ∃ occurrence, node.occurrenceAt? place line position = some occurrence ∧
      occurrence.role = found.role := by
  have hrole := node.role_occurrenceAt? place line position
  rw [h] at hrole
  exact Option.map_eq_some_iff.1 hrole

theorem exists_at? {occurrence : Occurrence}
    (h : node.occurrenceAt? place line position = some occurrence) :
    ∃ found, node.at? position = some found ∧ found.role = occurrence.role := by
  have hrole := node.role_occurrenceAt? place line position
  rw [h] at hrole
  exact Option.map_eq_some_iff.1 hrole.symm

end

end Node

-- The nodes of a list are reached by turns counted from `first`. What is at a position behind such
-- a turn is given, since the tree that the nodes are taken from is not at hand in the recursion.

mutual

/-- The occurrences in a tree are those at its positions. -/
theorem Node.occurrences_eq_filterMap (place : Place) (line : Nat) :
    ∀ node : Node, node.occurrences place line =
      node.positions.filterMap (node.occurrenceAt? place line)
  | .mk role own selectors children => by
    have htop : (Node.mk role own selectors children).occurrenceAt? place line [] =
        some ⟨place, own.getD line, role⟩ := rfl
    rw [Node.occurrences, Node.positions, List.filterMap_cons_some htop, List.filterMap_append]
    congr 2
    · apply selectorOccurrences_eq_filterMap
      intro i node hnode position
      rw [Nat.zero_add]
      apply Node.occurrenceAt?_cons
      exact hnode
    · apply childOccurrences_eq_filterMap
      intro i node hnode position
      rw [Nat.zero_add]
      apply Node.occurrenceAt?_cons
      exact hnode

theorem selectorOccurrences_eq_filterMap (owner : Role) (preceding : List Role) (line first : Nat)
    (occurrenceAt? : Position → Option Occurrence) :
    ∀ nodes : List Node, (∀ i node, nodes[i]? = some node → ∀ position,
      occurrenceAt? (.selector (first + i) :: position) = node.occurrenceAt?
        (.selector owner (preceding ++ (nodes.take i).map Node.role)) line position) →
      selectorOccurrences owner preceding line nodes =
        (positionsAll .selector first nodes).filterMap occurrenceAt?
  | [], _ => rfl
  | node :: nodes, h => by
    rw [selectorOccurrences, positionsAll, List.filterMap_append, List.filterMap_map]
    congr 1
    · rw [Node.occurrences_eq_filterMap]
      congr 1
      funext position
      rw [Function.comp_apply, ← List.append_nil preceding]
      exact (h 0 node rfl position).symm
    · -- the others come one turn later, with the role of this one before theirs
      apply selectorOccurrences_eq_filterMap
      intro i next hnext position
      rw [Nat.add_assoc, Nat.add_comm 1, List.append_assoc]
      exact h (i + 1) next hnext position

theorem childOccurrences_eq_filterMap (line first : Nat)
    (occurrenceAt? : Position → Option Occurrence) :
    ∀ nodes : List Node, (∀ i node, nodes[i]? = some node → ∀ position,
      occurrenceAt? (.child (first + i) :: position) = node.occurrenceAt? .free line position) →
      childOccurrences line nodes = (positionsAll .child first nodes).filterMap occurrenceAt?
  | [], _ => rfl
  | node :: nodes, h => by
    rw [childOccurrences, positionsAll, List.filterMap_append, List.filterMap_map]
    congr 1
    · rw [Node.occurrences_eq_filterMap]
      congr 1
      funext position
      exact (h 0 node rfl position).symm
    · apply childOccurrences_eq_filterMap
      intro i next hnext position
      rw [Nat.add_assoc, Nat.add_comm 1]
      exact h (i + 1) next hnext position

end

/-! ## Outcomes by position -/

/-- What becomes of the node at a position of a member, if the member is a method with a body. -/
def methodOutcomesAt (names : NameContext) (file enclosing : String) (superclass : Option String)
    (fields : List (String × String)) (method : Node) (position : Position) : List Outcome :=
  match method.role with
  | .method name parameters true =>
    let context := methodContext names file enclosing superclass fields name parameters method
    (method.occurrenceAt? .free 0 position).toList.flatMap context.outcomeOf
  | _ => []

/-- What becomes of the node at a position of a type. -/
def Node.outcomesAt (names : NameContext) (file : String) (outer : Option String)
    (outerFields : List (String × String)) : Node → Position → List Outcome
  | node, .child i :: position =>
    match node.role, node.children[i]? with
    | .type name superclass, some member =>
      let enclosing := names.declaredName name outer
      let fields := fieldsOver outerFields node.children
      methodOutcomesAt names file enclosing superclass fields member position ++
        outcomesAt names file (some enclosing) fields member position
    | _, _ => []
  | _, _ => []

section
variable {names : NameContext} {file enclosing : String} {outer superclass : Option String}
  {fields : List (String × String)}

theorem Node.outcomesAt_of_type {type member : Node} {name : String} {i : Nat}
    (htype : type.role = .type name superclass) (hmember : type.children[i]? = some member)
    (position : Position) :
    type.outcomesAt names file outer fields (.child i :: position) =
      methodOutcomesAt names file (names.declaredName name outer) superclass
          (fieldsOver fields type.children) member position ++
        member.outcomesAt names file (some (names.declaredName name outer))
          (fieldsOver fields type.children) position := by
  rw [outcomesAt, htype, hmember]

/-- Only types have members. -/
theorem Node.outcomesAt_eq_nil {node : Node}
    (h : ∀ name superclass, node.role ≠ .type name superclass) (position : Position) :
    node.outcomesAt names file outer fields position = [] := by
  match position with
  | [] => rfl
  | .selector i :: position => rfl
  | .child i :: position =>
    cases hrole : node.role with
    | type name superclass => exact absurd hrole (h name superclass)
    | _ => simp only [outcomesAt, hrole]

theorem methodOutcomesAt_eq_nil {type : Node} {name : String} {inherited : Option String}
    (h : type.role = .type name inherited) (position : Position) :
    methodOutcomesAt names file enclosing superclass fields type position = [] := by
  rw [methodOutcomesAt, h]

theorem isMethod_of_mem_methodOutcomesAt {member : Node} {position : Position} {outcome : Outcome}
    (h : outcome ∈ methodOutcomesAt names file enclosing superclass fields member position) :
    ∃ name parameters, member.role = .method name parameters true := by
  unfold methodOutcomesAt at h
  split at h
  next name parameters hrole => exact ⟨name, parameters, hrole⟩
  next => cases h

end

theorem methodCalls_eq_flatMap_positions (names : NameContext) (file enclosing : String)
    (superclass : Option String) (fields : List (String × String)) (method : Node) :
    methodCalls names file enclosing superclass fields method =
      method.positions.flatMap
        (methodOutcomesAt names file enclosing superclass fields method) := by
  have hnone (h : ∀ position, methodOutcomesAt names file enclosing superclass fields method
      position = []) : [] = method.positions.flatMap
        (methodOutcomesAt names file enclosing superclass fields method) :=
    (List.flatMap_eq_nil_iff.2 fun position _ => h position).symm
  cases hrole : method.role with
  | method name parameters hasBody =>
    cases hasBody with
    | true =>
      simp only [methodCalls, hrole]
      rw [MethodContext.calls_eq_flatMap, Node.occurrences_eq_filterMap,
        List.filterMap_eq_flatMap_toList, List.flatMap_assoc]
      congr 1
      funext position
      simp only [methodOutcomesAt, hrole]
    | false =>
      simp only [methodCalls, hrole]
      exact hnone fun position => by simp only [methodOutcomesAt, hrole]
  | _ =>
    simp only [methodCalls, hrole]
    exact hnone fun position => by simp only [methodOutcomesAt, hrole]

/-- No member is both a method and a type. -/
theorem flatMap_outcomesAt_append (names : NameContext) (file enclosing : String)
    (superclass outer : Option String) (fields : List (String × String)) (member : Node)
    (positions : List Position) :
    (positions.flatMap fun position =>
        methodOutcomesAt names file enclosing superclass fields member position ++
          member.outcomesAt names file outer fields position) =
      positions.flatMap (methodOutcomesAt names file enclosing superclass fields member) ++
        positions.flatMap (member.outcomesAt names file outer fields) := by
  cases hrole : member.role with
  | type name inherited => simp [methodOutcomesAt_eq_nil hrole]
  | _ =>
    have hother : ∀ name inherited, member.role ≠ .type name inherited := by simp [hrole]
    simp [Node.outcomesAt_eq_nil hother]

mutual

/-- The calls of a type are those at its positions. -/
theorem Node.typeCalls_eq_flatMap_positions (names : NameContext) (file : String)
    (outer : Option String) (outerFields : List (String × String)) :
    ∀ node : Node, node.typeCalls names file outer outerFields =
      node.positions.flatMap (node.outcomesAt names file outer outerFields)
  | .mk role own selectors children => by
    cases role with
    | type name superclass =>
      -- nothing counts that is reached by a selector of the type itself
      have hselectors : (positionsAll .selector 0 selectors).flatMap ((Node.mk
          (.type name superclass) own selectors children).outcomesAt names file outer
            outerFields) = [] := by
        rw [List.flatMap_eq_nil_iff]
        intro position hposition
        obtain ⟨i, node, below, -, -, rfl⟩ := mem_positionsAll.1 hposition
        rfl
      rw [Node.typeCalls, Node.positions, List.flatMap_cons, List.flatMap_append, hselectors]
      apply memberCalls_eq_flatMap_positions
      intro i member hmember position
      rw [Nat.zero_add]
      apply Node.outcomesAt_of_type rfl
      exact hmember
    | _ =>
      rw [Node.typeCalls, eq_comm, List.flatMap_eq_nil_iff]
      · intro position _
        apply Node.outcomesAt_eq_nil
        simp [Node.role]
      · simp

theorem memberCalls_eq_flatMap_positions (names : NameContext) (file enclosing : String)
    (superclass : Option String) (fields : List (String × String)) (first : Nat)
    (outcomesAt : Position → List Outcome) :
    ∀ members : List Node, (∀ i member, members[i]? = some member → ∀ position,
      outcomesAt (.child (first + i) :: position) =
        methodOutcomesAt names file enclosing superclass fields member position ++
          member.outcomesAt names file (some enclosing) fields position) →
      memberCalls names file enclosing superclass fields members =
        (positionsAll .child first members).flatMap outcomesAt
  | [], _ => rfl
  | member :: members, h => by
    rw [memberCalls, positionsAll, List.flatMap_append, List.flatMap_map]
    congr 1
    · have hfirst : ∀ position, outcomesAt (.child first :: position) =
          methodOutcomesAt names file enclosing superclass fields member position ++
            member.outcomesAt names file (some enclosing) fields position :=
        h 0 member rfl
      rw [methodCalls_eq_flatMap_positions, Node.typeCalls_eq_flatMap_positions]
      simp only [hfirst]
      exact (flatMap_outcomesAt_append ..).symm
    · apply memberCalls_eq_flatMap_positions
      intro i next hnext position
      rw [Nat.add_assoc, Nat.add_comm 1]
      exact h (i + 1) next hnext position

end

namespace CompilationUnit

/-- The positions in a file. The first turn is to one of its types. -/
def positions (unit : CompilationUnit) : List Position :=
  positionsAll .child 0 unit.types

/-- What becomes of the node at a position. -/
def outcomesAt (unit : CompilationUnit) (file : String) : Position → List Outcome
  | .child i :: position =>
    unit.types[i]?.toList.flatMap (·.outcomesAt unit.nameContext file none [] position)
  | _ => []

theorem outcomesAt_child {unit : CompilationUnit} {type : Node} {i : Nat}
    (h : unit.types[i]? = some type) (file : String) (position : Position) :
    unit.outcomesAt file (.child i :: position) =
      type.outcomesAt unit.nameContext file none [] position := by
  rw [outcomesAt, h]
  exact List.flatMap_singleton ..

/-- The calls of a file are those at its positions. -/
theorem calls_eq_flatMap_positions (unit : CompilationUnit) (file : String) :
    unit.calls file = unit.positions.flatMap (unit.outcomesAt file) := by
  have htypes : ∀ i type, unit.types[i]? = some type → ∀ position,
      unit.outcomesAt file (.child (0 + i) :: position) =
        type.outcomesAt unit.nameContext file none [] position := by
    intro i type htype position
    rw [Nat.zero_add]
    exact outcomesAt_child htype file position
  rw [calls, positions, flatMap_positionsAll htypes]
  congr 1
  funext type
  exact type.typeCalls_eq_flatMap_positions _ _ _ _

end CompilationUnit

/-! ## Calls that count -/

/-- The method that a node calls. -/
def Role.called? : Role → Option String
  | .call _ called => some called
  | .superCall called => some called
  | _ => none

/-- Whether a type declares a method with a body: itself, or in a type among its members. The path
holds the names of the types from this one to that of the method. -/
inductive Node.Declares : Node → Position → List String → String → Node → Prop
  | method {type method : Node} {name methodName : String} {superclass : Option String} {i : Nat}
      {parameters : List (String × String)} (htype : type.role = .type name superclass)
      (hmember : type.children[i]? = some method)
      (hmethod : method.role = .method methodName parameters true) :
      Declares type [.child i] [name] methodName method
  | inside {type member method : Node} {name methodName : String} {superclass : Option String}
      {i : Nat} {position : Position} {path : List String}
      (htype : type.role = .type name superclass) (hmember : type.children[i]? = some member)
      (h : Declares member position path methodName method) :
      Declares type (.child i :: position) (name :: path) methodName method

/-- Whether at a position of a file there is a call that counts, and which: of `member`, in the
method `name` of the type with a path. -/
inductive CompilationUnit.Invokes (unit : CompilationUnit) :
    Position → List String → String → String → Prop
  | intro {i : Nat} {type method node : Node} {declared inner : Position} {path : List String}
      {name member : String} (htype : unit.types[i]? = some type)
      (hmethod : type.Declares declared path name method) (hnode : method.at? inner = some node)
      (hcalled : node.role.called? = some member) (hcounted : member ∉ universalMethods) :
      Invokes unit (.child i :: (declared ++ inner)) path name member

/-- Whether an outcome is that of a call of `member` by `caller` in a file. -/
inductive Outcome.Records (caller file member : String) : Outcome → Prop
  | unresolved : Records caller file member .unresolved
  | site (type : String) (line : Nat) (htype : type ≠ "") :
      Records caller file member (.site ⟨type ++ "." ++ member, ⟨caller, file, line⟩⟩)

/-! ## What is recorded -/

namespace MethodContext

theorem map_snd_callTarget (context : MethodContext) (place : Place) (role : Role) :
    (context.callTarget place role).map (·.2) = role.called? := by
  cases role <;> rfl

/-- A node gives one outcome if it is a call that counts, and else none. -/
theorem outcomeOf_cases (context : MethodContext) (occurrence : Occurrence) :
    (context.outcomeOf occurrence = [] ∧
      ∀ member, occurrence.role.called? = some member → member ∈ universalMethods) ∨
    ∃ member outcome, occurrence.role.called? = some member ∧ member ∉ universalMethods ∧
      context.outcomeOf occurrence = [outcome] ∧
      outcome.Records context.caller context.file member := by
  have hcalled := context.map_snd_callTarget occurrence.place occurrence.role
  unfold outcomeOf outcome
  cases htarget : context.callTarget occurrence.place occurrence.role with
  | none =>
    left
    rw [htarget] at hcalled
    simp [← hcalled]
  | some target =>
    obtain ⟨type?, member⟩ := target
    rw [htarget, Option.map_some] at hcalled
    by_cases hmember : member ∈ universalMethods
    · left
      simp [← hcalled, hmember]
    · right
      have hcounted : ¬universalMethods.contains member = true := by simpa using hmember
      simp only [if_neg hcounted]
      -- an unknown type and an empty one are both unresolved
      cases type? with
      | none => exact ⟨member, .unresolved, hcalled.symm, hmember, rfl, .unresolved⟩
      | some type =>
        by_cases htype : type.isEmpty = true
        · simp only [if_pos htype]
          exact ⟨member, .unresolved, hcalled.symm, hmember, rfl, .unresolved⟩
        · simp only [if_neg htype]
          exact ⟨member, _, hcalled.symm, hmember, rfl, .site type _ (by simpa using htype)⟩

end MethodContext

namespace Node.Declares

variable {type method : Node} {position : Position} {path : List String} {name : String}

theorem isType (h : type.Declares position path name method) :
    ∃ own superclass, type.role = .type own superclass := by
  cases h with
  | method htype _ _ => exact ⟨_, _, htype⟩
  | inside htype _ _ => exact ⟨_, _, htype⟩

theorem path_ne_nil (h : type.Declares position path name method) : path ≠ [] := by
  cases h <;> simp

theorem at?_append (h : type.Declares position path name method) (inner : Position) :
    type.at? (position ++ inner) = method.at? inner := by
  induction h with
  | method _ hmember _ =>
    simp [Node.at?, Node.next?, hmember]
  | inside _ hmember _ ih =>
    simp [Node.at?, Node.next?, hmember, ih]

/-- What becomes of a node in a method depends on the method and on the position inside it. -/
theorem outcomesAt_append (h : type.Declares position path name method) (names : NameContext)
    (file : String) (outer : Option String) (outerFields : List (String × String)) :
    ∃ context : MethodContext, context.caller = names.nestedName outer path ++ "." ++ name ∧
      context.file = file ∧ ∀ inner,
        type.outcomesAt names file outer outerFields (position ++ inner) =
          (method.occurrenceAt? .free 0 inner).toList.flatMap context.outcomeOf := by
  induction h generalizing outer outerFields with
  | @method type method own name superclass i parameters htype hmember hmethod =>
    refine ⟨methodContext names file (names.declaredName own outer) superclass
      (fieldsOver outerFields type.children) name parameters method, rfl, rfl, ?_⟩
    intro inner
    -- the second part is for members that are types
    have hnotype : ∀ name superclass, method.role ≠ .type name superclass := by simp [hmethod]
    rw [List.singleton_append, outcomesAt_of_type htype hmember, outcomesAt_eq_nil hnotype,
      List.append_nil, methodOutcomesAt, hmethod]
  | @inside type member method own name superclass i position path htype hmember h ih =>
    obtain ⟨context, hcaller, hfile, hcontext⟩ := ih (some (names.declaredName own outer))
      (fieldsOver outerFields type.children)
    refine ⟨context, hcaller, hfile, ?_⟩
    intro inner
    obtain ⟨_, _, hrole⟩ := h.isType
    rw [List.cons_append, outcomesAt_of_type htype hmember, methodOutcomesAt_eq_nil hrole,
      List.nil_append, hcontext]

end Node.Declares

/-- Whatever has an outcome in a type is inside a method that the type declares. -/
theorem Node.exists_declares_of_mem_outcomesAt {type : Node} {names : NameContext} {file : String}
    {outer : Option String} {outerFields : List (String × String)} {position : Position}
    {outcome : Outcome} (h : outcome ∈ type.outcomesAt names file outer outerFields position) :
    ∃ declared inner path name method, position = declared ++ inner ∧
      type.Declares declared path name method := by
  induction position generalizing type outer outerFields with
  | nil => cases h
  | cons turn position ih =>
    cases turn with
    | selector i => cases h
    | child i =>
      cases hrole : type.role with
      | type own superclass =>
        cases hmember : type.children[i]? with
        | none => simp [outcomesAt, hrole, hmember] at h
        | some member =>
          -- the way down ends at the first member that is a method
          rw [outcomesAt_of_type hrole hmember, List.mem_append] at h
          obtain h | h := h
          · obtain ⟨name, parameters, hmethod⟩ := isMethod_of_mem_methodOutcomesAt h
            exact ⟨[.child i], position, [own], name, member, rfl, .method hrole hmember hmethod⟩
          · obtain ⟨declared, inner, path, name, method, rfl, hdeclares⟩ := ih h
            exact ⟨.child i :: declared, inner, own :: path, name, method, rfl,
              .inside hrole hmember hdeclares⟩
      | _ => simp [outcomesAt, hrole] at h

namespace CompilationUnit

variable {unit : CompilationUnit} {position : Position} {file : String}

/-- A call that counts gives one outcome, which is recorded for its method. -/
theorem Invokes.outcomesAt {path : List String} {name member : String}
    (h : unit.Invokes position path name member) (file : String) :
    ∃ outcome, unit.outcomesAt file position = [outcome] ∧
      outcome.Records (unit.nameContext.nestedName none path ++ "." ++ name) file member := by
  obtain @⟨i, type, method, node, declared, inner, path, name, member, htype, hmethod, hnode,
    hcalled, hcounted⟩ := h
  obtain ⟨context, hcaller, hfile, houtcomes⟩ :=
    hmethod.outcomesAt_append unit.nameContext file none []
  obtain ⟨occurrence, hoccurrence, hrole⟩ := Node.exists_occurrenceAt? .free 0 hnode
  rw [outcomesAt_child htype, houtcomes, hoccurrence, Option.toList_some, List.flatMap_singleton]
  rw [← hrole] at hcalled
  obtain ⟨-, hignored⟩ | ⟨other, outcome, hother, -, houtcome, hrecords⟩ :=
    context.outcomeOf_cases occurrence
  · exact absurd (hignored member hcalled) hcounted
  · obtain rfl : member = other := Option.some.inj (hcalled.symm.trans hother)
    rw [hcaller, hfile] at hrecords
    exact ⟨outcome, houtcome, hrecords⟩

/-- Whatever has an outcome is a call that counts. -/
theorem exists_invokes_of_mem_outcomesAt {outcome : Outcome}
    (h : outcome ∈ unit.outcomesAt file position) :
    ∃ path name member, unit.Invokes position path name member := by
  match position with
  | [] => cases h
  | .selector i :: position => cases h
  | .child i :: position =>
    cases htype : unit.types[i]? with
    | none => simp [outcomesAt, htype] at h
    | some type =>
      rw [outcomesAt_child htype] at h
      obtain ⟨declared, inner, path, name, method, rfl, hmethod⟩ :=
        Node.exists_declares_of_mem_outcomesAt h
      obtain ⟨context, -, -, houtcomes⟩ := hmethod.outcomesAt_append unit.nameContext file none []
      rw [houtcomes, List.mem_flatMap] at h
      obtain ⟨occurrence, hoccurrence, houtcome⟩ := h
      obtain ⟨node, hnode, hrole⟩ := Node.exists_at? (Option.mem_toList.1 hoccurrence)
      obtain ⟨hnone, -⟩ | ⟨member, _, hcalled, hcounted, -, -⟩ := context.outcomeOf_cases occurrence
      · rw [hnone] at houtcome
        cases houtcome
      · rw [← hrole] at hcalled
        exact ⟨path, name, member, .intro htype hmethod hnode hcalled hcounted⟩

theorem length_outcomesAt_le (unit : CompilationUnit) (file : String) (position : Position) :
    (unit.outcomesAt file position).length ≤ 1 := by
  cases h : unit.outcomesAt file position with
  | nil => simp
  | cons first rest =>
    have hfirst : first ∈ unit.outcomesAt file position := by simp [h]
    obtain ⟨path, name, member, hinvokes⟩ := exists_invokes_of_mem_outcomesAt hfirst
    obtain ⟨outcome, houtcome, -⟩ := hinvokes.outcomesAt file
    rw [← h, houtcome]
    simp

theorem Invokes.mem_positions {path : List String} {name member : String}
    (h : unit.Invokes position path name member) : position ∈ unit.positions := by
  obtain @⟨i, type, method, node, declared, inner, path, name, member, htype, hmethod, hnode,
    -, -⟩ := h
  have hat : type.at? (declared ++ inner) = some node := by
    rw [hmethod.at?_append]
    exact hnode
  exact mem_positionsAll.2
    ⟨i, type, declared ++ inner, htype, Node.mem_positions.2 ⟨node, hat⟩, by rw [Nat.zero_add]⟩

theorem Invokes.nestedName_eq {path : List String} {name member : String}
    (h : unit.Invokes position path name member) (hpath : ∀ segment ∈ path, segment ≠ "") :
    unit.nameContext.nestedName none path = unit.nameContext.pathName path := by
  obtain ⟨-, hmethod, -, -, -⟩ := h
  exact unit.nameContext.nestedName_outerName? [] path hpath hmethod.path_ne_nil

/-! ## Accounting -/

/-- The outcomes of a file with the positions that they come from. -/
def ledger (unit : CompilationUnit) (file : String) : List (Position × Outcome) :=
  unit.positions.flatMap fun position => (unit.outcomesAt file position).map (position, ·)

theorem mem_ledger {entry : Position × Outcome} :
    entry ∈ unit.ledger file ↔
      entry.1 ∈ unit.positions ∧ entry.2 ∈ unit.outcomesAt file entry.1 := by
  obtain ⟨position, outcome⟩ := entry
  rw [ledger, List.mem_flatMap]
  constructor
  · rintro ⟨found, hfound, hentry⟩
    obtain ⟨_, houtcome, heq⟩ := List.mem_map.1 hentry
    cases heq
    exact ⟨hfound, houtcome⟩
  · rintro ⟨hposition, houtcome⟩
    exact ⟨position, hposition, List.mem_map.2 ⟨outcome, houtcome, rfl⟩⟩

theorem map_snd_ledger (unit : CompilationUnit) (file : String) :
    (unit.ledger file).map (·.2) = unit.calls file := by
  rw [ledger, calls_eq_flatMap_positions, List.map_flatMap]
  simp

theorem nodup_map_fst_ledger (unit : CompilationUnit) (file : String) :
    ((unit.ledger file).map (·.1)).Nodup := by
  refine List.Nodup.sublist ?_ (nodup_positionsAll (fun _ _ => Turn.child.inj) 0 unit.types)
  unfold ledger positions
  -- each position is kept or left out, as it has at most one outcome
  induction positionsAll .child 0 unit.types with
  | nil => exact .slnil
  | cons position positions ih =>
    have hlength := unit.length_outcomesAt_le file position
    rw [List.flatMap_cons, List.map_append]
    match unit.outcomesAt file position, hlength with
    | [], _ => exact ih.cons position
    | [outcome], _ => exact ih.cons_cons position

/-- The positions that outcomes come from are those of the calls that count. -/
theorem mem_map_fst_ledger :
    position ∈ (unit.ledger file).map (·.1) ↔
      ∃ path name member, unit.Invokes position path name member := by
  constructor
  · intro hposition
    obtain ⟨entry, hentry, rfl⟩ := List.mem_map.1 hposition
    exact exists_invokes_of_mem_outcomesAt (mem_ledger.1 hentry).2
  · rintro ⟨path, name, member, hinvokes⟩
    obtain ⟨outcome, houtcome, -⟩ := hinvokes.outcomesAt file
    refine List.mem_map.2 ⟨(position, outcome), mem_ledger.2 ⟨hinvokes.mem_positions, ?_⟩, rfl⟩
    simp [houtcome]

theorem records_of_mem_ledger {entry : Position × Outcome} (hentry : entry ∈ unit.ledger file)
    {path : List String} {name member : String}
    (hinvokes : unit.Invokes entry.1 path name member) :
    entry.2.Records (unit.nameContext.nestedName none path ++ "." ++ name) file member := by
  obtain ⟨outcome, houtcome, hrecords⟩ := hinvokes.outcomesAt file
  have hentry := (mem_ledger.1 hentry).2
  rw [houtcome, List.mem_singleton] at hentry
  rwa [hentry]

/-- There are as many outcomes as calls that count. -/
theorem ncard_invokes (unit : CompilationUnit) (file : String) :
    {position | ∃ path name member, unit.Invokes position path name member}.ncard =
      (unit.calls file).length := by
  have hset : {position | ∃ path name member, unit.Invokes position path name member} =
      (((unit.ledger file).map (·.1)).toFinset : Set Position) := by
    ext position
    rw [Set.mem_ofPred_eq, ← mem_map_fst_ledger, List.coe_toFinset]
    rfl
  rw [hset, Set.ncard_coe_finset, List.toFinset_card_of_nodup (unit.nodup_map_fst_ledger file),
    ← unit.map_snd_ledger file, List.length_map, List.length_map]

end CompilationUnit

theorem length_filterMap_site? (outcomes : List Outcome) :
    (outcomes.filterMap Outcome.site?).length + outcomes.countP (· == .unresolved) =
      outcomes.length := by
  rw [List.length_filterMap_eq_countP,
    List.length_eq_countP_add_countP (fun outcome => outcome.site?.isSome)]
  congr 1
  apply List.countP_congr
  intro outcome _
  cases outcome <;> simp [Outcome.site?]

/-- Every call that counts is accounted for exactly once: the call sites of a file and its
unresolved calls come from the positions of these calls, one from each, and each is recorded for the
method that it stands in. -/
theorem calls_accounted (unit : CompilationUnit) (file : String) :
    ∃ entries : List (Position × Outcome),
      (FileCalls.ofUnit unit file).sites = entries.filterMap (·.2.site?) ∧
      (FileCalls.ofUnit unit file).unresolved = entries.countP (·.2 == .unresolved) ∧
      (entries.map (·.1)).Nodup ∧
      (∀ position, position ∈ entries.map (·.1) ↔
        ∃ path name member, unit.Invokes position path name member) ∧
      (∀ entry ∈ entries, ∀ path name member, unit.Invokes entry.1 path name member →
        entry.2.Records (unit.nameContext.nestedName none path ++ "." ++ name) file member ∧
        ((∀ segment ∈ path, segment ≠ "") →
          unit.nameContext.nestedName none path = unit.nameContext.pathName path)) ∧
      (FileCalls.ofUnit unit file).sites.length + (FileCalls.ofUnit unit file).unresolved =
        {position | ∃ path name member, unit.Invokes position path name member}.ncard := by
  refine ⟨unit.ledger file, ?_, ?_, unit.nodup_map_fst_ledger file, ?_, ?_, ?_⟩
  · rw [FileCalls.ofUnit, ← unit.map_snd_ledger file, List.filterMap_map]
    rfl
  · rw [FileCalls.ofUnit, ← unit.map_snd_ledger file, List.countP_map]
    rfl
  · intro position
    exact CompilationUnit.mem_map_fst_ledger
  · intro entry hentry path name member hinvokes
    exact ⟨CompilationUnit.records_of_mem_ledger hentry hinvokes, hinvokes.nestedName_eq⟩
  · rw [unit.ncard_invokes file]
    exact length_filterMap_site? (unit.calls file)

end Java

end Ripple
