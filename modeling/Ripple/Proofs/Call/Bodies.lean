-- SUMMARY: The calls of a source file, body by body, each at its position in the syntax tree.
import Ripple.Proofs.Call.TypeNames

/-! # The calls of a file, body by body

The calls of a file are those in the bodies of the methods of its types, in order. Each body has the
path of its type, the names of the types around the method from the outermost. The calls in a body
are those of its nodes, each of which stands by itself or as a selector behind others.
-/

namespace Ripple.Java

/-! ## Nodes of a body -/

/-- A node of a body: where it stands, the line that it counts for, and what it is. -/
structure Occurrence where
  place : Place
  line : Nat
  role : Role

mutual

/-- The nodes of a tree, parents first. -/
def Node.occurrences (place : Place) (line : Nat) : Node → List Occurrence
  | .mk role own selectors children =>
    ⟨place, own.getD line, role⟩ ::
      (selectorOccurrences role [] (own.getD line) selectors ++
        childOccurrences (own.getD line) children)

def selectorOccurrences (owner : Role) (preceding : List Role) (line : Nat) :
    List Node → List Occurrence
  | [] => []
  | node :: nodes =>
    node.occurrences (.selector owner preceding) line ++
      selectorOccurrences owner (preceding ++ [node.role]) line nodes

def childOccurrences (line : Nat) : List Node → List Occurrence
  | [] => []
  | node :: nodes => node.occurrences .free line ++ childOccurrences line nodes

end

mutual

/-- All nodes of a tree are among them. -/
theorem Node.map_role_occurrences (place : Place) (line : Nat) :
    ∀ node : Node, (node.occurrences place line).map (·.role) = node.preorder.map Node.role
  | .mk role own selectors children => by
    rw [Node.occurrences, Node.preorder, List.map_cons, List.map_cons, List.map_append,
      List.map_append, map_role_selectorOccurrences, map_role_childOccurrences]
    rfl

theorem map_role_selectorOccurrences (owner : Role) (preceding : List Role) (line : Nat) :
    ∀ nodes : List Node, (selectorOccurrences owner preceding line nodes).map (·.role) =
      (preorderAll nodes).map Node.role
  | [] => by
    rw [selectorOccurrences, preorderAll]
    rfl
  | node :: nodes => by
    rw [selectorOccurrences, preorderAll, List.map_append, List.map_append,
      Node.map_role_occurrences, map_role_selectorOccurrences]

theorem map_role_childOccurrences (line : Nat) :
    ∀ nodes : List Node, (childOccurrences line nodes).map (·.role) =
      (preorderAll nodes).map Node.role
  | [] => by
    rw [childOccurrences, preorderAll]
    rfl
  | node :: nodes => by
    rw [childOccurrences, preorderAll, List.map_append, List.map_append,
      Node.map_role_occurrences, map_role_childOccurrences]

end

namespace MethodContext

variable (context : MethodContext)

/-- What becomes of an occurrence. -/
def outcomeOf (occurrence : Occurrence) : List Outcome :=
  context.outcome occurrence.place occurrence.line occurrence.role

mutual

theorem calls_eq_flatMap (place : Place) (line : Nat) :
    ∀ node : Node, context.calls place line node =
      (node.occurrences place line).flatMap context.outcomeOf
  | .mk role own selectors children => by
    rw [calls, Node.occurrences, List.flatMap_cons, List.flatMap_append,
      selectorCalls_eq_flatMap, childCalls_eq_flatMap, List.append_assoc]
    rfl

theorem selectorCalls_eq_flatMap (owner : Role) (preceding : List Role) (line : Nat) :
    ∀ nodes : List Node, context.selectorCalls owner preceding line nodes =
      (selectorOccurrences owner preceding line nodes).flatMap context.outcomeOf
  | [] => by
    rw [selectorCalls, selectorOccurrences]
    rfl
  | node :: nodes => by
    rw [selectorCalls, selectorOccurrences, List.flatMap_append, calls_eq_flatMap,
      selectorCalls_eq_flatMap]

theorem childCalls_eq_flatMap (line : Nat) :
    ∀ nodes : List Node, context.childCalls line nodes =
      (childOccurrences line nodes).flatMap context.outcomeOf
  | [] => by
    rw [childCalls, childOccurrences]
    rfl
  | node :: nodes => by
    rw [childCalls, childOccurrences, List.flatMap_append, calls_eq_flatMap,
      childCalls_eq_flatMap]

end

end MethodContext

/-! ## Bodies of a file -/

/-- A method with a body: the path of its type, its name, what its calls depend on, and its tree. -/
structure Body where
  path : List String
  name : String
  context : MethodContext
  node : Node

namespace Body

/-- The nodes of a body. -/
def occurrences (body : Body) : List Occurrence :=
  body.node.occurrences .free 0

/-- What becomes of the calls in a body. -/
def outcomes (body : Body) : List Outcome :=
  body.occurrences.flatMap body.context.outcomeOf

end Body

/-- The body of a method, if it has one. -/
def methodBodies (names : NameContext) (file : String) (path : List String) (enclosing : String)
    (superclass : Option String) (fields : List (String × String)) (method : Node) : List Body :=
  match method.role with
  | .method name parameters true =>
    [⟨path, name, methodContext names file enclosing superclass fields name parameters method,
      method⟩]
  | _ => []

mutual

/-- The bodies of the methods of a type and of the types inside it; `path` is that of the type
around it. -/
def Node.bodies (names : NameContext) (file : String) (path : List String) (outer : Option String)
    (outerFields : List (String × String)) : Node → List Body
  | .mk role _ _ children =>
    match role with
    | .type name superclass =>
      memberBodies names file (path ++ [name]) (names.declaredName name outer) superclass
        (fieldsOver outerFields children) children
    | _ => []

def memberBodies (names : NameContext) (file : String) (path : List String) (enclosing : String)
    (superclass : Option String) (fields : List (String × String)) : List Node → List Body
  | [] => []
  | member :: members =>
    methodBodies names file path enclosing superclass fields member ++
      member.bodies names file path (some enclosing) fields ++
      memberBodies names file path enclosing superclass fields members

end

/-- The bodies of the methods of a file. -/
def CompilationUnit.bodies (unit : CompilationUnit) (file : String) : List Body :=
  unit.types.flatMap (·.bodies unit.nameContext file [] none [])

theorem methodCalls_eq_flatMap (names : NameContext) (file : String) (path : List String)
    (enclosing : String) (superclass : Option String) (fields : List (String × String))
    (method : Node) :
    methodCalls names file enclosing superclass fields method =
      (methodBodies names file path enclosing superclass fields method).flatMap Body.outcomes := by
  cases hrole : method.role with
  | method name parameters hasBody =>
    cases hasBody with
    | true =>
      simp only [methodCalls, methodBodies, hrole, List.flatMap_singleton]
      exact MethodContext.calls_eq_flatMap _ _ _ method
    | false => simp only [methodCalls, methodBodies, hrole, List.flatMap_nil]
  | _ => simp only [methodCalls, methodBodies, hrole, List.flatMap_nil]

mutual

theorem Node.typeCalls_eq_flatMap (names : NameContext) (file : String) (path : List String)
    (outer : Option String) (outerFields : List (String × String)) :
    ∀ node : Node, node.typeCalls names file outer outerFields =
      (node.bodies names file path outer outerFields).flatMap Body.outcomes
  | .mk role _ _ children => by
    cases role with
    | type name superclass =>
      exact memberCalls_eq_flatMap names file (path ++ [name]) _ _ _ children
    | _ => rfl

theorem memberCalls_eq_flatMap (names : NameContext) (file : String) (path : List String)
    (enclosing : String) (superclass : Option String) (fields : List (String × String)) :
    ∀ members : List Node, memberCalls names file enclosing superclass fields members =
      (memberBodies names file path enclosing superclass fields members).flatMap Body.outcomes
  | [] => rfl
  | member :: members => by
    rw [memberCalls, memberBodies, List.flatMap_append, List.flatMap_append,
      methodCalls_eq_flatMap names file path, Node.typeCalls_eq_flatMap names file path,
      memberCalls_eq_flatMap names file path]

end

/-- The calls of a file are those of its bodies. -/
theorem CompilationUnit.calls_eq_flatMap_bodies (unit : CompilationUnit) (file : String) :
    unit.calls file = (unit.bodies file).flatMap Body.outcomes := by
  rw [calls, bodies, List.flatMap_assoc]
  congr 1
  funext node
  exact node.typeCalls_eq_flatMap _ _ [] _ _

/-! ## Variables of a body -/

/-- Whether what is known of variables is under names only. -/
def NamedVariables (known : List (String × String)) : Prop :=
  ∀ declared ∈ known, IsName declared.1

theorem namedVariables_nil : NamedVariables [] := by
  simp [NamedVariables]

theorem NamedVariables.putField {known : List (String × String)} (h : NamedVariables known)
    {name : String} (hname : IsName name) (type : String) :
    NamedVariables (putField name type known) := by
  intro declared hdeclared
  obtain rfl | hdeclared := mem_putField hdeclared
  · exact hname
  · exact h declared hdeclared

/-- The fields of a type are names, as those of the types around it are. -/
theorem NamedVariables.fieldsOver {outer : List (String × String)} (h : NamedVariables outer)
    {members : List Node} (hmembers : AllNamed members) :
    NamedVariables (fieldsOver outer members) := by
  refine List.foldlRecOn members _ h ?_
  intro known hknown member hmember
  have hrole := (Node.isNamed_iff.1 (hmembers member hmember)).1
  split
  next type names heq =>
    rw [heq] at hrole
    refine List.foldlRecOn names _ hknown ?_
    intro known hknown name hname
    exact hknown.putField (hrole name hname) type
  next => exact hknown

theorem namedVariables_parameters {parameters : List (String × String)}
    (h : ∀ parameter ∈ parameters, IsName parameter.1) (names : NameContext)
    (file enclosing : String) (superclass : Option String) (fields : List (String × String))
    (name : String) (method : Node) :
    NamedVariables (methodContext names file enclosing superclass fields name parameters
      method).scope.parameters := by
  refine List.foldlRecOn parameters _ namedVariables_nil ?_
  intro known hknown parameter hparameter
  exact hknown.putField (h parameter hparameter) parameter.2

theorem namedVariables_locals {method : Node} (h : method.IsNamed) :
    NamedVariables method.localVariables := by
  intro declared hdeclared
  simp only [Node.localVariables, List.mem_append, List.mem_flatMap,
    List.mem_filterMap] at hdeclared
  obtain (⟨node, hnode, hdeclared⟩ | ⟨node, hnode, hdeclared⟩) | ⟨node, hnode, hdeclared⟩ :=
    hdeclared
  · have hrole := h node hnode
    split at hdeclared
    next type declarators heq =>
      rw [heq] at hrole
      obtain ⟨declarator, hdeclarator, rfl⟩ := List.mem_map.1 hdeclared
      exact hrole declarator hdeclarator
    next => cases hdeclared
  · have hrole := h node hnode
    split at hdeclared
    next name type heq =>
      rw [heq] at hrole
      cases hdeclared
      exact hrole
    next => cases hdeclared
  · have hrole := h node hnode
    split at hdeclared
    next name type heq =>
      rw [heq] at hrole
      cases hdeclared
      exact hrole
    next => cases hdeclared

/-- Only names are looked up with success. -/
theorem isName_of_lookup? {scope : Scope} (hfields : NamedVariables scope.fields)
    (hparameters : NamedVariables scope.parameters) (hlocals : NamedVariables scope.locals)
    {name type : String} (h : scope.lookup? name = some type) : IsName name := by
  obtain ⟨declarations, hdeclarations, hfound⟩ := List.exists_of_findSome?_eq_some h
  obtain ⟨declared, hdeclared, -⟩ := Option.map_eq_some_iff.1 hfound
  have hmem := List.mem_of_find?_eq_some hdeclared
  obtain rfl : declared.1 = name := by simpa using List.find?_some hdeclared
  simp only [List.mem_cons, List.not_mem_nil, or_false] at hdeclarations
  obtain rfl | rfl | rfl := hdeclarations
  · exact hfields declared hmem
  · exact hparameters declared hmem
  · exact hlocals declared hmem

/-! ## What the bodies of a file have in common -/

/-- Whether a body is one of a method of the type with its path. -/
structure Body.Fits (names : NameContext) (file : String) (body : Body) : Prop where
  names_eq : body.context.names = names
  file_eq : body.context.file = file
  enclosing_eq : body.context.enclosing = names.pathName body.path
  caller_eq : body.context.caller = names.pathName body.path ++ "." ++ body.name
  isName_of_lookup? : ∀ name type, body.context.scope.lookup? name = some type → IsName name

section Fits

variable {names : NameContext} {file : String}

theorem fits_of_mem_methodBodies {path : List String} {superclass : Option String}
    {fields : List (String × String)} (hfields : NamedVariables fields) {method : Node}
    (h : method.IsNamed) :
    ∀ body ∈ methodBodies names file path (names.pathName path) superclass fields method,
      body.Fits names file ∧ body.path = path := by
  intro body hbody
  unfold methodBodies at hbody
  split at hbody
  next name parameters heq =>
    obtain rfl := List.mem_singleton.1 hbody
    have hrole := (Node.isNamed_iff.1 h).1
    rw [heq] at hrole
    refine ⟨⟨rfl, rfl, rfl, rfl, ?_⟩, rfl⟩
    intro variableName type hlookup
    have hparameters := namedVariables_parameters hrole names file (names.pathName path) superclass
      fields name method
    exact Java.isName_of_lookup? hfields hparameters (namedVariables_locals h) hlookup
  next => cases hbody

mutual

-- The path goes down together with the fields seen so far; `names.outerName? path` and
-- `names.pathName (path ++ [name])` are the texts that the recursion hands down in its place.
theorem Node.fits_of_mem_bodies {path : List String} (hpath : ∀ segment ∈ path, segment ≠ "")
    {outerFields : List (String × String)} (hfields : NamedVariables outerFields) :
    ∀ {node : Node}, node.IsNamed →
      ∀ body ∈ node.bodies names file path (names.outerName? path) outerFields,
        body.Fits names file ∧ body.path ∈ node.typePaths path
  | .mk role _ _ children, h, body, hbody => by
    obtain ⟨hrole, -, hchildren⟩ := Node.isNamed_mk.1 h
    cases role with
    | type name superclass =>
      have hname : IsName name := hrole
      simp only [Node.bodies, names.declaredName_outerName? hpath] at hbody
      obtain ⟨hfits, hmem⟩ := fits_of_mem_memberBodies path name (hname.ne_empty_append hpath)
        (hfields.fieldsOver hchildren) hchildren body hbody
      exact ⟨hfits, List.mem_cons.2 hmem⟩
    | _ => cases hbody

theorem fits_of_mem_memberBodies (path : List String) (name : String)
    (hpath : ∀ segment ∈ path ++ [name], segment ≠ "") {superclass : Option String}
    {fields : List (String × String)} (hfields : NamedVariables fields) :
    ∀ {members : List Node}, AllNamed members →
      ∀ body ∈ memberBodies names file (path ++ [name]) (names.pathName (path ++ [name])) superclass
          fields members,
        body.Fits names file ∧
          (body.path = path ++ [name] ∨ body.path ∈ memberTypePaths (path ++ [name]) members)
  | [], _, body, hbody => by cases hbody
  | member :: members, h, body, hbody => by
    obtain ⟨hmember, hmembers⟩ := allNamed_cons.1 h
    rw [memberBodies, List.mem_append, List.mem_append] at hbody
    rw [memberTypePaths, List.mem_append]
    -- a method of the type itself, a type inside it, or a later member
    obtain (hbody | hbody) | hbody := hbody
    · obtain ⟨hfits, hown⟩ := fits_of_mem_methodBodies hfields hmember body hbody
      exact ⟨hfits, .inl hown⟩
    · rw [← names.outerName?_append_singleton] at hbody
      obtain ⟨hfits, hinner⟩ := Node.fits_of_mem_bodies hpath hfields hmember body hbody
      exact ⟨hfits, .inr (.inl hinner)⟩
    · obtain ⟨hfits, hlater⟩ := fits_of_mem_memberBodies path name hpath hfields hmembers body hbody
      exact ⟨hfits, hlater.imp_right .inr⟩

end

end Fits

theorem mem_memberTypePaths {outer path : List String} {nodes : List Node} :
    path ∈ memberTypePaths outer nodes ↔ ∃ node ∈ nodes, path ∈ node.typePaths outer := by
  induction nodes with
  | nil => simp [memberTypePaths]
  | cons node nodes ih => simp [memberTypePaths, ih]

/-- The bodies of a file are those of methods of its types. -/
theorem CompilationUnit.fits_of_mem_bodies {unit : CompilationUnit} (h : AllNamed unit.types)
    {file : String} {body : Body} (hbody : body ∈ unit.bodies file) :
    body.Fits unit.nameContext file ∧ body.path ∈ unit.typePaths := by
  obtain ⟨node, hnode, hbody⟩ := List.mem_flatMap.1 hbody
  have hnone : ∀ segment ∈ ([] : List String), segment ≠ "" := by simp
  obtain ⟨hfits, hpath⟩ :=
    Node.fits_of_mem_bodies hnone namedVariables_nil (h node hnode) body hbody
  exact ⟨hfits, mem_memberTypePaths.2 ⟨node, hnode, hpath⟩⟩

end Ripple.Java
