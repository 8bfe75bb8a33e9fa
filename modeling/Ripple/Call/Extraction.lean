-- SUMMARY: The call sites of a parsed source file, and the number of calls whose receiver is unknown.
import Ripple.Call.NameContext
import Ripple.Call.Site
import Ripple.Java.Syntax

/-! # Calls in a source file

The calls in the bodies of methods, in the order of the text, each with the type that its receiver
most likely has. Calls of the methods that every object has are left out; calls whose receiver is
unknown are counted.
-/

namespace Ripple.Java

mutual

/-- A node and everything below it, parents first. -/
def Node.preorder : Node → List Node
  | .mk role line selectors children =>
    .mk role line selectors children :: (preorderAll selectors ++ preorderAll children)

def preorderAll : List Node → List Node
  | [] => []
  | node :: nodes => node.preorder ++ preorderAll nodes

end

/-- The method that a node declares. -/
def Node.methodName? (node : Node) : Option String :=
  match node.role with
  | .method name _ _ => some name
  | _ => none

/-- The names of all methods declared anywhere in a file, in order, each as often as declared. -/
def CompilationUnit.methodNames (unit : CompilationUnit) : List String :=
  (preorderAll unit.types).filterMap Node.methodName?

/-- The local variables of a method with their types: declared variables first, then resources,
then parameters of handlers; the first of a name counts. A variable declared without a type has
that of the object it is initialized with. -/
def Node.localVariables (method : Node) : List (String × String) :=
  let nodes := method.preorder
  let declared := nodes.flatMap fun node =>
    match node.role with
    | .locals type declarators => declarators.map fun d =>
        (d.name, if type == "var" then d.created.getD type else type)
    | _ => []
  let resources := nodes.filterMap fun node =>
    match node.role with
    | .resource name type => some (name, type)
    | _ => none
  let caught := nodes.filterMap fun node =>
    match node.role with
    | .caught name type => some (name, type)
    | _ => none
  declared ++ resources ++ caught

/-- Methods of every object. -/
def universalMethods : List String :=
  ["toString", "equals", "hashCode", "wait", "notify", "notifyAll", "getClass"]

/-- Where a node stands: by itself, or as a selector behind an expression and other selectors. -/
inductive Place where
  | free
  | selector (owner : Role) (preceding : List Role)

/-- The names of member references; `none` if something else is among them. -/
def memberNames? (roles : List Role) : Option (List String) :=
  roles.mapM fun
    | .member name => some name
    | _ => none

/-- What the calls in a method body depend on. -/
structure MethodContext where
  names : NameContext
  scope : Scope
  enclosing : String
  superclass : Option String
  /-- The identifier of the method. -/
  caller : String
  file : String

/-- What becomes of a call: a call site or a call with an unknown receiver. -/
inductive Outcome where
  | site (site : CallSite)
  | unresolved
deriving DecidableEq, Repr

namespace MethodContext

variable (context : MethodContext)

/-- The type that a call is made on, and the called method. -/
def callTarget (place : Place) : Role → Option (Option String × String)
  | .superCall member =>
    let type := match context.superclass with
      | some type => if type.isEmpty then context.enclosing else context.names.qualify type
      | none => context.enclosing
    some (some type, member)
  | .call qualifier member =>
    let type? := match place with
      | .free => qualifier.map (context.names.receiverType context.scope context.enclosing)
      | .selector .this preceding =>
        if preceding.isEmpty then some context.enclosing
        else (memberNames? preceding).bind (context.names.memberChainType? context.scope)
      -- What the first call on a new object gives is not known.
      | .selector (.creation type) [] => some (context.names.qualify type)
      | .selector _ _ => none
    some (type?, member)
  | _ => none

/-- What becomes of a node that may be a call. -/
def outcome (place : Place) (line : Nat) (role : Role) : List Outcome :=
  match context.callTarget place role with
  | none => []
  | some (type?, member) =>
    if universalMethods.contains member then []
    else
      match type? with
      | none => [.unresolved]
      | some type =>
        if type.isEmpty then [.unresolved]
        else [.site ⟨type ++ "." ++ member, ⟨context.caller, context.file, line⟩⟩]

mutual

/-- The calls in a tree; `line` is that of the nearest node above that has one. -/
def calls (place : Place) (line : Nat) : Node → List Outcome
  | .mk role own selectors children =>
    let line := own.getD line
    context.outcome place line role ++ selectorCalls role [] line selectors ++
      childCalls line children

def selectorCalls (owner : Role) (preceding : List Role) (line : Nat) : List Node → List Outcome
  | [] => []
  | node :: nodes =>
    calls (.selector owner preceding) line node ++
      selectorCalls owner (preceding ++ [node.role]) line nodes

def childCalls (line : Nat) : List Node → List Outcome
  | [] => []
  | node :: nodes => calls .free line node ++ childCalls line nodes

end

end MethodContext

/-- The fields that a type declares, over those of the types around it. -/
def fieldsOver (outer : List (String × String)) (members : List Node) : List (String × String) :=
  members.foldl (fun fields member =>
    match member.role with
    | .field type names => names.foldl (fun fields name => putField name type fields) fields
    | _ => fields) outer

mutual

/-- Declares a type and the types inside it. -/
def Node.declareTypes (outer : Option String) (context : NameContext) : Node → NameContext
  | .mk role _ _ children =>
    match role with
    | .type name _ =>
      let qualified := context.declaredName name outer
      declareAll (some qualified) (context.declare name qualified) children
    | _ => context

def declareAll (outer : Option String) (context : NameContext) : List Node → NameContext
  | [] => context
  | node :: nodes => declareAll outer (node.declareTypes outer context) nodes

end

/-- What the calls in a method of the type `enclosing` depend on. -/
def methodContext (names : NameContext) (file enclosing : String) (superclass : Option String)
    (fields : List (String × String)) (name : String) (parameters : List (String × String))
    (method : Node) : MethodContext where
  names
  file
  enclosing
  superclass
  scope := ⟨fields, parameters.foldl (fun ps (n, t) => putField n t ps) [], method.localVariables⟩
  caller := enclosing ++ "." ++ name

/-- The calls in the body of a method of the type `enclosing`. -/
def methodCalls (names : NameContext) (file enclosing : String) (superclass : Option String)
    (fields : List (String × String)) (method : Node) : List Outcome :=
  match method.role with
  | .method name parameters true =>
    let context := methodContext names file enclosing superclass fields name parameters method
    context.calls .free 0 method
  | _ => []

mutual

/-- The calls in the methods of a type and of the types inside it. -/
def Node.typeCalls (names : NameContext) (file : String) (outer : Option String)
    (outerFields : List (String × String)) : Node → List Outcome
  | .mk role _ _ children =>
    match role with
    | .type name superclass =>
      let qualified := names.declaredName name outer
      memberCalls names file qualified superclass (fieldsOver outerFields children) children
    | _ => []

def memberCalls (names : NameContext) (file enclosing : String) (superclass : Option String)
    (fields : List (String × String)) : List Node → List Outcome
  | [] => []
  | member :: members =>
    methodCalls names file enclosing superclass fields member ++
      member.typeCalls names file (some enclosing) fields ++
      memberCalls names file enclosing superclass fields members

end

/-- What a file declares about names. -/
def CompilationUnit.nameContext (unit : CompilationUnit) : NameContext :=
  declareAll none { package := unit.package, imports := unit.imports } unit.types

/-- The calls in a file. -/
def CompilationUnit.calls (unit : CompilationUnit) (file : String) : List Outcome :=
  unit.types.flatMap (·.typeCalls unit.nameContext file none [])

end Ripple.Java
