-- SUMMARY: Syntax trees of Java source, reduced to calls, declarations and lines.
/-! # Syntax trees of Java source

A tree keeps of each construct what call analysis asks for: which nodes are calls, what stands in
front of a call, which names are declared with which types, and on which line a construct begins.
All other constructs are nodes without a role of their own.
-/

namespace Ripple.Java

/-- A declared variable, and the type of the object that its initializer creates, if it is an
object creation. -/
structure Declarator where
  name : String
  created : Option String
deriving DecidableEq, Repr

/-- What a node of a syntax tree is. Types appear by their dotted spelling, without arguments. -/
inductive Role where
  /-- A call; the qualifier is the dotted name in front of it, empty if there is none, and absent
  for a call that follows another expression. -/
  | call (qualifier : Option String) (member : String)
  /-- A call of an inherited method through `super`. -/
  | superCall (member : String)
  /-- The current object. -/
  | this
  /-- A reference to a member or variable. -/
  | member (name : String)
  /-- The creation of an object. -/
  | creation (type : String)
  /-- Any other expression that selectors may follow. -/
  | primary
  /-- The declaration of local variables. -/
  | locals (type : String) (declarators : List Declarator)
  /-- A resource of a `try` statement. -/
  | resource (name type : String)
  /-- The parameter of a `catch` clause with its first type. -/
  | caught (name type : String)
  /-- A method declaration with its parameters. -/
  | method (name : String) (parameters : List (String × String)) (hasBody : Bool)
  /-- A field declaration. -/
  | field (type : String) (names : List String)
  /-- A type declaration; only classes have a superclass. -/
  | type (name : String) (superclass : Option String)
  /-- Anything else. -/
  | other
deriving DecidableEq, Repr

/-- A node of a syntax tree. The selectors of an expression are the accesses that follow it; they
come before its other children in every traversal. -/
inductive Node where
  | mk (role : Role) (line : Option Nat) (selectors : List Node) (children : List Node)

namespace Node

def role : Node → Role
  | .mk role _ _ _ => role

def line : Node → Option Nat
  | .mk _ line _ _ => line

def selectors : Node → List Node
  | .mk _ _ selectors _ => selectors

def children : Node → List Node
  | .mk _ _ _ children => children

/-- A node without a role. -/
def plain (children : List Node) : Node :=
  .mk .other none [] children

/-- An expression without selectors. -/
def leaf (role : Role) (children : List Node) : Node :=
  .mk role none [] children

def atLine (node : Node) (line : Nat) : Node :=
  .mk node.role (some line) node.selectors node.children

/-- Whether selectors may follow an expression. What is not a primary expression drops them. -/
def takesSelectors (node : Node) : Bool :=
  match node.role with
  | .call .. | .superCall _ | .this | .member _ | .creation _ | .primary => true
  | _ => false

/-- An expression followed by selectors, which take the place of those it had. -/
def withSelectors (node : Node) (selectors : List Node) : Node :=
  if node.takesSelectors then .mk node.role node.line selectors node.children else node

/-- The type of the object that an expression creates. -/
def created? (node : Node) : Option String :=
  match node.role with
  | .creation type => some type
  | _ => none

end Node

/-- A source file: its package, the types it imports by name, and its type declarations. -/
structure CompilationUnit where
  package : String
  imports : List String
  types : List Node

end Ripple.Java
