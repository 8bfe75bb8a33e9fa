-- SUMMARY: Identifiers, and the rules for types and expressions, which declare no other names.
import Ripple.Call.Extraction
import Ripple.Java.Grammar.Declarations
import Ripple.Java.Lexer
import Ripple.Proofs.Java.Yields

/-! # Declared names are identifiers

Whatever is declared in a parsed file has a name that is an identifier: it is not empty, has no
point in it and is not the word for the current object. This is so for types, parameters, fields and
all kinds of local variables, at every depth.
-/

namespace Ripple.Java

/-- What declared names have in common. -/
structure IsName (name : String) : Prop where
  ne_empty : name ≠ ""
  no_point : ∀ c ∈ name.toList, Name.isPoint c = false
  ne_this : name ≠ "this"

/-- Whether the names that a node declares are names. -/
def Role.IsNamed : Role → Prop
  | .type name _ | .resource name _ | .caught name _ => IsName name
  | .method _ parameters _ => ∀ parameter ∈ parameters, IsName parameter.1
  | .field _ names => ∀ name ∈ names, IsName name
  | .locals _ declarators => ∀ declarator ∈ declarators, IsName declarator.name
  | _ => True

/-- Whether the names that a node and the nodes below it declare are names. -/
def Node.IsNamed (node : Node) : Prop :=
  ∀ below ∈ node.preorder, below.role.IsNamed

def AllNamed (nodes : List Node) : Prop :=
  ∀ node ∈ nodes, node.IsNamed

section Nodes

theorem mem_preorderAll {nodes : List Node} {below : Node} :
    below ∈ preorderAll nodes ↔ ∃ node ∈ nodes, below ∈ node.preorder := by
  induction nodes with
  | nil => simp [preorderAll]
  | cons node nodes ih => simp [preorderAll, ih]

@[simp]
theorem allNamed_nil : AllNamed [] := by
  simp [AllNamed]

@[simp]
theorem allNamed_cons {node : Node} {nodes : List Node} :
    AllNamed (node :: nodes) ↔ node.IsNamed ∧ AllNamed nodes := by
  simp [AllNamed]

@[simp]
theorem allNamed_append {first second : List Node} :
    AllNamed (first ++ second) ↔ AllNamed first ∧ AllNamed second := by
  simp [AllNamed, or_imp, forall_and]

theorem allNamed_flatten {groups : List (List Node)} (h : ∀ group ∈ groups, AllNamed group) :
    AllNamed groups.flatten := by
  intro node hnode
  obtain ⟨group, hgroup, hnode⟩ := List.mem_flatten.1 hnode
  exact h group hgroup node hnode

theorem forall_mem_preorderAll {nodes : List Node} :
    (∀ below ∈ preorderAll nodes, below.role.IsNamed) ↔ AllNamed nodes := by
  constructor
  · intro h node hnode below hbelow
    exact h below (mem_preorderAll.2 ⟨node, hnode, hbelow⟩)
  · intro h below hbelow
    obtain ⟨node, hnode, hbelow⟩ := mem_preorderAll.1 hbelow
    exact h node hnode below hbelow

namespace Node

@[simp]
theorem isNamed_mk {role : Role} {line : Option Nat} {selectors children : List Node} :
    (Node.mk role line selectors children).IsNamed ↔
      role.IsNamed ∧ AllNamed selectors ∧ AllNamed children := by
  simp only [IsNamed, preorder, List.forall_mem_cons, List.forall_mem_append,
    forall_mem_preorderAll]
  rfl

theorem isNamed_iff {node : Node} :
    node.IsNamed ↔ node.role.IsNamed ∧ AllNamed node.selectors ∧ AllNamed node.children := by
  cases node
  exact isNamed_mk

@[simp]
theorem isNamed_plain {children : List Node} : (plain children).IsNamed ↔ AllNamed children := by
  simp [plain, Role.IsNamed]

@[simp]
theorem isNamed_leaf {role : Role} {children : List Node} :
    (leaf role children).IsNamed ↔ role.IsNamed ∧ AllNamed children := by
  simp [leaf]

@[simp]
theorem isNamed_atLine {node : Node} {line : Nat} : (node.atLine line).IsNamed ↔ node.IsNamed := by
  rw [isNamed_iff, isNamed_iff]
  rfl

theorem IsNamed.withSelectors {node : Node} (h : node.IsNamed) {selectors : List Node}
    (hselectors : AllNamed selectors) : (node.withSelectors selectors).IsNamed := by
  have hnode := isNamed_iff.1 h
  unfold Node.withSelectors
  split
  · exact isNamed_mk.2 ⟨hnode.1, hselectors, hnode.2.2⟩
  · exact h

theorem IsNamed.named {node : Node} (h : node.IsNamed) (segments : List String) :
    (Rules.named segments node).IsNamed := by
  have hnode := isNamed_iff.1 h
  unfold Rules.named
  simp only
  split
  · exact isNamed_mk.2 ⟨trivial, hnode.2⟩
  · exact isNamed_mk.2 ⟨trivial, hnode.2⟩
  · exact h

@[simp]
theorem isNamed_annotated {node : Node} {annotations : List Node} :
    (Rules.annotated annotations node).IsNamed ↔ AllNamed annotations ∧ node.IsNamed := by
  rw [Rules.annotated, isNamed_mk, isNamed_iff, allNamed_append]
  constructor
  · rintro ⟨hrole, hselectors, hannotations, hchildren⟩
    exact ⟨hannotations, hrole, hselectors, hchildren⟩
  · rintro ⟨hannotations, hrole, hselectors, hchildren⟩
    exact ⟨hrole, hselectors, hannotations, hchildren⟩

end Node

end Nodes

/-- Whether the rules that other rules call give nodes of this kind only. -/
structure Rules.IsNamed (tokens : Array Token) (rules : Rules) : Prop where
  expression : Yields tokens Node.IsNamed rules.expression
  conditional : Yields tokens Node.IsNamed rules.conditional
  operand : Yields tokens Node.IsNamed rules.operand
  annotationUse : Yields tokens Node.IsNamed rules.annotationUse
  statement : Yields tokens Node.IsNamed rules.statement
  blockStatement : Yields tokens Node.IsNamed rules.blockStatement
  classBody : Yields tokens AllNamed rules.classBody
  typeDeclaration : Yields tokens Node.IsNamed rules.typeDeclaration

namespace Rules.IsNamed

variable {tokens : Array Token} {rules : Rules} (h : rules.IsNamed tokens)
  (hnames : ∀ token ∈ tokens, token.kind = .identifier → IsName token.text)

include hnames in
theorem name : Yields tokens IsName identifier := by
  refine Yields.identifier.mono ?_
  rintro name ⟨token, htoken, hkind, rfl⟩
  exact hnames token htoken hkind

include h

theorem block : Yields tokens AllNamed rules.block :=
  .skip fun _ => .bind (.itemsUntil h.blockStatement) fun _ hstatements =>
    .skip fun _ => .pure hstatements

theorem variableModifiers : Yields tokens AllNamed rules.variableModifiers := by
  refine .filterMap (.collect (.branch ?_ (.branch ?_ .pure_none)))
  · exact .pure_some (by simp)
  · exact .bind h.annotationUse fun node hnode => .pure_some (by simpa using hnode)

/-- A parameter: whether it takes several values, its name and type, and its node. -/
abbrev IsNamedParameter (found : Bool × (String × String) × Node) : Prop :=
  IsName found.2.1.1 ∧ found.2.2.IsNamed

omit h in
theorem moreParameters {parameter : Parse (Bool × (String × String) × Node)}
    (hparameter : Yields tokens IsNamedParameter parameter) (n : Nat) :
    Yields tokens (fun found => ∀ item ∈ found.1 ++ found.2.toList, IsNamedParameter item)
      (formalParameters.moreParameters parameter n) := by
  induction n with
  | zero => exact .fail _
  | succ n ih =>
    refine .branch (.bind hparameter fun item hitem => .ite (.pure ?_) ?_) (.pure (by simp))
    · simpa using hitem
    · refine .bind ih fun found hfound => .pure ?_
      simpa using ⟨hitem, by simpa using hfound⟩

include hnames in
theorem formalParameters : Yields tokens (fun found =>
    (∀ parameter ∈ found.1, IsName parameter.1) ∧ AllNamed found.2) rules.formalParameters := by
  have hall : ∀ items : List (Bool × (String × String) × Node),
      (∀ item ∈ items, IsNamedParameter item) →
      (∀ parameter ∈ items.map (·.2.1), IsName parameter.1) ∧ AllNamed (items.map (·.2.2)) := by
    intro items hitems
    refine ⟨List.forall_mem_map.2 fun item hitem => (hitems item hitem).1, ?_⟩
    exact List.forall_mem_map.2 fun item hitem => (hitems item hitem).2
  refine .skip fun _ => .branch (.pure (by simp)) ?_
  have hparameter : Yields tokens IsNamedParameter (do
      let annotations ← rules.variableModifiers
      let line := (← Parse.peek).line
      let type ← rules.type
      let variadic ← taken ["..."]
      let name ← identifier
      dimensions
      return (variadic, (name, type), .mk .other (some line) [] annotations)) := by
    refine .bind h.variableModifiers fun annotations hannotations => ?_
    refine .skip fun _ => .skip fun _ => .skip fun _ => ?_
    refine .bind (name hnames) fun name hname => .skip fun _ => .pure ⟨hname, ?_⟩
    exact Node.isNamed_mk.2 ⟨trivial, allNamed_nil, hannotations⟩
  refine .bind hparameter fun first hfirst => .ite ?_ (.skip fun _ => ?_)
  · refine .bind (P := fun rest => ∀ item ∈ rest, IsNamedParameter item) (.pure (by simp)) ?_
    exact fun _ hrest => .skip fun _ => .pure (hall _ (List.forall_mem_cons.2 ⟨hfirst, hrest⟩))
  · refine .bind (moreParameters hparameter _) fun found hfound => ?_
    refine .bind (P := fun rest => ∀ item ∈ rest, IsNamedParameter item) (.pure hfound) ?_
    exact fun _ hrest => .skip fun _ => .pure (hall _ (List.forall_mem_cons.2 ⟨hfirst, hrest⟩))

theorem arguments : Yields tokens AllNamed rules.arguments := by
  refine .skip fun _ => .branch (.pure allNamed_nil) ?_
  exact .bind (.separated h.expression) fun _ hitems => .skip fun _ => .pure hitems

theorem parenthesized : Yields tokens Node.IsNamed rules.parenthesized :=
  .skip fun _ => .bind h.expression fun _ hinner => .skip fun _ => .pure hinner

theorem lambdaBody : Yields tokens AllNamed rules.lambdaBody := by
  refine .skip fun _ => .branch h.block ?_
  exact .bind h.expression fun value hvalue => .pure (by simpa using hvalue)

include hnames in
theorem lambda : Yields tokens Node.IsNamed rules.lambda := by
  have hrest : ∀ parameters, AllNamed parameters → Yields tokens Node.IsNamed do
      return .plain (parameters ++ (← rules.lambdaBody)) := by
    intro parameters hparameters
    exact .bind h.lambdaBody fun body hbody => .pure (by simp [hparameters, hbody])
  refine .branch (.skip fun _ => .skip fun _ => .skip fun _ => ?_) ?_
  · exact .bind (P := AllNamed) (.pure allNamed_nil) hrest
  · refine .bind (h.formalParameters hnames) fun found hfound => ?_
    exact .bind (P := AllNamed) (.pure hfound.2) hrest

theorem cast : Yields tokens Node.IsNamed rules.cast := by
  refine .skip fun _ => .skip fun _ => .skip fun _ => ?_
  exact .bind h.operand fun value hvalue => .pure (by simpa using hvalue)

theorem initializers (depth : Nat) : Yields tokens AllNamed (rules.initializers depth) := by
  induction depth with
  | zero => exact .fail _
  | succ depth ih =>
    refine .branch (.skip fun _ => .branch (.skip fun _ => .pure allNamed_nil)
      (.branch (.pure allNamed_nil) ?_)) ?_
    · refine .bind ih fun first hfirst => ?_
      refine .bind (P := fun rest => ∀ group ∈ rest, AllNamed group) (.collect ?_)
        fun rest hrest => ?_
      · refine .skip fun _ => .ite ?_ (.skip fun _ => ?_) <;>
          exact .branch .pure_none (.bind ih fun _ hgroup => .pure_some hgroup)
      · exact .pure (by simp [hfirst, allNamed_flatten hrest])
    · exact .bind h.expression fun value hvalue => .pure (by simpa using hvalue)

theorem initializer : Yields tokens AllNamed rules.initializer :=
  .skip fun _ => h.initializers _

theorem arrayCreatorRest : Yields tokens Node.IsNamed rules.arrayCreatorRest := by
  refine .branch (.skip fun _ => .skip fun _ => ?_) ?_
  · refine .ite ?_ (.skip fun _ => ?_) <;>
      exact .bind h.initializer fun _ hvalues => .pure (Node.isNamed_leaf.2 ⟨trivial, hvalues⟩)
  · refine .bind (P := AllNamed) (.collect (.skip fun _ => .skip fun _ => .ite ?_ .pure_none))
      fun sizes hsizes => ?_
    · refine .skip fun _ => .bind h.expression fun _ hsize => .skip fun _ => .pure_some hsize
    · exact .skip fun _ => .pure (Node.isNamed_leaf.2 ⟨trivial, hsizes⟩)

theorem classCreatorRest : Yields tokens AllNamed rules.classCreatorRest := by
  refine .bind h.arguments fun arguments harguments => .branch ?_ (.pure harguments)
  exact .bind h.classBody fun body hbody => .pure (by simp [harguments, hbody])

theorem creator : Yields tokens Node.IsNamed rules.creator := by
  refine .branch (.skip fun _ => h.arrayCreatorRest) (.skip fun generic => ?_)
  refine .ite ?_ ?_
  · refine .skip fun _ => .skip fun _ => .branch ?_ ?_
    · exact .ite (.skip fun _ => h.arrayCreatorRest) h.arrayCreatorRest
    exact .bind h.classCreatorRest fun _ hparts => .pure (Node.isNamed_leaf.2 ⟨trivial, hparts⟩)
  · refine .skip fun _ => .branch (.ite (.skip fun _ => h.arrayCreatorRest) h.arrayCreatorRest) ?_
    exact .bind h.classCreatorRest fun _ hparts => .pure (Node.isNamed_leaf.2 ⟨trivial, hparts⟩)

theorem innerCreator : Yields tokens Node.IsNamed rules.innerCreator := by
  have hrest : Yields tokens Node.IsNamed (do return .leaf .primary (← rules.classCreatorRest)) :=
    .bind h.classCreatorRest fun _ hparts => .pure (Node.isNamed_leaf.2 ⟨trivial, hparts⟩)
  refine .skip fun _ => .ite (.skip fun _ => ?_) ?_ <;>
    exact .skip fun _ => .skip fun _ => .ite (.skip fun _ => hrest) hrest

/-- A node without declared names that holds what a rule gives. -/
theorem arguments_leaf {role : Role} (hrole : role.IsNamed) :
    Yields tokens Node.IsNamed (do return .leaf role (← rules.arguments)) :=
  .bind h.arguments fun _ harguments => .pure (Node.isNamed_leaf.2 ⟨hrole, harguments⟩)

theorem superSuffix : Yields tokens Node.IsNamed rules.superSuffix := by
  refine .branch (.skip fun _ => ?_) (h.arguments_leaf trivial)
  refine .ite (.skip fun _ => .skip fun _ => ?_) (.skip fun _ => ?_) <;>
    exact .branch (h.arguments_leaf trivial) (.pure (by simp [Role.IsNamed]))

theorem genericCallSuffix : Yields tokens Node.IsNamed rules.genericCallSuffix :=
  .branch h.superSuffix (.skip fun _ => h.arguments_leaf trivial)

theorem genericCall : Yields tokens Node.IsNamed rules.genericCall :=
  .skip fun _ => h.genericCallSuffix

theorem nameSuffix : Yields tokens Node.IsNamed rules.nameSuffix := by
  have hleaf : ∀ role : Role, role.IsNamed → Yields tokens Node.IsNamed (pure (.leaf role [])) :=
    fun role hrole => .pure (Node.isNamed_leaf.2 ⟨hrole, allNamed_nil⟩)
  refine .branch (.skip fun _ => .skip fun _ => hleaf _ trivial) ?_
  refine .branch (h.arguments_leaf trivial) ?_
  refine .branch (hleaf _ trivial) ?_
  refine .branch (hleaf _ trivial) ?_
  refine .branch (.skip fun _ => h.genericCall) ?_
  refine .branch h.innerCreator ?_
  exact .branch (.skip fun _ => h.arguments_leaf trivial) (hleaf _ trivial)

theorem nameExpression : Yields tokens Node.IsNamed rules.nameExpression := by
  refine .skip fun _ => .skip fun _ => .skip fun _ => ?_
  exact .bind h.nameSuffix fun _ hnode => .pure (by simpa using hnode.named _)

theorem primary : Yields tokens Node.IsNamed rules.primary := by
  have hleaf : ∀ role : Role, role.IsNamed → Yields tokens Node.IsNamed (pure (.leaf role [])) :=
    fun role hrole => .pure (Node.isNamed_leaf.2 ⟨hrole, allNamed_nil⟩)
  refine .skip fun token => .ite (.skip fun _ => .pure ?_) ?_
  · simp [Role.IsNamed]
  refine .branch h.parenthesized ?_
  refine .branch (.branch (h.arguments_leaf trivial) (hleaf _ trivial)) ?_
  refine .branch (.skip fun _ => .pure (by simp)) ?_
  refine .branch h.superSuffix ?_
  refine .branch h.creator ?_
  refine .branch (.skip fun _ => .branch (h.arguments_leaf trivial) ?_) ?_
  · exact .bind h.genericCallSuffix fun _ hcall => .pure (by simpa using hcall)
  refine .ite h.nameExpression ?_
  refine .ite (.skip fun _ => .skip fun _ => .skip fun _ => hleaf _ trivial) ?_
  exact .branch (.skip fun _ => hleaf _ trivial) (.fail _)

theorem selector : Yields tokens Node.IsNamed rules.selector := by
  refine .branch ?_ (.skip fun _ => .skip fun token => .ite ?_ ?_)
  · exact .bind h.expression fun index hindex => .skip fun _ => .pure (by simpa using hindex)
  · refine .skip fun _ => .branch (h.arguments_leaf trivial) (.pure (by simp [Role.IsNamed]))
  · refine .branch (.skip fun _ => .pure (by simp)) ?_
    refine .branch h.genericCall ?_
    refine .branch (.pure (by simp [Role.IsNamed])) ?_
    exact .branch h.superSuffix (.branch h.innerCreator (.fail _))

theorem selectorList : Yields tokens AllNamed rules.selectorList := by
  refine .collect (.skip fun token => .ite (.fail _) (.ite ?_ .pure_none))
  exact .bind h.selector fun node hnode => .pure_some (by simpa using hnode)

include hnames in
theorem operandRule : Yields tokens Node.IsNamed rules.operandRule := by
  have hrest : Yields tokens Node.IsNamed do
      let primary ← rules.primary
      let selectors ← rules.selectorList
      skipOperators stepOperators
      return primary.withSelectors selectors :=
    .bind h.primary fun _ hprimary => .bind h.selectorList fun _ hselectors =>
      .skip fun _ => .pure (hprimary.withSelectors hselectors)
  refine .skip fun _ => .skip fun _ => .ite ?_ hrest
  refine .bind (.attempt (h.lambda hnames)) fun found hfound => ?_
  cases found with
  | some node => exact .pure (hfound node rfl)
  | none =>
    refine .bind (.attempt h.cast) fun found hfound => ?_
    cases found with
    | some node => exact .pure (hfound node rfl)
    | none => exact hrest

include hnames in
theorem operation : Yields tokens Node.IsNamed rules.operation := by
  refine .bind (h.operandRule hnames) fun first hfirst => ?_
  refine .bind (P := fun rest => ∀ group ∈ rest, AllNamed group) (.collect ?_) fun rest hrest => ?_
  · refine .branch (.skip fun _ => .pure_some allNamed_nil) (.skip fun _ => ?_)
    refine .ite (.skip fun _ => ?_) .pure_none
    exact .bind (h.operandRule hnames) fun node hnode => .pure_some (by simpa using hnode)
  · refine .pure ?_
    split
    · exact hfirst
    · simp [hfirst, allNamed_flatten hrest]

theorem referencedMethod : Yields tokens Node.IsNamed rules.referencedMethod := by
  refine .skip fun _ => .ite (.skip fun _ => ?_) ?_ <;>
    exact .branch (.pure (by simp [Role.IsNamed])) h.expression

include hnames in
theorem conditionalRule : Yields tokens Node.IsNamed rules.conditionalRule := by
  refine .bind (h.operation hnames) fun first hfirst => ?_
  refine .branch ?_ (.branch ?_ (.branch ?_ (.pure hfirst)))
  · refine .bind h.expression fun ifTrue htrue => .skip fun _ => ?_
    exact .bind h.conditional fun ifFalse hfalse => .pure (by simp [hfirst, htrue, hfalse])
  · exact .bind h.lambdaBody fun body hbody => .pure (by simp [hfirst, hbody])
  · exact .bind h.referencedMethod fun method hmethod => .pure (by simp [hfirst, hmethod])

include hnames in
theorem expressionRule : Yields tokens Node.IsNamed rules.expressionRule := by
  refine .bind (h.conditionalRule hnames) fun left hleft => .skip fun _ => .ite ?_ (.pure hleft)
  exact .skip fun _ => .bind h.expression fun right hright => .pure (by simp [hleft, hright])

include hnames in
theorem elementValues (depth : Nat) : Yields tokens Node.IsNamed (rules.elementValues depth) := by
  induction depth with
  | zero => exact .fail _
  | succ depth ih =>
    refine .branch h.annotationUse (.branch ?_ (h.conditionalRule hnames))
    refine .branch (.pure (by simp)) ?_
    refine .bind ih fun first hfirst => ?_
    refine .bind (P := AllNamed) (.collect ?_) fun rest hrest => ?_
    · refine .skip fun _ => .skip fun _ => .ite .pure_none (.skip fun _ => ?_)
      exact .bind ih fun _ hvalue => .pure_some hvalue
    · exact .skip fun _ => .skip fun _ => .pure (by simp [hfirst, hrest])

include hnames in
theorem elementValue : Yields tokens Node.IsNamed rules.elementValue :=
  .skip fun _ => h.elementValues hnames _

include hnames in
theorem elementValuePair : Yields tokens Node.IsNamed rules.elementValuePair := by
  refine .skip fun _ => .skip fun _ => .skip fun _ => ?_
  exact .bind (h.elementValue hnames) fun value hvalue => .pure (by simpa using hvalue)

include hnames in
theorem annotationRule : Yields tokens Node.IsNamed rules.annotationRule := by
  have hplaced : ∀ line values, AllNamed values →
      Yields tokens Node.IsNamed (pure ((Node.plain values).atLine line)) :=
    fun _ _ hvalues => .pure (by simpa using hvalues)
  refine .skip fun token => .skip fun _ => .skip fun _ => .branch (.skip fun _ => .skip fun _ => ?_)
    (.bind (P := AllNamed) (.pure allNamed_nil) (hplaced _))
  have hclosed : ∀ values, AllNamed values → Yields tokens Node.IsNamed (do
      expect [")"]
      let values ← pure values
      pure ((Node.plain values).atLine token.line)) :=
    fun _ hvalues => .skip fun _ => .bind (.pure hvalues) (hplaced _)
  refine .ite (.bind (P := AllNamed) (.pure allNamed_nil) hclosed) (.ite ?_ ?_)
  · exact .bind (P := AllNamed) (.separated (h.elementValuePair hnames)) hclosed
  · refine .bind (h.elementValue hnames) fun value hvalue => ?_
    exact .bind (P := AllNamed) (.pure (by simpa using hvalue)) hclosed

end Rules.IsNamed

end Ripple.Java
