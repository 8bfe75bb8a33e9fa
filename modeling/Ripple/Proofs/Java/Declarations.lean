-- SUMMARY: Every rule of the grammar declares identifiers only, by induction on the nesting depth.
import Ripple.Java.Source
import Ripple.Proofs.Except
import Ripple.Proofs.Java.Names

/-! # Parsed files declare names

The rules for statements, members and types give nodes that declare names only, as those for
expressions do. The rules of each depth call those of the depth below, so this holds at every depth,
and in the end of the types of a parsed file. An identifier is a name because no point is part of
one and the word for the current object is a keyword.
-/

namespace Ripple.Java

namespace Rules.IsNamed

variable {tokens : Array Token} {rules : Rules} (h : rules.IsNamed tokens)
  (hnames : ∀ token ∈ tokens, token.kind = .identifier → IsName token.text)

include h

/-! ### Statements -/

/-- A variable with its initializer. -/
abbrev IsNamedDeclarator (found : Declarator × Node) : Prop :=
  IsName found.1.name ∧ found.2.IsNamed

omit h in
theorem forall_declarators {items : List (Declarator × Node)}
    (hitems : ∀ item ∈ items, IsNamedDeclarator item) :
    (∀ declarator ∈ items.map (·.1), IsName declarator.name) ∧ AllNamed (items.map (·.2)) :=
  ⟨List.forall_mem_map.2 fun item hitem => (hitems item hitem).1,
    List.forall_mem_map.2 fun item hitem => (hitems item hitem).2⟩

include hnames in
theorem declarator : Yields tokens IsNamedDeclarator rules.declarator := by
  refine .bind (name hnames) fun name hname => .skip fun _ => ?_
  refine .branch (.bind h.initializer ?_) (.bind (P := AllNamed) (.pure allNamed_nil) ?_) <;>
    exact fun _ hvalue => .pure ⟨hname, by simpa using hvalue⟩

include hnames in
theorem localVariables (line : Nat) : Yields tokens Node.IsNamed (rules.localVariables line) := by
  refine .bind h.variableModifiers fun annotations hannotations => .skip fun _ => ?_
  refine .bind (.separated (h.declarator hnames)) fun items hitems => .skip fun _ => .pure ?_
  obtain ⟨hdeclared, hvalues⟩ := forall_declarators hitems
  exact Node.isNamed_mk.2 ⟨hdeclared, allNamed_nil, allNamed_append.2 ⟨hannotations, hvalues⟩⟩

theorem expressions : Yields tokens AllNamed rules.expressions :=
  .separated h.expression

theorem expressionBefore (close : String) : Yields tokens AllNamed (rules.expressionBefore close) :=
  .branch (.pure allNamed_nil)
    (.bind h.expression fun value hvalue => .pure (by simpa using hvalue))

theorem expressionsBefore (close : String) :
    Yields tokens AllNamed (rules.expressionsBefore close) :=
  .branch (.pure allNamed_nil) h.expressions

include hnames in
theorem variableControl : Yields tokens Node.IsNamed rules.variableControl := by
  refine .bind h.variableModifiers fun annotations hannotations => .skip fun type => ?_
  refine .bind (name hnames) fun name hname => .skip fun _ => ?_
  have hdeclare : ∀ items : List (Declarator × Node), (∀ item ∈ items, IsNamedDeclarator item) →
      (Node.leaf (.locals type (items.map (·.1))) (annotations ++ items.map (·.2))).IsNamed := by
    intro items hitems
    obtain ⟨hdeclared, hvalues⟩ := forall_declarators hitems
    exact Node.isNamed_leaf.2 ⟨hdeclared, allNamed_append.2 ⟨hannotations, hvalues⟩⟩
  have hfirst : ∀ created value, AllNamed value →
      IsNamedDeclarator (⟨name, created⟩, .plain value) :=
    fun _ _ hvalue => ⟨hname, by simpa using hvalue⟩
  -- the variable of a loop over a collection has no value of its own
  have hbare : ∀ item ∈ [((⟨name, none⟩ : Declarator), Node.plain [])], IsNamedDeclarator item := by
    simpa using hfirst none [] allNamed_nil
  refine .branch ?_ ?_
  · refine .bind h.expression fun value hvalue => .pure ?_
    exact Node.isNamed_plain.2 (allNamed_cons.2 ⟨hdeclare _ hbare, by simpa using hvalue⟩)
  · have hparts : ∀ items : List (Declarator × Node), (∀ item ∈ items, IsNamedDeclarator item) →
        Yields tokens Node.IsNamed (do
          expect [";"]
          let condition ← rules.expressionBefore ";"
          expect [";"]
          let update ← rules.expressionsBefore ")"
          return .plain (.leaf (.locals type (items.map (·.1))) (annotations ++ items.map (·.2)) ::
            condition ++ update)) := by
      intro items hitems
      refine .skip fun _ => .bind (h.expressionBefore ";") fun condition hcondition => ?_
      refine .skip fun _ => .bind (h.expressionsBefore ")") fun update hupdate => .pure ?_
      refine Node.isNamed_plain.2 (allNamed_append.2 ⟨?_, hupdate⟩)
      exact allNamed_cons.2 ⟨hdeclare items hitems, hcondition⟩
    refine .branch (.bind (.pure hbare) hparts) ?_
    refine .branch (.bind h.initializer ?_) (.bind (P := AllNamed) (.pure allNamed_nil) ?_) <;>
      intro value hvalue <;>
      refine .bind (.collectWhile (h.declarator hnames)) fun rest hrest => ?_ <;>
      exact .bind (.pure (List.forall_mem_cons.2 ⟨hfirst _ _ hvalue, hrest⟩)) hparts

include hnames in
theorem forControl : Yields tokens Node.IsNamed rules.forControl := by
  refine .bind (.attempt (h.variableControl hnames)) fun found hfound => ?_
  cases found with
  | some control => exact .pure (hfound control rfl)
  | none =>
    refine .bind (h.expressionsBefore ";") fun start hstart => .skip fun _ => ?_
    refine .bind (h.expressionBefore ";") fun condition hcondition => .skip fun _ => ?_
    refine .bind (h.expressionsBefore ")") fun update hupdate => .pure ?_
    simp [hstart, hcondition, hupdate]

theorem switchGroup : Yields tokens Node.IsNamed rules.switchGroup := by
  -- every kind of label ends with a colon, which the branches share
  have hcolon : ∀ values, AllNamed values → Yields tokens AllNamed (do
      expect [":"]
      return values) :=
    fun _ hvalues => .skip fun _ => .pure hvalues
  have hlabel : Yields tokens AllNamed (do
      let token ← Parse.next
      let values ←
        if token.text == "case" then
          if ← ahead [anIdentifier, ":"] then do
            discard identifier
            pure []
          else pure [← rules.expression]
        else if token.text == "default" then pure []
        else Parse.fail .unexpected
      expect [":"]
      return values) := by
    refine .skip fun token => .ite (.branch (.skip fun _ => ?_) ?_) (.ite ?_ ?_)
    · exact .bind (P := AllNamed) (.pure allNamed_nil) hcolon
    · refine .bind h.expression fun value hvalue => ?_
      exact .bind (P := AllNamed) (.pure (by simpa using hvalue)) hcolon
    · exact .bind (P := AllNamed) (.pure allNamed_nil) hcolon
    · exact .bind (.fail _) hcolon
  refine .bind hlabel fun first hfirst => ?_
  refine .bind (P := fun more => ∀ group ∈ more, AllNamed group)
    (.collect (.skip fun _ => .ite ?_ .pure_none)) fun more hmore => ?_
  · exact .bind hlabel fun _ hvalues => .pure_some hvalues
  refine .bind (P := AllNamed) (.collect (.skip fun _ => .ite .pure_none ?_))
    fun statements hstatements => ?_
  · exact .bind h.blockStatement fun _ hstatement => .pure_some hstatement
  exact .pure (by simp [hfirst, allNamed_flatten hmore, hstatements])

theorem switchGroups : Yields tokens AllNamed rules.switchGroups :=
  .collect (.skip fun _ => .ite (.bind h.switchGroup fun _ hgroup => .pure_some hgroup) .pure_none)

include hnames in
theorem catchClause : Yields tokens Node.IsNamed rules.catchClause := by
  refine .skip fun _ => .skip fun _ => .skip fun types => ?_
  refine .bind (name hnames) fun name hname => .skip fun _ => ?_
  refine .bind h.block fun body hbody => .pure ?_
  exact Node.isNamed_plain.2 (allNamed_cons.2 ⟨Node.isNamed_leaf.2 ⟨hname, allNamed_nil⟩, hbody⟩)

include hnames in
theorem catchClauses : Yields tokens AllNamed rules.catchClauses :=
  .collectWhile (h.catchClause hnames)

include hnames in
theorem resource : Yields tokens Node.IsNamed rules.resource := by
  refine .bind h.variableModifiers fun annotations hannotations => .skip fun _ => .skip fun _ => ?_
  refine .bind (name hnames) fun name hname => .skip fun _ => .skip fun _ => ?_
  refine .bind h.expression fun value hvalue => .pure (Node.isNamed_leaf.2 ⟨hname, ?_⟩)
  simp [hannotations, hvalue]

include hnames in
theorem resources : Yields tokens AllNamed rules.resources := by
  refine .skip fun _ => .bind (h.resource hnames) fun first hfirst => ?_
  refine .bind (P := AllNamed) (.collect (.skip fun _ => .ite ?_ (.skip fun _ => ?_)))
    fun rest hrest => ?_
  · exact .branch .pure_none (.bind (h.resource hnames) fun _ hresource => .pure_some hresource)
  · exact .branch .pure_none (.bind (h.resource hnames) fun _ hresource => .pure_some hresource)
  · exact .pure (allNamed_cons.2 ⟨hfirst, hrest⟩)

include hnames in
theorem tryRest : Yields tokens AllNamed rules.tryRest := by
  refine .skip fun _ => .ite (.bind (P := AllNamed) (.pure allNamed_nil) ?_)
      (.bind (h.resources hnames) ?_) <;>
    intro resources hresources <;>
    refine .bind h.block fun body hbody => ?_ <;>
    refine .bind (h.catchClauses hnames) fun catches hcatches => .skip fun _ => ?_ <;>
    refine .ite (.bind h.block ?_) (.bind (P := AllNamed) (.pure allNamed_nil) ?_) <;>
    intro last hlast <;>
    refine .ite (.skip fun _ => .pure ?_) (.pure ?_) <;>
    simp [hresources, hbody, hcatches, hlast]

omit h in
theorem jumpRest : Yields tokens AllNamed Rules.jumpRest := by
  refine .branch (.skip fun _ => .skip fun _ => ?_) (.skip fun _ => ?_) <;> exact .pure allNamed_nil

include hnames in
theorem keywordStatement :
    Yields tokens (fun found => ∀ parts ∈ found, AllNamed parts) rules.keywordStatement := by
  refine .branch ?ifStatement (.branch ?assertStatement (.branch ?switchStatement ?_))
  case ifStatement =>
    refine .bind h.parenthesized fun condition hcondition => ?_
    refine .bind h.statement fun first hfirst => .branch ?_ ?_
    · refine .bind h.statement fun second hsecond => .pure_some ?_
      simp [hcondition, hfirst, hsecond]
    · exact .pure_some (by simp [hcondition, hfirst])
  case assertStatement =>
    refine .bind h.expression fun condition hcondition => .branch ?_ ?_
    · refine .bind h.expression fun message hmessage => ?_
      refine .bind (P := AllNamed) (.pure (by simpa using hmessage)) fun parts hparts => ?_
      exact .skip fun _ => .pure_some (by simp [hcondition, hparts])
    · refine .bind (P := AllNamed) (.pure allNamed_nil) fun parts hparts => ?_
      exact .skip fun _ => .pure_some (by simp [hcondition, hparts])
  case switchStatement =>
    refine .bind h.parenthesized fun subject hsubject => .skip fun _ => ?_
    refine .bind h.switchGroups fun groups hgroups => .skip fun _ => ?_
    exact .pure_some (by simp [hsubject, hgroups])
  refine .branch ?whileStatement (.branch ?doStatement (.branch ?forStatement ?_))
  case whileStatement =>
    refine .bind h.parenthesized fun condition hcondition => ?_
    exact .bind h.statement fun body hbody => .pure_some (by simp [hcondition, hbody])
  case doStatement =>
    refine .bind h.statement fun body hbody => .skip fun _ => ?_
    refine .bind h.parenthesized fun condition hcondition => .skip fun _ => ?_
    exact .pure_some (by simp [hcondition, hbody])
  case forStatement =>
    refine .skip fun _ => .bind (h.forControl hnames) fun control hcontrol => .skip fun _ => ?_
    exact .bind h.statement fun body hbody => .pure_some (by simp [hcontrol, hbody])
  refine .branch (.bind jumpRest fun _ hparts => .pure_some hparts) ?_
  refine .branch (.bind jumpRest fun _ hparts => .pure_some hparts) ?_
  refine .branch ?returnStatement (.branch ?throwStatement (.branch ?synchronizedStatement ?_))
  case returnStatement =>
    exact .bind (h.expressionBefore ";") fun _ hvalue => .skip fun _ => .pure_some hvalue
  case throwStatement =>
    exact .bind h.expression fun value hvalue => .skip fun _ => .pure_some (by simpa using hvalue)
  case synchronizedStatement =>
    refine .bind h.parenthesized fun lock hlock => ?_
    exact .bind h.block fun body hbody => .pure_some (by simp [hlock, hbody])
  exact .branch (.bind (h.tryRest hnames) fun _ hparts => .pure_some hparts) .pure_none

include hnames in
theorem statementRule : Yields tokens Node.IsNamed rules.statementRule := by
  refine .skip fun token => .branch ?_ (.branch (.pure (by simp)) (.branch ?_ ?_))
  · exact .bind h.block fun parts hparts => .pure (by simpa using hparts)
  · refine .skip fun _ => .skip fun _ => ?_
    exact .bind h.statement fun node hnode => .pure (by simpa using hnode)
  · refine .bind (h.keywordStatement hnames) fun found hfound => ?_
    cases found with
    | some parts => exact .pure (by simpa using hfound parts rfl)
    | none =>
      refine .bind h.expression fun value hvalue => .skip fun _ => .pure ?_
      simpa using hvalue

theorem modifiers : Yields tokens AllNamed rules.modifiers := by
  refine .filterMap (.collect (.branch ?_ (.branch ?_ .pure_none)))
  · exact .skip fun _ => .pure_some (by simp)
  · exact .bind h.annotationUse fun node hnode => .pure_some (by simpa using hnode)

theorem modifiedTypeDeclaration : Yields tokens Node.IsNamed rules.modifiedTypeDeclaration := by
  refine .bind h.modifiers fun annotations hannotations => ?_
  exact .bind h.typeDeclaration fun node hnode => .pure (by simp [hannotations, hnode])

include hnames in
theorem blockStatementRule : Yields tokens Node.IsNamed rules.blockStatementRule := by
  refine .skip fun _ => .skip fun _ => .ite (h.statementRule hnames) ?_
  refine .skip fun _ => .skip fun opening => ?_
  cases opening with
  | typeModifier => exact h.modifiedTypeDeclaration
  | before token annotated =>
    refine .ite h.modifiedTypeDeclaration (.ite (h.localVariables hnames _) ?_)
    refine .ite ?_ (h.statementRule hnames)
    -- what looks like a declaration is read as a statement if it is none
    refine .bind (.attempt (h.localVariables hnames _)) fun found hfound => ?_
    cases found with
    | some declaration => exact .pure (hfound declaration rfl)
    | none => exact h.statementRule hnames

/-! ### Members of types -/

theorem optionalBody :
    Yields tokens (fun found => ∀ body ∈ found, AllNamed body) rules.optionalBody :=
  .branch (.bind h.block fun _ hbody => .pure_some hbody) (.skip fun _ => .pure_none)

omit h in
theorem allNamed_getD {found : Option (List Node)} (h : ∀ body ∈ found, AllNamed body) :
    AllNamed (found.getD []) := by
  cases found with
  | none => exact allNamed_nil
  | some body => exact h body rfl

include hnames in
theorem methodRest (name : String) : Yields tokens Node.IsNamed (rules.methodRest name) := by
  refine .bind (h.formalParameters hnames) fun found hfound => .skip fun _ => .skip fun _ => ?_
  refine .bind h.optionalBody fun body hbody => .pure ?_
  exact Node.isNamed_leaf.2 ⟨hfound.1, allNamed_append.2 ⟨hfound.2, allNamed_getD hbody⟩⟩

include hnames in
theorem voidMethodRest (name : String) :
    Yields tokens Node.IsNamed (rules.voidMethodRest name) := by
  refine .bind (h.formalParameters hnames) fun found hfound => .skip fun _ => ?_
  refine .bind h.optionalBody fun body hbody => .pure ?_
  exact Node.isNamed_leaf.2 ⟨hfound.1, allNamed_append.2 ⟨hfound.2, allNamed_getD hbody⟩⟩

include hnames in
theorem constructorRest : Yields tokens Node.IsNamed rules.constructorRest := by
  refine .bind (h.formalParameters hnames) fun found hfound => .skip fun _ => ?_
  exact .bind h.block fun body hbody => .pure (by simp [hfound.2, hbody])

include hnames in
theorem fieldRest (type : String) {name : String} (hname : IsName name) :
    Yields tokens Node.IsNamed (rules.fieldRest type name) := by
  refine .skip fun _ => .branch (.bind h.initializer ?_)
      (.bind (P := AllNamed) (.pure allNamed_nil) ?_) <;>
    intro value hvalue <;>
    refine .bind (.collectWhile (h.declarator hnames)) fun rest hrest => .pure ?_ <;>
    refine Node.isNamed_leaf.2 ⟨List.forall_mem_cons.2 ⟨hname, ?_⟩, allNamed_cons.2 ⟨?_, ?_⟩⟩ <;>
    first
      | exact List.forall_mem_map.2 fun item hitem => (hrest item hitem).1
      | exact Node.isNamed_plain.2 hvalue
      | exact List.forall_mem_map.2 fun item hitem => (hrest item hitem).2

include hnames in
theorem constantRest (type : String) {name : String} (hname : IsName name) :
    Yields tokens Node.IsNamed (rules.constantRest type name) := by
  have hvalue : Yields tokens Node.IsNamed (do
      dimensions
      expect ["="]
      return .plain (← rules.initializer)) :=
    .skip fun _ => .skip fun _ => .bind h.initializer fun _ hvalues =>
      .pure (Node.isNamed_plain.2 hvalues)
  refine .bind hvalue fun first hfirst => ?_
  refine .bind (P := fun rest => ∀ item ∈ rest, IsName item.1 ∧ item.2.IsNamed)
    (.collect (.branch ?_ .pure_none)) fun rest hrest => .pure ?_
  · refine .bind (IsNamed.name hnames) fun name hname => ?_
    exact .bind hvalue fun _ hnode => .pure_some ⟨hname, hnode⟩
  · refine Node.isNamed_leaf.2 ⟨List.forall_mem_cons.2 ⟨hname, ?_⟩, allNamed_cons.2 ⟨hfirst, ?_⟩⟩
    · exact List.forall_mem_map.2 fun item hitem => (hrest item hitem).1
    · exact List.forall_mem_map.2 fun item hitem => (hrest item hitem).2

include hnames in
theorem genericMember : Yields tokens Node.IsNamed rules.genericMember := by
  refine .skip fun _ => .branch (.skip fun _ => h.constructorRest hnames) ?_
  refine .branch (.skip fun name => h.voidMethodRest hnames name) ?_
  exact .skip fun _ => .skip fun name => h.methodRest hnames name

include hnames in
theorem classMember : Yields tokens Node.IsNamed rules.classMember := by
  refine .bind h.modifiers fun annotations hannotations => ?_
  refine .skip fun token => .skip fun _ => .skip fun _ => .skip fun _ => .skip fun _ => ?_
  -- annotations and the line are put to whatever kind of member was read
  have hplaced : ∀ member, member.IsNamed →
      Yields tokens Node.IsNamed (pure ((annotated annotations member).atLine token.line)) :=
    fun _ hmember => .pure (by simp [hannotations, hmember])
  refine .ite (.skip fun name => .bind (h.voidMethodRest hnames name) hplaced) ?_
  refine .ite (.bind (h.genericMember hnames) hplaced) ?_
  refine .ite (.bind h.typeDeclaration hplaced) ?_
  refine .ite (.skip fun _ => .bind (h.constructorRest hnames) hplaced) ?_
  refine .skip fun type => .bind (name hnames) fun name hname => ?_
  refine .branch (.bind (h.methodRest hnames name) hplaced) ?_
  exact .bind (h.fieldRest hnames type hname) fun _ hfield =>
    .skip fun _ => .bind (.pure hfield) hplaced

include hnames in
theorem classBodyItem : Yields tokens AllNamed rules.classBodyItem := by
  have hblock : Yields tokens AllNamed (do return [.plain (← rules.block)]) :=
    .bind h.block fun body hbody => .pure (by simpa using hbody)
  refine .branch (.pure allNamed_nil) (.branch (.skip fun _ => hblock) (.branch hblock ?_))
  exact .bind (h.classMember hnames) fun member hmember => .pure (by simpa using hmember)

include hnames in
theorem classBodyRule : Yields tokens AllNamed rules.classBodyRule :=
  .skip fun _ => .bind (.itemsUntil (h.classBodyItem hnames)) fun _ hitems =>
    .skip fun _ => .pure (allNamed_flatten hitems)

include hnames in
theorem classDeclaration : Yields tokens Node.IsNamed rules.classDeclaration := by
  refine .skip fun _ => .bind (name hnames) fun name hname => .skip fun _ => ?_
  have hbody : ∀ superclass, Yields tokens Node.IsNamed
      (do return .leaf (.type name superclass) (← rules.classBodyRule)) :=
    fun _ => .bind (h.classBodyRule hnames) fun _ hmembers =>
      .pure (Node.isNamed_leaf.2 ⟨hname, hmembers⟩)
  refine .branch (.skip fun _ => .skip fun superclass => ?_) (.skip fun superclass => ?_) <;>
    exact .branch (.skip fun _ => hbody superclass) (hbody superclass)

theorem enumConstant : Yields tokens Node.IsNamed rules.enumConstant := by
  refine .bind (.collectWhile h.annotationUse) fun annotations hannotations => .skip fun _ => ?_
  refine .branch (.bind h.arguments ?_) (.bind (P := AllNamed) (.pure allNamed_nil) ?_) <;>
    intro arguments harguments <;>
    refine .branch (.bind h.classBody ?_) (.bind (P := AllNamed) (.pure allNamed_nil) ?_) <;>
    intro body hbody <;>
    exact .pure (Node.isNamed_plain.2
      (allNamed_append.2 ⟨allNamed_append.2 ⟨hannotations, harguments⟩, hbody⟩))

theorem enumConstants (n : Nat) : Yields tokens AllNamed (rules.enumConstants n) := by
  induction n with
  | zero => exact .fail _
  | succ n ih =>
    refine .skip fun _ => .skip fun _ => .ite (.pure allNamed_nil) ?_
    refine .bind h.enumConstant fun constant hconstant => ?_
    refine .branch ?_ (.pure (by simpa using hconstant))
    exact .bind ih fun rest hrest => .pure (allNamed_cons.2 ⟨hconstant, hrest⟩)

include hnames in
theorem enumDeclaration : Yields tokens Node.IsNamed rules.enumDeclaration := by
  refine .skip fun _ => .bind (name hnames) fun name hname => ?_
  have hmembers : ∀ constants, AllNamed constants → ∀ members : List (List Node),
      (∀ group ∈ members, AllNamed group) → Yields tokens Node.IsNamed (do
        expect ["\x7d"]
        return .leaf (.type name none) (constants ++ members.flatten)) := by
    intro constants hconstants members hmembers
    refine .skip fun _ => .pure (Node.isNamed_leaf.2 ⟨hname, ?_⟩)
    exact allNamed_append.2 ⟨hconstants, allNamed_flatten hmembers⟩
  refine .branch (.skip fun _ => ?_) ?_ <;>
    refine .skip fun _ => .branch (.bind (P := AllNamed) (.pure allNamed_nil) ?_)
      (.skip fun _ => .bind (h.enumConstants _) ?_) <;>
    intro constants hconstants <;>
    refine .branch (.bind (.itemsUntil (h.classBodyItem hnames)) ?_)
      (.bind (P := fun members => ∀ group ∈ members, AllNamed group) (.pure (by simp)) ?_) <;>
    exact hmembers constants hconstants

include hnames in
theorem interfaceMember : Yields tokens AllNamed rules.interfaceMember := by
  refine .branch (.pure allNamed_nil) (.bind h.modifiers fun annotations hannotations => ?_)
  refine .skip fun token => .skip fun _ => .skip fun _ => .skip fun _ => ?_
  have hplaced : ∀ member : Node, member.IsNamed →
      Yields tokens AllNamed (pure [(annotated annotations member).atLine token.line]) :=
    fun _ hmember => .pure (by simp [hannotations, hmember])
  refine .ite (.bind h.typeDeclaration hplaced) (.ite (.skip fun _ => .skip fun _ => ?_) ?_)
  · refine .ite ?_ (.skip fun _ => ?_) <;>
      exact .skip fun name => .bind (h.methodRest hnames name) hplaced
  refine .ite (.skip fun name => .bind (h.voidMethodRest hnames name) hplaced) ?_
  refine .skip fun type => .bind (name hnames) fun name hname => ?_
  refine .branch (.bind (h.methodRest hnames name) hplaced) ?_
  exact .bind (h.constantRest hnames type hname) fun _ hconstant =>
    .skip fun _ => .bind (.pure hconstant) hplaced

include hnames in
theorem interfaceDeclaration : Yields tokens Node.IsNamed rules.interfaceDeclaration := by
  refine .skip fun _ => .bind (name hnames) fun name hname => .skip fun _ => ?_
  refine .branch (.skip fun _ => ?_) ?_ <;>
    refine .skip fun _ => .bind (.itemsUntil (h.interfaceMember hnames)) ?_ <;>
    intro members hmembers <;>
    exact .skip fun _ => .pure (Node.isNamed_leaf.2 ⟨hname, allNamed_flatten hmembers⟩)

include hnames in
theorem annotationMember : Yields tokens Node.IsNamed rules.annotationMember := by
  refine .bind h.modifiers fun annotations hannotations => .skip fun token => ?_
  have hplaced : ∀ member : Node, member.IsNamed →
      Yields tokens Node.IsNamed (pure ((annotated annotations member).atLine token.line)) :=
    fun _ hmember => .pure (by simp [hannotations, hmember])
  refine .branch (.bind h.typeDeclaration hplaced) ?_
  refine .skip fun type => .bind (name hnames) fun name hname => ?_
  have hclosed : ∀ member : Node, member.IsNamed → Yields tokens Node.IsNamed (do
      expect [";"]
      let member ← pure member
      pure ((annotated annotations member).atLine token.line)) :=
    fun _ hmember => .skip fun _ => .bind (.pure hmember) hplaced
  refine .branch (.skip fun _ => .skip fun _ => ?_)
    (.bind (h.constantRest hnames type hname) hclosed)
  have hvalue : ∀ value, AllNamed value → Yields tokens Node.IsNamed (do
      let member ← pure (Node.plain value)
      expect [";"]
      let member ← pure member
      pure ((annotated annotations member).atLine token.line)) :=
    fun _ hvalue => .bind (.pure (Node.isNamed_plain.2 hvalue)) hclosed
  refine .branch ?_ (.bind (.pure allNamed_nil) hvalue)
  refine .bind (h.elementValue hnames) fun node hnode => ?_
  exact .bind (P := AllNamed) (.pure (by simpa using hnode)) hvalue

include hnames in
theorem annotationTypeDeclaration :
    Yields tokens Node.IsNamed rules.annotationTypeDeclaration := by
  refine .skip fun _ => .bind (name hnames) fun name hname => .skip fun _ => ?_
  refine .bind (.itemsUntil (h.annotationMember hnames)) fun _ hmembers => .skip fun _ => ?_
  exact .pure (Node.isNamed_leaf.2 ⟨hname, hmembers⟩)

include hnames in
theorem typeDeclarationRule : Yields tokens Node.IsNamed rules.typeDeclarationRule := by
  refine .skip fun token => .skip fun _ => .skip fun _ => .skip fun _ => .skip fun _ => ?_
  have hplaced : ∀ declaration : Node, declaration.IsNamed →
      Yields tokens Node.IsNamed (pure (declaration.atLine token.line)) :=
    fun _ hdeclaration => .pure (by simpa using hdeclaration)
  refine .ite (.bind (h.classDeclaration hnames) hplaced) ?_
  refine .ite (.bind (h.enumDeclaration hnames) hplaced) ?_
  refine .ite (.bind (h.interfaceDeclaration hnames) hplaced) ?_
  exact .ite (.bind (h.annotationTypeDeclaration hnames) hplaced) (.bind (.fail _) hplaced)

include hnames in
theorem deepen : rules.deepen.IsNamed tokens where
  expression := h.expressionRule hnames
  conditional := h.conditionalRule hnames
  operand := h.operandRule hnames
  annotationUse := h.annotationRule hnames
  statement := h.statementRule hnames
  blockStatement := h.blockStatementRule hnames
  classBody := h.classBodyRule hnames
  typeDeclaration := h.typeDeclarationRule hnames

omit h in
theorem refusing : Rules.refusing.IsNamed tokens where
  expression := .fail _
  conditional := .fail _
  operand := .fail _
  annotationUse := .fail _
  statement := .fail _
  blockStatement := .fail _
  classBody := .fail _
  typeDeclaration := .fail _

omit h in
include hnames in
/-- The rules of every depth declare names only. -/
theorem ofDepth (n : Nat) : (Rules.ofDepth n).IsNamed tokens := by
  induction n with
  | zero => exact refusing
  | succ n ih => exact ih.deepen hnames

theorem compilationUnit :
    Yields tokens (fun unit => AllNamed unit.types) rules.compilationUnit := by
  refine .skip fun _ => .skip fun _ => ?_
  refine .bind (P := fun types => ∀ item ∈ types, ∀ node ∈ item, node.IsNamed)
    (.collect (.skip fun _ => .ite .pure_none ?_)) fun types htypes => ?_
  · refine .closed (.branch (.pure_some (by simp)) ?_)
    exact .bind h.modifiedTypeDeclaration fun node hnode => .pure_some (by simpa using hnode)
  · refine .pure ?_
    intro node hnode
    obtain ⟨item, hitem, rfl⟩ := List.mem_filterMap.1 hnode
    exact htypes _ hitem node rfl

end Rules.IsNamed

section Identifiers

theorem isName_of_wordKind {c : Char} {rest : List Char} (hstart : Text.isIdentifierStart c = true)
    (hrest : ∀ a ∈ rest, Text.isIdentifierPart a = true)
    (hkind : wordKind (String.ofList (c :: rest)) = .identifier) :
    IsName (String.ofList (c :: rest)) := by
  have hpoint : Text.isIdentifierStart '.' = false ∧ Text.isIdentifierPart '.' = false := by
    decide +kernel
  refine ⟨by simp, ?_, ?_⟩
  · intro a ha
    simp only [String.toList_ofList, List.mem_cons] at ha
    simp only [Name.isPoint, beq_eq_false_iff_ne]
    rintro rfl
    obtain rfl | ha := ha
    · exact absurd hstart (by simp [hpoint.1])
    · exact absurd (hrest '.' ha) (by simp [hpoint.2])
  · intro hthis
    rw [hthis] at hkind
    exact absurd hkind (by decide +kernel)

/-- Only a word can be an identifier. -/
theorem word_of_front {c : Char} {rest text after : List Char}
    (h : front c rest = .ok (.token .identifier text after)) :
    Text.isIdentifierStart c = true ∧ text = c :: rest.takeWhile Text.isIdentifierPart ∧
      wordKind (String.ofList text) = .identifier := by
  unfold front at h
  -- one case for each kind of front, in the order in which they are tried
  obtain ⟨-, h⟩ | ⟨-, h⟩ := ite_eq_iff.1 h
  · cases h
  obtain ⟨-, h⟩ | ⟨-, h⟩ := ite_eq_iff.1 h
  · split at h <;> cases h
  obtain ⟨-, h⟩ | ⟨-, h⟩ := ite_eq_iff.1 h
  · split at h <;> cases h
  obtain ⟨-, h⟩ | ⟨-, h⟩ := ite_eq_iff.1 h
  · cases h
  obtain ⟨-, h⟩ | ⟨-, h⟩ := ite_eq_iff.1 h
  · cases h
  obtain ⟨-, h⟩ | ⟨-, h⟩ := ite_eq_iff.1 h
  · obtain ⟨n, -, h⟩ := map_eq_ok.1 h
    cases h
  obtain ⟨-, h⟩ | ⟨-, h⟩ := ite_eq_iff.1 h
  · cases h
  obtain ⟨-, h⟩ | ⟨-, h⟩ := ite_eq_iff.1 h
  · split at h <;> cases h
  obtain ⟨-, h⟩ | ⟨-, h⟩ := ite_eq_iff.1 h
  · obtain ⟨n, -, h⟩ := map_eq_ok.1 h
    cases h
  obtain ⟨hstart, h⟩ | ⟨-, h⟩ := ite_eq_iff.1 h
  · simp only [Except.ok.injEq, Front.token.injEq] at h
    obtain ⟨hkind, rfl, -⟩ := h
    exact ⟨hstart, rfl, hkind⟩
  · split at h <;> cases h

theorem isName_of_scan {fuel line : Nat} {text : List Char} {tokens : List Token}
    (h : scan fuel line text = .ok tokens) :
    ∀ token ∈ tokens, token.kind = .identifier → IsName token.text := by
  fun_induction scan fuel line text generalizing tokens with
  | case1 =>
    cases h
    simp
  | case2 => cases h
  | case3 => cases h
  | case4 fuel line c rest lines after hfront ih => exact ih h
  | case5 fuel line c rest kind word after hfront ih =>
    obtain ⟨later, hlater, rfl⟩ := map_eq_ok.1 h
    refine List.forall_mem_cons.2 ⟨?_, ih hlater⟩
    rintro rfl
    obtain ⟨hstart, rfl, hkind⟩ := word_of_front hfront
    exact isName_of_wordKind hstart (List.all_eq_true.1 List.all_takeWhile) hkind

theorem isName_of_tokenize {source : List Char} {tokens : List Token}
    (h : tokenize source = .ok tokens) :
    ∀ token ∈ tokens, token.kind = .identifier → IsName token.text := by
  obtain ⟨text, -, hscan⟩ := bind_eq_ok.1 h
  exact isName_of_scan hscan

end Identifiers

/-- In a parsed file everything is declared under a name. -/
theorem CompilationUnit.allNamed_of_parse {text : List Char} {unit : CompilationUnit}
    (h : parse text = .ok (.ok unit)) : AllNamed unit.types := by
  unfold parse at h
  split at h
  · cases h
  · cases h
  · cases h
  · rename_i tokens htokens
    split at h
    · rename_i found hfound
      cases h
      have hnames : ∀ token ∈ tokens.toArray, token.kind = .identifier → IsName token.text := by
        simpa using isName_of_tokenize htokens
      have hrules := Rules.IsNamed.ofDepth hnames (8 * tokens.toArray.size + 16)
      exact hrules.compilationUnit ⟨0, 0⟩ unit _ (Prod.ext hfound rfl)
    · cases h
    · cases h
    · cases h

end Ripple.Java
