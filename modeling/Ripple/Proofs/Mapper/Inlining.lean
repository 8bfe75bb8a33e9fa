-- SUMMARY: Including fragments gives the text of the document with its fragments substituted, if there is no cycle.
import Ripple.Mapper.Reading
import Ripple.Proofs.Fields
import Ripple.Proofs.Mapper.Expansion
import Mathlib.Logic.Relation

/-!
# Including is substitution

A document can be written without its fragments: in place of every element that stands for one there
is an element with the content of the fragment, in which the same has been done. Where the fragments
that a statement refers to form no cycle, its text with the fragments is its text in that document.
-/

namespace Ripple

namespace Xml.Node

/-- The node at a position: which one inside the node, which one inside that, and so on. -/
def at? : Node → List Nat → Option Node
  | node, [] => some node
  | node, i :: position => node.content[i]?.bind (at? · position)

mutual

/-- The pieces of text of a node, in document order. -/
def pieces : Node → List (List Char)
  | .text content => piece content
  | .element _ _ content => piecesAll content

def piecesAll : List Node → List (List Char)
  | [] => []
  | node :: rest => pieces node ++ piecesAll rest

end

end Xml.Node

namespace Mapper

open Relation

/-! ## Fragments by name -/

/-- Whether an element answers to a name, which is its id or its id in the namespace. -/
def answersTo (space name : String) (fragment : Xml.Node) : Bool :=
  (fragment.given? "id").any fun id => name == id || name == space ++ "." ++ id

/-- The last fragment of a document that answers to a name. -/
def fragment? (space : String) (root : Xml.Node) (name : String) : Option Xml.Node :=
  ((root.elementsTagged "sql").filter (answersTo space name)).getLast?

theorem lookup_add (space : String) (fragments : Fragments) (node : Xml.Node) (name : String) :
    (fragments.add space node).lookup name =
      if answersTo space name node then some node else fragments.lookup name := by
  unfold answersTo Fragments.add
  cases node.given? "id" with
  | none => rfl
  | some id =>
    simp only [List.lookup_cons, Option.any_some, Bool.or_eq_true]
    cases name == space ++ "." ++ id <;> cases name == id <;> simp

theorem lookup_foldl_add (space : String) (nodes : List Xml.Node) (fragments : Fragments)
    (name : String) :
    (nodes.foldl (Fragments.add space) fragments).lookup name =
      (nodes.filter (answersTo space name)).getLast?.or (fragments.lookup name) := by
  induction nodes generalizing fragments with
  | nil => rfl
  | cons node rest ih =>
    rw [List.foldl_cons, ih, lookup_add, List.filter_cons]
    split
    · rw [List.getLast?_cons]
      cases (rest.filter (answersTo space name)).getLast? <;> rfl
    · rfl

/-- A name leads to the last fragment that answers to it. -/
theorem lookup_ofRoot (space : String) (root : Xml.Node) (name : String) :
    (Fragments.ofRoot space root).lookup name = fragment? space root name := by
  rw [Fragments.ofRoot, lookup_foldl_add]
  exact Option.or_none

/-! ## Documents without fragments -/

section
variable (named : String → Option Xml.Node)

/-- Whether a node stands for no fragment. -/
def IsPlain (node : Xml.Node) : Prop :=
  ∀ name, node.reference? = some name → named name = none

/-- Nodes are turned into others by putting elements with the content of the fragments, in which the
same has been done, in place of the elements that stand for fragments. -/
inductive Inlined : List Xml.Node → List Xml.Node → Prop
  | nil : Inlined [] []
  | text (content : String) {rest rest' : List Xml.Node} (later : Inlined rest rest') :
      Inlined (.text content :: rest) (.text content :: rest')
  | element {tag : String} {attributes : List (String × String)}
      {content content' rest rest' : List Xml.Node}
      (plain : IsPlain named (.element tag attributes content)) (inside : Inlined content content')
      (later : Inlined rest rest') :
      Inlined (.element tag attributes content :: rest) (.element tag attributes content' :: rest')
  | fragment {node fragment : Xml.Node} {name : String} {content rest rest' : List Xml.Node}
      (refers : node.reference? = some name) (found : named name = some fragment)
      (inside : Inlined fragment.content content) (later : Inlined rest rest') (tag : String)
      (attributes : List (String × String)) :
      Inlined (node :: rest) (.element tag attributes content :: rest')

/-- Whether nodes refer to a fragment under a name. What is inside an element that stands for a
fragment does not count. -/
inductive Includes : List Xml.Node → String → Prop
  | here {node : Xml.Node} {rest : List Xml.Node} {name : String}
      (refers : node.reference? = some name) (found : named name ≠ none) :
      Includes (node :: rest) name
  | inside {node : Xml.Node} {rest : List Xml.Node} {name : String} (plain : IsPlain named node)
      (included : Includes node.content name) : Includes (node :: rest) name
  | later {node : Xml.Node} {rest : List Xml.Node} {name : String}
      (included : Includes rest name) : Includes (node :: rest) name

/-- Whether the fragment of one name refers to a fragment under another. -/
def Refers (name next : String) : Prop :=
  ∃ fragment, named name = some fragment ∧ Includes named fragment.content next

/-- Whether no fragment that can be reached from nodes can be reached from itself. -/
def IsAcyclic (nodes : List Xml.Node) : Prop :=
  ∀ name, Includes named nodes name → ∀ reached, ReflTransGen (Refers named) name reached →
    ¬ TransGen (Refers named) reached reached

/-- Whether the same is so and no name that is being expanded can be reached. -/
def Avoids (expanding : List String) (nodes : List Xml.Node) : Prop :=
  ∀ name, Includes named nodes name → ∀ reached, ReflTransGen (Refers named) name reached →
    reached ∉ expanding ∧ ¬ TransGen (Refers named) reached reached

/-- Whether a position is inside no element that stands for a fragment. -/
def IsVisible (root : Xml.Node) (position : List Nat) : Prop :=
  ∀ above i below, position = above ++ i :: below → ∀ node, root.at? above = some node →
    IsPlain named node

end

section
variable {named : String → Option Xml.Node} {expanding : List String} {nodes : List Xml.Node}

theorem IsAcyclic.avoids (h : IsAcyclic named nodes) : Avoids named [] nodes := by
  intro name hname reached hreached
  exact ⟨List.not_mem_nil, h name hname reached hreached⟩

theorem Avoids.later {node : Xml.Node} {rest : List Xml.Node}
    (h : Avoids named expanding (node :: rest)) : Avoids named expanding rest := by
  intro name hname
  exact h name (.later hname)

theorem Avoids.inside {node : Xml.Node} {rest : List Xml.Node}
    (h : Avoids named expanding (node :: rest)) (plain : IsPlain named node) :
    Avoids named expanding node.content := by
  intro name hname
  exact h name (.inside plain hname)

/-- A fragment that is entered cannot be reached from itself, so its name is avoided inside it. -/
theorem Avoids.fragment {node fragment : Xml.Node} {rest : List Xml.Node} {name : String}
    (h : Avoids named expanding (node :: rest)) (refers : node.reference? = some name)
    (found : named name = some fragment) :
    name ∉ expanding ∧ Avoids named (name :: expanding) fragment.content := by
  have hname : Includes named (node :: rest) name := .here refers (by simp [found])
  refine ⟨(h name hname name .refl).1, ?_⟩
  intro next hnext reached hreached
  have hstep : Refers named name next := ⟨fragment, found, hnext⟩
  obtain ⟨havoided, hacyclic⟩ := h name hname reached (.head hstep hreached)
  refine ⟨?_, hacyclic⟩
  intro hmem
  obtain rfl | hmem := List.mem_cons.1 hmem
  · -- then the fragment would be reached from itself
    exact hacyclic (.head' hstep hreached)
  · exact havoided hmem

end

/-! ## Inlining -/

section
variable {fragments : Fragments} {expanding : List String} {nodes nodes' : List Xml.Node}

theorem isPlain_or_fragment (named : String → Option Xml.Node) (node : Xml.Node) :
    IsPlain named node ∨
      ∃ name fragment, node.reference? = some name ∧ named name = some fragment := by
  cases hreference : node.reference? with
  | none => exact .inl fun name hname => by simp [hreference] at hname
  | some name =>
    cases hnamed : named name with
    | none =>
      refine .inl fun other hother => ?_
      obtain rfl : name = other := by simpa [hreference] using hother
      exact hnamed
    | some fragment => exact .inr ⟨name, fragment, rfl, hnamed⟩

/-- A node that stands for no fragment is read itself. -/
theorem included?_of_isPlain {node : Xml.Node} (h : IsPlain (fragments.lookup ·) node) :
    Collection.included? fragments expanding node = none := by
  rw [Option.eq_none_iff_forall_ne_some]
  rintro ⟨name, fragment⟩ hincluded
  obtain ⟨hreference, hlookup, -⟩ := Collection.included?_eq_some.1 hincluded
  have hnone : fragments.lookup name = none := h name hreference
  rw [hnone] at hlookup
  cases hlookup

/-- Fragments without a cycle can be inlined: inside a fragment there are fewer names that are not
being expanded. -/
theorem exists_inlined (fragments : Fragments) (expanding : List String) (nodes : List Xml.Node)
    (h : Avoids (fragments.lookup ·) expanding nodes) :
    ∃ nodes', Inlined (fragments.lookup ·) nodes nodes' := by
  match nodes with
  | [] => exact ⟨[], .nil⟩
  | .text content :: rest =>
    obtain ⟨rest', hrest⟩ := exists_inlined fragments expanding rest h.later
    exact ⟨_, .text content hrest⟩
  | .element tag attributes content :: rest =>
    obtain ⟨rest', hrest⟩ := exists_inlined fragments expanding rest h.later
    obtain plain | ⟨name, fragment, refers, found⟩ :=
      isPlain_or_fragment (fragments.lookup ·) (.element tag attributes content)
    · obtain ⟨content', hinside⟩ := exists_inlined fragments expanding content (h.inside plain)
      exact ⟨_, .element plain hinside hrest⟩
    · -- the content of the fragment may be larger than the element, but its name is used up
      obtain ⟨hnew, havoids⟩ := h.fragment refers found
      have hfewer : Collection.unexpanded fragments (name :: expanding) <
          Collection.unexpanded fragments expanding :=
        Collection.unexpanded_cons_lt found (by simpa using hnew)
      obtain ⟨content', hinside⟩ :=
        exists_inlined fragments (name :: expanding) fragment.content havoids
      exact ⟨_, .fragment refers found hinside hrest tag attributes⟩
termination_by (Collection.unexpanded fragments expanding, Xml.Node.sizeAll nodes)
decreasing_by
  · exact .right _ (by simp only [Xml.Node.sizeAll, Xml.Node.size]; omega)
  · exact .right _ (by simp only [Xml.Node.sizeAll, Xml.Node.size]; omega)
  · exact .right _ (by simp only [Xml.Node.sizeAll, Xml.Node.size]; omega)
  · exact .left _ _ hfewer

/-- What is read of nodes is the text of the nodes without fragments. -/
theorem Inlined.reaches (h : Inlined (fragments.lookup ·) nodes nodes')
    (havoids : Avoids (fragments.lookup ·) expanding nodes) (name : Option String)
    (outer : List Reading) (pieces : List (List Char)) :
    Collection.Reaches fragments outer.length ⟨⟨nodes, name⟩ :: outer, expanding, pieces⟩
      ⟨⟨[], name⟩ :: outer, expanding, pieces ++ Xml.Node.piecesAll nodes'⟩ := by
  induction h generalizing expanding name outer pieces with
  | nil =>
    rw [Xml.Node.piecesAll, List.append_nil]
    exact .refl (by simp)
  | text content later ih =>
    rw [Xml.Node.piecesAll, ← List.append_assoc]
    exact .of_text (ih havoids.later _ _ _)
  | @element tag attributes content content' rest rest' plain inside later ih ihlater =>
    have hinside := ih (havoids.inside plain) none (⟨rest, name⟩ :: outer) pieces
    rw [Xml.Node.piecesAll, ← List.append_assoc]
    exact .of_element (included?_of_isPlain plain) hinside (ihlater havoids.later _ _ _)
  | @fragment node fragment included content rest rest' refers found inside later tag attributes ih
      ihlater =>
    -- the name is not being expanded, so the fragment is not passed over
    obtain ⟨hnew, havoided⟩ := havoids.fragment refers found
    have hincluded : Collection.included? fragments expanding node = some (included, fragment) :=
      Collection.included?_eq_some.2 ⟨refers, found, hnew⟩
    have hinside := ih havoided (some included) (⟨rest, name⟩ :: outer) pieces
    rw [Xml.Node.piecesAll, ← List.append_assoc]
    exact .of_included hincluded hinside (ihlater havoids.later _ _ _)

/-- The text of an element is the text of its content without fragments. -/
theorem Inlined.textOf_eq {node : Xml.Node} (h : Inlined (fragments.lookup ·) node.content nodes')
    (havoids : Avoids (fragments.lookup ·) [] node.content) :
    fragments.textOf node =
      String.ofList (Text.singleSpaced ([' '].intercalate (Xml.Node.piecesAll nodes'))) := by
  obtain ⟨n, hn⟩ := (h.reaches havoids none [] []).exists_iterate
  have hlast : (Collection.step fragments)^[n + 1] { readings := [⟨node.content, none⟩] } =
      ⟨[], [], Xml.Node.piecesAll nodes'⟩ := by
    rw [Function.iterate_succ_apply', hn]
    rfl
  have hrun := Collection.run_eq_iterate (congrArg Collection.readings hlast)
  rw [Fragments.textOf, hrun, hlast]

end

/-! ## Documents in which nothing is included -/

theorem isPlain_nil (node : Xml.Node) : IsPlain (([] : Fragments).lookup ·) node :=
  fun _ _ => rfl

theorem not_includes_nil (nodes : List Xml.Node) (name : String) :
    ¬ Includes (([] : Fragments).lookup ·) nodes name := by
  intro h
  induction h with
  | here _ found => exact found rfl
  | inside _ _ ih => exact ih
  | later _ ih => exact ih

theorem inlined_nil (nodes : List Xml.Node) : Inlined (([] : Fragments).lookup ·) nodes nodes := by
  match nodes with
  | [] => exact .nil
  | .text content :: rest => exact .text content (inlined_nil rest)
  | .element tag attributes content :: rest =>
    exact .element (isPlain_nil _) (inlined_nil content) (inlined_nil rest)

theorem textOf_nil (node : Xml.Node) :
    Fragments.textOf [] node =
      String.ofList (Text.singleSpaced ([' '].intercalate (Xml.Node.piecesAll node.content))) := by
  apply (inlined_nil node.content).textOf_eq
  intro name hname
  exact absurd hname (not_includes_nil _ _)

/-! ## Positions -/

section
variable {named : String → Option Xml.Node}

theorem Inlined.getElem? {nodes nodes' : List Xml.Node} (h : Inlined named nodes nodes') {i : Nat}
    {node : Xml.Node} (hnode : nodes[i]? = some node) :
    ∃ node', nodes'[i]? = some node' ∧ Inlined named [node] [node'] := by
  induction h generalizing i with
  | nil => simp at hnode
  | text content later ih =>
    cases i with
    | zero =>
      cases hnode
      exact ⟨_, rfl, .text content .nil⟩
    | succ i => exact ih hnode
  | element plain inside later _ ih =>
    cases i with
    | zero =>
      cases hnode
      exact ⟨_, rfl, .element plain inside .nil⟩
    | succ i => exact ih hnode
  | fragment refers found inside later tag attributes _ ih =>
    cases i with
    | zero =>
      cases hnode
      exact ⟨_, rfl, .fragment refers found inside .nil tag attributes⟩
    | succ i => exact ih hnode

/-- An element that stands for no fragment stays, with what is inside it inlined. -/
theorem Inlined.exists_content {tag : String} {attributes : List (String × String)}
    {content : List Xml.Node} {node' : Xml.Node}
    (h : Inlined named [.element tag attributes content] [node'])
    (plain : IsPlain named (.element tag attributes content)) :
    ∃ content', node' = .element tag attributes content' ∧ Inlined named content content' := by
  cases h with
  | element _ inside _ => exact ⟨_, rfl, inside⟩
  | fragment refers found _ _ _ _ =>
    rw [plain _ refers] at found
    cases found

/-- What is inside no element that stands for a fragment is found where it was. -/
theorem Inlined.at? {node node' target : Xml.Node} {position : List Nat}
    (h : Inlined named [node] [node']) (hvisible : IsVisible named node position)
    (htarget : node.at? position = some target) :
    ∃ target', node'.at? position = some target' ∧ Inlined named [target] [target'] := by
  induction position generalizing node node' with
  | nil =>
    cases htarget
    exact ⟨node', rfl, h⟩
  | cons i position ih =>
    obtain ⟨next, hnext, hinner⟩ := Option.bind_eq_some_iff.1 htarget
    cases node with
    | text content => cases hnext
    | element tag attributes content =>
      have plain : IsPlain named (.element tag attributes content) :=
        hvisible [] i position rfl _ rfl
      obtain ⟨content', rfl, hinside⟩ := h.exists_content plain
      obtain ⟨next', hnext', hinlined⟩ := hinside.getElem? hnext
      have hbelow : IsVisible named next position := by
        rintro above j below rfl found hfound
        apply hvisible (i :: above) j below rfl found
        exact Option.bind_eq_some_iff.2 ⟨next, hnext, hfound⟩
      obtain ⟨target', htarget', htargets⟩ := ih hinlined hbelow hinner
      exact ⟨target', Option.bind_eq_some_iff.2 ⟨next', hnext', htarget'⟩, htargets⟩

end

theorem mem_nodesOf {node found : Xml.Node} {nodes : List Xml.Node} (hnode : node ∈ nodes)
    (hfound : found ∈ node.nodes) : found ∈ Xml.Node.nodesOf nodes := by
  induction nodes with
  | nil => cases hnode
  | cons first rest ih =>
    rw [Xml.Node.nodesOf, List.mem_append]
    obtain rfl | hrest := List.mem_cons.1 hnode
    · exact .inl hfound
    · exact .inr (ih hrest)

theorem mem_nodes_of_at? {node target : Xml.Node} {position : List Nat}
    (h : node.at? position = some target) : target ∈ node.nodes := by
  induction position generalizing node with
  | nil =>
    cases h
    cases target <;> simp [Xml.Node.nodes]
  | cons i position ih =>
    obtain ⟨next, hnext, hinner⟩ := Option.bind_eq_some_iff.1 h
    cases node with
    | text content => cases hnext
    | element tag attributes content =>
      exact List.mem_cons_of_mem _ (mem_nodesOf (List.mem_of_getElem? hnext) (ih hinner))

/-! ## Statements -/

/-- A statement is no `include`. -/
theorem isPlain_of_mem_kinds (named : String → Option Xml.Node) {kind : String}
    (hkind : kind ∈ Statement.kinds) (attributes : List (String × String))
    (content : List Xml.Node) : IsPlain named (.element kind attributes content) := by
  have hother : kind ≠ "include" := by
    rintro rfl
    revert hkind
    decide
  intro name hname
  simp [Xml.Node.reference?, Xml.Node.tag?, hother] at hname

section
variable {path moduleName kind : String} {root : Xml.Node} {position : List Nat}
  {attributes : List (String × String)} {content : List Xml.Node} {statement : Statement}

/-- The statement of an element of the document is among the statements of the document. -/
theorem mem_statements? (includes : Bool) (hspace : trimmedAttribute "namespace" root ≠ "")
    (hkind : kind ∈ Statement.kinds)
    (hat : root.at? position = some (.element kind attributes content))
    (hstatement : statement? path moduleName (trimmedAttribute "namespace" root)
      (if includes then Fragments.ofRoot (trimmedAttribute "namespace" root) root else []) kind
      (.element kind attributes content) = some statement) :
    ∃ statements, statements? includes path moduleName root = some statements ∧
      statement ∈ statements := by
  have htagged : .element kind attributes content ∈ root.elementsTagged kind :=
    List.mem_filter.2 ⟨mem_nodes_of_at? hat, by simp [Xml.Node.tag?]⟩
  unfold statements?
  split
  next hempty => exact absurd hempty hspace
  next =>
    refine ⟨_, rfl, List.mem_flatMap.2 ⟨kind, hkind, ?_⟩⟩
    exact List.mem_filterMap.2 ⟨_, htagged, hstatement⟩

/-- A document with a statement keeps its attributes. -/
theorem trimmedAttribute_of_inlined {named : String → Option Xml.Node} {root' : Xml.Node}
    (hkind : kind ∈ Statement.kinds)
    (hat : root.at? position = some (.element kind attributes content))
    (hroot : Inlined named [root] [root']) (hvisible : IsVisible named root position)
    (name : String) : trimmedAttribute name root' = trimmedAttribute name root := by
  have plain : IsPlain named root := by
    cases position with
    | nil =>
      cases hat
      exact isPlain_of_mem_kinds named hkind attributes content
    | cons i position => exact hvisible [] i position rfl root rfl
  cases hroot with
  | text content later =>
    cases later
    rfl
  | element _ _ _ => rfl
  | fragment refers found _ _ _ _ =>
    rw [plain _ refers] at found
    cases found

theorem statement?_congr {space : String} {fragments fragments' : Fragments}
    {content' : List Xml.Node}
    (h : fragments.textOf (.element kind attributes content) =
      fragments'.textOf (.element kind attributes content')) :
    statement? path moduleName space fragments kind (.element kind attributes content) =
      statement? path moduleName space fragments' kind (.element kind attributes content') := by
  unfold statement?
  rw [h]
  rfl

end

/-- Including is substitution. Let the fragments that can be reached from a statement form no cycle.
Then it can be written without fragments, and however that is done, the statement that is read from
it with the fragments of the document is the one that is read without any. In a document that is
written without fragments as a whole, the statement stands where it was, unless it was inside an
element that stands for a fragment. -/
theorem statement_inlined (path moduleName kind : String) (root : Xml.Node) (position : List Nat)
    (attributes : List (String × String)) (content : List Xml.Node)
    (hspace : trimmedAttribute "namespace" root ≠ "") (hkind : kind ∈ Statement.kinds)
    (hat : root.at? position = some (.element kind attributes content))
    (hacyclic : IsAcyclic (fragment? (trimmedAttribute "namespace" root) root) content) :
    let space := trimmedAttribute "namespace" root
    let named := fragment? space root
    (∃ content', Inlined named content content') ∧
    (∀ content', Inlined named content content' →
      statement? path moduleName space (Fragments.ofRoot space root) kind
          (.element kind attributes content) =
        statement? path moduleName space [] kind (.element kind attributes content')) ∧
    ∀ root', Inlined named [root] [root'] → IsVisible named root position →
      ∃ content', root'.at? position = some (.element kind attributes content') ∧
        Inlined named content content' ∧
        ∀ statement, statement? path moduleName space (Fragments.ofRoot space root) kind
            (.element kind attributes content) = some statement →
          (∃ statements, statements? true path moduleName root = some statements ∧
            statement ∈ statements) ∧
          ∃ statements, statements? false path moduleName root' = some statements ∧
            statement ∈ statements := by
  intro space named
  have hnamed : named = ((Fragments.ofRoot space root).lookup ·) :=
    funext fun name => (lookup_ofRoot space root name).symm
  have havoids : Avoids ((Fragments.ofRoot space root).lookup ·) [] content := by
    rw [← hnamed]
    exact hacyclic.avoids
  have hsame : ∀ content', Inlined named content content' →
      statement? path moduleName space (Fragments.ofRoot space root) kind
          (.element kind attributes content) =
        statement? path moduleName space [] kind (.element kind attributes content') := by
    intro content' hinlined
    rw [hnamed] at hinlined
    apply statement?_congr
    rw [textOf_nil]
    exact hinlined.textOf_eq havoids
  refine ⟨?_, hsame, ?_⟩
  · rw [hnamed]
    exact exists_inlined _ _ _ havoids
  · intro root' hroot hvisible
    obtain ⟨target, htarget, hinlined⟩ := hroot.at? hvisible hat
    obtain ⟨content', rfl, hcontent⟩ :=
      hinlined.exists_content (isPlain_of_mem_kinds named hkind attributes content)
    refine ⟨content', htarget, hcontent, ?_⟩
    intro statement hstatement
    have hspace' := trimmedAttribute_of_inlined hkind hat hroot hvisible "namespace"
    have hplain := (hsame content' hcontent).symm.trans hstatement
    refine ⟨mem_statements? true hspace hkind hat hstatement, ?_⟩
    apply mem_statements? false (by rwa [hspace']) hkind htarget
    rw [hspace']
    exact hplain

/-! ## Ranks -/

theorem Includes.mem_references {named : String → Option Xml.Node} {nodes : List Xml.Node}
    {name : String} (h : Includes named nodes name) :
    name ∈ (Xml.Node.nodesOf nodes).filterMap Xml.Node.reference? := by
  rw [List.mem_filterMap]
  induction h with
  | @here node rest name refers _ =>
    have hself : node ∈ node.nodes := mem_nodes_of_at? (rfl : node.at? [] = some node)
    exact ⟨node, mem_nodesOf List.mem_cons_self hself, refers⟩
  | @inside node rest name _ _ ih =>
    obtain ⟨found, hfound, hname⟩ := ih
    cases node with
    | text content => cases hfound
    | element tag attributes content =>
      exact ⟨found, mem_nodesOf List.mem_cons_self (List.mem_cons_of_mem _ hfound), hname⟩
  | later _ ih =>
    obtain ⟨found, hfound, hname⟩ := ih
    exact ⟨found, List.mem_append_right _ hfound, hname⟩

/-- Fragments form no cycle if they can be ranked so that each refers to lower ones only. -/
theorem isAcyclic_of_rank {fragments : Fragments} (rank : String → Nat)
    (h : ∀ entry ∈ fragments, ∀ next ∈ (Xml.Node.nodesOf entry.2.content).filterMap
      Xml.Node.reference?, rank next < rank entry.1) (nodes : List Xml.Node) :
    IsAcyclic (fragments.lookup ·) nodes := by
  have hstep : ∀ name next, Refers (fragments.lookup ·) name next → rank next < rank name := by
    rintro name next ⟨fragment, hlookup, hnext⟩
    exact h (name, fragment) (mem_of_lookup hlookup) next hnext.mem_references
  have hlower : ∀ name next, TransGen (Refers (fragments.lookup ·)) name next →
      rank next < rank name := by
    intro name next hreached
    induction hreached with
    | single hrefers => exact hstep _ _ hrefers
    | tail _ hrefers ih => exact Nat.lt_trans (hstep _ _ hrefers) ih
  intro name _ reached _ hcycle
  exact Nat.lt_irrefl _ (hlower reached reached hcycle)

/-- A fragment that includes another under its name in the namespace, and a statement that includes
both and an unknown one. The second fragment with an id counts. -/
def sample : Xml.Node :=
  .element "mapper" [("namespace", "shop")]
    [.element "sql" [("id", "columns")]
      [.text "id, ", .element "include" [("refid", "shop.status")] [], .text ", total"],
    .element "sql" [("id", "status")] [.text "old"],
    .element "sql" [("id", "status")] [.text "status"],
    .element "select" [("id", "find")]
      [.text "SELECT ", .element "include" [("refid", "columns")] [],
        .element "include" [("refid", "other")]
          [.text ", ", .element "include" [("refid", "status")] []],
        .text " FROM orders"]]

theorem statement_inlined_sample :
    ∃ content, sample.at? [3] = some (.element "select" [("id", "find")] content) ∧
      IsAcyclic (fragment? "shop" sample) content ∧
      (Fragments.ofRoot "shop" sample).textOf (.element "select" [("id", "find")] content) =
        "SELECT id, status , total , status FROM orders" ∧
      ∃ content', Inlined (fragment? "shop" sample) content content' ∧
        statement? "find.xml" "core" "shop" (Fragments.ofRoot "shop" sample) "select"
            (.element "select" [("id", "find")] content) =
          statement? "find.xml" "core" "shop" [] "select"
            (.element "select" [("id", "find")] content') := by
  have hspace : trimmedAttribute "namespace" sample = "shop" := by decide +kernel
  have hacyclic : ∀ content, IsAcyclic (fragment? "shop" sample) content := by
    have hnamed : fragment? "shop" sample = ((Fragments.ofRoot "shop" sample).lookup ·) :=
      funext fun name => (lookup_ofRoot "shop" sample name).symm
    intro content
    rw [hnamed]
    apply isAcyclic_of_rank fun name => if name = "columns" ∨ name = "shop.columns" then 1 else 0
    decide +kernel
  refine ⟨_, rfl, hacyclic _, by decide +kernel, ?_⟩
  obtain ⟨⟨content', hinlined⟩, hsame, -⟩ := statement_inlined "find.xml" "core" "select" sample [3]
    [("id", "find")] _ (by rw [hspace]; decide) (by decide) rfl (by rw [hspace]; exact hacyclic _)
  rw [hspace] at hinlined hsame
  exact ⟨content', hinlined, hsame content' hinlined⟩

end Mapper

end Ripple
