-- SUMMARY: The words of a statement without fragments are those of its element, in document order.
import Ripple.Proofs.Mapper.Inlining
import Ripple.Proofs.Text.Words

/-!
# The words of a statement

Where nothing is included, the text of a statement is the words of all texts inside its element, in
document order and one space apart.
-/

namespace Ripple

namespace Xml.Node

def text? : Node → Option String
  | .text content => some content
  | .element _ _ _ => none

/-- The texts inside a node, in document order. -/
def texts (node : Node) : List String :=
  node.nodes.filterMap text?

mutual

theorem pieces_eq (node : Node) : pieces node = (node.nodes.filterMap text?).flatMap piece := by
  cases node with
  | text content => simp [pieces, nodes, text?]
  | element tag attributes content =>
    rw [pieces, nodes, List.filterMap_cons_none rfl]
    exact piecesAll_eq content

theorem piecesAll_eq (content : List Node) :
    piecesAll content = ((nodesOf content).filterMap text?).flatMap piece := by
  cases content with
  | nil => rfl
  | cons node rest =>
    rw [piecesAll, nodesOf, List.filterMap_append, List.flatMap_append, pieces_eq node,
      piecesAll_eq rest]

end

/-- A piece has the words of the text that it was trimmed from. -/
theorem flatMap_words_piece (content : String) :
    (piece content).flatMap Text.words = Text.wordsBetween Text.isBlank content.toList := by
  rw [Text.words_eq_wordsBetween, ← Text.wordsBetween_trim, piece]
  split
  next hnil => simp [hnil]
  next => simp

end Xml.Node

namespace Mapper

/-- The words of the texts inside a node, in document order. -/
def wordsOf (node : Xml.Node) : List (List Char) :=
  node.texts.flatMap fun text => Text.wordsBetween Text.isBlank text.toList

/-- The words of the pieces are the words of the texts. -/
theorem flatMap_words_pieces (node : Xml.Node) : node.pieces.flatMap Text.words = wordsOf node := by
  rw [Xml.Node.pieces_eq, List.flatMap_assoc]
  simp only [Xml.Node.flatMap_words_piece]
  rfl

theorem isWord_of_mem_wordsOf {node : Xml.Node} {word : List Char} (h : word ∈ wordsOf node) :
    Text.IsWord word := by
  rw [← flatMap_words_pieces] at h
  obtain ⟨piece, -, hword⟩ := List.mem_flatMap.1 h
  exact Text.isWord_of_mem_words hword

/-- The text of an element is its words, one space apart. -/
theorem toList_textOf_nil (tag : String) (attributes : List (String × String))
    (content : List Xml.Node) :
    (Fragments.textOf [] (.element tag attributes content)).toList =
      [' '].intercalate (wordsOf (.element tag attributes content)) := by
  have hblank : Text.isBlank ' ' = true := rfl
  have hpieces : Text.words ([' '].intercalate (Xml.Node.piecesAll content)) =
      (Xml.Node.piecesAll content).flatMap Text.words := by
    rw [Text.words_eq_wordsBetween, Text.wordsBetween_intercalate hblank]
  rw [textOf_nil, String.toList_ofList, Text.singleSpaced, Xml.Node.content, hpieces,
    ← flatMap_words_pieces]
  rfl

/-! ## Statements -/

/-- The elements of a document that statements are read from, kind by kind: those with an id. -/
def statementElements (root : Xml.Node) : List Xml.Node :=
  Statement.kinds.flatMap fun kind =>
    (root.elementsTagged kind).filter fun node => !(trimmedAttribute "id" node).isEmpty

/-- Whether a statement is that of an element and has its words, one space apart. -/
structure KeepsWords (node : Xml.Node) (statement : Statement) : Prop where
  kind : node.tag? = some statement.kind
  statementId : trimmedAttribute "id" node = statement.statementId
  spaced : Text.IsSingleSpaced statement.rawSql.toList
  words : Text.wordsBetween (· == ' ') statement.rawSql.toList = wordsOf node

section
variable {path moduleName space kind : String}

theorem statement?_of_id_eq_empty {node : Xml.Node} (h : trimmedAttribute "id" node = "")
    (fragments : Fragments) : statement? path moduleName space fragments kind node = none := by
  simp only [statement?, h]

theorem exists_statement?_keepsWords {node : Xml.Node} (hkind : node.tag? = some kind)
    (h : trimmedAttribute "id" node ≠ "") :
    ∃ statement, statement? path moduleName space [] kind node = some statement ∧
      KeepsWords node statement := by
  cases node with
  | text content => cases hkind
  | element tag attributes content =>
    unfold statement?
    split
    next hempty => exact absurd hempty h
    next =>
      refine ⟨_, rfl, hkind, rfl, ?_, ?_⟩
      · rw [toList_textOf_nil]
        exact Text.isSingleSpaced_intercalate fun word => isWord_of_mem_wordsOf
      · rw [toList_textOf_nil]
        exact Text.wordsBetween_space_intercalate fun word => isWord_of_mem_wordsOf

/-- The statements of one kind are those of the elements of this kind with an id, in order. -/
theorem forall₂_statementsOfKind (root : Xml.Node) :
    List.Forall₂ KeepsWords
      ((root.elementsTagged kind).filter fun node => !(trimmedAttribute "id" node).isEmpty)
      (statementsOfKind path moduleName space [] root kind) := by
  unfold statementsOfKind
  have htagged : ∀ node ∈ root.elementsTagged kind, node.tag? = some kind := by
    intro node hnode
    simpa using (List.mem_filter.1 hnode).2
  generalize root.elementsTagged kind = nodes at htagged ⊢
  induction nodes with
  | nil => exact .nil
  | cons node rest ih =>
    obtain ⟨hnode, hrest⟩ := List.forall_mem_cons.1 htagged
    by_cases hid : trimmedAttribute "id" node = ""
    · -- passed over on both sides
      rw [List.filter_cons_of_neg (by simp [hid]),
        List.filterMap_cons_none (statement?_of_id_eq_empty hid [])]
      exact ih hrest
    · obtain ⟨statement, hstatement, hkeeps⟩ := exists_statement?_keepsWords hnode hid
      rw [List.filter_cons_of_pos (by simp [hid]), List.filterMap_cons_some hstatement]
      exact .cons hkeeps (ih hrest)

end

/-- Statements keep their words. In a document with a namespace there is a statement for every
element of the four kinds that has an id, and nothing else. Where nothing is included, its text has
no blank at its ends and none but single spaces, and what is between the spaces are the words of all
texts inside the element, in document order. What follows the element is not inside it. -/
theorem statements_keep_words (path moduleName : String) (root : Xml.Node)
    (hspace : trimmedAttribute "namespace" root ≠ "") :
    ∃ statements, statements? false path moduleName root = some statements ∧
      List.Forall₂ KeepsWords (statementElements root) statements := by
  unfold statements?
  split
  next hempty => exact absurd hempty hspace
  next =>
    have hkinds : List.Forall₂ Eq Statement.kinds Statement.kinds := List.forall₂_refl _
    refine ⟨_, rfl, List.rel_flatMap hkinds ?_⟩
    rintro kind _ rfl
    exact forall₂_statementsOfKind root

/-- A statement whose words are spread over the texts of several elements, with blanks of several
kinds between them, and an `include` that has a text of its own. -/
def spread : Xml.Node :=
  .element "mapper" [("namespace", "shop")]
    [.element "select" [("id", "find")]
      [.text "\n\tSELECT  id,", .element "include" [("refid", "columns")] [.text "total"],
        .text "FROM",
        .element "where" [] [.element "if" [("test", "open")] [.text "\u00a0orders "], .text "o\r\n"],
        .text "\u2003"],
      .text "outside", .element "select" [] [.text "SELECT 1"]]

theorem statements_keep_words_spread :
    trimmedAttribute "namespace" spread ≠ "" ∧
      ∃ statements, statements? false "OrderDao.xml" "core" spread = some statements ∧
        statements.map (·.rawSql) = ["SELECT id, total FROM orders o"] ∧
        List.Forall₂ KeepsWords (statementElements spread) statements := by
  have hspace : trimmedAttribute "namespace" spread ≠ "" := by decide +kernel
  have htexts : (statements? false "OrderDao.xml" "core" spread).map (List.map (·.rawSql)) =
      some ["SELECT id, total FROM orders o"] := by decide +kernel
  obtain ⟨statements, hstatements, hkeeps⟩ :=
    statements_keep_words "OrderDao.xml" "core" spread hspace
  rw [hstatements] at htexts
  exact ⟨hspace, statements, hstatements, Option.some.inj htexts, hkeeps⟩

end Mapper

end Ripple
