-- SUMMARY: The scan of a statement for anchors and the lists of tables behind them.
import Ripple.Name.Table
import Ripple.Sql.Clean
import Ripple.Text.Order

/-! # Tables in a statement

Table names stand behind a few anchor keywords, as a list of items separated by commas. An item is
a name and perhaps an alias. Every position of a statement is looked at, so anchors inside a list
count too.
-/

namespace Ripple.Sql

/-- Words that are never table names or aliases. -/
def keywords : List String :=
  ["DUAL", "SELECT", "FROM", "WHERE", "AND", "OR", "ON", "AS", "SET", "JOIN", "LEFT", "RIGHT",
    "INNER", "OUTER", "CROSS", "FULL", "NATURAL", "VALUES", "UPDATE", "INSERT", "DELETE", "MERGE",
    "INTO", "USING", "GROUP", "ORDER", "BY", "HAVING", "DISTINCT", "LIMIT", "OFFSET", "CASE",
    "WHEN", "THEN", "ELSE", "END", "IN", "EXISTS", "NOT", "NULL", "IS", "LIKE", "BETWEEN", "ASC",
    "DESC", "WITH", "PARTITION", "UNION", "ALL", "LATERAL", "ONLY", "TABLE"]

/-- The anchors, as the words they consist of. -/
def anchors : List (List String) :=
  [["FROM"], ["JOIN"], ["UPDATE"], ["INSERT", "INTO"], ["DELETE", "FROM"], ["MERGE", "INTO"],
    ["USING"]]

/-- Characters of names and aliases. -/
def isNameChar (c : Char) : Bool :=
  !Text.isBlank c && c != ',' && c != ';' && c != '(' && c != ')'

/-- What follows the blanks at the front of a text; `none` if there are none. -/
def behindBlanks? (s : List Char) : Option (List Char) :=
  match s with
  | c :: rest => if Text.isBlank c then some (rest.dropWhile Text.isBlank) else none
  | [] => none

/-- Takes a word off the front of a text, whatever its case. -/
def dropWord? : List Char → List Char → Option (List Char)
  | [], s => some s
  | _ :: _, [] => none
  | a :: word, c :: s => if sameLetter a c then dropWord? word s else none

/-- The text behind the words of an anchor and the blanks after each. -/
def behindWords? : List String → List Char → Option (List Char)
  | [], s => some s
  | word :: words, s => do behindWords? words (← behindBlanks? (← dropWord? word.toList s))

/-- Whether a text begins with one of the keywords as a whole word. -/
def startsWithKeyword (s : List Char) : Bool :=
  keywords.any (sameWord ·.toList (s.takeWhile Text.isWordChar))

/-- The text behind an alias: a name that is no keyword. -/
def behindAliasName? (s : List Char) : Option (List Char) :=
  if startsWithKeyword s || (s.takeWhile isNameChar).isEmpty then none
  else some (s.dropWhile isNameChar)

/-- The text behind an alias, which blanks and perhaps the word `AS` precede. -/
def behindAlias? (s : List Char) : Option (List Char) := do
  let s ← behindBlanks? s
  match ((dropWord? ['A', 'S'] s).bind behindBlanks?).bind behindAliasName? with
  | some rest => some rest
  -- The two letters may be the beginning of an alias, as in `ASSETS`.
  | none => behindAliasName? s

/-- The name of the item at the front of a text, and what follows the item. -/
def item? (s : List Char) : Option (List Char × List Char) :=
  let name := s.takeWhile isNameChar
  let rest := s.dropWhile isNameChar
  if name.isEmpty then none else some (name, (behindAlias? rest).getD rest)

/-- The text behind a comma and the blanks around it. -/
def behindComma? (s : List Char) : Option (List Char) :=
  match s.dropWhile Text.isBlank with
  | ',' :: rest => some (rest.dropWhile Text.isBlank)
  | _ => none

/-- The names of further items of a list; `fuel` is at least the length of the text. -/
def moreItems : Nat → List Char → List (List Char)
  | 0, _ => []
  | fuel + 1, s =>
    match (behindComma? s).bind item? with
    | some (name, rest) => name :: moreItems fuel rest
    | none => []

/-- The names of the items of a list. -/
def itemNames (s : List Char) : List (List Char) :=
  match item? s with
  | some (name, rest) => name :: moreItems rest.length rest
  | none => []

/-- The names behind the anchor at the front of a text, given the character before it. An anchor
begins a word. -/
def namesAt (before : Option Char) (s : List Char) : List (List Char) :=
  if before.any Text.isWordChar then []
  else
    match anchors.findSome? (behindWords? · s) with
    | some rest => itemNames rest
    | none => []

/-- The names behind all anchors of a text. -/
def namesFrom (before : Option Char) : List Char → List (List Char)
  | [] => []
  | c :: rest => namesAt before (c :: rest) ++ namesFrom (some c) rest

/-- Whether a normal name is that of a table: not empty, no placeholder, no excluded word. -/
def isTableName (excluded : List String) (name : String) : Bool :=
  !name.isEmpty && name != placeholder && !excluded.contains name

/-- The tables of a statement, in order and without repetition. `excluded` holds upper-case words
that are no tables. -/
def tablesExcept (excluded : List String) (sql : String) : List String :=
  let names := (namesFrom none (cleanChars sql.toList)).map fun name =>
    String.ofList (TableName.normalChars name)
  Text.sortedSet (names.filter (isTableName excluded))

/-- The tables of a statement. -/
def tables (sql : String) : List String :=
  tablesExcept keywords sql

end Ripple.Sql
