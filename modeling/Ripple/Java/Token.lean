-- SUMMARY: Tokens of Java source, with its keywords and operators.
/-! # Tokens of Java source -/

namespace Ripple.Java

/-- The class of a token. Modifiers and basic types are keywords set apart. -/
inductive TokenKind where
  | identifier
  | keyword
  | modifier
  | basicType
  | literal
  | separator
  | operator
  | atSign
  | endOfInput
deriving DecidableEq, Repr, Inhabited

/-- A token: its class, its text and the line that it begins on. -/
structure Token where
  kind : TokenKind
  text : String
  line : Nat
deriving DecidableEq, Repr, Inhabited

/-- What stands behind the last token. -/
def Token.endOfInput : Token := ⟨.endOfInput, "", 0⟩

def keywords : List String :=
  ["assert", "break", "case", "catch", "class", "const", "continue", "do", "else", "enum",
    "extends", "finally", "for", "goto", "if", "implements", "import", "instanceof", "interface",
    "new", "package", "return", "super", "switch", "this", "throw", "throws", "try", "void",
    "while"]

def modifiers : List String :=
  ["abstract", "default", "final", "native", "private", "protected", "public", "static", "strictfp",
    "synchronized", "transient", "volatile"]

def basicTypes : List String :=
  ["boolean", "byte", "char", "double", "float", "int", "long", "short"]

/-- Identifiers that are values. -/
def literalWords : List String := ["true", "false", "null"]

def separators : List Char := ['(', ')', '\x7b', '\x7d', '[', ']', ';', ',', '.']

/-- The operators, longest first. A shift to the right is several tokens, because the same
characters close nested type arguments. -/
def operators : List String :=
  [">>>=", ">>=", "<<=", "...", "%=", "^=", "|=", "&=", "/=", "*=", "-=", "+=", "<<", "--", "++",
    "||", "&&", "!=", ">=", "<=", "==", "->", "::", "%", "^", "|", "&", "/", "*", "-", "+", ":",
    "?", "~", "!", "<", ">", "="]

def infixOperators : List String :=
  ["||", "&&", "|", "^", "&", "==", "!=", "<", ">", "<=", ">=", "<<", ">>", ">>>", "+", "-", "*",
    "/", "%"]

def signOperators : List String := ["++", "--", "!", "~", "+", "-"]

def stepOperators : List String := ["++", "--"]

def assignmentOperators : List String :=
  ["=", "+=", "-=", "*=", "/=", "&=", "|=", "^=", "%=", "<<=", ">>=", ">>>="]

/-- The class of a word. -/
def wordKind (word : String) : TokenKind :=
  if modifiers.contains word then .modifier
  else if basicTypes.contains word then .basicType
  else if keywords.contains word then .keyword
  else if literalWords.contains word then .literal
  else .identifier

end Ripple.Java
