-- SUMMARY: The printer of JSON values in two layouts.
import Ripple.Json.Basic
import Ripple.Text.Integer
import Ripple.Text.Quoted

/-! # Writing JSON

Two layouts: one line, and one item a line with a fixed indentation. Of the characters of a string
only quotes, backslashes and control characters are escaped.
-/

namespace Ripple.Json

/-- One character of a string. -/
def stringChar (c : Char) : List Char :=
  match c with
  | '"' => ['\\', '"']
  | '\\' => ['\\', '\\']
  | '\n' => ['\\', 'n']
  | '\r' => ['\\', 'r']
  | '\t' => ['\\', 't']
  | '\x08' => ['\\', 'b']
  | '\x0c' => ['\\', 'f']
  | c => if c.toNat < 32 then '\\' :: 'u' :: Text.hexDigits 4 c.toNat else [c]

def stringText (s : String) : List Char :=
  '"' :: s.toList.flatMap stringChar ++ ['"']

/-- A string of code points; surrogates are escaped. -/
def codesText (codes : List Nat) : List Char :=
  '"' :: codes.flatMap (fun code =>
    if isSurrogate code then '\\' :: 'u' :: Text.hexDigits 4 code
    else stringChar (Char.ofNat code)) ++ ['"']

def intText (n : Int) : List Char :=
  match n with
  | .ofNat n => Nat.toDigits 10 n
  | .negSucc n => '-' :: Nat.toDigits 10 (n + 1)

def realText : Binary64 → List Char
  | .nan => "NaN".toList
  | .infinite negative => if negative then "-Infinity".toList else "Infinity".toList
  | x => x.text.toList

/-- The layout of arrays and objects: what opens a line at a depth, and what ends an item. -/
structure Layout where
  /-- The text before the first item and before the closing bracket, at the given depth. -/
  lineStart : Nat → List Char
  /-- The text between two items at the given depth. -/
  between : Nat → List Char

/-- Everything on one line. -/
def Layout.line : Layout where
  lineStart _ := []
  between _ := [',', ' ']

/-- One item a line, `indent` spaces a level. -/
def Layout.indented (indent : Nat) : Layout where
  lineStart depth := '\n' :: List.replicate (indent * depth) ' '
  between depth := ',' :: '\n' :: List.replicate (indent * depth) ' '

mutual

/-- The text of a value at a depth. -/
def renderAt (layout : Layout) (depth : Nat) : Json → List Char
  | .null => "null".toList
  | .bool b => if b then "true".toList else "false".toList
  | .int n => intText n
  | .real x => realText x
  | .str s => stringText s
  | .broken codes => codesText codes
  | .arr [] => "[]".toList
  | .arr (x :: xs) =>
    '[' :: layout.lineStart (depth + 1) ++ renderAt layout (depth + 1) x ++
      renderItems layout (depth + 1) xs ++ layout.lineStart depth ++ [']']
  | .obj [] => ['\x7b', '\x7d']
  | .obj ((k, v) :: fields) =>
    '\x7b' :: layout.lineStart (depth + 1) ++ stringText k ++ ':' :: ' ' ::
      renderAt layout (depth + 1) v ++ renderFields layout (depth + 1) fields ++
      layout.lineStart depth ++ ['\x7d']

/-- The items of an array after the first. -/
def renderItems (layout : Layout) (depth : Nat) : List Json → List Char
  | [] => []
  | x :: xs => layout.between depth ++ renderAt layout depth x ++ renderItems layout depth xs

/-- The fields of an object after the first. -/
def renderFields (layout : Layout) (depth : Nat) : List (String × Json) → List Char
  | [] => []
  | (k, v) :: fields =>
    layout.between depth ++ stringText k ++ ':' :: ' ' :: renderAt layout depth v ++
      renderFields layout depth fields

end

mutual

/-- Whether all integers inside a value are short enough to be written. -/
def isWritable : Json → Bool
  | .int n => (Nat.toDigits 10 n.natAbs).length ≤ Text.maxIntegerDigits
  | .arr items => areWritable items
  | .obj fields => areFieldsWritable fields
  | _ => true

def areWritable : List Json → Bool
  | [] => true
  | item :: items => item.isWritable && areWritable items

def areFieldsWritable : List (String × Json) → Bool
  | [] => true
  | (_, value) :: fields => value.isWritable && areFieldsWritable fields

end

/-- The text of a value. -/
def render (layout : Layout) (value : Json) : String :=
  String.ofList (renderAt layout 0 value)

end Ripple.Json
