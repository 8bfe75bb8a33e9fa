-- SUMMARY: The lower-case form of a text.
import Ripple.Text.CharClass
import Ripple.Text.LowerTable

/-! # Lower case

The lower-case form of a text, for every script. A capital sigma at the end of a word has a form of
its own.
-/

namespace Ripple.Text

/-- The lower-case form of a character outside the basic Latin block. -/
def lowerWide (n : Nat) : List Nat :=
  match lowerExpansions.find? (·.1 == n) with
  | some (_, image) => image
  | none =>
    match lowerRunImages.find? fun (first, last, step, _) =>
        first ≤ n && n ≤ last && (n - first) % step == 0 with
    | some (first, _, _, image) => [n - first + image]
    | none => [n]

/-- The lower-case form of a character where its place does not matter. -/
def lowerChar (c : Char) : List Char :=
  if c.toNat < 128 then [c.toLower] else (lowerWide c.toNat).map Char.ofNat

def isCased (c : Char) : Bool :=
  isUpperCase c || isLowerCase c || inRanges titleRanges c.toNat

def isIgnorable (c : Char) : Bool :=
  inRanges ignorableRanges c.toNat

/-- Whether the first character that counts is a letter with case. -/
def startsCased (s : List Char) : Bool :=
  (s.find? (!isIgnorable ·)).any isCased

/-- The lower-case form of a text, `before` being the characters in front of it, backwards. -/
def lowerFrom (before : List Char) : List Char → List Char
  | [] => []
  | c :: rest =>
    let here :=
      if c == 'Σ' && startsCased before && !startsCased rest then ['ς'] else lowerChar c
    here ++ lowerFrom (c :: before) rest

/-- The lower-case form of a text. -/
def lower (s : List Char) : List Char :=
  lowerFrom [] s

end Ripple.Text
