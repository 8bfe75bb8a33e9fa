-- SUMMARY: Blank characters, trimming, and cutting a text into words.
/-! # Blank characters

Which characters separate words, and the operations that only need to know that: trimming a text
and cutting it into words.
-/

namespace Ripple.Text

/-- Blank characters: the ASCII controls from tab to carriage return, the four separators before
the space, the space, and the spaces of other scripts. -/
def isBlank (c : Char) : Bool :=
  let n := c.toNat
  (9 ≤ n && n ≤ 13) || (28 ≤ n && n ≤ 32) || n == 0x85 || n == 0xA0 || n == 0x1680 ||
    (0x2000 ≤ n && n ≤ 0x200A) || n == 0x2028 || n == 0x2029 || n == 0x202F || n == 0x205F ||
    n == 0x3000

/-- Drops the elements at the end that satisfy `p`. -/
def dropEndWhile (p : α → Bool) : List α → List α
  | [] => []
  | a :: l =>
    match dropEndWhile p l with
    | [] => if p a then [] else [a]
    | l => a :: l

/-- A text without the blanks at its two ends. -/
def trim (s : List Char) : List Char :=
  dropEndWhile isBlank (s.dropWhile isBlank)

/-- A text without the line feed at its end. -/
def chomp (s : List Char) : List Char :=
  if s.getLast? == some '\n' then s.dropLast else s

/-- Cuts a list at every element that satisfies `p`; the cut elements are dropped, so the pieces
are one more than the cuts. -/
def splitWhen (p : α → Bool) : List α → List (List α)
  | [] => [[]]
  | a :: l =>
    if p a then [] :: splitWhen p l
    else match splitWhen p l with
      | [] => [[a]]
      | piece :: pieces => (a :: piece) :: pieces

/-- The maximal runs of characters that are not blank. -/
def words (s : List Char) : List (List Char) :=
  (splitWhen isBlank s).filter (!·.isEmpty)

/-- A text whose words are one space apart. -/
def singleSpaced (s : List Char) : List Char :=
  [' '].intercalate (words s)

/-- The part after the last element that satisfies `p`; everything if there is none. -/
def afterLast (p : α → Bool) (l : List α) : List α :=
  (splitWhen p l).getLastD []

/-- The parts before and after the last element that satisfies `p`, if there is one. -/
def cutLast? (p : α → Bool) : List α → Option (List α × List α)
  | [] => none
  | a :: l =>
    match cutLast? p l with
    | some (before, after) => some (a :: before, after)
    | none => if p a then some ([], l) else none

/-- The parts before and after the first element that satisfies `p`, if there is one. -/
def cutFirst? (p : α → Bool) : List α → Option (List α × List α)
  | [] => none
  | a :: l => if p a then some ([], l) else (cutFirst? p l).map fun (b, r) => (a :: b, r)

/-- Whether a list occurs inside another. -/
def occursIn [BEq α] (part : List α) : List α → Bool
  | [] => part.isEmpty
  | a :: l => part.isPrefixOf (a :: l) || occursIn part l

end Ripple.Text
