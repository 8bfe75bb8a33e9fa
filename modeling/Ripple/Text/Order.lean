-- SUMMARY: Sorting of texts and of lists of texts, by insertion.
/-! # The order of texts

Texts are ordered by their code points, lists of texts by their first difference.
-/

namespace Ripple.Text

/-- Puts an item into a list, before the first that it may stand before. -/
def insertWith (le : α → α → Bool) (item : α) : List α → List α
  | [] => [item]
  | first :: rest =>
    if le item first then item :: first :: rest else first :: insertWith le item rest

/-- Items in order. Those that may stand in either order stay as they are. -/
def sortWith (le : α → α → Bool) (items : List α) : List α :=
  items.foldr (insertWith le) []

/-- Items in the order of their texts. -/
def sortedBy (key : α → String) (items : List α) : List α :=
  sortWith (fun a b => decide (key a ≤ key b)) items

/-- Texts in order. -/
def sorted (texts : List String) : List String :=
  sortedBy id texts

/-- Texts in order, each once. -/
def sortedSet (texts : List String) : List String :=
  sorted texts.eraseDups

/-- Whether a list of texts is at or before another. -/
def listLe : List String → List String → Bool
  | [], _ => true
  | _ :: _, [] => false
  | a :: as, b :: bs => a < b || (a == b && listLe as bs)

end Ripple.Text
