-- SUMMARY: Sorting keeps the items of a list.
import Ripple.Text.Order

/-! # Sorting keeps the items -/

namespace Ripple.Text

theorem insertWith_perm (le : α → α → Bool) (item : α) (items : List α) :
    (insertWith le item items).Perm (item :: items) := by
  induction items with
  | nil => exact .refl _
  | cons first rest ih =>
    unfold insertWith
    split
    · exact .refl _
    · exact (ih.cons first).trans (.swap item first rest)

theorem sortWith_perm (le : α → α → Bool) (items : List α) : (sortWith le items).Perm items := by
  induction items with
  | nil => exact .refl _
  | cons item items ih => exact (insertWith_perm le item _).trans (ih.cons item)

@[simp]
theorem mem_sortedBy {key : α → String} {items : List α} {item : α} :
    item ∈ sortedBy key items ↔ item ∈ items :=
  (sortWith_perm _ items).mem_iff

@[simp]
theorem mem_sorted {texts : List String} {text : String} :
    text ∈ sorted texts ↔ text ∈ texts :=
  mem_sortedBy

end Ripple.Text
