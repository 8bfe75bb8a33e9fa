-- SUMMARY: Texts without the signs of markup, comments and parameters, which cleaning leaves as they are.
import Ripple.Proofs.Name.Method
import Ripple.Sql.Clean

/-!
# Texts that are clean

Parameters, markup and comments all have a sign that words and lists of words do not have. A text
without these signs, whose words are one space apart, stays as it is.
-/

namespace Ripple

namespace Text

theorem intercalate_append {α : Type} {separator : List α} {first second : List (List α)}
    (hfirst : first ≠ []) (hsecond : second ≠ []) :
    separator.intercalate (first ++ second) =
      separator.intercalate first ++ (separator ++ separator.intercalate second) := by
  induction first with
  | nil => exact absurd rfl hfirst
  | cons piece first ih =>
    cases first with
    | nil =>
      obtain ⟨next, second, rfl⟩ := List.exists_cons_of_ne_nil hsecond
      simp [List.intercalate_cons_cons]
    | cons next first =>
      have ih := ih (List.cons_ne_nil _ _)
      simp only [List.cons_append] at ih ⊢
      rw [List.intercalate_cons_cons, List.intercalate_cons_cons, ih]
      simp only [List.append_assoc]

/-- A text with words, which are one space apart. -/
structure IsTidy (s : List Char) : Prop where
  nonempty : words s ≠ []
  spaced : singleSpaced s = s

theorem isTidy_word {word : List Char} (hsome : word ≠ []) (hword : ∀ c ∈ word, isBlank c = false) :
    IsTidy word := by
  have hwords : words word = [word] := by
    simp [words, splitWhen_eq_singleton hword, hsome]
  exact ⟨by simp [hwords], by simp [singleSpaced, hwords]⟩

theorem IsTidy.append {first second : List Char} (hfirst : IsTidy first) (hsecond : IsTidy second) :
    IsTidy (first ++ ' ' :: second) := by
  have hwords : words (first ++ ' ' :: second) = words first ++ words second := by
    simp [words, splitWhen_append_mark first (by decide : isBlank ' ' = true)]
  refine ⟨by simp [hwords, hfirst.nonempty], ?_⟩
  rw [singleSpaced, hwords, intercalate_append hfirst.nonempty hsecond.nonempty]
  exact congrArg₂ (fun a b => a ++ ([' '] ++ b)) hfirst.spaced hsecond.spaced

end Text

namespace Sql

/-- The signs of parameters, markup and comments. -/
def signs : List Char :=
  ['#', '$', ':', '<', ']', '-', '/']

/-- Whatever is replaced has one of the signs. -/
def NeedsSign (recognize : Recognizer) : Prop :=
  ∀ before s n, recognize before s = some n → ∃ c ∈ s, c ∈ signs

theorem needsSign_enclosed {first last : String} (h : ∃ c ∈ first.toList, c ∈ signs) :
    NeedsSign (enclosed first last) := by
  intro before s n hfound
  obtain ⟨c, hc, hsign⟩ := h
  unfold enclosed at hfound
  split at hfound
  · rename_i hbegins
    exact ⟨c, (List.isPrefixOf_iff_prefix.1 hbegins).subset hc, hsign⟩
  · cases hfound

theorem needsSign_anyOf {marks : List String}
    (h : marks.all (fun mark => mark.toList.any signs.contains) = true) :
    NeedsSign (anyOf marks) := by
  intro before s n hfound
  obtain ⟨mark, hmark, -⟩ := Option.map_eq_some_iff.1 hfound
  have hsigned := List.all_eq_true.1 h mark (List.mem_of_find?_eq_some hmark)
  obtain ⟨c, hc, hsign⟩ : ∃ c ∈ mark.toList, c ∈ signs := by simpa using hsigned
  have hbegins := List.find?_some hmark
  exact ⟨c, (List.isPrefixOf_iff_prefix.1 hbegins).subset hc, hsign⟩

theorem needsSign_signed {sign : Char} (h : sign ∈ signs) : NeedsSign (signed sign) := by
  intro before s n hfound
  unfold signed at hfound
  split at hfound
  · cases hfound
  · rename_i c rest
    dsimp only at hfound
    split at hfound
    · rename_i hsigned
      simp only [Bool.and_eq_true, beq_iff_eq] at hsigned
      exact ⟨c, List.mem_cons_self, hsigned.1.1 ▸ h⟩
    · cases hfound

theorem needsSign_colonNamed : NeedsSign colonNamed := by
  intro before s n hfound
  unfold colonNamed at hfound
  split at hfound
  · exact ⟨':', List.mem_cons_self, by decide⟩
  · cases hfound

theorem needsSign_dynamicTag : NeedsSign dynamicTag := by
  intro before s n hfound
  unfold dynamicTag at hfound
  split at hfound
  · exact ⟨'<', List.mem_cons_self, by decide⟩
  · cases hfound

theorem needsSign_lineComment : NeedsSign lineComment := by
  intro before s n hfound
  unfold lineComment at hfound
  split at hfound
  · exact ⟨'-', List.mem_cons_self, by decide⟩
  · cases hfound

theorem needsSign_of_mem_passes {pass : Recognizer × String} (h : pass ∈ passes) :
    NeedsSign pass.1 := by
  simp only [passes, List.mem_cons, List.not_mem_nil, or_false] at h
  rcases h with rfl | rfl | rfl | rfl | rfl | rfl | rfl | rfl | rfl | rfl | rfl | rfl
  · exact needsSign_enclosed ⟨'#', by decide, by decide⟩
  · exact needsSign_enclosed ⟨'$', by decide, by decide⟩
  · exact needsSign_signed (by decide)
  · exact needsSign_signed (by decide)
  · exact needsSign_colonNamed
  · exact needsSign_anyOf (by decide)
  · exact needsSign_enclosed ⟨'<', by decide, by decide⟩
  · exact needsSign_dynamicTag
  · exact needsSign_anyOf (by decide)
  · exact needsSign_enclosed ⟨'/', by decide, by decide⟩
  · exact needsSign_lineComment
  · exact needsSign_anyOf (by decide)

theorem replaceFrom_eq_self {recognize : Recognizer} {replacement s : List Char}
    (h : NeedsSign recognize) (hs : ∀ c ∈ s, c ∉ signs) (before : Option Char) :
    replaceFrom recognize replacement before 0 s = s := by
  induction s generalizing before with
  | nil => rfl
  | cons c s ih =>
    have hnone : recognize before (c :: s) = none := by
      cases hfound : recognize before (c :: s) with
      | none => rfl
      | some n =>
        obtain ⟨d, hd, hsign⟩ := h _ _ _ hfound
        exact absurd hsign (hs d hd)
    rw [replaceFrom, hnone]
    exact congrArg (c :: ·) (ih (fun d hd => hs d (List.mem_cons_of_mem _ hd)) (some c))

/-- A tidy text without signs is clean. -/
theorem cleanChars_eq_self {s : List Char} (hs : ∀ c ∈ s, c ∉ signs) (htidy : Text.IsTidy s) :
    cleanChars s = s := by
  have hpasses : ∀ part ⊆ passes,
      part.foldl (fun s pass => replaceAll pass.1 pass.2.toList s) s = s := by
    intro part hpart
    induction part with
    | nil => rfl
    | cons pass part ih =>
      obtain ⟨hpass, hpart⟩ := List.cons_subset.1 hpart
      rw [List.foldl_cons, replaceAll, replaceFrom_eq_self (needsSign_of_mem_passes hpass) hs]
      exact ih hpart
  exact (congrArg Text.singleSpaced (hpasses passes (List.Subset.refl _))).trans htidy.spaced

end Sql

end Ripple
