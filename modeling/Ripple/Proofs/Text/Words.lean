-- SUMMARY: Words of texts: trimming, joining and cutting at single spaces.
import Ripple.Proofs.Path.Text

/-!
# Texts of words

The words of a text are what is left between its blanks. Trimming keeps them, joining texts with a
space puts them one after the other, and a text of words that are one space apart is cut into them
at its spaces.
-/

namespace Ripple.Text

section
variable {α : Type} {p : α → Bool}

theorem splitWhen_eq_splitOnP (s : List α) : splitWhen p s = s.splitOnP p := by
  induction s with
  | nil => rw [splitWhen, List.splitOnP_nil]
  | cons a s ih =>
    obtain ⟨piece, pieces, hpieces⟩ := List.exists_cons_of_ne_nil (List.splitOnP_ne_nil p s)
    rw [splitWhen, List.splitOnP_cons_eq_if_modifyHead, ih, hpieces]
    rfl

theorem exists_eq_dropEndWhile_append (s : List α) :
    ∃ gap, (∀ a ∈ gap, p a = true) ∧ s = dropEndWhile p s ++ gap := by
  induction s with
  | nil => exact ⟨[], by simp, rfl⟩
  | cons a s ih =>
    obtain ⟨gap, hgap, hs⟩ := ih
    rw [dropEndWhile]
    split
    next hnil =>
      -- nothing is left behind the first element, so all behind it was dropped
      obtain rfl : s = gap := by simpa [hnil] using hs
      split
      next ha => exact ⟨a :: s, by simpa [ha] using hgap, rfl⟩
      next => exact ⟨s, hgap, rfl⟩
    next =>
      exact ⟨gap, hgap, congrArg (a :: ·) hs⟩

end

/-! ## Words between separators -/

/-- The pieces of a text between separators, without the empty ones. -/
def wordsBetween (p : Char → Bool) (s : List Char) : List (List Char) :=
  (s.splitOnP p).filter (!·.isEmpty)

theorem words_eq_wordsBetween : words = wordsBetween isBlank := by
  funext s
  rw [words, wordsBetween, splitWhen_eq_splitOnP]

section
variable {p : Char → Bool}

@[simp]
theorem wordsBetween_nil : wordsBetween p [] = [] := by
  simp [wordsBetween]

/-- No word goes across a separator. -/
theorem wordsBetween_append_cons (first : List Char) {mark : Char} (hmark : p mark = true)
    (second : List Char) :
    wordsBetween p (first ++ mark :: second) = wordsBetween p first ++ wordsBetween p second := by
  rw [wordsBetween, List.splitOnP_append_cons _ _ hmark, List.filter_append]
  rfl

theorem wordsBetween_cons {mark : Char} (hmark : p mark = true) (s : List Char) :
    wordsBetween p (mark :: s) = wordsBetween p s := by
  simpa using wordsBetween_append_cons [] hmark s

theorem wordsBetween_append_gap (s : List Char) {gap : List Char} (hgap : ∀ c ∈ gap, p c = true) :
    wordsBetween p (s ++ gap) = wordsBetween p s := by
  induction gap generalizing s with
  | nil => rw [List.append_nil]
  | cons mark gap ih =>
    obtain ⟨hmark, hgap⟩ := List.forall_mem_cons.1 hgap
    have hnone : wordsBetween p gap = [] := by simpa using ih [] hgap
    rw [wordsBetween_append_cons s hmark, hnone, List.append_nil]

theorem wordsBetween_dropWhile (s : List Char) :
    wordsBetween p (s.dropWhile p) = wordsBetween p s := by
  induction s with
  | nil => rfl
  | cons c s ih =>
    cases hc : p c with
    | true => rw [List.dropWhile_cons_of_pos hc, ih, wordsBetween_cons hc]
    | false => rw [List.dropWhile_cons_of_neg (by simp [hc])]

theorem wordsBetween_dropEndWhile (s : List Char) :
    wordsBetween p (dropEndWhile p s) = wordsBetween p s := by
  obtain ⟨gap, hgap, hs⟩ : ∃ gap, (∀ c ∈ gap, p c = true) ∧ s = dropEndWhile p s ++ gap :=
    exists_eq_dropEndWhile_append s
  rw [← wordsBetween_append_gap _ hgap, ← hs]

theorem wordsBetween_intercalate {mark : Char} (hmark : p mark = true) (texts : List (List Char)) :
    wordsBetween p ([mark].intercalate texts) = texts.flatMap (wordsBetween p) := by
  induction texts with
  | nil => exact wordsBetween_nil
  | cons text texts ih =>
    cases texts with
    | nil => simp
    | cons next texts =>
      rw [List.intercalate_cons_cons, List.append_assoc, List.singleton_append,
        wordsBetween_append_cons text hmark, ih]
      rfl

end

theorem wordsBetween_trim (s : List Char) :
    wordsBetween isBlank (trim s) = wordsBetween isBlank s := by
  rw [trim, wordsBetween_dropEndWhile, wordsBetween_dropWhile]

/-! ## Words one space apart -/

/-- A text without blanks at its two ends, and with none in between but single spaces. -/
structure IsSingleSpaced (s : List Char) : Prop where
  first : ∀ c ∈ s.head?, isBlank c = false
  last : ∀ c ∈ s.getLast?, isBlank c = false
  space : ∀ c ∈ s, isBlank c = true → c = ' '
  single : ¬ [' ', ' '] <:+: s

/-- Texts that are not empty and hold no blank. -/
structure IsWord (word : List Char) : Prop where
  ne_nil : word ≠ []
  not_blank : ∀ c ∈ word, isBlank c = false

theorem isWord_of_mem_words {s word : List Char} (h : word ∈ words s) : IsWord word := by
  obtain ⟨hpiece, hne⟩ := List.mem_filter.1 h
  refine ⟨by simpa using hne, fun c hc => (mem_of_mem_splitWhen hpiece hc).2⟩

section
variable {parts : List (List Char)}

theorem splitOn_intercalate_of_isWord (hne : parts ≠ []) (h : ∀ part ∈ parts, IsWord part) :
    ([' '].intercalate parts).splitOn ' ' = parts := by
  refine List.splitOn_intercalate ' ' (fun part hpart hspace => ?_) hne
  have hblank : isBlank ' ' = false := (h part hpart).not_blank ' ' hspace
  cases hblank

/-- Words that are one space apart are what is between the spaces. -/
theorem wordsBetween_space_intercalate (h : ∀ part ∈ parts, IsWord part) :
    wordsBetween (· == ' ') ([' '].intercalate parts) = parts := by
  by_cases hne : parts = []
  · rw [hne]
    exact wordsBetween_nil
  · have hparts := splitOn_intercalate_of_isWord hne h
    rw [List.splitOn_eq_splitOnP] at hparts
    rw [wordsBetween, hparts, List.filter_eq_self]
    intro part hpart
    simpa using (h part hpart).ne_nil

/-- What stands before a space and behind it is cut at other spaces into words. -/
theorem nil_notMem_splitOn_of_isWord (h : ∀ part ∈ parts, IsWord part) {before behind : List Char}
    (heq : [' '].intercalate parts = before ++ ' ' :: behind) :
    [] ∉ before.splitOn ' ' ∧ [] ∉ behind.splitOn ' ' := by
  have hne : parts ≠ [] := by
    rintro rfl
    cases before <;> cases heq
  have hparts := splitOn_intercalate_of_isWord hne h
  rw [heq, List.splitOn_append_cons_self] at hparts
  have hfull : [] ∉ parts := fun hnil => (h [] hnil).ne_nil rfl
  rw [← hparts, List.mem_append, not_or] at hfull
  exact hfull

theorem isSingleSpaced_intercalate (h : ∀ part ∈ parts, IsWord part) :
    IsSingleSpaced ([' '].intercalate parts) := by
  have hspace : ∀ c ∈ [' '].intercalate parts, isBlank c = true → c = ' ' := by
    intro c hc hblank
    obtain hc | ⟨part, hpart, hmem⟩ := Path.mem_of_mem_intercalate hc
    · exact hc
    · rw [(h part hpart).not_blank c hmem] at hblank
      cases hblank
  -- an end of the text beside a space, or another space, would be an empty word
  refine ⟨?_, ?_, hspace, ?_⟩
  · intro c hc
    rw [Bool.eq_false_iff]
    intro hblank
    obtain rfl := hspace c (List.mem_of_head? hc) hblank
    obtain ⟨behind, heq⟩ : ∃ behind, [' '].intercalate parts = [] ++ ' ' :: behind :=
      List.head?_eq_some_iff.1 hc
    exact (nil_notMem_splitOn_of_isWord h heq).1 (by simp)
  · intro c hc
    rw [Bool.eq_false_iff]
    intro hblank
    obtain rfl := hspace c (List.mem_of_getLast? hc) hblank
    obtain ⟨before, heq⟩ := List.getLast?_eq_some_iff.1 hc
    exact (nil_notMem_splitOn_of_isWord h heq).2 (by simp)
  · rintro ⟨before, behind, heq⟩
    have hsplit : [' '].intercalate parts = before ++ ' ' :: ' ' :: behind := by simp [← heq]
    refine (nil_notMem_splitOn_of_isWord h hsplit).2 ?_
    rw [List.splitOn_cons_eq_if_modifyHead]
    simp

end

end Ripple.Text
