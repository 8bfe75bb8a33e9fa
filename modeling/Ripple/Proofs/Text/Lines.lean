-- SUMMARY: Cutting texts into lines, and trimming lines.
import Ripple.Text.Blank
import Ripple.Text.Encoding

/-! # Texts of lines

How a text is cut into lines, and what trimming a line leaves of it.
-/

namespace Ripple.Text

section
variable {α : Type} {p : α → Bool}

/-- Where nothing is cut there is one piece. -/
theorem splitWhen_eq_singleton {s : List α} (h : ∀ a ∈ s, p a = false) : splitWhen p s = [s] := by
  induction s with
  | nil => rfl
  | cons a s ih =>
    rw [splitWhen, h a (by simp), ih fun b hb => h b (by simp [hb])]
    rfl

/-- The first cut ends the first piece. -/
theorem splitWhen_append_cons {line : List α} (hline : ∀ a ∈ line, p a = false) {mark : α}
    (hmark : p mark = true) (rest : List α) :
    splitWhen p (line ++ mark :: rest) = line :: splitWhen p rest := by
  induction line with
  | nil => simp [splitWhen, hmark]
  | cons a line ih =>
    rw [List.cons_append, splitWhen, hline a (by simp), ih fun b hb => hline b (by simp [hb])]
    rfl

/-- The pieces hold nothing but what is not cut away. -/
theorem mem_of_mem_splitWhen {s piece : List α} (hpiece : piece ∈ splitWhen p s) {a : α}
    (ha : a ∈ piece) : a ∈ s ∧ p a = false := by
  induction s generalizing piece with
  | nil =>
    rw [List.mem_singleton.1 hpiece] at ha
    cases ha
  | cons b s ih =>
    rw [splitWhen] at hpiece
    split at hpiece
    · obtain rfl | hpiece := List.mem_cons.1 hpiece
      · cases ha
      · exact (ih hpiece ha).imp_left (List.mem_cons_of_mem b)
    · rename_i hb
      have hb : p b = false := by simpa using hb
      split at hpiece
      · rw [List.mem_singleton.1 hpiece] at ha
        obtain rfl := List.mem_singleton.1 ha
        exact ⟨by simp, hb⟩
      · rename_i first pieces hsplit
        rw [hsplit] at ih
        obtain rfl | hpiece := List.mem_cons.1 hpiece
        · obtain rfl | ha := List.mem_cons.1 ha
          · exact ⟨by simp, hb⟩
          · exact (ih (by simp) ha).imp_left (List.mem_cons_of_mem b)
        · exact (ih (by simp [hpiece]) ha).imp_left (List.mem_cons_of_mem b)

/-- A piece is what is left of the text without the rest. -/
theorem sublist_of_mem_splitWhen {s piece : List α} (h : piece ∈ splitWhen p s) :
    piece.Sublist s := by
  induction s generalizing piece with
  | nil =>
    obtain rfl := List.mem_singleton.1 h
    exact .slnil
  | cons a s ih =>
    rw [splitWhen] at h
    split at h
    · obtain rfl | h := List.mem_cons.1 h
      · exact List.nil_sublist _
      · exact (ih h).cons a
    · split at h
      · rw [List.mem_singleton.1 h]
        exact (List.nil_sublist s).cons_cons a
      · rename_i first pieces hpieces
        rw [hpieces] at ih
        obtain rfl | h := List.mem_cons.1 h
        · exact (ih List.mem_cons_self).cons_cons a
        · exact (ih (List.mem_cons_of_mem _ h)).cons a

theorem mem_of_mem_afterLast {s : List α} {a : α} (h : a ∈ afterLast p s) : a ∈ s ∧ p a = false := by
  unfold afterLast at h
  rw [List.getLastD_eq_getLast?] at h
  cases hlast : (splitWhen p s).getLast? with
  | none =>
    rw [hlast] at h
    cases h
  | some piece =>
    rw [hlast] at h
    exact mem_of_mem_splitWhen (List.mem_of_getLast? hlast) h

theorem afterLast_eq_self {s : List α} (h : ∀ a ∈ s, p a = false) : afterLast p s = s := by
  simp [afterLast, splitWhen_eq_singleton h]

theorem dropEndWhile_prefix (s : List α) : dropEndWhile p s <+: s := by
  induction s with
  | nil => exact List.prefix_rfl
  | cons a s ih =>
    rw [dropEndWhile]
    split
    · split
      · exact List.nil_prefix
      · exact List.cons_prefix_cons.2 ⟨rfl, List.nil_prefix⟩
    · exact List.cons_prefix_cons.2 ⟨rfl, ih⟩

/-- What stays at the end keeps all before it. -/
theorem dropEndWhile_concat {a : α} (ha : p a = false) (s : List α) :
    dropEndWhile p (s ++ [a]) = s ++ [a] := by
  induction s with
  | nil => simp [dropEndWhile, ha]
  | cons b s ih =>
    rw [List.cons_append, dropEndWhile, ih]
    cases s <;> rfl

theorem dropEndWhile_eq_self {s : List α} (h : ∀ a ∈ s, p a = false) : dropEndWhile p s = s := by
  induction s with
  | nil => rfl
  | cons a s ih =>
    rw [dropEndWhile, ih fun b hb => h b (by simp [hb])]
    cases s with
    | nil => simp [h a (by simp)]
    | cons b s => rfl

theorem dropEndWhile_cons_ne_nil {a : α} (ha : p a = false) (s : List α) :
    dropEndWhile p (a :: s) ≠ [] := by
  rw [dropEndWhile]
  split
  · simp [ha]
  · exact List.cons_ne_nil _ _

end

/-- A text that begins with no blank loses blanks at its end only. -/
theorem trim_cons {c : Char} (hc : isBlank c = false) (s : List Char) :
    trim (c :: s) = dropEndWhile isBlank (c :: s) := by
  simp [trim, hc]

theorem mem_of_mem_trim {s : List Char} {c : Char} (h : c ∈ trim s) : c ∈ s := by
  have hbegins : trim s <+: s.dropWhile isBlank := dropEndWhile_prefix _
  exact (List.dropWhile_suffix _).subset (hbegins.subset h)

/-- A text without blanks has nothing to trim. -/
theorem trim_eq_self {s : List Char} (h : ∀ c ∈ s, isBlank c = false) : trim s = s := by
  cases s with
  | nil => rfl
  | cons c s =>
    rw [trim_cons (h c (by simp))]
    exact dropEndWhile_eq_self h

theorem plainLineEnds_eq_self {s : List Char} (h : '\r' ∉ s) : plainLineEnds s = s := by
  induction s with
  | nil => rfl
  | cons c s ih =>
    have hc : c ≠ '\r' := by
      rintro rfl
      exact h (by simp)
    rw [plainLineEnds, ih fun hs => h (by simp [hs])]
    · exact fun rest hrest => absurd hrest hc
    · exact hc

end Ripple.Text
