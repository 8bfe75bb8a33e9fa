-- SUMMARY: Beginnings of texts, by the parts that they break off in.
import Mathlib.Data.List.Infix

/-! # Texts that break off

The beginnings of a text that are not the whole of it, by the parts of the text.
-/

namespace Ripple.Text

variable {α : Type}

/-- A beginning of a text that lacks at least its last item. -/
def IsCut (part whole : List α) : Prop :=
  part <+: whole ∧ part ≠ whole

theorem not_isCut_nil (part : List α) : ¬ IsCut part [] := by
  rintro ⟨hbegins, hne⟩
  exact hne (List.prefix_nil.1 hbegins)

theorem IsCut.length_lt {part whole : List α} (h : IsCut part whole) :
    part.length < whole.length := by
  have hle := h.1.length_le
  have hne : part.length ≠ whole.length := fun heq => h.2 (h.1.eq_of_length heq)
  omega

theorem IsCut.cons {a : α} {part rest : List α} (h : IsCut part (a :: rest)) :
    part = [] ∨ ∃ part', part = a :: part' ∧ IsCut part' rest := by
  obtain ⟨hbegins, hne⟩ := h
  obtain rfl | ⟨part', rfl, hbegins'⟩ := List.prefix_cons_iff.1 hbegins
  · exact .inl rfl
  · refine .inr ⟨part', rfl, hbegins', ?_⟩
    rintro rfl
    exact hne rfl

/-- A text in two parts breaks off in the first or in the second. -/
theorem IsCut.append {part first second : List α} (h : IsCut part (first ++ second)) :
    IsCut part first ∨ ∃ part', part = first ++ part' ∧ IsCut part' second := by
  induction first generalizing part with
  | nil => exact .inr ⟨part, rfl, h⟩
  | cons a first ih =>
    obtain rfl | ⟨part', rfl, hcut⟩ := h.cons
    · exact .inl ⟨List.nil_prefix, fun heq => by cases heq⟩
    · obtain hfirst | ⟨part'', rfl, hsecond⟩ := ih hcut
      · refine .inl ⟨List.cons_prefix_cons.2 ⟨rfl, hfirst.1⟩, ?_⟩
        exact fun heq => hfirst.2 (List.cons.inj heq).2
      · exact .inr ⟨part'', rfl, hsecond⟩

theorem IsCut.singleton {a : α} {part : List α} (h : IsCut part [a]) : part = [] := by
  obtain rfl | ⟨part', -, hcut⟩ := h.cons
  · rfl
  · exact absurd hcut (not_isCut_nil part')

end Ripple.Text
