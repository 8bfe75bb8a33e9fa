-- SUMMARY: Facts about the small forms of all characters, reduced to the basic Latin block.
import Ripple.Text.CharClass
import Ripple.Text.Blank
import Ripple.Text.Upper

/-!
# The case of Latin letters

Characters outside the basic Latin block have no small form there. So what is the same for the small
forms of the 128 characters of the block is the same for those of all characters.
-/

namespace Ripple.Text

theorem toLower_of_wide {c : Char} (h : 128 ≤ c.toNat) : c.toLower = c := by
  unfold Char.toLower
  rw [dif_neg]
  rintro ⟨-, hlast⟩
  have hlast : c.toNat ≤ 90 := UInt32.le_iff_toNat_le.1 hlast
  omega

/-- What holds of the 128 characters of the block. -/
theorem forall_latin (P : Char → Prop) (h : ∀ n < 128, P (Char.ofNat n)) {c : Char}
    (hc : c.toNat < 128) : P c := by
  have hcode := h c.toNat hc
  rwa [Char.ofNat_toNat] at hcode

/-- A function that does not tell small letters from capitals. -/
def IgnoresCase {β : Type} (f : Char → β) : Prop :=
  ∀ c, f c.toLower = f c

/-- A function that tells no small letter of the block from its capital tells none at all. -/
theorem ignoresCase_of_latin {β : Type} {f : Char → β}
    (h : ∀ n < 128, f (Char.ofNat n).toLower = f (Char.ofNat n)) : IgnoresCase f := by
  intro c
  by_cases hwide : 128 ≤ c.toNat
  · rw [toLower_of_wide hwide]
  · exact forall_latin (fun c => f c.toLower = f c) h (by omega)

@[simp]
theorem toLower_toLower (c : Char) : c.toLower.toLower = c.toLower :=
  ignoresCase_of_latin (by decide) c

@[simp]
theorem isBlank_toLower (c : Char) : isBlank c.toLower = isBlank c :=
  ignoresCase_of_latin (by decide) c

@[simp]
theorem isWordChar_toLower (c : Char) : isWordChar c.toLower = isWordChar c :=
  ignoresCase_of_latin (by decide) c

@[simp]
theorem upperChar_toLower (c : Char) : upperChar c.toLower = upperChar c :=
  ignoresCase_of_latin (by decide) c

/-- Only a letter has a small form, and that is a letter. -/
theorem toLower_eq_self_or (c : Char) :
    c.toLower = c ∨ c.isAlpha = true ∧ c.toLower.isAlpha = true := by
  by_cases hwide : 128 ≤ c.toNat
  · exact .inl (toLower_of_wide hwide)
  · exact forall_latin (fun c => c.toLower = c ∨ c.isAlpha = true ∧ c.toLower.isAlpha = true)
      (by decide) (by omega)

theorem toLower_eq_iff {mark : Char} (h : mark.isAlpha = false) (c : Char) :
    c.toLower = mark ↔ c = mark := by
  rcases toLower_eq_self_or c with hsame | ⟨hc, hlower⟩
  · rw [hsame]
  · constructor
    · rintro rfl
      cases h.symm.trans hlower
    · rintro rfl
      cases h.symm.trans hc

theorem toLower_beq {mark : Char} (h : mark.isAlpha = false) (c : Char) :
    (c.toLower == mark) = (c == mark) := by
  rw [Bool.eq_iff_iff, beq_iff_eq, beq_iff_eq, toLower_eq_iff h]

theorem upper_of_latin {s : List Char} (h : ∀ c ∈ s, c.toNat < 128) :
    upper s = s.map Char.toUpper := by
  induction s with
  | nil => rfl
  | cons c s ih =>
    obtain ⟨hc, hs⟩ := List.forall_mem_cons.1 h
    rw [List.map_cons, ← ih hs, upper, List.flatMap_cons, upperChar, if_pos hc]
    rfl

/-! ## Texts in small letters -/

/-- A text in small letters of the basic Latin block. -/
def small (s : List Char) : List Char :=
  s.map Char.toLower

@[simp]
theorem small_nil : small [] = [] := rfl

@[simp]
theorem small_cons (c : Char) (s : List Char) : small (c :: s) = c.toLower :: small s := rfl

theorem small_append (s t : List Char) : small (s ++ t) = small s ++ small t :=
  List.map_append

@[simp]
theorem length_small (s : List Char) : (small s).length = s.length :=
  List.length_map _

@[simp]
theorem isEmpty_small (s : List Char) : (small s).isEmpty = s.isEmpty :=
  List.isEmpty_map

@[simp]
theorem small_small (s : List Char) : small (small s) = small s := by
  simp [small]

theorem drop_small (n : Nat) (s : List Char) : (small s).drop n = small (s.drop n) :=
  List.map_drop.symm

section
variable {p : Char → Bool}

theorem any_map_toLower (hp : IgnoresCase p) (before : Option Char) :
    (before.map Char.toLower).any p = before.any p := by
  cases before with
  | none => rfl
  | some c => exact hp c

theorem takeWhile_small (hp : IgnoresCase p) (s : List Char) :
    (small s).takeWhile p = small (s.takeWhile p) := by
  have hcomp : p ∘ Char.toLower = p := funext hp
  rw [small, List.takeWhile_map, hcomp, small]

theorem dropWhile_small (hp : IgnoresCase p) (s : List Char) :
    (small s).dropWhile p = small (s.dropWhile p) := by
  have hcomp : p ∘ Char.toLower = p := funext hp
  rw [small, List.dropWhile_map, hcomp, small]

theorem filter_small (hp : IgnoresCase p) (s : List Char) :
    (small s).filter p = small (s.filter p) := by
  have hcomp : p ∘ Char.toLower = p := funext hp
  rw [small, List.filter_map, hcomp, small]

theorem dropEndWhile_small (hp : IgnoresCase p) (s : List Char) :
    dropEndWhile p (small s) = small (dropEndWhile p s) := by
  induction s with
  | nil => rfl
  | cons c s ih =>
    rw [small_cons, dropEndWhile, dropEndWhile, ih, hp]
    cases dropEndWhile p s with
    | nil => cases p c <;> rfl
    | cons d rest => rfl

theorem splitWhen_small (hp : IgnoresCase p) (s : List Char) :
    splitWhen p (small s) = (splitWhen p s).map small := by
  induction s with
  | nil => rfl
  | cons c s ih =>
    rw [small_cons, splitWhen, splitWhen, ih, hp]
    cases p c with
    | true => rfl
    | false => cases splitWhen p s <;> rfl

theorem afterLast_small (hp : IgnoresCase p) (s : List Char) :
    afterLast p (small s) = small (afterLast p s) := by
  rw [afterLast, afterLast, splitWhen_small hp, List.getLastD_eq_getLast?, List.getLast?_map,
    List.getLastD_eq_getLast?]
  cases (splitWhen p s).getLast? <;> rfl

end

theorem trim_small (s : List Char) : trim (small s) = small (trim s) := by
  rw [trim, trim, dropWhile_small isBlank_toLower, dropEndWhile_small isBlank_toLower]

theorem words_small (s : List Char) : words (small s) = (words s).map small := by
  have hcomp : (fun word : List Char => !word.isEmpty) ∘ small = fun word => !word.isEmpty := by
    funext word
    simp
  rw [words, words, splitWhen_small isBlank_toLower, List.filter_map, hcomp]

theorem singleSpaced_small (s : List Char) : singleSpaced (small s) = small (singleSpaced s) := by
  rw [singleSpaced, singleSpaced, words_small]
  induction words s with
  | nil => rfl
  | cons word words ih =>
    cases words with
    | nil => simp
    | cons next words =>
      rw [List.map_cons, List.map_cons, List.intercalate_cons_cons, List.intercalate_cons_cons,
        ← List.map_cons, ih]
      simp [small]

theorem upper_small (s : List Char) : upper (small s) = upper s := by
  induction s with
  | nil => rfl
  | cons c s ih =>
    rw [small_cons, upper, upper, List.flatMap_cons, List.flatMap_cons, upperChar_toLower]
    exact congrArg (upperChar c ++ ·) ih

end Ripple.Text
