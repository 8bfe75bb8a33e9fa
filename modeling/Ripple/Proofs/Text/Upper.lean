-- SUMMARY: Upper case is stable and gives no blanks or marks, computed from the tables as sets of bits.
import Ripple.Text.Blank
import Ripple.Text.Upper

/-!
# Upper case

What characters become in upper case does not change any more, and is a letter or goes with one: it
is no blank and none of the marks between words. Both are seen from the tables. They are compared as
sets of code points, each set as the bits of a number, so that all of it is one conjunction.
-/

namespace Ripple.Text

/-! ## Sets of code points -/

/-- The code points from one to another, by steps. -/
def stretch (first last step : Nat) : List Nat :=
  (List.range ((last - first) / step + 1)).map (first + step * ·)

theorem mem_stretch {first last step n : Nat} (hfirst : first ≤ n) (hlast : n ≤ last)
    (hstep : (n - first) % step = 0) : n ∈ stretch first last step := by
  refine List.mem_map.2 ⟨(n - first) / step, ?_, ?_⟩
  · have hle : (n - first) / step ≤ (last - first) / step :=
      Nat.div_le_div_right (Nat.sub_le_sub_right hlast first)
    exact List.mem_range.2 (Nat.lt_succ_of_le hle)
  · rw [Nat.mul_div_cancel' (Nat.dvd_of_mod_eq_zero hstep), Nat.add_sub_cancel' hfirst]

/-- A set of numbers as the bits of a number. -/
def bits : List Nat → Nat
  | [] => 0
  | n :: rest => 1 <<< n ||| bits rest

theorem testBit_bits (codes : List Nat) (n : Nat) : (bits codes).testBit n = decide (n ∈ codes) := by
  induction codes with
  | nil => simp [bits]
  | cons code codes ih =>
    simp [bits, ih, Nat.one_shiftLeft, Nat.testBit_two_pow, eq_comm]

theorem notMem_of_bits {codes others : List Nat} (h : bits codes &&& bits others = 0) {n : Nat}
    (hn : n ∈ codes) : n ∉ others := by
  intro hother
  have hbit := congrArg (Nat.testBit · n) h
  simp [testBit_bits, hn, hother] at hbit

/-! ## Tables -/

/-- The code points that change. -/
def changing : List Nat :=
  upperExpansions.map (·.1) ++
    upperRunImages.flatMap fun (first, last, step, _) => stretch first last step

/-- The code points that others become. -/
def images : List Nat :=
  upperExpansions.flatMap (·.2) ++
    upperRunImages.flatMap fun (first, last, step, image) =>
      stretch image (image + (last - first)) step

/-- Blanks, and all code points of the basic Latin block up to the small letters that are no capital
letters. -/
def marks : List Nat :=
  stretch 1 64 1 ++ stretch 91 96 1 ++ [0x85, 0xA0, 0x1680] ++ stretch 0x2000 0x200A 1 ++
    [0x2028, 0x2029, 0x202F, 0x205F, 0x3000]

theorem images_apart : bits images &&& bits (changing ++ marks) = 0 := by
  decide +kernel

theorem notMem_changing_of_mem_images {n : Nat} (h : n ∈ images) : n ∉ changing := by
  intro hchanging
  exact notMem_of_bits images_apart h (List.mem_append_left _ hchanging)

theorem notMem_marks_of_mem_images {n : Nat} (h : n ∈ images) : n ∉ marks := by
  intro hmark
  exact notMem_of_bits images_apart h (List.mem_append_right _ hmark)

theorem upperWide_of_notMem {n : Nat} (h : n ∉ changing) : upperWide n = [n] := by
  have hexpansion : upperExpansions.find? (·.1 == n) = none := by
    refine List.find?_eq_none.2 fun entry hentry hn => h ?_
    exact List.mem_append_left _ (List.mem_map.2 ⟨entry, hentry, by simpa using hn⟩)
  have hrun : (upperRunImages.find? fun (first, last, step, _) =>
      first ≤ n && n ≤ last && (n - first) % step == 0) = none := by
    refine List.find?_eq_none.2 fun run hrun hn => h ?_
    simp only [Bool.and_eq_true, decide_eq_true_eq, beq_iff_eq] at hn
    exact List.mem_append_right _ (List.mem_flatMap.2 ⟨run, hrun, mem_stretch hn.1.1 hn.1.2 hn.2⟩)
  simp only [upperWide, hexpansion, hrun]

/-- A code point stays, or becomes others that are images. -/
theorem upperWide_cases (n : Nat) : upperWide n = [n] ∨ ∀ m ∈ upperWide n, m ∈ images := by
  unfold upperWide
  split
  · rename_i key image hfound
    refine .inr fun m hm => List.mem_append_left _ ?_
    exact List.mem_flatMap.2 ⟨_, List.mem_of_find?_eq_some hfound, hm⟩
  · split
    · rename_i first last step image hfound
      refine .inr fun m hm => List.mem_append_right _ ?_
      refine List.mem_flatMap.2 ⟨_, List.mem_of_find?_eq_some hfound, ?_⟩
      have hcovers := List.find?_some hfound
      simp only [Bool.and_eq_true, decide_eq_true_eq, beq_iff_eq] at hcovers
      obtain ⟨⟨hfirst, hlast⟩, hstep⟩ := hcovers
      rw [List.mem_singleton.1 hm]
      refine mem_stretch (by omega) (by omega) ?_
      rwa [Nat.add_sub_cancel]
    · exact .inl rfl

/-! ## Characters -/

/-- The small letters of the basic Latin block change, and become the capital ones. -/
theorem latin_mem_upperRunImages : (97, 122, 1, 65) ∈ upperRunImages := by
  decide

theorem upperChar_of_notMem {c : Char} (h : c.toNat ∉ changing) : upperChar c = [c] := by
  unfold upperChar
  split
  · have hsmall : ¬(97 ≤ c.toNat ∧ c.toNat ≤ 122) := by
      rintro ⟨hfirst, hlast⟩
      refine h (List.mem_append_right _ (List.mem_flatMap.2 ⟨_, latin_mem_upperRunImages, ?_⟩))
      exact mem_stretch hfirst hlast (Nat.mod_one _)
    have hupper : c.toUpper = c := by
      unfold Char.toUpper
      rw [dif_neg]
      simpa [UInt32.le_iff_toNat_le] using hsmall
    rw [hupper]
  · rw [upperWide_of_notMem h]
    simp

theorem toUpper_cases {c : Char} (h : c.toNat < 128) :
    c.toUpper = c ∨ 65 ≤ c.toUpper.toNat ∧ c.toUpper.toNat ≤ 90 := by
  have hall : ∀ n < 128, (Char.ofNat n).toUpper = Char.ofNat n ∨
      65 ≤ (Char.ofNat n).toUpper.toNat ∧ (Char.ofNat n).toUpper.toNat ≤ 90 := by
    decide
  have hc := hall c.toNat h
  rwa [Char.ofNat_toNat] at hc

/-- A character stays, or becomes others that are images. The zero character stands for what is no
character. -/
theorem upperChar_cases (c : Char) :
    upperChar c = [c] ∨ ∀ d ∈ upperChar c, d = '\x00' ∨ d.toNat ∈ images := by
  unfold upperChar
  split
  · rename_i hlatin
    obtain hsame | ⟨hfirst, hlast⟩ := toUpper_cases hlatin
    · exact .inl (by rw [hsame])
    · refine .inr fun d hd => .inr ?_
      rw [List.mem_singleton.1 hd]
      refine List.mem_append_right _ (List.mem_flatMap.2 ⟨_, latin_mem_upperRunImages, ?_⟩)
      exact mem_stretch hfirst hlast (Nat.mod_one _)
  · obtain hsame | himages := upperWide_cases c.toNat
    · exact .inl (by simp [hsame])
    · refine .inr fun d hd => ?_
      obtain ⟨m, hm, rfl⟩ := List.mem_map.1 hd
      by_cases hvalid : m.isValidChar
      · rw [Char.ofNat, dif_pos hvalid]
        exact .inr (himages m hm)
      · exact .inl (dif_neg hvalid)

/-- What a character becomes does not change any more. -/
theorem upperChar_of_mem {c d : Char} (h : d ∈ upperChar c) : upperChar d = [d] := by
  obtain hsame | himages := upperChar_cases c
  · rw [hsame] at h
    rw [List.mem_singleton.1 h, hsame]
  · obtain rfl | himage := himages d h
    · rfl
    · exact upperChar_of_notMem (notMem_changing_of_mem_images himage)

/-- No character becomes a mark that it is not. -/
theorem eq_or_notMem_marks {c d : Char} (h : d ∈ upperChar c) : d = c ∨ d.toNat ∉ marks := by
  obtain hsame | himages := upperChar_cases c
  · rw [hsame] at h
    exact .inl (List.mem_singleton.1 h)
  · obtain rfl | himage := himages d h
    · exact .inr (by decide)
    · exact .inr (notMem_marks_of_mem_images himage)

theorem mem_marks_of_isBlank {c : Char} (h : isBlank c = true) : c.toNat ∈ marks := by
  have hspan {first last : Nat} (hspan : stretch first last 1 ⊆ marks) (hfirst : first ≤ c.toNat)
      (hlast : c.toNat ≤ last) : c.toNat ∈ marks :=
    hspan (mem_stretch hfirst hlast (Nat.mod_one _))
  simp only [isBlank, Bool.or_eq_true, Bool.and_eq_true, decide_eq_true_eq, beq_iff_eq,
    or_assoc] at h
  obtain ⟨hfirst, hlast⟩ | ⟨hfirst, hlast⟩ | h | h | h | ⟨hfirst, hlast⟩ | h := h
  · exact hspan (by decide) hfirst hlast
  · exact hspan (by decide) hfirst hlast
  · rw [h]
    decide
  · rw [h]
    decide
  · rw [h]
    decide
  · exact hspan (by decide) hfirst hlast
  · obtain h | h | h | h | h := h <;> rw [h] <;> decide

/-! ## Texts -/

theorem upper_eq_self {s : List Char} (h : ∀ c ∈ s, upperChar c = [c]) : upper s = s := by
  induction s with
  | nil => rfl
  | cons c s ih =>
    have hrest : upper s = s := ih fun d hd => h d (by simp [hd])
    calc upper (c :: s) = upperChar c ++ upper s := List.flatMap_cons
      _ = c :: s := by rw [h c (by simp), hrest, List.singleton_append]

/-- A text in upper case stays as it is. -/
theorem upper_upper (s : List Char) : upper (upper s) = upper s := by
  apply upper_eq_self
  intro d hd
  obtain ⟨c, -, hc⟩ := List.mem_flatMap.1 hd
  exact upperChar_of_mem hc

theorem mem_or_notMem_marks {s : List Char} {d : Char} (h : d ∈ upper s) :
    d ∈ s ∨ d.toNat ∉ marks := by
  obtain ⟨c, hc, hd⟩ := List.mem_flatMap.1 h
  obtain rfl | hmark := eq_or_notMem_marks hd
  · exact .inl hc
  · exact .inr hmark

end Ripple.Text
