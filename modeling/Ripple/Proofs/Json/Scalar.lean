-- SUMMARY: Strings and integers are read back from their texts, with anything behind them.
import Ripple.Json.Printer
import Ripple.Json.Reader
import Ripple.Proofs.Text.Cut
import Mathlib.Data.Nat.Digits.Lemmas

/-!
# Reading strings and integers that were written

A string is read back as its characters, whatever follows it, and its text without the end is no
string. An integer is read back if what follows it can be no part of a number.
-/

namespace Ripple.Json

/-! ## Strings -/

theorem beq_str (s t : String) : (Json.str s == Json.str t) = (s == t) := rfl

theorem isSurrogate_toNat (c : Char) : isSurrogate c.toNat = false := by
  have hvalid : c.toNat < 0xD800 ∨ 0xDFFF < c.toNat ∧ c.toNat < 0x110000 := c.valid
  simp only [isSurrogate, Bool.and_eq_false_iff, decide_eq_false_iff_not]
  omega

/-- The code points of a text are those of a string. -/
theorem ofCodes_map_toNat (s : String) : ofCodes (s.toList.map Char.toNat) = .str s := by
  have hnone : (s.toList.map Char.toNat).any isSurrogate = false := by
    simp [isSurrogate_toNat]
  unfold ofCodes
  rw [hnone]
  simp [Function.comp_def]

/-- A key is read as it was written. -/
theorem lossyText_map_toNat (s : String) : lossyText (s.toList.map Char.toNat) = s := by
  simp [lossyText, Function.comp_def, isSurrogate_toNat]

/-- Four characters that are no number. -/
theorem readString_no_unit {a b c d : Char} (hunit : hexUnit? a b c d = none) (rest : List Char) :
    readString ('\\' :: 'u' :: a :: b :: c :: d :: rest) = .error .malformed := by
  rw [readString.eq_def]
  split
  · rename_i h; cases h
  · rename_i h; cases h
  · rename_i h; cases h; simp [hunit]
  · rename_i h; cases h; simp [hunit]
  · rename_i hshort h; cases h; exact absurd rfl (hshort a b c d rest rfl)
  · rename_i hslash h; cases h; exact absurd rfl (hslash 'u' _ rfl)

/-- A code point that is written by its number and begins no pair of surrogates. -/
theorem readString_unit {a b c d : Char} {n : Nat} (hunit : hexUnit? a b c d = some n)
    (hn : n < 0xD800) (rest : List Char) :
    readString ('\\' :: 'u' :: a :: b :: c :: d :: rest) =
      (readString rest).map fun (t, r) => (n :: t, r) := by
  rw [readString.eq_def]
  split
  · rename_i h; cases h
  · rename_i h; cases h
  · -- What follows is looked at for the other half of a pair, and then read on its own.
    rename_i _ _ _ _ e f g h s hs
    cases hs
    simp only [hunit]
    cases hnext : hexUnit? e f g h with
    | none => rw [readString_no_unit hnext]; rfl
    | some low => simp [show ¬ 0xD800 ≤ n by omega]
  · rename_i h; cases h; simp [hunit]
  · rename_i hshort h; cases h; exact absurd rfl (hshort a b c d rest rfl)
  · rename_i hslash h; cases h; exact absurd rfl (hslash 'u' _ rfl)

/-- A character that is written as it is. -/
theorem readString_plain {c : Char} (hcontrol : ¬ c.toNat < 32) (hslash : c ≠ '\\') (hquote : c ≠ '"')
    (rest : List Char) :
    readString (c :: rest) = (readString rest).map fun (t, r) => (c.toNat :: t, r) := by
  rw [readString.eq_def]
  split
  · rename_i h; cases h
  · rename_i h; cases h; exact absurd rfl hquote
  · rename_i h; cases h; exact absurd rfl hslash
  · rename_i h; cases h; exact absurd rfl hslash
  · rename_i h; cases h; exact absurd rfl hslash
  · rename_i h; cases h; rw [if_neg (by simp [hcontrol, hslash])]

/-- A character that is written by a letter. -/
theorem readString_letter {e c : Char} (hletter : escapedChar? e = some c) (rest : List Char) :
    readString ('\\' :: e :: rest) = (readString rest).map fun (t, r) => (c.toNat :: t, r) := by
  rw [readString.eq_def]
  split
  · rename_i h; cases h
  · rename_i h; cases h
  · rename_i h; cases h; cases hletter
  · rename_i h; cases h; cases hletter
  · rename_i h; cases h; simp [hletter]
  · rename_i hslash h; cases h; exact absurd rfl (hslash e _ rfl)

/-- A string breaks off inside an escape. -/
theorem readString_short {s : List Char} (h : s.length < 4) :
    readString ('\\' :: 'u' :: s) = .error .malformed := by
  rw [readString.eq_def]
  split
  · rename_i h; cases h
  · rename_i h; cases h
  · rename_i hs; cases hs; simp only [List.length_cons] at h; omega
  · rename_i hs; cases hs; simp only [List.length_cons] at h; omega
  · rename_i hs; cases hs; rfl
  · rename_i hslash h; cases h; exact absurd rfl (hslash 'u' _ rfl)

/-- A control character is written by a number that is read back. -/
theorem hexDigits_control : ∀ n < 32,
    Text.hexDigits 4 n = ['0', '0', Nat.digitChar (n / 16), Nat.digitChar (n % 16)] ∧
      hexUnit? '0' '0' (Nat.digitChar (n / 16)) (Nat.digitChar (n % 16)) = some n := by
  decide

/-- How a character is written: as it is, by a letter, or by its number. -/
theorem stringChar_cases (c : Char) :
    (stringChar c = [c] ∧ ¬ c.toNat < 32 ∧ c ≠ '\\' ∧ c ≠ '"') ∨
    (∃ e, stringChar c = ['\\', e] ∧ escapedChar? e = some c) ∨
    (∃ d₁ d₂ d₃ d₄, stringChar c = ['\\', 'u', d₁, d₂, d₃, d₄] ∧
      hexUnit? d₁ d₂ d₃ d₄ = some c.toNat ∧ c.toNat < 32) := by
  unfold stringChar
  split
  · exact .inr (.inl ⟨'"', rfl, rfl⟩)
  · exact .inr (.inl ⟨'\\', rfl, rfl⟩)
  · exact .inr (.inl ⟨'n', rfl, rfl⟩)
  · exact .inr (.inl ⟨'r', rfl, rfl⟩)
  · exact .inr (.inl ⟨'t', rfl, rfl⟩)
  · exact .inr (.inl ⟨'b', rfl, rfl⟩)
  · exact .inr (.inl ⟨'f', rfl, rfl⟩)
  · rename_i hquote hslash _ _ _ _ _
    split
    · rename_i hcontrol
      obtain ⟨hdigits, hunit⟩ := hexDigits_control c.toNat hcontrol
      exact .inr (.inr ⟨_, _, _, _, by rw [hdigits], hunit, hcontrol⟩)
    · rename_i hcontrol
      exact .inl ⟨rfl, hcontrol, hslash, hquote⟩

/-- A written character is read back. -/
theorem readString_stringChar (c : Char) (rest : List Char) :
    readString (stringChar c ++ rest) = (readString rest).map fun (t, r) => (c.toNat :: t, r) := by
  obtain ⟨htext, hcontrol, hslash, hquote⟩ | ⟨e, htext, hletter⟩ |
    ⟨d₁, d₂, d₃, d₄, htext, hunit, hcontrol⟩ := stringChar_cases c
  · rw [htext]
    exact readString_plain hcontrol hslash hquote rest
  · rw [htext]
    exact readString_letter hletter rest
  · rw [htext]
    exact readString_unit hunit (by omega) rest

/-- The text of a string is read back, whatever follows it. -/
theorem readString_stringText (s rest : List Char) :
    readString (s.flatMap stringChar ++ '"' :: rest) = .ok (s.map Char.toNat, rest) := by
  induction s with
  | nil => rw [List.flatMap_nil, List.nil_append, readString.eq_def]; rfl
  | cons c s ih =>
    rw [List.flatMap_cons, List.append_assoc, readString_stringChar, ih]
    rfl

/-- A character breaks off with a backslash that nothing can be made of. -/
theorem readString_cut_stringChar {c : Char} {part : List Char}
    (h : Text.IsCut part (stringChar c)) : readString part = .error .malformed := by
  obtain ⟨htext, -⟩ | ⟨e, htext, -⟩ | ⟨d₁, d₂, d₃, d₄, htext, -⟩ := stringChar_cases c
  · rw [htext] at h
    rw [h.singleton, readString.eq_def]
  · rw [htext] at h
    obtain rfl | ⟨part, rfl, hcut⟩ := h.cons
    · rw [readString.eq_def]
    · rw [hcut.singleton, readString.eq_def]
      rfl
  · rw [htext] at h
    obtain rfl | ⟨part, rfl, hcut⟩ := h.cons
    · rw [readString.eq_def]
    · obtain rfl | ⟨digits, rfl, hdigits⟩ := hcut.cons
      · rw [readString.eq_def]
        rfl
      · exact readString_short hdigits.length_lt

/-- A string without its end is refused. -/
theorem readString_cut {s part : List Char}
    (h : Text.IsCut part (s.flatMap stringChar ++ ['"'])) :
    readString part = .error .malformed := by
  induction s generalizing part with
  | nil => rw [h.singleton, readString.eq_def]
  | cons c s ih =>
    rw [List.flatMap_cons, List.append_assoc] at h
    obtain hfirst | ⟨part, rfl, hrest⟩ := h.append
    · exact readString_cut_stringChar hfirst
    · rw [readString_stringChar, ih hrest]
      rfl

/-! ## Integers -/

/-- Whether nothing at the front of a text can be a part of a number before it. -/
def EndsNumber (rest : List Char) : Prop :=
  ∀ c ∈ rest.head?, c.isDigit = false ∧ c ≠ '.' ∧ c ≠ 'e' ∧ c ≠ 'E'

theorem endsNumber_nil : EndsNumber [] := by
  intro c hc
  cases hc

theorem spanDigits_append {ds rest : List Char} (hds : ∀ c ∈ ds, c.isDigit = true)
    (hrest : EndsNumber rest) : spanDigits (ds ++ rest) = (ds, rest) := by
  have htake : rest.takeWhile Char.isDigit = [] := by
    cases rest with
    | nil => rfl
    | cons c rest => simp [(hrest c rfl).1]
  have hdrop : rest.dropWhile Char.isDigit = rest := by
    cases rest with
    | nil => rfl
    | cons c rest => simp [(hrest c rfl).1]
  unfold spanDigits
  rw [List.takeWhile_append_of_pos hds, List.dropWhile_append_of_pos hds, htake, hdrop,
    List.append_nil]

theorem readFraction_of_endsNumber {rest : List Char} (hrest : EndsNumber rest) :
    readFraction rest = ([], rest) := by
  unfold readFraction
  split
  · rename_i tail
    exact absurd rfl (hrest '.' rfl).2.1
  · rfl

theorem readExponent_of_endsNumber {rest : List Char} (hrest : EndsNumber rest) :
    readExponent rest = (none, rest) := by
  cases rest with
  | nil => rfl
  | cons c rest =>
    obtain ⟨-, -, he, hE⟩ := hrest c rfl
    simp [readExponent, he, hE]

/-- No number but zero begins with a zero. -/
theorem head?_toDigits_ne_zero {n : Nat} (hn : 0 < n) : (Nat.toDigits 10 n).head? ≠ some '0' := by
  induction n using Nat.strongRecOn with
  | ind n ih =>
    rw [Nat.toDigits_eq_if (by omega)]
    split
    · simp only [List.head?_cons, ne_eq, Option.some.injEq, Nat.digitChar_eq_zero]
      omega
    · rw [List.head?_append_of_ne_nil _ Nat.toDigits_ne_nil]
      exact ih (n / 10) (by omega) (by omega)

theorem digitsValue_eq (ds : List Char) : digitsValue ds = Nat.ofDigitChars 10 ds 0 := by
  simp only [digitsValue, Nat.ofDigitChars_eq_foldl, Nat.mul_comm]
  rfl

/-- Digits up to their end. -/
theorem spanWhole_digits {ds rest : List Char} (hne : ds ≠ []) (hds : ∀ c ∈ ds, c.isDigit = true)
    (hzero : ds = ['0'] ∨ ds.head? ≠ some '0') (hrest : EndsNumber rest) :
    spanWhole (ds ++ rest) = (ds, rest) := by
  obtain rfl | hzero := hzero
  · rfl
  · unfold spanWhole
    split
    · rename_i hs
      cases ds with
      | nil => exact absurd rfl hne
      | cons c ds =>
        simp only [List.cons_append, List.cons.injEq] at hs
        exact absurd (by simp [hs.1]) hzero
    · exact spanDigits_append hds hrest

/-- Digits that are not too many are read up to their end. -/
theorem readNumber_digits {ds rest : List Char} (hne : ds ≠ []) (hds : ∀ c ∈ ds, c.isDigit = true)
    (hzero : ds = ['0'] ∨ ds.head? ≠ some '0') (hsize : ds.length ≤ Text.maxIntegerDigits)
    (hrest : EndsNumber rest) (negative : Bool) :
    readNumber negative (ds ++ rest) =
      .ok (.int (if negative then -(digitsValue ds : Int) else digitsValue ds), rest) := by
  unfold readNumber
  simp only [spanWhole_digits hne hds hzero hrest, readFraction_of_endsNumber hrest,
    readExponent_of_endsNumber hrest, List.isEmpty_eq_false_iff.2 hne, Bool.false_eq_true, if_false,
    List.isEmpty_nil, Option.isNone_none, Bool.and_self, if_true, Nat.not_lt.2 hsize]

/-- The digits of a number. -/
theorem toDigits_spec (n : Nat) : Nat.toDigits 10 n ≠ [] ∧
    (∀ c ∈ Nat.toDigits 10 n, c.isDigit = true) ∧
    (Nat.toDigits 10 n = ['0'] ∨ (Nat.toDigits 10 n).head? ≠ some '0') ∧
    digitsValue (Nat.toDigits 10 n) = n := by
  refine ⟨Nat.toDigits_ne_nil, fun c => Nat.isDigit_of_mem_toDigits (by omega) (by omega), ?_, ?_⟩
  · obtain rfl | hn := Nat.eq_zero_or_pos n
    · exact .inl (Nat.toDigits_zero 10)
    · exact .inr (head?_toDigits_ne_zero hn)
  · rw [digitsValue_eq, Nat.ofDigitChars_ten_toDigits]

theorem readNumber_toDigits {n : Nat} {rest : List Char}
    (hsize : (Nat.toDigits 10 n).length ≤ Text.maxIntegerDigits) (hrest : EndsNumber rest)
    (negative : Bool) :
    readNumber negative (Nat.toDigits 10 n ++ rest) =
      .ok (.int (if negative then -(n : Int) else n), rest) := by
  obtain ⟨hne, hds, hzero, hvalue⟩ := toDigits_spec n
  rw [readNumber_digits hne hds hzero hsize hrest, hvalue]

/-- A text that begins like no word is read as a number. -/
theorem readScalar_of_isDigit {c : Char} (hc : c.isDigit = true) (rest : List Char) :
    readScalar (c :: rest) = readNumber false (c :: rest) := by
  have hne : ∀ d : Char, d.isDigit = false → (d == c) = false := by
    intro d hd
    rw [beq_eq_false_iff_ne]
    rintro rfl
    exact absurd hc (by simp [hd])
  unfold readScalar
  split
  · -- No word begins with a digit.
    rename_i found hfound
    simp [wordValues, dropText?, hne] at hfound
  · split
    · rename_i heq
      cases heq
      exact absurd hc (by decide)
    · rfl

theorem readScalar_minus {c : Char} (hc : c.isDigit = true) (rest : List Char) :
    readScalar ('-' :: c :: rest) = readNumber true (c :: rest) := by
  have hne : ('I' == c) = false := by
    rw [beq_eq_false_iff_ne]
    rintro rfl
    exact absurd hc (by decide)
  simp [readScalar, wordValues, dropText?, hne]

theorem intText_starts (n : Int) :
    ∃ c t, intText n = c :: t ∧ (c = '-' ∨ c.isDigit = true) := by
  cases n with
  | ofNat n =>
    obtain ⟨hne, hds, -⟩ := toDigits_spec n
    obtain ⟨c, ds, htext⟩ := List.exists_cons_of_ne_nil hne
    exact ⟨c, ds, htext, .inr (hds c (by simp [htext]))⟩
  | negSucc n => exact ⟨'-', _, rfl, .inl rfl⟩

/-- An integer with so few digits that it can be read. -/
def IsShort (n : Int) : Prop :=
  (Nat.toDigits 10 n.natAbs).length ≤ Text.maxIntegerDigits

theorem readScalar_intText {n : Int} (hn : IsShort n) {rest : List Char}
    (hrest : EndsNumber rest) : readScalar (intText n ++ rest) = .ok (.int n, rest) := by
  cases n with
  | ofNat n =>
    have hread := readNumber_toDigits (n := n) hn hrest false
    obtain ⟨hne, hds, -⟩ := toDigits_spec n
    obtain ⟨c, ds, htext⟩ := List.exists_cons_of_ne_nil hne
    simp only [intText]
    rw [htext] at hread hds ⊢
    rw [List.cons_append, readScalar_of_isDigit (hds c (by simp)), ← List.cons_append, hread]
    rfl
  | negSucc n =>
    have hread := readNumber_toDigits (n := n + 1) hn hrest true
    obtain ⟨hne, hds, -⟩ := toDigits_spec (n + 1)
    obtain ⟨c, ds, htext⟩ := List.exists_cons_of_ne_nil hne
    simp only [intText]
    rw [htext] at hread hds ⊢
    rw [List.cons_append, List.cons_append, readScalar_minus (hds c (by simp)),
      ← List.cons_append, hread]
    rfl

/-- The first of the digits of a number, if they break off, are digits of a number. -/
theorem readNumber_cut_toDigits {n : Nat} {part : List Char}
    (hsize : (Nat.toDigits 10 n).length ≤ Text.maxIntegerDigits)
    (h : Text.IsCut part (Nat.toDigits 10 n)) (hne : part ≠ []) (negative : Bool) :
    ∃ m, readNumber negative part = .ok (.int m, []) := by
  obtain ⟨-, hds, hzero, -⟩ := toDigits_spec n
  obtain ⟨c, ds, rfl⟩ := List.exists_cons_of_ne_nil hne
  have hhead : (c :: ds).head? ≠ some '0' := by
    obtain hzero | hzero := hzero
    · rw [hzero] at h
      cases h.singleton
    · obtain ⟨rest, hrest⟩ := h.1
      rwa [← hrest] at hzero
  have hdigits : ∀ d ∈ c :: ds, d.isDigit = true := fun d hd => hds d (h.1.subset hd)
  have hread := readNumber_digits hne hdigits (.inr hhead) (h.1.length_le.trans hsize)
    endsNumber_nil negative
  rw [List.append_nil] at hread
  exact ⟨_, hread⟩

/-- A number that breaks off is refused, or it is another number at the end of the text. -/
theorem readScalar_cut_intText {n : Int} (hn : IsShort n) {part : List Char}
    (h : Text.IsCut part (intText n)) :
    readScalar part = .error .malformed ∨ ∃ m, readScalar part = .ok (.int m, []) := by
  cases part with
  | nil => exact .inl rfl
  | cons c ds =>
    cases n with
    | ofNat n =>
      have hdigit : c.isDigit = true := (toDigits_spec n).2.1 c (h.1.subset (by simp))
      rw [readScalar_of_isDigit hdigit]
      exact .inr (readNumber_cut_toDigits hn h (by simp) false)
    | negSucc n =>
      obtain hnil | ⟨ds', heq, hcut⟩ := h.cons
      · cases hnil
      · cases heq
        cases ds with
        | nil => exact .inl rfl
        | cons d ds =>
          have hdigit : d.isDigit = true := (toDigits_spec (n + 1)).2.1 d (hcut.1.subset (by simp))
          rw [readScalar_minus hdigit]
          exact .inr (readNumber_cut_toDigits hn hcut (by simp) true)

end Ripple.Json
