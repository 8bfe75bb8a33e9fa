-- SUMMARY: The refusal of long integers, told apart from that of malformed texts.
import Ripple.Proofs.Json.RoundTrip

/-!
# Integers of too many digits

Reading can be refused in two ways. That an integer is too long is said only of texts with a run of
that many digits.
-/

namespace Ripple.Json

/-- A run of digits in a text that is longer than an integer may be. -/
def HasLongRun (s : List Char) : Prop :=
  ∃ digits, digits <:+: s ∧ (∀ c ∈ digits, c.isDigit = true) ∧
    Text.maxIntegerDigits < digits.length

/-- What is left after reading is the end of the text, and a too long integer stands in the text. -/
structure Within (s : List Char) (read : Except ReadError (α × List Char)) : Prop where
  suffix : ∀ a rest, read = .ok (a, rest) → rest <:+ s
  run : read = .error .longInteger → HasLongRun s

namespace Within

variable {s t : List Char}

theorem malformed : Within s (.error .malformed : Except ReadError (α × List Char)) :=
  ⟨nofun, nofun⟩

theorem ok {rest : List Char} (a : α) (h : rest <:+ s) :
    Within s (.ok (a, rest) : Except ReadError (α × List Char)) := by
  refine ⟨fun _ _ heq => ?_, nofun⟩
  cases heq
  exact h

theorem of_suffix {read : Except ReadError (α × List Char)} (h : Within s read) (hst : s <:+ t) :
    Within t read where
  suffix a rest heq := (h.suffix a rest heq).trans hst
  run heq := by
    obtain ⟨digits, hinfix, hdigits⟩ := h.run heq
    exact ⟨digits, hinfix.trans hst.isInfix, hdigits⟩

theorem bind {read : Except ReadError (α × List Char)} (h : Within s read)
    {next : α × List Char → Except ReadError (β × List Char)}
    (hnext : ∀ a rest, rest <:+ s → Within s (next (a, rest))) : Within s (read >>= next) := by
  cases read with
  | error e => exact ⟨nofun, fun heq => h.run (by cases heq; rfl)⟩
  | ok found => exact hnext found.1 found.2 (h.suffix _ _ rfl)

theorem map {read : Except ReadError (α × List Char)} (h : Within s read) (f : α → β) :
    Within s (read.map fun found => (f found.1, found.2)) := by
  cases read with
  | error e => exact ⟨nofun, fun heq => h.run (by cases heq; rfl)⟩
  | ok found => exact .ok _ (h.suffix _ _ rfl)

end Within

theorem skipSpaces_suffix (s : List Char) : skipSpaces s <:+ s :=
  List.dropWhile_suffix _

theorem within_readString (s : List Char) : Within s (readString s) := by
  fun_induction readString s with
  | case1 | case3 | case6 | case7 | case9 | case11 => exact .malformed
  | case2 => exact .ok _ (List.suffix_cons _ _)
  | case4 | case5 | case8 | case10 | case12 =>
    -- one character, plain or escaped, and the rest of the string
    rename_i ih
    exact (ih.map _).of_suffix (by simp [List.suffix_cons_iff])

/-! ## Numbers -/

theorem spanDigits_suffix (s : List Char) : (spanDigits s).2 <:+ s :=
  List.dropWhile_suffix _

theorem readFraction_suffix (s : List Char) : (readFraction s).2 <:+ s := by
  unfold readFraction
  split
  · rename_i rest
    split
    · exact List.suffix_rfl
    · rename_i ds r _ hspan
      have hsuffix := spanDigits_suffix rest
      rw [hspan] at hsuffix
      exact hsuffix.trans (List.suffix_cons _ _)
  · exact List.suffix_rfl

theorem readExponent_suffix (s : List Char) : (readExponent s).2 <:+ s := by
  unfold readExponent
  split
  · rename_i c rest
    split
    · dsimp only
      split
      · exact List.suffix_rfl
      · rename_i ds r _ hspan
        have hsuffix : (ds, r).2 <:+ _ := hspan ▸ spanDigits_suffix _
        refine hsuffix.trans (List.IsSuffix.trans ?_ (List.suffix_cons c rest))
        split <;> simp
    · exact List.suffix_rfl
  · exact List.suffix_rfl

/-- The whole part are digits at the front of the text. -/
theorem spanWhole_spec (s : List Char) :
    (spanWhole s).1 ++ (spanWhole s).2 = s ∧ ∀ c ∈ (spanWhole s).1, c.isDigit = true := by
  unfold spanWhole
  split
  · simp
  · exact ⟨List.takeWhile_append_dropWhile, List.all_eq_true.1 List.all_takeWhile⟩

theorem within_readNumber (negative : Bool) (s : List Char) : Within s (readNumber negative s) := by
  obtain ⟨happend, hdigits⟩ := spanWhole_spec s
  unfold readNumber
  rcases hwhole : spanWhole s with ⟨whole, rest⟩
  rw [hwhole] at happend hdigits
  have hfraction := readFraction_suffix rest
  have hexponent := readExponent_suffix (readFraction rest).2
  have hrest : (readExponent (readFraction rest).2).2 <:+ s :=
    (hexponent.trans hfraction).trans ⟨whole, happend⟩
  dsimp only
  split
  · exact .malformed
  · split
    · split
      · -- here alone the fault arises, and the whole part is the run
        rename_i hlong
        refine ⟨nofun, fun _ => ⟨whole, ?_, hdigits, hlong⟩⟩
        exact List.IsPrefix.isInfix ⟨rest, happend⟩
      · exact .ok _ hrest
    · exact .ok _ hrest

theorem dropText?_suffix {word s rest : List Char} (h : dropText? word s = some rest) :
    rest <:+ s := by
  induction word generalizing s with
  | nil =>
    cases h
    exact List.suffix_rfl
  | cons a word ih =>
    cases s with
    | nil => cases h
    | cons c s =>
      rw [dropText?] at h
      split at h
      · exact (ih h).trans (List.suffix_cons c s)
      · cases h

theorem within_readScalar (s : List Char) : Within s (readScalar s) := by
  unfold readScalar
  split
  · rename_i found hfound
    obtain ⟨word, -, hword⟩ := List.exists_of_findSome?_eq_some hfound
    obtain ⟨rest, hrest, rfl⟩ := Option.map_eq_some_iff.1 hword
    exact .ok _ (dropText?_suffix hrest)
  · split
    · exact (within_readNumber true _).of_suffix (List.suffix_cons _ _)
    · exact within_readNumber false _

/-! ## Values -/

section
variable {fuel : Nat}

theorem within_readValue (hitems : ∀ s, Within s (readItems fuel s))
    (hfields : ∀ before s, Within s (readFields fuel before s)) (s : List Char) :
    Within s (readValue (fuel + 1) s) := by
  simp only [readValue]
  split
  · rename_i rest
    exact ((within_readString rest).map _).of_suffix (List.suffix_cons _ _)
  · rename_i rest
    have hskip := (skipSpaces_suffix rest).trans (List.suffix_cons '[' rest)
    split
    · rename_i r hr
      exact .ok _ ((List.suffix_cons ']' r).trans (hr ▸ hskip))
    · exact ((hitems _).map _).of_suffix hskip
  · rename_i rest
    have hskip := (skipSpaces_suffix rest).trans (List.suffix_cons '\x7b' rest)
    split
    · rename_i r hr
      exact .ok _ ((List.suffix_cons '\x7d' r).trans (hr ▸ hskip))
    · exact ((hfields _ _).map _).of_suffix hskip
  · exact within_readScalar s

theorem within_readItems (hvalue : ∀ s, Within s (readValue fuel s))
    (hitems : ∀ s, Within s (readItems fuel s)) (s : List Char) :
    Within s (readItems (fuel + 1) s) := by
  rw [readItems]
  refine (hvalue s).bind fun item rest hrest => ?_
  have hskip := (skipSpaces_suffix rest).trans hrest
  dsimp only
  split
  · rename_i r hr
    have hnext := (skipSpaces_suffix r).trans ((List.suffix_cons ',' r).trans (hr ▸ hskip))
    exact ((hitems _).map _).of_suffix hnext
  · rename_i r hr
    exact .ok _ ((List.suffix_cons ']' r).trans (hr ▸ hskip))
  · exact .malformed

theorem within_readFields (hvalue : ∀ s, Within s (readValue fuel s))
    (hfields : ∀ before s, Within s (readFields fuel before s)) (before : List (String × Json))
    (s : List Char) : Within s (readFields (fuel + 1) before s) := by
  rw [readFields.eq_def]
  dsimp only
  split
  · -- a key, a colon and a value, and then the other fields or the end
    rename_i rest
    have hstring := (within_readString rest).of_suffix (List.suffix_cons '"' rest)
    refine hstring.bind fun key rest hrest => ?_
    dsimp only
    split
    · rename_i rest' hcolon
      have hskip := (List.suffix_cons ':' rest').trans
        (hcolon ▸ (skipSpaces_suffix rest).trans hrest)
      have hbegin := (skipSpaces_suffix rest').trans hskip
      refine ((hvalue _).of_suffix hbegin).bind fun value rest hrest => ?_
      have hskip := (skipSpaces_suffix rest).trans hrest
      dsimp only
      split
      · rename_i r hr
        exact (hfields _ _).of_suffix
          ((skipSpaces_suffix r).trans ((List.suffix_cons ',' r).trans (hr ▸ hskip)))
      · rename_i r hr
        exact .ok _ ((List.suffix_cons '\x7d' r).trans (hr ▸ hskip))
      · exact .malformed
    · exact .malformed
  · exact .malformed

end

theorem within (fuel : Nat) :
    (∀ s, Within s (readValue fuel s)) ∧ (∀ s, Within s (readItems fuel s)) ∧
    (∀ before s, Within s (readFields fuel before s)) := by
  -- the three call each other with less fuel
  induction fuel with
  | zero => exact ⟨fun _ => .malformed, fun _ => .malformed, fun _ _ => .malformed⟩
  | succ fuel ih =>
    obtain ⟨hvalue, hitems, hfields⟩ := ih
    exact ⟨within_readValue hitems hfields, within_readItems hvalue hitems,
      within_readFields hvalue hfields⟩

/-- A text is refused for an integer only if it has a run of too many digits. -/
theorem hasLongRun_of_read {s : List Char} (h : read s = .error .longInteger) : HasLongRun s := by
  have hvalue := ((within (s.length + 1)).1 (skipSpaces s)).of_suffix (skipSpaces_suffix s)
  unfold read at h
  cases hread : readValue (s.length + 1) (skipSpaces s) with
  | error e =>
    rw [hread] at h
    exact hvalue.run (hread.trans (by cases h; rfl))
  | ok found =>
    rw [hread] at h
    dsimp only [bind, Except.bind] at h
    split at h <;> cases h

/-- An integer of too many digits is refused. -/
theorem read_of_long {digits : List Char} (hdigits : ∀ c ∈ digits, c.isDigit = true)
    (hzero : digits.head? ≠ some '0') (hlong : Text.maxIntegerDigits < digits.length) :
    read digits = .error .longInteger := by
  have hne : digits ≠ [] := List.ne_nil_of_length_pos (Nat.zero_lt_of_lt hlong)
  have hwhole := spanWhole_digits hne hdigits (.inr hzero) endsNumber_nil
  rw [List.append_nil] at hwhole
  have hnumber : readNumber false digits = .error .longInteger := by
    unfold readNumber
    simp [hwhole, readFraction_of_endsNumber endsNumber_nil,
      readExponent_of_endsNumber endsNumber_nil, hne, hlong]
  obtain ⟨c, rest, rfl⟩ := List.exists_cons_of_ne_nil hne
  have hc := hdigits c List.mem_cons_self
  have hskip : skipSpaces (c :: rest) = c :: rest :=
    skipSpaces_solid ⟨c, rest, rfl, isSpace_of_isDigit hc⟩
  have hvalue : readValue ((c :: rest).length + 1) (c :: rest) = .error .longInteger := by
    rw [readValue_scalar, readScalar_of_isDigit hc, hnumber]
    -- nothing but a scalar begins with a digit
    all_goals
      rintro rfl
      exact absurd hc (by decide)
  unfold read
  rw [hskip, hvalue]
  rfl

end Ripple.Json
