-- SUMMARY: The names of tables in a statement are the tokens behind anchors and in their lists.
import Ripple.Proofs.Sql.TableReference
import Ripple.Proofs.Text.Latin
import Mathlib.Data.List.Basic

/-!
# Tables stand behind anchors and commas

A token is a run of characters of names that is as long as it can be. Every token behind an anchor
is the name of a table, even if the anchor stands inside the list of another one, and every name of
a table is a token behind an anchor or a comma.
-/

namespace Ripple

namespace Text

variable {p : Char → Bool}

/-- A text that does not begin with a character of a class. -/
def Stops (p : Char → Bool) (s : List Char) : Prop :=
  ∀ c ∈ s.head?, p c = false

theorem stops_dropWhile (s : List Char) : Stops p (s.dropWhile p) := by
  induction s with
  | nil => nofun
  | cons c s ih =>
    cases hc : p c with
    | true => simpa [List.dropWhile_cons, hc] using ih
    | false => simp [Stops, hc]

/-- A run ends where the text does not go on with characters of its class. -/
theorem takeWhile_append_of_stops {run rest : List Char} (hrun : ∀ c ∈ run, p c = true)
    (hrest : Stops p rest) : (run ++ rest).takeWhile p = run := by
  rw [List.takeWhile_append_of_pos hrun]
  cases rest with
  | nil => simp
  | cons c rest => simp [hrest c (by simp)]

theorem dropWhile_append_of_stops {run rest : List Char} (hrun : ∀ c ∈ run, p c = true)
    (hrest : Stops p rest) : (run ++ rest).dropWhile p = rest := by
  rw [List.dropWhile_append_of_pos hrun]
  cases rest with
  | nil => rfl
  | cons c rest => simp [hrest c (by simp)]

end Text

namespace Sql

open Text

/-! ## Words in any letter case -/

/-- The letter that a character counts as where case does not: the small letter of the basic Latin
block, also for the four letters of other alphabets with a case in that block. -/
def plain (c : Char) : Char :=
  if c = 'İ' ∨ c = 'ı' then 'i'
  else if c = '\u212A' then 'k'
  else if c = 'ſ' then 's'
  else c.toLower

/-- A text is a word in some letter case. -/
def Spells (word : String) (s : List Char) : Prop :=
  s.map plain = word.toList.map plain

instance (word : String) (s : List Char) : Decidable (Spells word s) :=
  inferInstanceAs (Decidable (_ = _))

/-- A function that tells a letter neither from its other case nor from the four letters that count
as it. -/
theorem apply_plain {β : Type} {f : Char → β} (hlower : ∀ c, f c.toLower = f c)
    (hdotted : f 'i' = f 'İ') (hdotless : f 'i' = f 'ı') (hkelvin : f 'k' = f '\u212A')
    (hlong : f 's' = f 'ſ') (c : Char) : f (plain c) = f c := by
  unfold plain
  split
  next h => obtain rfl | rfl := h <;> assumption
  split
  next h => rw [h, hkelvin]
  split
  next h => rw [h, hlong]
  exact hlower c

theorem isBlank_plain (c : Char) : isBlank (plain c) = isBlank c :=
  apply_plain isBlank_toLower (by decide) (by decide) (by decide) (by decide) c

theorem isWordChar_plain (c : Char) : isWordChar (plain c) = isWordChar c :=
  apply_plain isWordChar_toLower (by decide +kernel) (by decide +kernel) (by decide +kernel)
    (by decide +kernel) c

theorem sameLetter_eq {letter : Char} (h : letter.toNat < 128) (c : Char) :
    sameLetter letter c = (plain c == plain letter) := by
  have hplain : plain letter = letter.toLower :=
    forall_latin (fun c => plain c = c.toLower) (by decide) h
  rw [hplain]
  by_cases hwide : c = 'İ' ∨ c = 'ı' ∨ c = '\u212A' ∨ c = 'ſ'
  · have hletter (c : Char) :=
      forall_latin fun letter => sameLetter letter c = (plain c == letter.toLower)
    obtain rfl | rfl | rfl | rfl := hwide <;> exact hletter _ (by decide) h
  · -- None of the four is a letter of the block, so only small letters are compared.
    simp only [not_or] at hwide
    have hc : plain c = c.toLower := by simp [plain, hwide]
    simp only [← ne_eq, ← beq_eq_false_iff_ne] at hwide
    simp [sameLetter, hc, hwide]

/-! ## Anchors and tokens -/

/-- Words of capital letters of the basic Latin block, as anchors and keywords are. -/
def IsCapital (word : String) : Prop :=
  word.toList ≠ [] ∧ ∀ c ∈ word.toList, c.isUpper = true

theorem isCapital_of_mem_anchors {anchor : List String} (hanchor : anchor ∈ anchors) {word : String}
    (hword : word ∈ anchor) : IsCapital word := by
  have hall : anchors.all (fun anchor => anchor.all fun word =>
      !word.toList.isEmpty && word.toList.all Char.isUpper) = true := by
    decide
  have hword := List.all_eq_true.1 (List.all_eq_true.1 hall anchor hanchor) word hword
  simpa [IsCapital] using hword

/-- Blanks, at least one. -/
structure IsGap (s : List Char) : Prop where
  nonempty : s ≠ []
  blank : ∀ c ∈ s, isBlank c = true

theorem isGap_space : IsGap [' '] where
  nonempty := List.cons_ne_nil _ _
  blank := List.all_eq_true.1 (by decide)

/-- The words of an anchor in any letter case, each with blanks behind it. -/
def Introduces : List String → List Char → Prop
  | [], s => s = []
  | word :: words, s => ∃ spelled gap rest, s = spelled ++ (gap ++ rest) ∧ Spells word spelled ∧
      IsGap gap ∧ Introduces words rest

/-- A run of characters of names that what follows does not go on with. -/
structure IsRun (token after : List Char) : Prop where
  nonempty : token ≠ []
  chars : ∀ c ∈ token, isNameChar c = true
  stops : Stops isNameChar after

/-- A token between what stands before and behind it: it can be made longer on neither side. -/
structure IsToken (front token after : List Char) : Prop extends IsRun token after where
  starts : ∀ c ∈ front.getLast?, isNameChar c = false

/-- A text ends with an anchor, which begins a word, and blanks. -/
def EndsInAnchor (front : List Char) : Prop :=
  ∃ before lead, front = before ++ lead ∧ (∀ c ∈ before.getLast?, isWordChar c = false) ∧
    ∃ anchor ∈ anchors, Introduces anchor lead

/-- A text ends with a comma and perhaps blanks. -/
def EndsInComma (front : List Char) : Prop :=
  ∃ before blanks, front = before ++ ',' :: blanks ∧ ∀ c ∈ blanks, isBlank c = true

/-! ## What the parts of the scan take -/

theorem toNat_lt_of_isUpper {c : Char} (h : c.isUpper = true) : c.toNat < 128 := by
  have hlast : c.toNat ≤ 90 := UInt32.le_iff_toNat_le.1 (of_decide_eq_true h).2
  omega

theorem dropWord?_eq_some_iff {word : List Char} (hword : ∀ c ∈ word, c.isUpper = true)
    {s rest : List Char} :
    dropWord? word s = some rest ↔
      ∃ spelled, s = spelled ++ rest ∧ spelled.map plain = word.map plain := by
  induction word generalizing s with
  | nil => simp [dropWord?, eq_comm]
  | cons letter word ih =>
    have ih (s : List Char) := ih (fun c hc => hword c (List.mem_cons_of_mem _ hc)) (s := s)
    cases s with
    | nil => simp [dropWord?]
    | cons c s =>
      rw [dropWord?, sameLetter_eq (toNat_lt_of_isUpper (hword letter List.mem_cons_self))]
      constructor
      · intro h
        split at h
        · rename_i hletter
          obtain ⟨spelled, rfl, hspelled⟩ := (ih s).1 h
          exact ⟨c :: spelled, rfl, by simp [hspelled, eq_of_beq hletter]⟩
        · cases h
      · rintro ⟨_ | ⟨d, spelled⟩, hs, hspelled⟩
        · cases hspelled
        · obtain ⟨rfl, rfl⟩ := List.cons.inj hs
          obtain ⟨hletter, hrest⟩ := List.cons.inj hspelled
          rw [if_pos (beq_iff_eq.2 hletter)]
          exact (ih _).2 ⟨spelled, rfl, hrest⟩

theorem sameWord_eq_true_iff {word : List Char} (hword : ∀ c ∈ word, c.isUpper = true)
    {s : List Char} : sameWord word s = true ↔ s.map plain = word.map plain := by
  induction word generalizing s with
  | nil => cases s <;> simp [sameWord]
  | cons letter word ih =>
    obtain ⟨hletter, hword⟩ := List.forall_mem_cons.1 hword
    cases s with
    | nil => simp [sameWord]
    | cons c s =>
      simp [sameWord, sameLetter_eq (toNat_lt_of_isUpper hletter), ih hword]

theorem behindBlanks?_eq_some_iff {s rest : List Char} :
    behindBlanks? s = some rest ↔ ∃ gap, s = gap ++ rest ∧ IsGap gap ∧ Stops isBlank rest := by
  constructor
  · intro h
    cases s with
    | nil => cases h
    | cons c s =>
      cases hc : isBlank c with
      | false => simp [behindBlanks?, hc] at h
      | true =>
        obtain rfl : s.dropWhile isBlank = rest := by simpa [behindBlanks?, hc] using h
        refine ⟨c :: s.takeWhile isBlank, by simp, ⟨by simp, ?_⟩, stops_dropWhile s⟩
        intro d hd
        obtain rfl | hd := List.mem_cons.1 hd
        · exact hc
        · exact List.all_eq_true.1 List.all_takeWhile d hd
  · rintro ⟨_ | ⟨c, gap⟩, rfl, hgap, hrest⟩
    · exact absurd rfl hgap.nonempty
    · have hblank := hgap.blank
      rw [List.forall_mem_cons] at hblank
      simp [behindBlanks?, hblank.1, dropWhile_append_of_stops hblank.2 hrest]

/-- What holds of all capital letters, and does not depend on case, holds of all spellings. -/
theorem Spells.forall_mem {word : String} (hword : IsCapital word) {s : List Char}
    (h : Spells word s) {f : Char → Bool} {value : Bool} (hplain : ∀ c, f (plain c) = f c)
    (hcapital : ∀ n < 128, (Char.ofNat n).isUpper = true → f (Char.ofNat n) = value) :
    ∀ c ∈ s, f c = value := by
  intro c hc
  have hmem : plain c ∈ word.toList.map plain := by
    rw [← h]
    exact List.mem_map_of_mem hc
  obtain ⟨letter, hletter, hsame⟩ := List.mem_map.1 hmem
  have hupper := hword.2 letter hletter
  rw [← hplain, ← hsame, hplain]
  exact forall_latin (fun c => c.isUpper = true → f c = value) hcapital
    (toNat_lt_of_isUpper hupper) hupper

theorem Spells.not_isBlank {word : String} (hword : IsCapital word) {s : List Char}
    (h : Spells word s) : ∀ c ∈ s, isBlank c = false :=
  h.forall_mem hword isBlank_plain (by decide)

theorem Spells.isWordChar {word : String} (hword : IsCapital word) {s : List Char}
    (h : Spells word s) : ∀ c ∈ s, isWordChar c = true :=
  h.forall_mem hword isWordChar_plain (by decide)

theorem behindWords?_cons (word : String) (words : List String) (s : List Char) :
    behindWords? (word :: words) s = (dropWord? word.toList s).bind fun behind =>
      (behindBlanks? behind).bind (behindWords? words) := rfl

theorem exists_introduces_of_behindWords? {words : List String}
    (hwords : ∀ word ∈ words, IsCapital word) {s rest : List Char}
    (h : behindWords? words s = some rest) : ∃ lead, s = lead ++ rest ∧ Introduces words lead := by
  induction words generalizing s with
  | nil => exact ⟨[], by simpa [behindWords?] using h, rfl⟩
  | cons word words ih =>
    rw [List.forall_mem_cons] at hwords
    rw [behindWords?_cons] at h
    obtain ⟨behindWord, hword, hbehind⟩ := Option.bind_eq_some_iff.1 h
    obtain ⟨behindGap, hblanks, hmore⟩ := Option.bind_eq_some_iff.1 hbehind
    obtain ⟨spelled, rfl, hspelled⟩ := (dropWord?_eq_some_iff hwords.1.2).1 hword
    obtain ⟨gap, rfl, hgap, -⟩ := behindBlanks?_eq_some_iff.1 hblanks
    obtain ⟨lead, rfl, hlead⟩ := ih hwords.2 hmore
    exact ⟨spelled ++ (gap ++ lead), by simp, spelled, gap, lead, rfl, hspelled, hgap, hlead⟩

/-- The words of an anchor begin with no blank. -/
theorem Introduces.stops {words : List String} (hwords : ∀ word ∈ words, IsCapital word)
    {lead rest : List Char} (h : Introduces words lead) (hrest : Stops isBlank rest) :
    Stops isBlank (lead ++ rest) := by
  cases words with
  | nil =>
    obtain rfl : lead = [] := h
    exact hrest
  | cons word words =>
    rw [List.forall_mem_cons] at hwords
    obtain ⟨spelled, gap, lead, rfl, hspelled, -, -⟩ := h
    cases spelled with
    | nil => exact absurd (List.map_eq_nil_iff.1 hspelled.symm) hwords.1.1
    | cons c spelled =>
      intro d hd
      obtain rfl : c = d := by simpa using hd
      exact hspelled.not_isBlank hwords.1 c List.mem_cons_self

theorem behindWords?_of_introduces {words : List String}
    (hwords : ∀ word ∈ words, IsCapital word) {lead rest : List Char}
    (h : Introduces words lead) (hrest : Stops isBlank rest) :
    behindWords? words (lead ++ rest) = some rest := by
  induction words generalizing lead with
  | nil =>
    obtain rfl : lead = [] := h
    rfl
  | cons word words ih =>
    rw [List.forall_mem_cons] at hwords
    obtain ⟨spelled, gap, lead, rfl, hspelled, hgap, hlead⟩ := h
    have hword : dropWord? word.toList (spelled ++ (gap ++ lead) ++ rest) =
        some (gap ++ (lead ++ rest)) :=
      (dropWord?_eq_some_iff hwords.1.2).2 ⟨spelled, by simp, hspelled⟩
    have hblanks : behindBlanks? (gap ++ (lead ++ rest)) = some (lead ++ rest) :=
      behindBlanks?_eq_some_iff.2 ⟨gap, rfl, hgap, hlead.stops hwords.2 hrest⟩
    rw [behindWords?_cons, hword, Option.bind_some, hblanks, Option.bind_some]
    exact ih hwords.2 hlead

/-- The first word of an anchor, in small letters. -/
def firstLetters (anchor : List String) : List Char :=
  (anchor.headD "").toList.map plain

theorem begins_of_behindWords? {anchor : List String} (hanchor : anchor ∈ anchors)
    {s rest : List Char} (h : behindWords? anchor s = some rest) :
    firstLetters anchor <+: s.map plain := by
  obtain ⟨lead, rfl, hlead⟩ :=
    exists_introduces_of_behindWords? (fun word => isCapital_of_mem_anchors hanchor) h
  cases anchor with
  | nil => exact List.nil_prefix
  | cons word words =>
    obtain ⟨spelled, gap, lead, rfl, hspelled, -, -⟩ := hlead
    rw [firstLetters, List.headD_cons, ← hspelled, List.append_assoc, List.map_append]
    exact List.prefix_append _ _

/-- At most one anchor stands at a place, since the first word of none begins that of another. -/
theorem eq_of_behindWords? {first second : List String} (hfirst : first ∈ anchors)
    (hsecond : second ∈ anchors) {s rest rest' : List Char}
    (h : behindWords? first s = some rest) (h' : behindWords? second s = some rest') :
    first = second := by
  have hall : anchors.all (fun first => anchors.all fun second =>
      !(firstLetters first).isPrefixOf (firstLetters second) || first == second) = true := by
    decide +kernel
  have happart {first second : List String} (hfirst : first ∈ anchors) (hsecond : second ∈ anchors)
      (hbegins : firstLetters first <+: firstLetters second) : first = second := by
    have hpair := List.all_eq_true.1 (List.all_eq_true.1 hall first hfirst) second hsecond
    rw [List.isPrefixOf_iff_prefix.2 hbegins] at hpair
    simpa using hpair
  obtain hbegins | hbegins :=
    List.prefix_or_prefix_of_prefix (begins_of_behindWords? hfirst h) (begins_of_behindWords? hsecond h')
  · exact happart hfirst hsecond hbegins
  · exact (happart hsecond hfirst hbegins).symm

theorem mem_namesAt {before : Option Char} {s name : List Char} :
    name ∈ namesAt before s ↔ (∀ c ∈ before, isWordChar c = false) ∧
      ∃ anchor ∈ anchors, ∃ rest, behindWords? anchor s = some rest ∧ name ∈ itemNames rest := by
  have hbefore : before.any isWordChar = false ↔ ∀ c ∈ before, isWordChar c = false := by
    cases before <;> simp
  rw [← hbefore]
  unfold namesAt
  cases before.any isWordChar with
  | true => simp
  | false =>
    simp only [Bool.false_eq_true, if_false, true_and]
    cases hfound : anchors.findSome? (behindWords? · s) with
    | none =>
      rw [List.findSome?_eq_none_iff] at hfound
      simp only [List.not_mem_nil, false_iff, not_exists, not_and]
      rintro anchor hanchor rest hrest
      cases (hfound anchor hanchor).symm.trans hrest
    | some behind =>
      obtain ⟨anchor, hanchor, hbehind⟩ := List.exists_of_findSome?_eq_some hfound
      constructor
      · intro h
        exact ⟨anchor, hanchor, behind, hbehind, h⟩
      · rintro ⟨other, hother, rest, hrest, h⟩
        obtain rfl := eq_of_behindWords? hanchor hother hbehind hrest
        obtain rfl := Option.some_inj.1 (hbehind.symm.trans hrest)
        exact h

/-- The names behind all anchors are those behind the anchors at all places. -/
theorem mem_namesFrom {before : Option Char} {s name : List Char} :
    name ∈ namesFrom before s ↔ ∃ front back, s = front ++ back ∧ back ≠ [] ∧
      name ∈ namesAt (front.getLast?.or before) back := by
  induction s generalizing before with
  | nil => simp [namesFrom]
  | cons c s ih =>
    have hlast (front : List Char) : (c :: front).getLast?.or before = front.getLast?.or (some c) := by
      rw [List.getLast?_cons]
      cases front.getLast? <;> rfl
    rw [namesFrom, List.mem_append, ih]
    constructor
    · rintro (h | ⟨front, back, rfl, hback, h⟩)
      · exact ⟨[], c :: s, rfl, List.cons_ne_nil _ _, h⟩
      · exact ⟨c :: front, back, rfl, hback, hlast front ▸ h⟩
    · rintro ⟨_ | ⟨d, front⟩, back, hs, hback, h⟩
      · obtain rfl : c :: s = back := hs
        exact .inl h
      · obtain ⟨rfl, rfl⟩ := List.cons.inj hs
        exact .inr ⟨front, back, rfl, hback, hlast front ▸ h⟩

/-! ## Items of lists -/

theorem behindAliasName?_suffix {s rest : List Char} (h : behindAliasName? s = some rest) :
    rest <:+ s := by
  unfold behindAliasName? at h
  split at h
  · cases h
  · cases h
    exact List.dropWhile_suffix _

/-- An alias may have the word `AS` in front, unless no alias follows that. -/
theorem behindAlias?_eq (s : List Char) :
    behindAlias? s = (behindBlanks? s).bind fun behind =>
      (((dropWord? ['A', 'S'] behind).bind behindBlanks?).bind behindAliasName?).or
        (behindAliasName? behind) := by
  unfold behindAlias?
  refine bind_congr fun behind => ?_
  cases ((dropWord? ['A', 'S'] behind).bind behindBlanks?).bind behindAliasName? <;> rfl

theorem isUpper_as : ∀ c ∈ ['A', 'S'], c.isUpper = true :=
  List.all_eq_true.1 (by decide)

theorem behindAlias?_suffix {s rest : List Char} (h : behindAlias? s = some rest) : rest <:+ s := by
  rw [behindAlias?_eq] at h
  obtain ⟨behind, hbehind, halias⟩ := Option.bind_eq_some_iff.1 h
  obtain ⟨gap, rfl, -, -⟩ := behindBlanks?_eq_some_iff.1 hbehind
  refine List.IsSuffix.trans ?_ (List.suffix_append gap behind)
  rcases Option.or_eq_some_iff.1 halias with hword | ⟨-, hname⟩
  · obtain ⟨name, hdropped, hname⟩ := Option.bind_eq_some_iff.1 hword
    obtain ⟨afterWord, hspelled, hblanks⟩ := Option.bind_eq_some_iff.1 hdropped
    obtain ⟨spelled, rfl, -⟩ := (dropWord?_eq_some_iff isUpper_as).1 hspelled
    obtain ⟨gap', rfl, -, -⟩ := behindBlanks?_eq_some_iff.1 hblanks
    have hgap : rest <:+ gap' ++ name :=
      (behindAliasName?_suffix hname).trans (List.suffix_append _ _)
    exact hgap.trans (List.suffix_append _ _)
  · exact behindAliasName?_suffix hname

theorem item?_eq_some {s name rest : List Char} (h : item? s = some (name, rest)) :
    ∃ after, s = name ++ after ∧ IsRun name after ∧ rest <:+ after := by
  unfold item? at h
  dsimp only at h
  split at h
  · cases h
  · rename_i hname
    obtain ⟨rfl, rfl⟩ := Prod.mk.inj (Option.some_inj.1 h)
    refine ⟨s.dropWhile isNameChar, List.takeWhile_append_dropWhile.symm, ⟨?_, ?_, ?_⟩, ?_⟩
    · simpa using hname
    · exact List.all_eq_true.1 List.all_takeWhile
    · exact stops_dropWhile s
    · cases halias : behindAlias? (s.dropWhile isNameChar) with
      | none => exact List.suffix_rfl
      | some behind => exact behindAlias?_suffix halias

theorem behindComma?_eq_some {s rest : List Char} (h : behindComma? s = some rest) :
    ∃ front, s = front ++ rest ∧ EndsInComma front := by
  unfold behindComma? at h
  split at h
  · rename_i behind hbehind
    cases h
    refine ⟨s.takeWhile isBlank ++ ',' :: behind.takeWhile isBlank, ?_, ?_⟩
    · rw [List.append_assoc, List.cons_append, List.takeWhile_append_dropWhile, ← hbehind,
        List.takeWhile_append_dropWhile]
    · exact ⟨_, _, rfl, List.all_eq_true.1 List.all_takeWhile⟩
  · cases h

theorem EndsInComma.append {front : List Char} (h : EndsInComma front) (before : List Char) :
    EndsInComma (before ++ front) := by
  obtain ⟨front, blanks, rfl, hblanks⟩ := h
  exact ⟨before ++ front, blanks, by simp, hblanks⟩

/-- Each further item of a list is a run behind a comma. -/
theorem exists_of_mem_moreItems {fuel : Nat} {s name : List Char} (h : name ∈ moreItems fuel s) :
    ∃ front after, s = front ++ (name ++ after) ∧ IsRun name after ∧ EndsInComma front := by
  induction fuel generalizing s with
  | zero => cases h
  | succ fuel ih =>
    rw [moreItems] at h
    split at h
    · rename_i first rest hfirst
      obtain ⟨behind, hcomma, hitem⟩ := Option.bind_eq_some_iff.1 hfirst
      obtain ⟨front, rfl, hfront⟩ := behindComma?_eq_some hcomma
      obtain ⟨after, rfl, hrun, skipped, rfl⟩ := item?_eq_some hitem
      rcases List.mem_cons.1 h with rfl | hmore
      · exact ⟨front, _, rfl, hrun, hfront⟩
      · obtain ⟨front', after, rfl, hrun', hfront'⟩ := ih hmore
        refine ⟨front ++ first ++ skipped ++ front', after, by simp, hrun', hfront'.append _⟩
    · cases h

theorem exists_of_mem_itemNames {s name : List Char} (h : name ∈ itemNames s) :
    ∃ front after, s = front ++ (name ++ after) ∧ IsRun name after ∧
      (front = [] ∨ EndsInComma front) := by
  unfold itemNames at h
  split at h
  · rename_i first rest hitem
    obtain ⟨after, rfl, hrun, skipped, rfl⟩ := item?_eq_some hitem
    rcases List.mem_cons.1 h with rfl | hmore
    · exact ⟨[], _, rfl, hrun, .inl rfl⟩
    · obtain ⟨front, after, rfl, hrun', hfront⟩ := exists_of_mem_moreItems hmore
      exact ⟨first ++ skipped ++ front, after, by simp, hrun', .inr (hfront.append _)⟩
  · cases h

/-- The run at the front of a list is its first item. -/
theorem IsRun.item?_eq {token after : List Char} (h : IsRun token after) :
    item? (token ++ after) = some (token, (behindAlias? after).getD after) := by
  unfold item?
  simp [takeWhile_append_of_stops h.chars h.stops, dropWhile_append_of_stops h.chars h.stops,
    h.nonempty]

theorem IsRun.mem_itemNames {token after : List Char} (h : IsRun token after) :
    token ∈ itemNames (token ++ after) := by
  rw [itemNames, h.item?_eq]
  exact List.mem_cons_self

/-! ## The tokens of a text -/

theorem isNameChar_of_isBlank {c : Char} (h : isBlank c = true) : isNameChar c = false := by
  simp [isNameChar, h]

theorem IsRun.stops_isBlank {token after : List Char} (h : IsRun token after) :
    Stops isBlank (token ++ after) := by
  obtain ⟨c, token, rfl⟩ := List.exists_cons_of_ne_nil h.nonempty
  intro d hd
  obtain rfl : c = d := by simpa using hd
  cases hblank : isBlank c with
  | false => rfl
  | true => cases (h.chars c List.mem_cons_self).symm.trans (isNameChar_of_isBlank hblank)

/-- What introduces a list ends with a blank. -/
theorem Introduces.getLast? {words : List String} {lead : List Char} (h : Introduces words lead)
    (hsome : words ≠ []) (before : List Char) :
    ∀ c ∈ (before ++ lead).getLast?, isBlank c = true := by
  induction words generalizing before lead with
  | nil => exact absurd rfl hsome
  | cons word words ih =>
    obtain ⟨spelled, gap, lead, rfl, -, hgap, hlead⟩ := h
    by_cases hlast : words = []
    · subst hlast
      obtain rfl : lead = [] := hlead
      intro c hc
      rw [List.append_nil, ← List.append_assoc, List.getLast?_append_of_ne_nil _ hgap.nonempty] at hc
      exact hgap.blank c (List.mem_of_getLast? hc)
    · simpa using ih hlead hlast (before ++ spelled ++ gap)

theorem EndsInAnchor.starts {front : List Char} (h : EndsInAnchor front) :
    ∀ c ∈ front.getLast?, isNameChar c = false := by
  obtain ⟨before, lead, rfl, -, anchor, hanchor, hlead⟩ := h
  have hsome : anchor ≠ [] := by
    rintro rfl
    revert hanchor
    decide
  exact fun c hc => isNameChar_of_isBlank (hlead.getLast? hsome before c hc)

theorem EndsInComma.starts {front : List Char} (h : EndsInComma front) :
    ∀ c ∈ front.getLast?, isNameChar c = false := by
  obtain ⟨before, blanks, rfl, hblanks⟩ := h
  intro c hc
  rw [List.getLast?_append_of_ne_nil _ (List.cons_ne_nil _ _)] at hc
  obtain rfl | hc := List.mem_cons.1 (List.mem_of_getLast? hc)
  · decide
  · exact isNameChar_of_isBlank (hblanks c hc)

/-- No anchor is missed, wherever it stands. -/
theorem mem_namesFrom_of_isToken {front token after : List Char} (htoken : IsToken front token after)
    (hfront : EndsInAnchor front) : token ∈ namesFrom none (front ++ token ++ after) := by
  obtain ⟨before, lead, rfl, hbefore, anchor, hanchor, hlead⟩ := hfront
  refine mem_namesFrom.2 ⟨before, lead ++ (token ++ after), by simp, ?_, ?_⟩
  · simp [htoken.nonempty]
  · rw [Option.or_none]
    refine mem_namesAt.2 ⟨hbefore, anchor, hanchor, token ++ after, ?_, htoken.mem_itemNames⟩
    exact behindWords?_of_introduces (fun word => isCapital_of_mem_anchors hanchor) hlead
      htoken.stops_isBlank

/-- Nothing is taken but tokens behind anchors and commas. -/
theorem exists_isToken_of_mem_namesFrom {s name : List Char} (h : name ∈ namesFrom none s) :
    ∃ front after, s = front ++ name ++ after ∧ IsToken front name after ∧
      (EndsInAnchor front ∨ EndsInComma front) := by
  obtain ⟨before, back, rfl, -, hat⟩ := mem_namesFrom.1 h
  rw [Option.or_none] at hat
  obtain ⟨hbefore, anchor, hanchor, rest, hrest, hname⟩ := mem_namesAt.1 hat
  obtain ⟨lead, rfl, hlead⟩ :=
    exists_introduces_of_behindWords? (fun word => isCapital_of_mem_anchors hanchor) hrest
  obtain ⟨front, after, rfl, hrun, hfront⟩ := exists_of_mem_itemNames hname
  have hplace : EndsInAnchor (before ++ lead ++ front) ∨ EndsInComma (before ++ lead ++ front) := by
    rcases hfront with rfl | hcomma
    · exact .inl ⟨before, lead, by simp, hbefore, anchor, hanchor, hlead⟩
    · exact .inr (hcomma.append _)
  refine ⟨before ++ lead ++ front, after, by simp, ⟨hrun, ?_⟩, hplace⟩
  rcases hplace with hanchored | hcomma
  · exact hanchored.starts
  · exact hcomma.starts

theorem mem_tablesExcept {excluded : List String} {sql table : String} :
    table ∈ tablesExcept excluded sql ↔ (table ≠ "" ∧ table ≠ placeholder ∧ table ∉ excluded) ∧
      ∃ name ∈ namesFrom none (clean sql).toList,
        table = TableName.normalize (String.ofList name) := by
  have hkept : isTableName excluded table = true ↔
      table ≠ "" ∧ table ≠ placeholder ∧ table ∉ excluded := by
    simp [isTableName, and_assoc]
  rw [← hkept, and_comm]
  simp only [tablesExcept, sortedSet, mem_sorted, List.mem_eraseDups, List.mem_filter, List.mem_map,
    clean, TableName.normalize, String.toList_ofList, eq_comm (a := table)]

/-- The tables of a statement, by the tokens of its cleaned text. A token behind an anchor gives a
table, unless its normal name is empty, a placeholder or excluded. Every table comes from a token
behind an anchor or a comma. -/
theorem tablesExcept_behind_anchors (excluded : List String) (sql : String) :
    (∀ front token after, (clean sql).toList = front ++ token ++ after →
      IsToken front token after → EndsInAnchor front →
        (TableName.normalize (String.ofList token) ∈ tablesExcept excluded sql ↔
          TableName.normalize (String.ofList token) ≠ "" ∧
          TableName.normalize (String.ofList token) ≠ placeholder ∧
          TableName.normalize (String.ofList token) ∉ excluded)) ∧
    (∀ table ∈ tablesExcept excluded sql, ∃ front token after,
      (clean sql).toList = front ++ token ++ after ∧ IsToken front token after ∧
        (EndsInAnchor front ∨ EndsInComma front) ∧
        table = TableName.normalize (String.ofList token)) := by
  constructor
  · intro front token after hclean htoken hfront
    have hname := mem_namesFrom_of_isToken htoken hfront
    rw [← hclean] at hname
    rw [mem_tablesExcept]
    exact and_iff_left ⟨token, hname, rfl⟩
  · intro table htable
    obtain ⟨-, name, hname, rfl⟩ := mem_tablesExcept.1 htable
    obtain ⟨front, after, hclean, htoken, hplace⟩ := exists_isToken_of_mem_namesFrom hname
    exact ⟨front, name, after, hclean, htoken, hplace, rfl⟩

/-- An anchor that the list of another one takes for a name, with its token as the alias. -/
def swallowedJoin : String :=
  "SELECT 1 FROM a, joİn shop.b"

theorem swallowedJoin_facts :
    (clean swallowedJoin).toList = "SELECT 1 FROM a, joİn ".toList ++ "shop.b".toList ++ [] ∧
    IsToken "SELECT 1 FROM a, joİn ".toList "shop.b".toList [] ∧
    EndsInAnchor "SELECT 1 FROM a, joİn ".toList := by
  refine ⟨by decide +kernel, ⟨⟨by decide, ?_, nofun⟩, ?_⟩, ?_⟩
  · exact List.all_eq_true.1 (by decide)
  · intro c hc
    obtain rfl : ' ' = c := by simpa using hc
    decide
  · refine ⟨"SELECT 1 FROM a, ".toList, "joİn ".toList, by decide, ?_, ["JOIN"], by decide, ?_⟩
    · intro c hc
      obtain rfl : ' ' = c := by simpa using hc
      decide
    · exact ⟨"joİn".toList, [' '], [], by decide, by decide, isGap_space, rfl⟩

theorem tablesExcept_behind_anchors_swallowedJoin :
    TableName.normalize "shop.b" ∈ tablesExcept keywords swallowedJoin ∧
    ∃ front token after, (clean swallowedJoin).toList = front ++ token ++ after ∧
      IsToken front token after ∧ (EndsInAnchor front ∨ EndsInComma front) ∧
        TableName.normalize "shop.b" = TableName.normalize (String.ofList token) := by
  obtain ⟨hclean, htoken, hfront⟩ := swallowedJoin_facts
  obtain ⟨hcomplete, hsound⟩ := tablesExcept_behind_anchors keywords swallowedJoin
  have hmem : TableName.normalize "shop.b" ∈ tablesExcept keywords swallowedJoin :=
    (hcomplete _ _ _ hclean htoken hfront).2 (by decide +kernel)
  exact ⟨hmem, hsound _ hmem⟩

end Sql

end Ripple
