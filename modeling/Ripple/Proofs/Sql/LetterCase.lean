-- SUMMARY: Letter case makes no difference to the tables of a statement, pass by pass.
import Ripple.Proofs.Sql.Anchors

/-!
# Letter case makes no difference

Each pass of the cleaning and each part of the scan does to a text in small letters what it does to
the text itself. The one exception is the mark of a character data section, which is only a mark in
capitals.
-/

namespace Ripple.Sql

open Text

/-! ## Passages -/

/-- The mark that begins a character data section, in small letters. -/
def sectionMark : List Char :=
  "<![cdata[".toList

/-- There is no mark of a character data section, in any letter case. -/
def HasNoSection (s : List Char) : Prop :=
  ¬ sectionMark <:+: small s

theorem HasNoSection.tail {c : Char} {s : List Char} (h : HasNoSection (c :: s)) : HasNoSection s :=
  fun hinside => h (hinside.trans (List.suffix_cons _ _).isInfix)

/-- A passage is the same passage in small letters. Only for the marks of sections it matters that
there are none. -/
def IsCaseless (recognize : Recognizer) : Prop :=
  ∀ before s, HasNoSection s → recognize (before.map Char.toLower) (small s) = recognize before s

/-- A text without letters. -/
def IsLetterless (mark : List Char) : Prop :=
  mark.all (fun c => !c.isAlpha) = true

instance (mark : List Char) : Decidable (IsLetterless mark) :=
  inferInstanceAs (Decidable (_ = _))

theorem isPrefixOf_small {mark : List Char} (hmark : IsLetterless mark) (s : List Char) :
    mark.isPrefixOf (small s) = mark.isPrefixOf s := by
  induction mark generalizing s with
  | nil => simp
  | cons m mark ih =>
    obtain ⟨hm, hmark⟩ : m.isAlpha = false ∧ IsLetterless mark := by
      simpa [IsLetterless] using hmark
    cases s with
    | nil => rfl
    | cons c s =>
      have hfirst : (m == c.toLower) = (m == c) := by
        rw [Bool.beq_comm, toLower_beq hm, Bool.beq_comm]
      rw [small_cons, List.isPrefixOf_cons_cons, List.isPrefixOf_cons_cons, ih hmark, hfirst]

theorem lengthThrough_small {mark : List Char} (hmark : IsLetterless mark) (s : List Char) :
    lengthThrough mark (small s) = lengthThrough mark s := by
  induction s with
  | nil => rfl
  | cons c s ih =>
    rw [small_cons, lengthThrough, lengthThrough, ← small_cons, isPrefixOf_small hmark, ih]

theorem isCaseless_enclosed {first last : String} (hfirst : IsLetterless first.toList)
    (hlast : IsLetterless last.toList) : IsCaseless (enclosed first last) := by
  intro before s _
  rw [enclosed, enclosed, isPrefixOf_small hfirst, drop_small, lengthThrough_small hlast]

theorem isCaseless_anyOf {marks : List String} (hmarks : ∀ mark ∈ marks, ∀ s, HasNoSection s →
      mark.toList.isPrefixOf (small s) = mark.toList.isPrefixOf s) : IsCaseless (anyOf marks) := by
  intro before s hs
  have hfind : marks.find? (·.toList.isPrefixOf (small s)) = marks.find? (·.toList.isPrefixOf s) := by
    induction marks with
    | nil => rfl
    | cons mark marks ih =>
      obtain ⟨hmark, hmarks⟩ := List.forall_mem_cons.1 hmarks
      rw [List.find?_cons, List.find?_cons, hmark s hs, ih hmarks]
  rw [anyOf, anyOf, hfind]

/-- A passage that begins with a sign is found where the sign is. -/
theorem isCaseless_of_sign (sign : Char) {recognize : Recognizer} (hsign : sign.isAlpha = false)
    (hother : ∀ before s, s.head? ≠ some sign → recognize before s = none)
    (h : ∀ before s, recognize (before.map Char.toLower) (sign :: small s) =
      recognize before (sign :: s)) : IsCaseless recognize := by
  intro before s _
  cases s with
  | nil => rw [small_nil, hother _ [] nofun, hother _ [] nofun]
  | cons c s =>
    rw [small_cons]
    -- A sign is no letter, so it is one in small letters exactly where it was one.
    by_cases hc : c = sign
    · rw [hc, (toLower_eq_iff hsign sign).2 rfl]
      exact h before s
    · have hlower : c.toLower ≠ sign := mt (toLower_eq_iff hsign c).1 hc
      rw [hother _ (c :: s) (by simpa using hc), hother _ (c.toLower :: small s) (by simpa using hlower)]

theorem isCaseless_signed {sign : Char} (hsign : sign.isAlpha = false) :
    IsCaseless (signed sign) := by
  refine isCaseless_of_sign sign hsign ?_ ?_
  · intro before s hother
    cases s with
    | nil => rfl
    | cons c s =>
      have hc : (c == sign) = false := by simpa using hother
      simp [signed, hc]
  · intro before s
    have hname : IgnoresCase fun c => isPlainWordChar c || c == '.' || c == '[' || c == ']' :=
      ignoresCase_of_latin (by decide)
    have hlast (n : Nat) : ((small s)[n]? == some sign) = (s[n]? == some sign) := by
      rw [small, List.getElem?_map]
      cases s[n]? with
      | none => rfl
      | some d => exact toLower_beq hsign d
    simp only [signed, takeWhile_small hname, isEmpty_small, length_small, hlast]

theorem isCaseless_colonNamed : IsCaseless colonNamed := by
  refine isCaseless_of_sign ':' (by decide) ?_ ?_
  · intro before s hother
    unfold colonNamed
    split
    · exact absurd rfl hother
    · rfl
  · intro before s
    have hbefore : IgnoresCase fun b => b == ':' || isWordChar b :=
      ignoresCase_of_latin (by decide)
    have hfirst : IgnoresCase fun c => c.isAlpha || c == '_' :=
      ignoresCase_of_latin (by decide)
    have hname : IgnoresCase isPlainWordChar := ignoresCase_of_latin (by decide)
    cases s with
    | nil => rfl
    | cons c s =>
      simp only [colonNamed, small_cons, any_map_toLower hbefore, hfirst c, takeWhile_small hname,
        length_small]

theorem sameLetter_toLower (letter c : Char) : sameLetter letter c.toLower = sameLetter letter c := by
  simp only [sameLetter, toLower_toLower, toLower_beq (by decide : ('İ').isAlpha = false),
    toLower_beq (by decide : ('ı').isAlpha = false),
    toLower_beq (by decide : ('\u212A').isAlpha = false),
    toLower_beq (by decide : ('ſ').isAlpha = false)]

theorem sameWord_small (word s : List Char) : sameWord word (small s) = sameWord word s := by
  induction word generalizing s with
  | nil => cases s <;> rfl
  | cons letter word ih =>
    cases s with
    | nil => rfl
    | cons c s => rw [small_cons, sameWord, sameWord, sameLetter_toLower, ih]

/-- A tag behind the sign or signs that open it. -/
theorem dynamicTag_cons (before : Option Char) (s : List Char) :
    dynamicTag before ('<' :: s) =
      let opening := if s.head? == some '/' then 2 else 1
      let rest := s.drop (opening - 1)
      let name := rest.takeWhile isWordChar
      if dynamicTags.any (sameWord ·.toList name) then
        (lengthThrough ['>'] (rest.drop name.length)).map (opening + name.length + ·)
      else none := by
  by_cases hslash : s.head? = some '/'
  · obtain ⟨rest, rfl⟩ : ∃ rest, s = '/' :: rest := List.head?_eq_some_iff.1 hslash
    rfl
  · cases s with
    | nil => rfl
    | cons c s =>
      have hc : c ≠ '/' := by simpa using hslash
      simp [dynamicTag, hc]

theorem isCaseless_dynamicTag : IsCaseless dynamicTag := by
  refine isCaseless_of_sign '<' (by decide) ?_ ?_
  · intro before s hother
    unfold dynamicTag
    split
    · exact absurd rfl hother
    · rfl
  · intro before s
    have hslash : ((small s).head? == some '/') = (s.head? == some '/') := by
      cases s with
      | nil => rfl
      | cons c s => exact toLower_beq (by decide) c
    simp only [dynamicTag_cons, hslash, drop_small, takeWhile_small isWordChar_toLower,
      sameWord_small, length_small, lengthThrough_small (by decide : IsLetterless ['>'])]

theorem isCaseless_lineComment : IsCaseless lineComment := by
  refine isCaseless_of_sign '-' (by decide) ?_ ?_
  · intro before s hother
    unfold lineComment
    split
    · exact absurd rfl hother
    · rfl
  · intro before s
    have hline : IgnoresCase (· != '\n') := ignoresCase_of_latin (by decide)
    cases s with
    | nil => rfl
    | cons c s =>
      rw [small_cons]
      by_cases hc : c = '-'
      · rw [hc, (toLower_eq_iff (by decide) '-').2 rfl]
        simp only [lineComment, takeWhile_small hline, length_small]
      · have hlower : c.toLower ≠ '-' := mt (toLower_eq_iff (by decide) c).1 hc
        simp [lineComment, hc, hlower]

theorem isCaseless_sections : IsCaseless (anyOf ["<![CDATA[", "]]>"]) := by
  refine isCaseless_anyOf fun mark hmark s hs => ?_
  rcases List.mem_pair.1 hmark with rfl | rfl
  · -- Neither the text nor the text in small letters begins with the mark.
    have hnone {t : List Char} (ht : small t = small s) :
        "<![CDATA[".toList.isPrefixOf t = false := by
      refine Bool.eq_false_iff.2 fun hbegins => hs ?_
      obtain ⟨rest, rfl⟩ := List.isPrefixOf_iff_prefix.1 hbegins
      rw [← ht, small_append]
      exact (List.prefix_append sectionMark _).isInfix
    rw [hnone (small_small s), hnone rfl]
  · exact isPrefixOf_small (by decide) s

theorem isCaseless_marks {marks : List String}
    (h : marks.all (fun mark => decide (IsLetterless mark.toList)) = true) :
    IsCaseless (anyOf marks) := by
  refine isCaseless_anyOf fun mark hmark s _ => ?_
  have hletterless : IsLetterless mark.toList := by simpa using List.all_eq_true.1 h mark hmark
  exact isPrefixOf_small hletterless s

theorem isCaseless_of_mem_passes {pass : Recognizer × String} (h : pass ∈ passes) :
    IsCaseless pass.1 := by
  simp only [passes, List.mem_cons, List.not_mem_nil, or_false] at h
  rcases h with rfl | rfl | rfl | rfl | rfl | rfl | rfl | rfl | rfl | rfl | rfl | rfl
  · exact isCaseless_enclosed (by decide) (by decide)
  · exact isCaseless_enclosed (by decide) (by decide)
  · exact isCaseless_signed (by decide)
  · exact isCaseless_signed (by decide)
  · exact isCaseless_colonNamed
  · exact isCaseless_marks (by decide)
  · exact isCaseless_enclosed (by decide) (by decide)
  · exact isCaseless_dynamicTag
  · exact isCaseless_sections
  · exact isCaseless_enclosed (by decide) (by decide)
  · exact isCaseless_lineComment
  · exact isCaseless_marks (by decide)

/-! ## Passes -/

theorem replaceFrom_small {recognize : Recognizer} (h : IsCaseless recognize)
    {replacement s : List Char} (hreplacement : small replacement = replacement)
    (hs : HasNoSection s) (before : Option Char) (skip : Nat) :
    replaceFrom recognize replacement (before.map Char.toLower) skip (small s) =
      small (replaceFrom recognize replacement before skip s) := by
  induction s generalizing before skip with
  | nil => rfl
  | cons c s ih =>
    have ih := ih hs.tail (some c)
    cases skip with
    | succ skip => exact ih skip
    | zero =>
      have hsame := h before (c :: s) hs
      rw [small_cons] at hsame ⊢
      rw [replaceFrom, replaceFrom, hsame]
      have hkept := congrArg (c.toLower :: ·) (ih 0)
      cases recognize before (c :: s) with
      | none => exact hkept
      | some n =>
        cases n with
        | zero => exact hkept
        | succ n =>
          have hreplaced := congrArg (replacement ++ ·) (ih n)
          dsimp only
          rw [small_append, hreplacement]
          exact hreplaced

theorem replaceFrom_cons (recognize : Recognizer) (replacement : List Char) (before : Option Char)
    (c : Char) (s : List Char) :
    (∃ n, replaceFrom recognize replacement before 0 (c :: s) =
      replacement ++ replaceFrom recognize replacement (some c) n s) ∨
    replaceFrom recognize replacement before 0 (c :: s) =
      c :: replaceFrom recognize replacement (some c) 0 s := by
  rw [replaceFrom]
  split
  · exact .inl ⟨_, rfl⟩
  · exact .inr rfl

section
variable {recognize : Recognizer} {mark : Char} {part s : List Char} {before : Option Char}

theorem eq_nil_of_prefix_cons (hpart : mark ∉ part) (h : part <+: mark :: s) : part = [] := by
  cases part with
  | nil => rfl
  | cons c part =>
    obtain ⟨rfl, -⟩ := List.cons_prefix_cons.1 h
    exact absurd List.mem_cons_self hpart

/-- A text without the character that comes in for passages, and at the front of the result, was
there before. -/
theorem prefix_of_prefix_replaceFrom (hpart : mark ∉ part)
    (h : part <+: replaceFrom recognize [mark] before 0 s) : part <+: s := by
  induction s generalizing before part with
  | nil => exact h
  | cons c s ih =>
    rcases replaceFrom_cons recognize [mark] before c s with ⟨n, heq⟩ | heq
    · rw [heq] at h
      rw [eq_nil_of_prefix_cons hpart h]
      exact List.nil_prefix
    · rw [heq] at h
      cases part with
      | nil => exact List.nil_prefix
      | cons d part =>
        obtain ⟨rfl, hrest⟩ := List.cons_prefix_cons.1 h
        refine List.cons_prefix_cons.2 ⟨rfl, ih ?_ hrest⟩
        exact fun hmem => hpart (List.mem_cons_of_mem d hmem)

/-- Replacing brings nothing about that was not there, apart from the character that comes in. -/
theorem infix_of_infix_replaceFrom (hpart : mark ∉ part) {skip : Nat}
    (h : part <:+: replaceFrom recognize [mark] before skip s) : part <:+: s := by
  induction s generalizing before skip with
  | nil => exact h
  | cons c s ih =>
    have hlater {before : Option Char} {skip : Nat}
        (h : part <:+: replaceFrom recognize [mark] before skip s) : part <:+: c :: s :=
      (ih h).trans (List.suffix_cons c s).isInfix
    cases skip with
    | succ skip => exact hlater h
    | zero =>
      rcases replaceFrom_cons recognize [mark] before c s with ⟨n, heq⟩ | heq
      · rw [heq] at h
        rcases List.infix_cons_iff.1 h with hfront | hinside
        · rw [eq_nil_of_prefix_cons hpart hfront]
          exact List.nil_infix
        · exact hlater hinside
      · rw [heq] at h
        rcases List.infix_cons_iff.1 h with hfront | hinside
        · -- The induction hypothesis is about later places only.
          rw [← heq] at hfront
          exact (prefix_of_prefix_replaceFrom hpart hfront).isInfix
        · exact hlater hinside

end

/-- What comes in for a passage: a character that is in no mark of a section. -/
def IsFiller (replacement : List Char) : Prop :=
  ∃ mark, replacement = [mark] ∧ mark.toLower = mark ∧ mark ∉ sectionMark

theorem isFiller_of_mem_passes {pass : Recognizer × String} (h : pass ∈ passes) :
    IsFiller pass.2.toList := by
  have hall : passes.all (fun pass => pass.2 == placeholder || pass.2 == " ") = true := by decide
  have hpass := List.all_eq_true.1 hall pass h
  simp only [Bool.or_eq_true, beq_iff_eq] at hpass
  rcases hpass with hpass | hpass
  · exact hpass ▸ ⟨'?', by decide, by decide, by decide⟩
  · exact hpass ▸ ⟨' ', by decide, by decide, by decide⟩

theorem replaceAll_small {recognize : Recognizer} (h : IsCaseless recognize)
    {replacement : List Char} (hfiller : IsFiller replacement) {s : List Char}
    (hs : HasNoSection s) :
    replaceAll recognize replacement (small s) = small (replaceAll recognize replacement s) ∧
      HasNoSection (replaceAll recognize replacement s) := by
  obtain ⟨mark, rfl, hmark, hother⟩ := hfiller
  have hsmall : small [mark] = [mark] := by simp [hmark]
  have heq := replaceFrom_small h hsmall hs none 0
  refine ⟨heq, fun hsection => hs ?_⟩
  rw [replaceAll, ← heq] at hsection
  exact infix_of_infix_replaceFrom hother hsection

theorem cleanChars_small {s : List Char} (hs : HasNoSection s) :
    cleanChars (small s) = small (cleanChars s) := by
  have hpasses : ∀ part ⊆ passes, ∀ s, HasNoSection s →
      part.foldl (fun s pass => replaceAll pass.1 pass.2.toList s) (small s) =
        small (part.foldl (fun s pass => replaceAll pass.1 pass.2.toList s) s) := by
    intro part hpart
    induction part with
    | nil => exact fun s _ => rfl
    | cons pass part ih =>
      intro s hs
      obtain ⟨hpass, hpart⟩ := List.cons_subset.1 hpart
      obtain ⟨hsmall, hs⟩ := replaceAll_small (isCaseless_of_mem_passes hpass)
        (isFiller_of_mem_passes hpass) hs
      rw [List.foldl_cons, List.foldl_cons, hsmall]
      exact ih hpart _ hs
  have hall := congrArg singleSpaced (hpasses passes (List.Subset.refl _) s hs)
  exact hall.trans (singleSpaced_small _)

/-! ## The scan -/

/-- Readers that do the same to texts in small letters do so one after the other. -/
theorem bind_small {α : Type} {read : List Char → Option α} {f : α → α}
    (hread : ∀ s, read (small s) = (read s).map f) (found : Option (List Char)) :
    (found.map small).bind read = (found.bind read).map f := by
  cases found with
  | none => rfl
  | some s => exact hread s

theorem behindBlanks?_small (s : List Char) :
    behindBlanks? (small s) = (behindBlanks? s).map small := by
  cases s with
  | nil => rfl
  | cons c s =>
    rw [small_cons, behindBlanks?, behindBlanks?, isBlank_toLower, dropWhile_small isBlank_toLower]
    cases isBlank c <;> rfl

theorem dropWord?_small (word s : List Char) :
    dropWord? word (small s) = (dropWord? word s).map small := by
  induction word generalizing s with
  | nil => rfl
  | cons letter word ih =>
    cases s with
    | nil => rfl
    | cons c s =>
      rw [small_cons, dropWord?, dropWord?, sameLetter_toLower, ih]
      cases sameLetter letter c <;> rfl

theorem behindWords?_small (words : List String) (s : List Char) :
    behindWords? words (small s) = (behindWords? words s).map small := by
  induction words generalizing s with
  | nil => rfl
  | cons word words ih =>
    rw [behindWords?_cons, behindWords?_cons, dropWord?_small]
    refine bind_small (fun behind => ?_) _
    rw [behindBlanks?_small]
    exact bind_small ih _

theorem startsWithKeyword_small (s : List Char) :
    startsWithKeyword (small s) = startsWithKeyword s := by
  simp only [startsWithKeyword, takeWhile_small isWordChar_toLower, sameWord_small]

theorem ignoresCase_isNameChar : IgnoresCase isNameChar :=
  ignoresCase_of_latin (by decide)

theorem behindAliasName?_small (s : List Char) :
    behindAliasName? (small s) = (behindAliasName? s).map small := by
  simp only [behindAliasName?, startsWithKeyword_small, takeWhile_small ignoresCase_isNameChar,
    dropWhile_small ignoresCase_isNameChar, isEmpty_small]
  split <;> rfl

theorem behindAlias?_small (s : List Char) :
    behindAlias? (small s) = (behindAlias? s).map small := by
  rw [behindAlias?_eq, behindAlias?_eq, behindBlanks?_small]
  refine bind_small (fun s => ?_) _
  rw [dropWord?_small, bind_small behindBlanks?_small, bind_small behindAliasName?_small,
    behindAliasName?_small, Option.map_or]

theorem item?_small (s : List Char) :
    item? (small s) = (item? s).map (Prod.map small small) := by
  simp only [item?, takeWhile_small ignoresCase_isNameChar, dropWhile_small ignoresCase_isNameChar,
    isEmpty_small, behindAlias?_small, Option.getD_map]
  split <;> rfl

theorem behindComma?_small (s : List Char) :
    behindComma? (small s) = (behindComma? s).map small := by
  rw [behindComma?, behindComma?, dropWhile_small isBlank_toLower]
  cases s.dropWhile isBlank with
  | nil => rfl
  | cons c rest =>
    rw [small_cons]
    by_cases hc : c = ','
    · rw [hc, (toLower_eq_iff (by decide) ',').2 rfl]
      exact congrArg some (dropWhile_small isBlank_toLower rest)
    · have hlower : c.toLower ≠ ',' := mt (toLower_eq_iff (by decide) c).1 hc
      simp [hc, hlower]

theorem moreItems_small (fuel : Nat) (s : List Char) :
    moreItems fuel (small s) = (moreItems fuel s).map small := by
  induction fuel generalizing s with
  | zero => rfl
  | succ fuel ih =>
    rw [moreItems, moreItems, behindComma?_small, bind_small item?_small]
    cases (behindComma? s).bind item? with
    | none => rfl
    | some item => exact congrArg (small item.1 :: ·) (ih item.2)

theorem itemNames_small (s : List Char) : itemNames (small s) = (itemNames s).map small := by
  rw [itemNames, itemNames, item?_small]
  cases item? s with
  | none => rfl
  | some item =>
    simp only [Option.map_some, Prod.map, List.map_cons, length_small, moreItems_small]

theorem namesAt_small (before : Option Char) (s : List Char) :
    namesAt (before.map Char.toLower) (small s) = (namesAt before s).map small := by
  have hfound : anchors.findSome? (behindWords? · (small s)) =
      (anchors.findSome? (behindWords? · s)).map small := by
    rw [List.map_findSome?]
    exact congrArg (anchors.findSome? ·) (funext fun words => behindWords?_small words s)
  rw [namesAt, namesAt, any_map_toLower isWordChar_toLower, hfound]
  split
  · rfl
  · cases anchors.findSome? (behindWords? · s) with
    | none => rfl
    | some rest => exact itemNames_small rest

theorem namesFrom_small (before : Option Char) (s : List Char) :
    namesFrom (before.map Char.toLower) (small s) = (namesFrom before s).map small := by
  induction s generalizing before with
  | nil => rfl
  | cons c s ih =>
    rw [small_cons, namesFrom, namesFrom, List.map_append, ← namesAt_small, ← ih (some c)]
    rfl

theorem normalChars_small (name : List Char) :
    TableName.normalChars (small name) = TableName.normalChars name := by
  have hpoint : IgnoresCase (· == '.') := ignoresCase_of_latin (by decide)
  have hquote : IgnoresCase fun c => !TableName.isQuote c := ignoresCase_of_latin (by decide)
  simp only [TableName.normalChars, trim_small, afterLast_small hpoint, filter_small hquote,
    upper_small]

/-- The tables of a statement are those of the statement in small letters. -/
theorem tablesExcept_small (excluded : List String) {s : List Char} (hs : HasNoSection s) :
    tablesExcept excluded (String.ofList (small s)) = tablesExcept excluded (String.ofList s) := by
  have hnames : namesFrom none (cleanChars (small s)) = (namesFrom none (cleanChars s)).map small := by
    rw [cleanChars_small hs]
    exact namesFrom_small none _
  simp only [tablesExcept, String.toList_ofList, hnames, List.map_map, Function.comp_def,
    normalChars_small]

/-- Two texts that differ only in the case of letters have the same tables, unless there is a mark
of a character data section in them. -/
theorem tablesExcept_eq_of_small_eq (excluded : List String) (s t : String)
    (hcase : small s.toList = small t.toList)
    (hsection : ¬ "<![cdata[".toList <:+: small s.toList) :
    tablesExcept excluded s = tablesExcept excluded t := by
  have hs : HasNoSection s.toList := hsection
  have ht : HasNoSection t.toList := fun hmark => hsection (hcase ▸ hmark)
  calc tablesExcept excluded s
    _ = tablesExcept excluded (String.ofList (small s.toList)) := by
      rw [tablesExcept_small excluded hs, String.ofList_toList]
    _ = tablesExcept excluded (String.ofList (small t.toList)) := by rw [hcase]
    _ = tablesExcept excluded t := by rw [tablesExcept_small excluded ht, String.ofList_toList]

/-- One statement in two spellings, with a parameter, a tag and an excluded table. -/
theorem tablesExcept_eq_of_small_eq_update :
    small "Update Stock s, dbo.[Dual] <If x>Set n=:Max</IF>".toList =
      small "UPDATE stock S, DBO.[dual] <iF X>SET N=:max</if>".toList ∧
    ¬ "<![cdata[".toList <:+: small "Update Stock s, dbo.[Dual] <If x>Set n=:Max</IF>".toList ∧
    tablesExcept ["DUAL"] "Update Stock s, dbo.[Dual] <If x>Set n=:Max</IF>" = ["STOCK"] ∧
    tablesExcept ["DUAL"] "UPDATE stock S, DBO.[dual] <iF X>SET N=:max</if>" = ["STOCK"] := by
  have hcase : small "Update Stock s, dbo.[Dual] <If x>Set n=:Max</IF>".toList =
      small "UPDATE stock S, DBO.[dual] <iF X>SET N=:max</if>".toList := by
    decide
  have hsection : ¬ "<![cdata[".toList <:+:
      small "Update Stock s, dbo.[Dual] <If x>Set n=:Max</IF>".toList := by
    intro hinside
    have hmem := hinside.subset (by decide : '!' ∈ "<![cdata[".toList)
    exact absurd hmem (by decide)
  have htables :
      tablesExcept ["DUAL"] "Update Stock s, dbo.[Dual] <If x>Set n=:Max</IF>" = ["STOCK"] := by
    decide +kernel
  exact ⟨hcase, hsection, htables,
    (tablesExcept_eq_of_small_eq ["DUAL"] _ _ hcase hsection).symm.trans htables⟩

-- The mark of a section is only removed in capitals.
example : tablesExcept [] "FROM <![CDATA[a" = ["A"] ∧
    tablesExcept [] "FROM <![cdata[a" = ["<!CDATAA"] := by
  decide +kernel

end Ripple.Sql
