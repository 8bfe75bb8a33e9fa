-- SUMMARY: Lists of tables with schemas and aliases are read to their end.
import Ripple.Proofs.Sql.Anchors
import Ripple.Proofs.Sql.Cleaning

/-!
# Lists of tables

A list of tables separated by commas is read to its end, whatever schemas, names and aliases there
are, as long as no name and no alias is a keyword.
-/

namespace Ripple.Sql

open Text

/-! ## Lists -/

/-- A word of letters and digits of the basic Latin block and underscores. -/
structure Word where
  text : String
  nonempty : text.toList ≠ []
  chars : ∀ c ∈ text.toList, isPlainWordChar c = true

/-- A word that is no keyword in any letter case. -/
structure FreeWord extends Word where
  free : text.toUpper ∉ keywords

def Word.ofText (text : String) (hsome : text.toList ≠ [])
    (hchars : text.toList.all isPlainWordChar = true) : Word :=
  ⟨text, hsome, List.all_eq_true.1 hchars⟩

theorem toUpper_eq (text : String) : text.toUpper = String.ofList (text.toList.map Char.toUpper) := by
  rw [← String.toList_inj, String.toUpper, String.toList_map, String.toList_ofList]

def FreeWord.ofText (text : String) (hsome : text.toList ≠ [])
    (hchars : text.toList.all isPlainWordChar = true)
    (hfree : String.ofList (text.toList.map Char.toUpper) ∉ keywords) : FreeWord :=
  ⟨.ofText text hsome hchars, toUpper_eq text ▸ hfree⟩

/-- What a table of a list is called beside its name. -/
inductive Alias where
  | absent
  | bare (word : FreeWord)
  | afterAs (word : FreeWord)

/-- A table of a list. -/
structure ListedTable where
  schema : Option Word := none
  name : FreeWord
  called : Alias := .absent

def Alias.text : Alias → String
  | .absent => ""
  | .bare word => " " ++ word.text
  | .afterAs word => " AS " ++ word.text

namespace ListedTable

/-- The name of a table behind that of its schema. -/
def token (table : ListedTable) : String :=
  match table.schema with
  | none => table.name.text
  | some schema => schema.text ++ "." ++ table.name.text

def text (table : ListedTable) : String :=
  table.token ++ table.called.text

/-- Tables separated by commas. -/
def listing (tables : List ListedTable) : String :=
  ", ".intercalate (tables.map text)

end ListedTable

/-! ## Words -/

section
variable {c : Char}

theorem latin_of_isPlainWordChar (h : isPlainWordChar c = true) : c.toNat < 128 := by
  have hclass : (((c.isUpper || c.isLower) || c.isDigit) || c == '_') = true := h
  simp only [Bool.or_eq_true, beq_iff_eq] at hclass
  rcases hclass with ((hupper | hlower) | hdigit) | rfl
  · exact toNat_lt_of_isUpper hupper
  · have hlast : c.val ≤ 122 := of_decide_eq_true (Bool.and_eq_true_iff.1 hlower).2
    exact Nat.lt_of_le_of_lt (UInt32.le_iff_toNat_le.1 hlast) (by decide)
  · have hlast : c.val ≤ 57 := of_decide_eq_true (Bool.and_eq_true_iff.1 hdigit).2
    exact Nat.lt_of_le_of_lt (UInt32.le_iff_toNat_le.1 hlast) (by decide)
  · decide

theorem isWordChar_of_plain (h : isPlainWordChar c = true) : isWordChar c = true :=
  forall_latin (fun c => isPlainWordChar c = true → isWordChar c = true) (by decide)
    (latin_of_isPlainWordChar h) h

theorem isBare_of_plain (h : isPlainWordChar c = true) : TableName.isBare c = true :=
  forall_latin (fun c => isPlainWordChar c = true → TableName.isBare c = true) (by decide)
    (latin_of_isPlainWordChar h) h

theorem isNameChar_of_plain (h : isPlainWordChar c = true) : isNameChar c = true :=
  forall_latin (fun c => isPlainWordChar c = true → isNameChar c = true) (by decide)
    (latin_of_isPlainWordChar h) h

theorem isWordChar_of_isBlank (h : isBlank c = true) : isWordChar c = false := by
  have hmarks : marks.all (fun n =>
      !isBlank (Char.ofNat n) || !isWordChar (Char.ofNat n)) = true := by
    decide +kernel
  have hc := List.all_eq_true.1 hmarks _ (mem_marks_of_isBlank h)
  simpa [h] using hc

end

namespace Word

variable (word : Word)

theorem latin : ∀ c ∈ word.text.toList, c.toNat < 128 :=
  fun c hc => latin_of_isPlainWordChar (word.chars c hc)

theorem isWordChar : ∀ c ∈ word.text.toList, isWordChar c = true :=
  fun c hc => isWordChar_of_plain (word.chars c hc)

theorem isNameChar : ∀ c ∈ word.text.toList, isNameChar c = true :=
  fun c hc => isNameChar_of_plain (word.chars c hc)

theorem isBare {c : Char} (hc : c ∈ word.text.toList) :
    isBlank c = false ∧ c ∉ [',', ';', '(', ')', '.'] ∧ TableName.isQuote c = false :=
  TableName.isBare_iff.1 (isBare_of_plain (word.chars c hc))

end Word

theorem isCapital_of_mem_keywords {word : String} (h : word ∈ keywords) : IsCapital word := by
  have hall : keywords.all (fun word =>
      !word.toList.isEmpty && word.toList.all Char.isUpper) = true := by
    decide
  have hword := List.all_eq_true.1 hall word h
  simpa [IsCapital] using hword

/-- A word of the basic Latin block that is spelled like a word of capitals becomes that word. -/
theorem Spells.map_toUpper {word : String} (hword : IsCapital word) {s : List Char}
    (hs : ∀ c ∈ s, c.toNat < 128) (h : Spells word s) : s.map Char.toUpper = word.toList := by
  have hplain (t : List Char) (ht : ∀ c ∈ t, c.toNat < 128) :
      (t.map plain).map Char.toUpper = t.map Char.toUpper := by
    rw [List.map_map]
    refine List.map_congr_left fun c hc => ?_
    exact forall_latin (fun c => (plain c).toUpper = c.toUpper) (by decide) (ht c hc)
  have hcapital : word.toList.map Char.toUpper = word.toList := by
    refine (List.map_congr_left fun c hc => ?_).trans (List.map_id _)
    exact forall_latin (fun c => c.isUpper = true → c.toUpper = c) (by decide)
      (toNat_lt_of_isUpper (hword.2 c hc)) (hword.2 c hc)
  calc s.map Char.toUpper = (s.map plain).map Char.toUpper := (hplain s hs).symm
    _ = (word.toList.map plain).map Char.toUpper := by rw [h]
    _ = word.toList.map Char.toUpper := hplain _ fun c hc => toNat_lt_of_isUpper (hword.2 c hc)
    _ = word.toList := hcapital

theorem FreeWord.not_spells (word : FreeWord) {keyword : String} (h : keyword ∈ keywords) :
    ¬ Spells keyword word.text.toList := by
  intro hspells
  have hupper := hspells.map_toUpper (isCapital_of_mem_keywords h) word.latin
  refine word.free ?_
  have htext : word.text.toUpper = keyword := by
    rw [toUpper_eq, hupper, String.ofList_toList]
  rwa [htext]

/-- A word that is no keyword is the name of a table. -/
theorem FreeWord.isTableName (word : FreeWord) : isTableName keywords word.text.toUpper = true := by
  have hupper : word.text.toUpper.toList = word.text.toList.map Char.toUpper := String.toList_map
  have hsome : word.text.toUpper ≠ "" := by
    intro hempty
    rw [hempty] at hupper
    exact word.nonempty (List.map_eq_nil_iff.1 hupper.symm)
  have hplace : word.text.toUpper ≠ placeholder := by
    intro hplace
    rw [hplace] at hupper
    obtain ⟨c, hc, hmark⟩ : ∃ c ∈ word.text.toList, c.toUpper = '?' :=
      List.mem_map.1 (hupper ▸ List.mem_singleton_self '?')
    have hplain := word.chars c hc
    exact forall_latin (fun c => isPlainWordChar c = true → c.toUpper ≠ '?') (by decide)
      (latin_of_isPlainWordChar hplain) hplain hmark
  simp [Sql.isTableName, hsome, hplace, word.free]

/-- Only a word that is spelled like its first word begins an anchor, and only if a blank
follows. -/
theorem spells_of_behindWords? {word : String} (hword : IsCapital word) {words : List String}
    {run rest behind : List Char} (hrun : ∀ c ∈ run, isWordChar c = true)
    (hrest : Stops isWordChar rest) (h : behindWords? (word :: words) (run ++ rest) = some behind) :
    Spells word run ∧ ∃ c ∈ rest.head?, isBlank c = true := by
  rw [behindWords?_cons] at h
  obtain ⟨behindWord, hdropped, hmore⟩ := Option.bind_eq_some_iff.1 h
  obtain ⟨behindGap, hblanks, -⟩ := Option.bind_eq_some_iff.1 hmore
  obtain ⟨spelled, hsplit, hspelled⟩ := (dropWord?_eq_some_iff hword.2).1 hdropped
  obtain ⟨_ | ⟨c, gap⟩, rfl, hgap, -⟩ := behindBlanks?_eq_some_iff.1 hblanks
  · exact absurd rfl hgap.nonempty
  · have hc := hgap.blank c List.mem_cons_self
    -- The run and the spelled word both end where the first character of another kind stands.
    have hstops : Stops isWordChar (c :: gap ++ behindGap) := by
      intro d hd
      obtain rfl : c = d := by simpa using hd
      exact isWordChar_of_isBlank hc
    have hspells : Spells word spelled := hspelled
    have hsame : run = spelled := by
      rw [← takeWhile_append_of_stops hrun hrest, hsplit,
        takeWhile_append_of_stops (hspells.isWordChar hword) hstops]
    subst hsame
    obtain rfl := List.append_cancel_left hsplit
    exact ⟨hspells, c, by simp, hc⟩

theorem behindWords?_freeWord (word : FreeWord) {rest : List Char} (hrest : Stops isWordChar rest)
    {keyword : String} (h : keyword ∈ keywords) (words : List String) :
    behindWords? (keyword :: words) (word.text.toList ++ rest) = none := by
  cases hfound : behindWords? (keyword :: words) (word.text.toList ++ rest) with
  | none => rfl
  | some behind =>
    have hspells :=
      spells_of_behindWords? (isCapital_of_mem_keywords h) word.isWordChar hrest hfound
    exact absurd hspells.1 (word.not_spells h)

/-! ## Where there is no anchor -/

/-- Every anchor begins with a keyword. -/
theorem exists_keyword_of_mem_anchors {anchor : List String} (h : anchor ∈ anchors) :
    ∃ keyword ∈ keywords, ∃ words, anchor = keyword :: words := by
  have hall : anchors.all (fun anchor => keywords.contains (anchor.headD "")) = true := by decide
  have hhead : anchor.headD "" ∈ keywords := by simpa using List.all_eq_true.1 hall anchor h
  cases anchor with
  | nil => exact absurd hhead (by decide)
  | cons keyword words => exact ⟨keyword, hhead, words, rfl⟩

section
variable {before : Option Char} {c : Char} {run rest s : List Char}

theorem namesAt_eq_nil (h : ∀ anchor ∈ anchors, behindWords? anchor s = none) :
    namesAt before s = [] := by
  refine List.eq_nil_iff_forall_not_mem.2 fun name hname => ?_
  obtain ⟨-, anchor, hanchor, rest, hrest, -⟩ := mem_namesAt.1 hname
  cases (h anchor hanchor).symm.trans hrest

/-- An anchor begins with a letter. -/
theorem namesFrom_cons (hc : isWordChar c = false) (before : Option Char) (s : List Char) :
    namesFrom before (c :: s) = namesFrom (some c) s := by
  have hnone : namesAt before (c :: s) = [] := by
    refine namesAt_eq_nil fun anchor hanchor => ?_
    obtain ⟨keyword, hkeyword, words, rfl⟩ := exists_keyword_of_mem_anchors hanchor
    cases hfound : behindWords? (keyword :: words) (c :: s) with
    | none => rfl
    | some behind =>
      have hcapital := isCapital_of_mem_keywords hkeyword
      have hstops : Stops isWordChar (c :: s) := by simpa [Stops] using hc
      have hspells := (spells_of_behindWords? hcapital (List.forall_mem_nil _) hstops hfound).1
      exact absurd (List.map_eq_nil_iff.1 hspells.symm) hcapital.1
  rw [namesFrom, hnone, List.nil_append]

theorem namesFrom_of_stops (h : Stops isWordChar rest) (before : Option Char) :
    namesFrom before rest = namesFrom none rest := by
  cases rest with
  | nil => rfl
  | cons c rest =>
    have hc : isWordChar c = false := h c rfl
    rw [namesFrom_cons hc, namesFrom_cons hc]

/-- No anchor begins inside a word. -/
theorem namesFrom_inside (hc : isWordChar c = true) (hrun : ∀ c ∈ run, isWordChar c = true)
    (hrest : Stops isWordChar rest) : namesFrom (some c) (run ++ rest) = namesFrom none rest := by
  induction run generalizing c with
  | nil => exact namesFrom_of_stops hrest (some c)
  | cons d run ih =>
    obtain ⟨hd, hrun⟩ := List.forall_mem_cons.1 hrun
    have hnone : namesAt (some c) (d :: (run ++ rest)) = [] := by simp [namesAt, hc]
    rw [List.cons_append, namesFrom, hnone, List.nil_append]
    exact ih hd hrun

/-- A word with which no anchor begins is passed over. -/
theorem namesFrom_word (hrun : ∀ c ∈ run, isWordChar c = true) (hrest : Stops isWordChar rest)
    (hnone : ∀ anchor ∈ anchors, behindWords? anchor (run ++ rest) = none) (before : Option Char) :
    namesFrom before (run ++ rest) = namesFrom none rest := by
  cases run with
  | nil => exact namesFrom_of_stops hrest before
  | cons c run =>
    obtain ⟨hc, hrun⟩ := List.forall_mem_cons.1 hrun
    rw [List.cons_append, namesFrom, ← List.cons_append, namesAt_eq_nil hnone, List.nil_append]
    exact namesFrom_inside hc hrun hrest

theorem namesFrom_freeWord (word : FreeWord) (hrest : Stops isWordChar rest)
    (before : Option Char) : namesFrom before (word.text.toList ++ rest) = namesFrom none rest := by
  refine namesFrom_word word.isWordChar hrest ?_ before
  intro anchor hanchor
  obtain ⟨keyword, hkeyword, words, rfl⟩ := exists_keyword_of_mem_anchors hanchor
  exact behindWords?_freeWord word hrest hkeyword words

/-- A word with no blank behind it begins no anchor. -/
theorem namesFrom_attached (word : Word) (hrest : Stops isWordChar rest)
    (hblank : Stops isBlank rest) (before : Option Char) :
    namesFrom before (word.text.toList ++ rest) = namesFrom none rest := by
  refine namesFrom_word word.isWordChar hrest (fun anchor hanchor => ?_) before
  obtain ⟨keyword, hkeyword, words, rfl⟩ := exists_keyword_of_mem_anchors hanchor
  cases hfound : behindWords? (keyword :: words) (word.text.toList ++ rest) with
  | none => rfl
  | some behind =>
    obtain ⟨-, c, hc, hcblank⟩ :=
      spells_of_behindWords? (isCapital_of_mem_keywords hkeyword) word.isWordChar hrest hfound
    cases (hblank c hc).symm.trans hcblank

/-- A keyword that begins no anchor is passed over too. -/
theorem namesFrom_keyword {word : String} (hword : word.toList.all isWordChar = true)
    (hanchors : anchors.all (fun anchor => !decide (Spells (anchor.headD "") word.toList)) = true)
    (hrest : Stops isWordChar rest) (before : Option Char) :
    namesFrom before (word.toList ++ rest) = namesFrom none rest := by
  have hrun := List.all_eq_true.1 hword
  refine namesFrom_word hrun hrest (fun anchor hanchor => ?_) before
  have hother := List.all_eq_true.1 hanchors anchor hanchor
  obtain ⟨keyword, hkeyword, words, rfl⟩ := exists_keyword_of_mem_anchors hanchor
  cases hfound : behindWords? (keyword :: words) (word.toList ++ rest) with
  | none => rfl
  | some behind =>
    have hspells := spells_of_behindWords? (isCapital_of_mem_keywords hkeyword) hrun hrest hfound
    exact absurd hspells.1 (by simpa using hother)

end

/-! ## The tables of a list -/

/-- What may follow a table of a list: nothing or a comma. -/
def EndsTable (rest : List Char) : Prop :=
  ∀ c ∈ rest.head?, c = ','

theorem EndsTable.stops {rest : List Char} (h : EndsTable rest) {p : Char → Bool}
    (hp : p ',' = false) : Stops p rest :=
  fun c hc => h c hc ▸ hp

theorem Word.stops_isBlank (word : Word) (rest : List Char) :
    Stops isBlank (word.text.toList ++ rest) := by
  obtain ⟨first, chars, hword⟩ := List.exists_cons_of_ne_nil word.nonempty
  have hfirst := word.isBare (by simp [hword] : first ∈ word.text.toList)
  simpa [Stops, hword] using hfirst.1

theorem Word.behindBlanks?_space (word : Word) (rest : List Char) :
    behindBlanks? (' ' :: (word.text.toList ++ rest)) = some (word.text.toList ++ rest) := by
  exact behindBlanks?_eq_some_iff.2 ⟨[' '], rfl, isGap_space, word.stops_isBlank rest⟩

theorem behindWords?_as (s : List Char) :
    behindWords? ["AS"] s = (dropWord? ['A', 'S'] s).bind behindBlanks? := by
  have hword : "AS".toList = ['A', 'S'] := by decide
  rw [behindWords?_cons, hword]
  refine Option.bind_congr fun behind _ => ?_
  exact Option.bind_fun_some _

theorem behindAliasName?_word (word : FreeWord) {rest : List Char} (hrest : EndsTable rest) :
    behindAliasName? (word.text.toList ++ rest) = some rest := by
  have hrun : (word.text.toList ++ rest).takeWhile isWordChar = word.text.toList :=
    takeWhile_append_of_stops word.isWordChar (hrest.stops (by decide))
  have hkeyword : startsWithKeyword (word.text.toList ++ rest) = false := by
    rw [startsWithKeyword, hrun, List.any_eq_false]
    intro keyword hmem hsame
    exact word.not_spells hmem ((sameWord_eq_true_iff (isCapital_of_mem_keywords hmem).2).1 hsame)
  have hstops : Stops isNameChar rest := hrest.stops (by decide)
  simp [behindAliasName?, hkeyword, takeWhile_append_of_stops word.isNameChar hstops,
    dropWhile_append_of_stops word.isNameChar hstops, word.nonempty]

theorem toList_text_bare (word : FreeWord) :
    (Alias.bare word).text.toList = ' ' :: word.text.toList := by
  simp [Alias.text]

theorem toList_text_afterAs (word : FreeWord) :
    (Alias.afterAs word).text.toList = ' ' :: ("AS".toList ++ ' ' :: word.text.toList) := by
  simp [Alias.text]

theorem Alias.stops (called : Alias) {rest : List Char} {p : Char → Bool} (hp : p ' ' = false)
    (hrest : Stops p rest) : Stops p (called.text.toList ++ rest) := by
  cases called with
  | absent => exact hrest
  | bare word => simpa [toList_text_bare, Stops] using hp
  | afterAs word => simpa [toList_text_afterAs, Stops] using hp

theorem Alias.namesFrom_text (called : Alias) {rest : List Char} (hrest : Stops isWordChar rest)
    (before : Option Char) :
    namesFrom before (called.text.toList ++ rest) = namesFrom none rest := by
  have hspace : isWordChar ' ' = false := by decide
  cases called with
  | absent => exact namesFrom_of_stops hrest before
  | bare word =>
    rw [toList_text_bare, List.cons_append, namesFrom_cons hspace]
    exact namesFrom_freeWord word hrest _
  | afterAs word =>
    have hstops : Stops isWordChar (' ' :: (word.text.toList ++ rest)) := by
      simpa [Stops] using hspace
    rw [toList_text_afterAs, List.cons_append, namesFrom_cons hspace, List.append_assoc,
      List.cons_append, namesFrom_keyword (by decide) (by decide) hstops, namesFrom_cons hspace]
    exact namesFrom_freeWord word hrest _

namespace ListedTable

theorem toList_text (table : ListedTable) :
    table.text.toList = table.token.toList ++ table.called.text.toList :=
  String.toList_append

/-- There is no anchor in a listed table. -/
theorem namesFrom_text (table : ListedTable) {rest : List Char} (hrest : Stops isWordChar rest)
    (before : Option Char) :
    namesFrom before (table.text.toList ++ rest) = namesFrom none rest := by
  have hpoint : isWordChar '.' = false := by decide
  have hbehind := table.called.stops (by decide) hrest
  have hname (before : Option Char) : namesFrom before
      (table.name.text.toList ++ (table.called.text.toList ++ rest)) = namesFrom none rest := by
    rw [namesFrom_freeWord table.name hbehind, table.called.namesFrom_text hrest]
  rw [toList_text, List.append_assoc, token]
  cases table.schema with
  | none => exact hname before
  | some schema =>
    simp only [String.toList_append, List.append_assoc]
    have hstops (p : Char → Bool) (hp : p '.' = false) : Stops p
        (".".toList ++ (table.name.text.toList ++ (table.called.text.toList ++ rest))) := by
      simpa [Stops] using hp
    rw [namesFrom_attached schema (hstops _ hpoint) (hstops _ (by decide))]
    exact (namesFrom_cons hpoint _ _).trans (hname _)

theorem mem_token {table : ListedTable} {c : Char} (h : c ∈ table.token.toList) :
    isPlainWordChar c = true ∨ c = '.' := by
  unfold token at h
  split at h
  · exact .inl (table.name.chars c h)
  · rename_i schema _
    simp only [String.toList_append, List.mem_append] at h
    rcases h with (hschema | hpoint) | hname
    · exact .inl (schema.chars c hschema)
    · exact .inr (by simpa using hpoint)
    · exact .inl (table.name.chars c hname)

/-- The names of the schema and of the table are one run. -/
theorem isRun_token (table : ListedTable) {rest : List Char} (hrest : EndsTable rest) :
    IsRun table.token.toList (table.called.text.toList ++ rest) where
  nonempty := by
    unfold token
    split <;> simp [table.name.nonempty]
  chars c hc := by
    rcases mem_token hc with hplain | rfl
    · exact isNameChar_of_plain hplain
    · decide
  stops := table.called.stops (by decide) (hrest.stops (by decide))

theorem behindAlias?_called (table : ListedTable) {rest : List Char} (hrest : EndsTable rest) :
    (behindAlias? (table.called.text.toList ++ rest)).getD (table.called.text.toList ++ rest) =
      rest := by
  rw [behindAlias?_eq]
  cases table.called with
  | absent =>
    have hnone : behindBlanks? rest = none := by
      cases rest with
      | nil => rfl
      | cons c rest =>
        obtain rfl : c = ',' := hrest c rfl
        rfl
    simp [Alias.text, hnone]
  | bare word =>
    -- A word like `asset` begins with `AS`, but no blank follows there.
    have hnone : (dropWord? ['A', 'S'] (word.text.toList ++ rest)).bind behindBlanks? = none := by
      rw [← behindWords?_as]
      exact behindWords?_freeWord word (hrest.stops (by decide)) (by decide) []
    rw [toList_text_bare, List.cons_append, word.behindBlanks?_space, Option.bind_some, hnone,
      Option.bind_none, Option.none_or, behindAliasName?_word word hrest, Option.getD_some]
  | afterAs word =>
    have hdropped : dropWord? ['A', 'S'] ("AS".toList ++ ' ' :: (word.text.toList ++ rest)) =
        some (' ' :: (word.text.toList ++ rest)) :=
      (dropWord?_eq_some_iff isUpper_as).2 ⟨"AS".toList, rfl, by decide⟩
    have hspace : behindBlanks? (' ' :: ("AS".toList ++ ' ' :: (word.text.toList ++ rest))) =
        some ("AS".toList ++ ' ' :: (word.text.toList ++ rest)) := rfl
    rw [toList_text_afterAs, List.cons_append, List.append_assoc, List.cons_append, hspace,
      Option.bind_some, hdropped, Option.bind_some, word.behindBlanks?_space, Option.bind_some,
      behindAliasName?_word word hrest, Option.some_or, Option.getD_some]

theorem item?_text (table : ListedTable) {rest : List Char} (hrest : EndsTable rest) :
    item? (table.text.toList ++ rest) = some (table.token.toList, rest) := by
  rw [toList_text, List.append_assoc, (table.isRun_token hrest).item?_eq,
    table.behindAlias?_called hrest]

/-- What stands behind the first table of a list. -/
def further (tables : List ListedTable) : List Char :=
  tables.flatMap fun table => ',' :: ' ' :: table.text.toList

theorem further_cons (table : ListedTable) (tables : List ListedTable) :
    further (table :: tables) = ',' :: ' ' :: (table.text.toList ++ further tables) := rfl

theorem length_le_length_further (tables : List ListedTable) :
    tables.length ≤ (further tables).length := by
  induction tables with
  | nil => exact Nat.le_refl 0
  | cons table tables ih =>
    simp only [further_cons, List.length_cons, List.length_append]
    omega

theorem endsTable_further (tables : List ListedTable) : EndsTable (further tables) := by
  cases tables with
  | nil => nofun
  | cons table tables => simp [EndsTable, further]

theorem toList_listing (table : ListedTable) (tables : List ListedTable) :
    (listing (table :: tables)).toList = table.text.toList ++ further tables := by
  rw [listing]
  induction tables generalizing table with
  | nil => simp [further]
  | cons next tables ih =>
    rw [List.map_cons, List.map_cons, String.intercalate_cons_cons, ← List.map_cons,
      String.toList_append, ih]
    simp [further]

theorem behindComma?_further (table : ListedTable) (tables : List ListedTable) :
    behindComma? (further (table :: tables)) = some (table.text.toList ++ further tables) := by
  have hstops : Stops isBlank (table.text.toList ++ further tables) := by
    rw [toList_text, List.append_assoc]
    exact (table.isRun_token (endsTable_further tables)).stops_isBlank
  have hspace : ([' '] ++ (table.text.toList ++ further tables)).dropWhile isBlank =
      table.text.toList ++ further tables :=
    dropWhile_append_of_stops isGap_space.blank hstops
  exact congrArg some hspace

theorem moreItems_further {tables : List ListedTable} {fuel : Nat} (hfuel : tables.length ≤ fuel) :
    moreItems fuel (further tables) = tables.map (·.token.toList) := by
  induction tables generalizing fuel with
  | nil => cases fuel <;> rfl
  | cons table tables ih =>
    obtain ⟨fuel, rfl⟩ : ∃ n, fuel = n + 1 := ⟨fuel - 1, by simp at hfuel; omega⟩
    rw [moreItems, behindComma?_further, Option.bind_some,
      table.item?_text (endsTable_further tables)]
    simp only [List.map_cons, List.cons.injEq, true_and]
    exact ih (by simpa using hfuel)

/-- All tables of a list are read. -/
theorem itemNames_listing (tables : List ListedTable) :
    itemNames (listing tables).toList = tables.map (·.token.toList) := by
  cases tables with
  | nil => rfl
  | cons table tables =>
    rw [toList_listing, itemNames, table.item?_text (endsTable_further tables)]
    simp only [List.map_cons, moreItems_further (length_le_length_further tables)]

/-- There is no anchor in a list. -/
theorem namesFrom_listing (tables : List ListedTable) (before : Option Char) :
    namesFrom before (listing tables).toList = [] := by
  have hfurther (tables : List ListedTable) : namesFrom none (further tables) = [] := by
    induction tables with
    | nil => rfl
    | cons table tables ih =>
      rw [further_cons, namesFrom_cons (by decide), namesFrom_cons (by decide),
        table.namesFrom_text ((endsTable_further tables).stops (by decide)), ih]
  cases tables with
  | nil => rfl
  | cons table tables =>
    rw [toList_listing, table.namesFrom_text ((endsTable_further tables).stops (by decide)), hfurther]

/-! ## The statement around a list -/

/-- The statement that selects all from the tables of a list. -/
def selection (tables : List ListedTable) : String :=
  "SELECT * FROM " ++ listing tables

theorem toList_selection (tables : List ListedTable) :
    (selection tables).toList = "SELECT * FROM ".toList ++ (listing tables).toList :=
  String.toList_append

/-- The words of the statement before its list. -/
theorem toList_selection_words (tables : List ListedTable) :
    (selection tables).toList = "SELECT".toList ++ ' ' :: ("*".toList ++ ' ' ::
      ("FROM".toList ++ ' ' :: (listing tables).toList)) := by
  rw [toList_selection]
  simp

theorem not_isBlank_of_mem_token {table : ListedTable} {c : Char} (h : c ∈ table.token.toList) :
    isBlank c = false := by
  rcases mem_token h with hplain | rfl
  · exact (TableName.isBare_iff.1 (isBare_of_plain hplain)).1
  · decide

theorem isTidy_text_word {word : String} (hsome : word.toList ≠ [])
    (hblank : word.toList.all (fun c => !isBlank c) = true) : IsTidy word.toList :=
  isTidy_word hsome (by simpa using hblank)

theorem isTidy_text (table : ListedTable) {mark : List Char}
    (hmark : ∀ c ∈ mark, isBlank c = false) : IsTidy (table.text.toList ++ mark) := by
  have htoken : table.token.toList ≠ [] := (table.isRun_token (endsTable_further [])).nonempty
  have hmarked {word : List Char} (hsome : word ≠ []) (hword : ∀ c ∈ word, isBlank c = false) :
      IsTidy (word ++ mark) :=
    isTidy_word (by simp [hsome]) (List.forall_mem_append.2 ⟨hword, hmark⟩)
  have hword (word : FreeWord) : IsTidy (word.text.toList ++ mark) :=
    hmarked word.nonempty fun c hc => (word.isBare hc).1
  rw [toList_text, List.append_assoc]
  cases table.called with
  | absent => exact hmarked htoken fun c => not_isBlank_of_mem_token
  | bare word =>
    rw [toList_text_bare]
    exact (isTidy_word htoken fun c => not_isBlank_of_mem_token).append (hword word)
  | afterAs word =>
    have has : IsTidy "AS".toList := isTidy_text_word (by decide) (by decide)
    rw [toList_text_afterAs, List.cons_append, List.append_assoc]
    exact (isTidy_word htoken fun c => not_isBlank_of_mem_token).append (has.append (hword word))

theorem isTidy_listing {tables : List ListedTable} (h : tables ≠ []) :
    IsTidy (listing tables).toList := by
  induction tables with
  | nil => exact absurd rfl h
  | cons table tables ih =>
    rw [toList_listing]
    cases tables with
    | nil => exact table.isTidy_text (List.forall_mem_nil _)
    | cons next tables =>
      -- The comma belongs to the last word before it.
      have hcomma : ∀ c ∈ [','], isBlank c = false := by
        intro c hc
        obtain rfl := List.mem_singleton.1 hc
        decide
      have hlist := ih (List.cons_ne_nil _ _)
      rw [toList_listing] at hlist
      have htidy := (table.isTidy_text hcomma).append hlist
      rwa [List.append_assoc] at htidy

theorem mem_text {table : ListedTable} {c : Char} (h : c ∈ table.text.toList) :
    isPlainWordChar c = true ∨ c = '.' ∨ c = ' ' := by
  rw [toList_text, List.mem_append] at h
  rcases h with htoken | hcalled
  · exact (mem_token htoken).imp_right .inl
  · revert hcalled
    cases table.called with
    | absent => exact nofun
    | bare word =>
      rw [toList_text_bare, List.mem_cons]
      rintro (rfl | hword)
      · exact .inr (.inr rfl)
      · exact .inl (word.chars c hword)
    | afterAs word =>
      rw [toList_text_afterAs, List.mem_cons, List.mem_append, List.mem_cons]
      rintro (rfl | has | rfl | hword)
      · exact .inr (.inr rfl)
      · have hplain : "AS".toList.all isPlainWordChar = true := by decide
        exact .inl (List.all_eq_true.1 hplain c has)
      · exact .inr (.inr rfl)
      · exact .inl (word.chars c hword)

theorem notMem_signs_of_mem_listing {tables : List ListedTable} {c : Char}
    (h : c ∈ (listing tables).toList) : c ∉ signs := by
  have htext {table : ListedTable} (h : c ∈ table.text.toList) : c ∉ signs := by
    rcases mem_text h with hplain | rfl | rfl
    · exact forall_latin (fun c => isPlainWordChar c = true → c ∉ signs) (by decide)
        (latin_of_isPlainWordChar hplain) hplain
    · decide
    · decide
  cases tables with
  | nil => cases h
  | cons table tables =>
    rw [toList_listing, List.mem_append] at h
    rcases h with hfirst | hfurther
    · exact htext hfirst
    · obtain ⟨next, -, hnext⟩ := List.mem_flatMap.1 hfurther
      simp only [List.mem_cons] at hnext
      rcases hnext with rfl | rfl | hnext
      · decide
      · decide
      · exact htext hnext

theorem cleanChars_selection {tables : List ListedTable} (h : tables ≠ []) :
    cleanChars (selection tables).toList = (selection tables).toList := by
  refine cleanChars_eq_self ?_ ?_
  · intro c hc
    rw [toList_selection, List.mem_append] at hc
    rcases hc with hfront | hlisting
    · have hall : "SELECT * FROM ".toList.all (fun c => !signs.contains c) = true := by decide
      simpa using List.all_eq_true.1 hall c hfront
    · exact notMem_signs_of_mem_listing hlisting
  · have hselect : IsTidy "SELECT".toList := isTidy_text_word (by decide) (by decide)
    have hall : IsTidy "*".toList := isTidy_text_word (by decide) (by decide)
    have hfrom : IsTidy "FROM".toList := isTidy_text_word (by decide) (by decide)
    rw [toList_selection_words]
    exact hselect.append (hall.append (hfrom.append (isTidy_listing h)))

theorem behindWords?_from {tables : List ListedTable} (h : tables ≠ []) :
    behindWords? ["FROM"] ("FROM".toList ++ ' ' :: (listing tables).toList) =
      some (listing tables).toList := by
  obtain ⟨table, tables, rfl⟩ := List.exists_cons_of_ne_nil h
  have hstops : Stops isBlank (listing (table :: tables)).toList := by
    rw [toList_listing, toList_text, List.append_assoc]
    exact (table.isRun_token (endsTable_further tables)).stops_isBlank
  have hlead : Introduces ["FROM"] ("FROM".toList ++ ([' '] ++ [])) :=
    ⟨"FROM".toList, [' '], [], rfl, rfl, isGap_space, rfl⟩
  have hcapital : ∀ word ∈ ["FROM"], IsCapital word :=
    fun word => isCapital_of_mem_anchors List.mem_cons_self
  simpa using behindWords?_of_introduces hcapital hlead hstops

/-- The one anchor of the statement is that before its list. -/
theorem namesFrom_selection {tables : List ListedTable} (h : tables ≠ []) :
    namesFrom none (selection tables).toList = tables.map (·.token.toList) := by
  have hspace : isWordChar ' ' = false := by decide
  have hstops (s : List Char) : Stops isWordChar (' ' :: s) := by simpa [Stops] using hspace
  have hfrom : namesAt (some ' ') ("FROM".toList ++ ' ' :: (listing tables).toList) =
      itemNames (listing tables).toList := by
    have hfound : anchors.findSome?
        (behindWords? · ("FROM".toList ++ ' ' :: (listing tables).toList)) =
          some (listing tables).toList := by
      rw [anchors, List.findSome?_cons, behindWords?_from h]
    rw [namesAt, hfound, Option.any_some, if_neg (by simp [hspace])]
  have hword : ∀ c ∈ "ROM".toList, isWordChar c = true := List.all_eq_true.1 (by decide)
  have hinside : namesFrom (some 'F') ("ROM".toList ++ ' ' :: (listing tables).toList) = [] := by
    rw [namesFrom_inside (by decide) hword (hstops _), namesFrom_cons hspace,
      namesFrom_listing]
  calc namesFrom none (selection tables).toList
    _ = namesFrom none (' ' :: '*' :: ' ' :: ("FROM".toList ++ ' ' :: (listing tables).toList)) := by
      rw [toList_selection_words, namesFrom_keyword (by decide) (by decide) (hstops _)]
      rfl
    _ = namesFrom (some ' ') ("FROM".toList ++ ' ' :: (listing tables).toList) := by
      rw [namesFrom_cons hspace, namesFrom_cons (by decide), namesFrom_cons hspace]
    _ = namesAt (some ' ') ("FROM".toList ++ ' ' :: (listing tables).toList) ++
        namesFrom (some 'F') ("ROM".toList ++ ' ' :: (listing tables).toList) := rfl
    _ = tables.map (·.token.toList) := by
      rw [hfrom, hinside, List.append_nil, itemNames_listing]

theorem afterLast_token (table : ListedTable) :
    afterLast (· == '.') table.token.toList = table.name.text.toList := by
  have hpoint (word : Word) : ∀ c ∈ word.text.toList, (c == '.') = false := by
    intro c hc
    have hmarks := (word.isBare hc).2.1
    simp only [beq_eq_false_iff_ne]
    rintro rfl
    exact hmarks (by simp)
  have hname := afterLast_eq_self (hpoint table.name.toWord)
  unfold token
  cases table.schema with
  | none => exact hname
  | some schema =>
    have hcut := splitWhen_append_cons (hpoint schema) (beq_self_eq_true '.') table.name.text.toList
    simp [afterLast, hcut, splitWhen_eq_singleton (hpoint table.name.toWord)]

theorem normalChars_token (table : ListedTable) :
    TableName.normalChars table.token.toList = table.name.text.toList.map Char.toUpper := by
  have hquotes : table.name.text.toList.filter (!TableName.isQuote ·) = table.name.text.toList :=
    List.filter_eq_self.2 fun c hc => by simp [(table.name.isBare hc).2.2]
  unfold TableName.normalChars
  dsimp only
  rw [trim_eq_self fun c => not_isBlank_of_mem_token, afterLast_token, hquotes,
    trim_eq_self fun c hc => (table.name.isBare hc).1]
  exact upper_of_latin table.name.latin

/-- All tables of a comma list are found, each under its name in capitals, and nothing else. -/
theorem tables_selection (tables : List ListedTable) (h : tables ≠ []) :
    Sql.tables (selection tables) = sortedSet (tables.map (·.name.text.toUpper)) := by
  have hnames : (tables.map (·.token.toList)).map
      (fun name => String.ofList (TableName.normalChars name)) =
        tables.map (·.name.text.toUpper) := by
    rw [List.map_map]
    refine List.map_congr_left fun table _ => ?_
    rw [Function.comp_apply, normalChars_token, toUpper_eq]
  have hkept : ∀ name ∈ tables.map (·.name.text.toUpper), isTableName keywords name = true := by
    intro name hname
    obtain ⟨table, -, rfl⟩ := List.mem_map.1 hname
    exact table.name.isTableName
  unfold Sql.tables tablesExcept
  dsimp only
  rw [cleanChars_selection h, namesFrom_selection h, hnames, List.filter_eq_self.2 hkept]

/-- A keyword as a schema, aliases that begin with keywords, and one table twice. -/
def mixedTables : List ListedTable :=
  [{ schema := some (.ofText "from" (by decide) (by decide))
     name := .ofText "Orders" (by decide) (by decide) (by decide)
     called := .bare (.ofText "asset" (by decide) (by decide) (by decide)) },
   { name := .ofText "items" (by decide) (by decide) (by decide)
     called := .afterAs (.ofText "on_x" (by decide) (by decide) (by decide)) },
   { schema := some (.ofText "dbo" (by decide) (by decide))
     name := .ofText "ORDERS" (by decide) (by decide) (by decide) }]

theorem tables_selection_mixedTables :
    mixedTables ≠ [] ∧
    selection mixedTables = "SELECT * FROM from.Orders asset, items AS on_x, dbo.ORDERS" ∧
    Sql.tables (selection mixedTables) = ["ITEMS", "ORDERS"] := by
  have hsome : mixedTables ≠ [] := List.cons_ne_nil _ _
  have htables : sortedSet (mixedTables.map (·.name.text.toUpper)) = ["ITEMS", "ORDERS"] := by
    simp only [toUpper_eq]
    decide
  exact ⟨hsome, by decide, (tables_selection mixedTables hsome).trans htables⟩

end ListedTable

end Ripple.Sql
