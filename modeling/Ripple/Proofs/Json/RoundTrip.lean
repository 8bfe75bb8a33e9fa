-- SUMMARY: Plain JSON values are read back from their texts in every layout.
import Ripple.Proofs.Fields
import Ripple.Proofs.Json.Scalar

/-!
# Reading values that were written

Every value without reals and broken strings is read back from its text, in any layout whose lines
are begun by blanks.
-/

namespace Ripple.Json

/-- Values that texts, short integers, arrays and objects with different keys are made of. -/
inductive Plain : Json → Prop where
  | null : Plain .null
  | bool (b : Bool) : Plain (.bool b)
  | int {n : Int} (hshort : IsShort n) : Plain (.int n)
  | str (s : String) : Plain (.str s)
  | arr {items : List Json} (hitems : ∀ item ∈ items, Plain item) : Plain (.arr items)
  | obj {fields : List (String × Json)} (hkeys : (fields.map (·.1)).Nodup)
    (hfields : ∀ field ∈ fields, Plain field.2) : Plain (.obj fields)

/-! ## Blanks -/

/-- A text of blanks. -/
def IsBlank (s : List Char) : Prop :=
  ∀ c ∈ s, isSpace c = true

/-- A layout that adds nothing but blanks and commas. -/
structure Layout.IsPlain (layout : Layout) : Prop where
  lineStart (depth : Nat) : IsBlank (layout.lineStart depth)
  between (depth : Nat) : ∃ blank, layout.between depth = ',' :: blank ∧ IsBlank blank

theorem Layout.line_isPlain : Layout.line.IsPlain where
  lineStart _ := by simp [Layout.line, IsBlank]
  between _ := ⟨[' '], rfl, by simp [IsBlank, isSpace]⟩

/-- A text that begins with no blank. -/
def StartsSolid (s : List Char) : Prop :=
  ∃ c t, s = c :: t ∧ isSpace c = false

theorem StartsSolid.append {s : List Char} (h : StartsSolid s) (t : List Char) :
    StartsSolid (s ++ t) := by
  obtain ⟨c, rest, rfl, hc⟩ := h
  exact ⟨c, rest ++ t, rfl, hc⟩

theorem skipSpaces_solid {s : List Char} (h : StartsSolid s) : skipSpaces s = s := by
  obtain ⟨c, t, rfl, hc⟩ := h
  simp [skipSpaces, hc]

theorem skipSpaces_append {blank s : List Char} (hblank : IsBlank blank) (hs : StartsSolid s) :
    skipSpaces (blank ++ s) = s := by
  have hdrop : skipSpaces (blank ++ s) = skipSpaces s := List.dropWhile_append_of_pos hblank
  rw [hdrop, skipSpaces_solid hs]

theorem endsNumber_cons {c : Char} (hc : isSpace c = true ∨ c = ',' ∨ c = ']' ∨ c = '\x7d')
    (rest : List Char) : EndsNumber (c :: rest) := by
  intro d hd
  cases hd
  simp only [isSpace, Bool.or_eq_true, beq_iff_eq] at hc
  obtain (((rfl | rfl) | rfl) | rfl) | rfl | rfl | rfl := hc <;> decide

theorem EndsNumber.append {blank rest : List Char} (hblank : IsBlank blank)
    (hrest : EndsNumber rest) : EndsNumber (blank ++ rest) := by
  cases blank with
  | nil => exact hrest
  | cons c blank => exact endsNumber_cons (.inl (hblank c (by simp))) _

theorem isSpace_of_isDigit {c : Char} (hc : c.isDigit = true) : isSpace c = false := by
  rw [Bool.eq_false_iff]
  intro hspace
  simp only [isSpace, Bool.or_eq_true, beq_iff_eq] at hspace
  obtain ((rfl | rfl) | rfl) | rfl := hspace <;> exact absurd hc (by decide)

/-! ## Values -/

section
variable {layout : Layout}

theorem renderAt_int (depth : Nat) (n : Int) : renderAt layout depth (.int n) = intText n := rfl

theorem renderAt_str (depth : Nat) (s : String) : renderAt layout depth (.str s) = stringText s := rfl

theorem renderAt_arr_cons (depth : Nat) (item : Json) (items : List Json) :
    renderAt layout depth (.arr (item :: items)) =
      '[' :: layout.lineStart (depth + 1) ++ renderAt layout (depth + 1) item ++
        renderItems layout (depth + 1) items ++ layout.lineStart depth ++ [']'] := rfl

theorem renderAt_obj_cons (depth : Nat) (key : String) (value : Json)
    (fields : List (String × Json)) :
    renderAt layout depth (.obj ((key, value) :: fields)) =
      '\x7b' :: layout.lineStart (depth + 1) ++ stringText key ++ ':' :: ' ' ::
        renderAt layout (depth + 1) value ++ renderFields layout (depth + 1) fields ++
        layout.lineStart depth ++ ['\x7d'] := rfl

/-- The text of a value begins with a character of its own. -/
theorem renderAt_starts (layout : Layout) {v : Json} (hv : Plain v) (depth : Nat) :
    ∃ c t, renderAt layout depth v = c :: t ∧ isSpace c = false ∧ c ≠ ']' := by
  cases hv with
  | null => exact ⟨'n', _, rfl, by decide⟩
  | bool b => cases b <;> exact ⟨_, _, rfl, by decide⟩
  | @int n _ =>
    obtain ⟨c, t, htext, rfl | hc⟩ := intText_starts n
    · exact ⟨'-', t, htext, by decide⟩
    · refine ⟨c, t, htext, isSpace_of_isDigit hc, ?_⟩
      rintro rfl
      exact absurd hc (by decide)
  | str s => exact ⟨'"', _, rfl, by decide⟩
  | @arr items _ => cases items <;> exact ⟨'[', _, rfl, by decide⟩
  | @obj fields _ _ => cases fields <;> exact ⟨'\x7b', _, rfl, by decide⟩

theorem renderAt_solid (layout : Layout) {v : Json} (hv : Plain v) (depth : Nat) :
    StartsSolid (renderAt layout depth v) := by
  obtain ⟨c, t, htext, hc, -⟩ := renderAt_starts layout hv depth
  exact ⟨c, t, htext, hc⟩

/-- A value is read back from its text, and what follows is left. -/
def ReadsBack (layout : Layout) (v : Json) : Prop :=
  ∀ depth fuel rest, (renderAt layout depth v).length ≤ fuel → EndsNumber rest →
    readValue fuel (renderAt layout depth v ++ rest) = .ok (v, rest)

/-- What begins with no quote or bracket is a word or a number. -/
theorem readValue_scalar {c : Char} (hquote : c ≠ '"') (hbracket : c ≠ '[') (hbrace : c ≠ '\x7b')
    (fuel : Nat) (rest : List Char) : readValue (fuel + 1) (c :: rest) = readScalar (c :: rest) := by
  rw [readValue.eq_def]
  simp only
  split <;> simp_all

/-- What follows an item: the next one, or the closing bracket. -/
theorem endsNumber_renderItems (hlayout : layout.IsPlain) {blank : List Char} (hblank : IsBlank blank)
    (depth : Nat) (items : List Json) (rest : List Char) :
    EndsNumber (renderItems layout depth items ++ (blank ++ ']' :: rest)) := by
  cases items with
  | nil =>
    rw [renderItems, List.nil_append]
    exact .append hblank (endsNumber_cons (by decide) rest)
  | cons item items =>
    obtain ⟨space, hbetween, -⟩ := hlayout.between depth
    simp only [renderItems, hbetween, List.cons_append]
    exact endsNumber_cons (by decide) _

theorem readItems_render (hlayout : layout.IsPlain) {blank : List Char} (hblank : IsBlank blank)
    {depth : Nat} {item : Json} {items : List Json} (hitem : ReadsBack layout item)
    (hitems : ∀ next ∈ items, Plain next ∧ ReadsBack layout next) {fuel : Nat} (rest : List Char)
    (hfuel : (renderAt layout depth item).length + (renderItems layout depth items).length < fuel) :
    readItems fuel (renderAt layout depth item ++
      (renderItems layout depth items ++ (blank ++ ']' :: rest))) = .ok (item :: items, rest) := by
  induction items generalizing item fuel with
  | nil =>
    obtain ⟨fuel, rfl⟩ := Nat.exists_eq_succ_of_ne_zero (by omega : fuel ≠ 0)
    have hread := hitem depth fuel (blank ++ ']' :: rest) (by omega)
      (.append hblank (endsNumber_cons (by decide) rest))
    have hskip : skipSpaces (blank ++ ']' :: rest) = ']' :: rest :=
      skipSpaces_append hblank ⟨']', rest, rfl, by decide⟩
    simp only [renderItems, List.nil_append, readItems, hread, bind, Except.bind, hskip]
  | cons next items ih =>
    obtain ⟨fuel, rfl⟩ := Nat.exists_eq_succ_of_ne_zero (by omega : fuel ≠ 0)
    obtain ⟨space, hbetween, hspace⟩ := hlayout.between depth
    obtain ⟨hplain, hnext⟩ := hitems next (by simp)
    have hread := hitem depth fuel _ (by omega)
      (endsNumber_renderItems hlayout hblank depth (next :: items) rest)
    have hsolid : StartsSolid (renderAt layout depth next) := renderAt_solid layout hplain depth
    have hless : (renderAt layout depth next).length + (renderItems layout depth items).length <
        fuel := by
      simp only [renderItems, hbetween, List.length_append, List.length_cons] at hfuel
      omega
    have hrest := ih hnext (fun later hlater => hitems later (by simp [hlater])) hless
    simp only [readItems, hread, bind, Except.bind]
    simp only [renderItems, hbetween, List.cons_append, List.append_assoc]
    rw [skipSpaces_solid ⟨',', _, rfl, by decide⟩]
    simp only [skipSpaces_append hspace (hsolid.append _), hrest]
    rfl

/-- What follows a field: the next one, or the closing brace. -/
theorem endsNumber_renderFields (hlayout : layout.IsPlain) {blank : List Char}
    (hblank : IsBlank blank) (depth : Nat) (fields : List (String × Json)) (rest : List Char) :
    EndsNumber (renderFields layout depth fields ++ (blank ++ '\x7d' :: rest)) := by
  cases fields with
  | nil =>
    rw [renderFields, List.nil_append]
    exact .append hblank (endsNumber_cons (by decide) rest)
  | cons field fields =>
    obtain ⟨space, hbetween, -⟩ := hlayout.between depth
    simp only [renderFields, hbetween, List.cons_append]
    exact endsNumber_cons (by decide) _

/-- The text of a key begins with a quote, and the key is read back from what follows. -/
theorem stringText_append (s : String) (rest : List Char) :
    stringText s ++ rest = '"' :: (s.toList.flatMap stringChar ++ '"' :: rest) := by
  simp [stringText]

/-- What is read behind the value of a field, with the fields before it. -/
def readAfterValue (fuel : Nat) (before : List (String × Json)) (key : String) (value : Json)
    (rest : List Char) : Except ReadError (List (String × Json) × List Char) :=
  match skipSpaces rest with
  | ',' :: r => readFields fuel (putField key value before) (skipSpaces r)
  | '\x7d' :: r => .ok (putField key value before, r)
  | _ => .error .malformed

/-- A field is read with its key, its value, and what is behind it. -/
theorem readFields_key (key : String) (before : List (String × Json)) (fuel : Nat) (s : List Char) :
    readFields (fuel + 1) before (stringText key ++ ':' :: s) =
      (readValue fuel (skipSpaces s)).bind fun (value, rest) =>
        readAfterValue fuel before key value rest := by
  have hcolon : skipSpaces (':' :: s) = ':' :: s := skipSpaces_solid ⟨':', s, rfl, by decide⟩
  simp only [stringText_append, readFields, readString_stringText, bind, Except.bind, hcolon,
    lossyText_map_toNat]
  rfl

/-- The blank behind a colon. -/
theorem skipSpaces_space {s : List Char} (hs : StartsSolid s) : skipSpaces (' ' :: s) = s := by
  have hblank : IsBlank [' '] := by simp [IsBlank, isSpace]
  exact skipSpaces_append hblank hs

theorem notMem_keys_of_nodup {before fields : List (String × Json)} {key : String} {value : Json}
    (hkeys : ((before ++ (key, value) :: fields).map (·.1)).Nodup) : key ∉ before.map (·.1) := by
  rw [List.map_append, List.nodup_append] at hkeys
  exact fun hmem => hkeys.2.2 key hmem key (by simp) rfl

/-- Behind a value the other fields are read up to the closing brace. -/
theorem readAfterValue_render (hlayout : layout.IsPlain) {blank : List Char}
    (hblank : IsBlank blank) {depth : Nat} {key : String} {value : Json}
    {fields : List (String × Json)}
    (hfields : ∀ next ∈ fields, Plain next.2 ∧ ReadsBack layout next.2)
    {before : List (String × Json)} (hkeys : ((before ++ (key, value) :: fields).map (·.1)).Nodup)
    {fuel : Nat} (rest : List Char) (hfuel : (renderFields layout depth fields).length ≤ fuel) :
    readAfterValue fuel before key value
      (renderFields layout depth fields ++ (blank ++ '\x7d' :: rest)) =
        .ok (before ++ (key, value) :: fields, rest) := by
  have hnew := notMem_keys_of_nodup hkeys
  induction fields generalizing key value before fuel with
  | nil =>
    have hskip : skipSpaces (blank ++ '\x7d' :: rest) = '\x7d' :: rest :=
      skipSpaces_append hblank ⟨'\x7d', rest, rfl, by decide⟩
    simp only [renderFields, List.nil_append, readAfterValue, hskip, putField_of_notMem value hnew]
  | cons next fields ih =>
    obtain ⟨nextKey, nextValue⟩ := next
    have hplain : Plain nextValue := (hfields (nextKey, nextValue) (by simp)).1
    have hvalue : ReadsBack layout nextValue := (hfields (nextKey, nextValue) (by simp)).2
    obtain ⟨space, hbetween, hspace⟩ := hlayout.between depth
    simp only [renderFields, hbetween, List.length_append, List.length_cons] at hfuel
    obtain ⟨fuel, rfl⟩ := Nat.exists_eq_succ_of_ne_zero (by omega : fuel ≠ 0)
    have hread := hvalue depth fuel _ (by omega)
      (endsNumber_renderFields hlayout hblank depth fields rest)
    have hkeys' : ((before ++ [(key, value)] ++ (nextKey, nextValue) :: fields).map (·.1)).Nodup :=
      by simpa using hkeys
    have hrest := ih (fun later hlater => hfields later (by simp [hlater])) hkeys'
      (show (renderFields layout depth fields).length ≤ fuel by omega)
      (notMem_keys_of_nodup hkeys')
    have hsolid : StartsSolid (stringText nextKey) := ⟨'"', _, rfl, by decide⟩
    simp only [renderFields, hbetween, List.cons_append, List.append_assoc, readAfterValue]
    rw [skipSpaces_solid ⟨',', _, rfl, by decide⟩]
    simp only [skipSpaces_append hspace (hsolid.append _), putField_of_notMem value hnew]
    rw [readFields_key, skipSpaces_space ((renderAt_solid layout hplain depth).append _), hread]
    simp only [Except.bind, hrest, List.append_assoc, List.singleton_append]

theorem readFields_render (hlayout : layout.IsPlain) {blank : List Char} (hblank : IsBlank blank)
    {depth : Nat} {key : String} {value : Json} {fields : List (String × Json)}
    (hplain : Plain value) (hvalue : ReadsBack layout value)
    (hfields : ∀ next ∈ fields, Plain next.2 ∧ ReadsBack layout next.2)
    (hkeys : (((key, value) :: fields).map (·.1)).Nodup) {fuel : Nat} (rest : List Char)
    (hfuel : (renderAt layout depth value).length + (renderFields layout depth fields).length <
      fuel) :
    readFields fuel [] (stringText key ++ ':' :: ' ' :: (renderAt layout depth value ++
      (renderFields layout depth fields ++ (blank ++ '\x7d' :: rest)))) =
        .ok ((key, value) :: fields, rest) := by
  obtain ⟨fuel, rfl⟩ := Nat.exists_eq_succ_of_ne_zero (by omega : fuel ≠ 0)
  have hread := hvalue depth fuel _ (by omega)
    (endsNumber_renderFields hlayout hblank depth fields rest)
  rw [readFields_key, skipSpaces_space ((renderAt_solid layout hplain depth).append _), hread]
  exact readAfterValue_render hlayout hblank hfields hkeys rest (by omega)

/-- The text of a value is not empty. -/
theorem exists_fuel {v : Json} (hv : Plain v) {depth fuel : Nat}
    (hfuel : (renderAt layout depth v).length ≤ fuel) : ∃ less, fuel = less + 1 := by
  obtain ⟨c, t, htext, -⟩ := renderAt_solid layout hv depth
  rw [htext, List.length_cons] at hfuel
  exact ⟨fuel - 1, by omega⟩

theorem readsBack_int {n : Int} (hshort : IsShort n) : ReadsBack layout (.int n) := by
  intro depth fuel rest hfuel hrest
  obtain ⟨fuel, rfl⟩ := exists_fuel (.int hshort) hfuel
  obtain ⟨c, t, htext, hc⟩ := intText_starts n
  have hscalar := readScalar_intText hshort hrest
  simp only [renderAt_int]
  rw [htext] at hscalar ⊢
  rw [← hscalar]
  obtain rfl | hc := hc
  · exact readValue_scalar (by decide) (by decide) (by decide) fuel (t ++ rest)
  · apply readValue_scalar <;> rintro rfl <;> exact absurd hc (by decide)

theorem readsBack_str (s : String) : ReadsBack layout (.str s) := by
  intro depth fuel rest hfuel _
  obtain ⟨fuel, rfl⟩ := exists_fuel (.str s) hfuel
  simp only [renderAt_str, stringText_append, readValue, readString_stringText, Except.map,
    ofCodes_map_toNat]

theorem readsBack_arr (hlayout : layout.IsPlain) {items : List Json}
    (hitems : ∀ item ∈ items, Plain item ∧ ReadsBack layout item) :
    ReadsBack layout (.arr items) := by
  intro depth fuel rest hfuel _
  obtain ⟨fuel, rfl⟩ := exists_fuel (.arr fun item hitem => (hitems item hitem).1) hfuel
  cases items with
  | nil => rfl
  | cons item items =>
    obtain ⟨hplain, hitem⟩ := hitems item (by simp)
    obtain ⟨c, t, htext, -, hclose⟩ := renderAt_starts layout hplain (depth + 1)
    have hless : (renderAt layout (depth + 1) item).length +
        (renderItems layout (depth + 1) items).length < fuel := by
      simp only [renderAt_arr_cons, List.length_append, List.length_cons] at hfuel
      omega
    have hread := readItems_render hlayout (hlayout.lineStart depth) hitem
      (fun next hnext => hitems next (by simp [hnext])) rest hless
    simp only [renderAt_arr_cons, List.cons_append, List.append_assoc, readValue, List.nil_append]
    rw [skipSpaces_append (hlayout.lineStart (depth + 1)) ((renderAt_solid layout hplain _).append _)]
    rw [htext] at hread ⊢
    simp only [List.cons_append] at hread ⊢
    split
    · rename_i heq
      exact absurd (List.cons.inj heq).1 hclose
    · rw [hread]
      rfl

theorem readsBack_obj (hlayout : layout.IsPlain) {fields : List (String × Json)}
    (hkeys : (fields.map (·.1)).Nodup)
    (hfields : ∀ field ∈ fields, Plain field.2 ∧ ReadsBack layout field.2) :
    ReadsBack layout (.obj fields) := by
  intro depth fuel rest hfuel _
  obtain ⟨fuel, rfl⟩ := exists_fuel (.obj hkeys fun field hfield => (hfields field hfield).1) hfuel
  cases fields with
  | nil => rfl
  | cons field fields =>
    obtain ⟨key, value⟩ := field
    have hplain : Plain value := (hfields (key, value) (by simp)).1
    have hvalue : ReadsBack layout value := (hfields (key, value) (by simp)).2
    have hless : (renderAt layout (depth + 1) value).length +
        (renderFields layout (depth + 1) fields).length < fuel := by
      simp only [renderAt_obj_cons, List.length_append, List.length_cons] at hfuel
      omega
    have hread := readFields_render hlayout (hlayout.lineStart depth) hplain hvalue
      (fun next hnext => hfields next (by simp [hnext])) hkeys rest hless
    have hsolid : StartsSolid (stringText key) := ⟨'"', _, rfl, by decide⟩
    simp only [renderAt_obj_cons, List.cons_append, List.append_assoc, readValue, List.nil_append]
    rw [skipSpaces_append (hlayout.lineStart (depth + 1)) (hsolid.append _)]
    rw [stringText_append] at hread ⊢
    split
    · rename_i heq
      exact absurd (List.cons.inj heq).1 (by decide)
    · rw [hread]
      rfl

/-- Every plain value is read back from its text. -/
theorem Plain.readsBack (hlayout : layout.IsPlain) {v : Json} (hv : Plain v) :
    ReadsBack layout v := by
  induction hv with
  | null =>
    intro depth fuel rest hfuel _
    obtain ⟨fuel, rfl⟩ := exists_fuel .null hfuel
    rfl
  | bool b =>
    intro depth fuel rest hfuel _
    obtain ⟨fuel, rfl⟩ := exists_fuel (.bool b) hfuel
    cases b <;> rfl
  | int hshort => exact readsBack_int hshort
  | str s => exact readsBack_str s
  | arr hitems ih => exact readsBack_arr hlayout fun item hitem => ⟨hitems item hitem, ih item hitem⟩
  | obj hkeys hfields ih =>
    exact readsBack_obj hlayout hkeys fun field hfield => ⟨hfields field hfield, ih field hfield⟩

/-- A text that holds one plain value is read as that value. -/
theorem read_render (hlayout : layout.IsPlain) {v : Json} (hv : Plain v) :
    read (renderAt layout 0 v) = .ok v := by
  have hread := hv.readsBack hlayout 0 ((renderAt layout 0 v).length + 1) [] (by omega) endsNumber_nil
  rw [List.append_nil] at hread
  unfold read
  rw [skipSpaces_solid (renderAt_solid layout hv 0), hread]
  rfl

end

end Ripple.Json
