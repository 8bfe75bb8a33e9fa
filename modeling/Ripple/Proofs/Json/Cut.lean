-- SUMMARY: JSON texts of arrays and objects that break off are refused.
import Ripple.Proofs.Json.RoundTrip
import Mathlib.Data.List.TakeWhile

/-!
# Values that break off

The text of an array or an object without its end is refused, wherever it breaks off.
-/

namespace Ripple.Json

/-! ## Fuel

A text is refused for want of fuel only as it is refused for being malformed, so that more fuel
changes no other answer.
-/

/-- Whether an answer stays with more fuel, unless it is a refusal. -/
def Stays (now later : Except ReadError α) : Prop :=
  now = .error .malformed ∨ later = now

theorem Stays.map {now later : Except ReadError α} (h : Stays now later) (f : α → β) :
    Stays (now.map f) (later.map f) := by
  obtain rfl | rfl := h
  · exact .inl rfl
  · exact .inr rfl

theorem Stays.bind {now later : Except ReadError α} (h : Stays now later)
    {f g : α → Except ReadError β} (hfg : ∀ a, Stays (f a) (g a)) :
    Stays (now.bind f) (later.bind g) := by
  obtain rfl | rfl := h
  · exact .inl rfl
  · cases later with
    | error e => exact .inr rfl
    | ok a => exact hfg a

section
variable {fuel : Nat}

theorem stays_readValue_succ
    (hitems : ∀ s, Stays (readItems fuel s) (readItems (fuel + 1) s))
    (hfields : ∀ before s, Stays (readFields fuel before s) (readFields (fuel + 1) before s))
    (s : List Char) : Stays (readValue (fuel + 1) s) (readValue (fuel + 1 + 1) s) := by
  simp only [readValue]
  split
  · exact .inr rfl
  · split
    · exact .inr rfl
    · exact (hitems _).map _
  · split
    · exact .inr rfl
    · exact (hfields _ _).map _
  · exact .inr rfl

theorem stays_readItems_succ
    (hvalue : ∀ s, Stays (readValue fuel s) (readValue (fuel + 1) s))
    (hitems : ∀ s, Stays (readItems fuel s) (readItems (fuel + 1) s))
    (s : List Char) : Stays (readItems (fuel + 1) s) (readItems (fuel + 1 + 1) s) := by
  rw [readItems, readItems]
  refine (hvalue s).bind fun found => ?_
  obtain ⟨item, rest⟩ := found
  dsimp only
  split
  · exact (hitems _).map _
  · exact .inr rfl
  · exact .inr rfl

theorem stays_readFields_succ
    (hvalue : ∀ s, Stays (readValue fuel s) (readValue (fuel + 1) s))
    (hfields : ∀ before s, Stays (readFields fuel before s) (readFields (fuel + 1) before s))
    (before : List (String × Json)) (s : List Char) :
    Stays (readFields (fuel + 1) before s) (readFields (fuel + 1 + 1) before s) := by
  rw [readFields.eq_def, readFields.eq_def (fuel + 1 + 1)]
  dsimp only
  split
  · rename_i rest
    change Stays (Except.bind _ _) (Except.bind _ _)
    -- A key is read without fuel.
    refine Stays.bind (.inr rfl) fun found => ?_
    obtain ⟨key, rest⟩ := found
    dsimp only
    split
    · refine (hvalue _).bind fun found => ?_
      obtain ⟨value, rest⟩ := found
      dsimp only
      split
      · exact hfields _ _
      · exact .inr rfl
      · exact .inr rfl
    · exact .inr rfl
  · exact .inr rfl

end

/-- What is read stays so with more fuel. -/
theorem stays (fuel : Nat) :
    (∀ s, Stays (readValue fuel s) (readValue (fuel + 1) s)) ∧
    (∀ s, Stays (readItems fuel s) (readItems (fuel + 1) s)) ∧
    (∀ before s, Stays (readFields fuel before s) (readFields (fuel + 1) before s)) := by
  induction fuel with
  | zero => exact ⟨fun _ => .inl rfl, fun _ => .inl rfl, fun _ _ => .inl rfl⟩
  | succ fuel ih =>
    obtain ⟨hvalue, hitems, hfields⟩ := ih
    exact ⟨stays_readValue_succ hitems hfields, stays_readItems_succ hvalue hitems,
      stays_readFields_succ hvalue hfields⟩

theorem Stays.trans {first second third : Except ReadError α} (h₁ : Stays first second)
    (h₂ : Stays second third) : Stays first third := by
  obtain h₁ | rfl := h₁
  · exact .inl h₁
  · exact h₂

theorem stays_readValue {fuel more : Nat} (h : fuel ≤ more) (s : List Char) :
    Stays (readValue fuel s) (readValue more s) := by
  induction h with
  | refl => exact .inr rfl
  | step _ ih => exact ih.trans ((stays _).1 s)

/-- With any fuel a plain value is read back or refused. -/
theorem Plain.readValue_or {layout : Layout} (hlayout : layout.IsPlain) {v : Json} (hv : Plain v)
    (depth fuel : Nat) {rest : List Char} (hrest : EndsNumber rest) :
    readValue fuel (renderAt layout depth v ++ rest) = .error .malformed ∨
      readValue fuel (renderAt layout depth v ++ rest) = .ok (v, rest) := by
  -- With enough fuel it is read back, and less fuel gives the same or a refusal.
  have hread := hv.readsBack hlayout depth (max fuel (renderAt layout depth v).length) rest
    (Nat.le_max_right ..) hrest
  obtain hbad | heq := stays_readValue (Nat.le_max_left fuel _) (renderAt layout depth v ++ rest)
  · exact .inl hbad
  · exact .inr (heq ▸ hread)

/-! ## Arrays and objects -/

theorem EndsNumber.of_prefix {part rest : List Char} (h : EndsNumber rest) (hbegins : part <+: rest) :
    EndsNumber part := by
  cases part with
  | nil => exact endsNumber_nil
  | cons c part =>
    obtain ⟨later, rfl⟩ := hbegins
    exact h

/-- Behind blanks a text breaks off where it breaks off with them. -/
theorem isCut_skipSpaces {blank s part : List Char} (hblank : IsBlank blank) (hs : StartsSolid s)
    (h : Text.IsCut part (blank ++ s)) : Text.IsCut (skipSpaces part) s := by
  obtain hpart | ⟨part, rfl, hcut⟩ := h.append
  · have hnone : skipSpaces part = [] :=
      List.dropWhile_eq_nil_iff.2 fun c hc => hblank c (hpart.1.subset hc)
    obtain ⟨c, t, rfl, -⟩ := hs
    rw [hnone]
    exact ⟨List.nil_prefix, fun heq => by cases heq⟩
  · obtain ⟨c, t, rfl, hc⟩ := hs
    have hdrop : skipSpaces (blank ++ part) = skipSpaces part := List.dropWhile_append_of_pos hblank
    rw [hdrop]
    obtain rfl | ⟨part, rfl, hpart⟩ := hcut.cons
    · exact hcut
    · rwa [skipSpaces_solid ⟨c, part, rfl, hc⟩]

/-- A value that breaks off is refused, or it is a number at the end of the text. -/
def CutRefused (layout : Layout) (v : Json) : Prop :=
  ∀ depth fuel part, Text.IsCut part (renderAt layout depth v) →
    readValue fuel part = .error .malformed ∨ ∃ w, readValue fuel part = .ok (w, [])

section
variable {layout : Layout}

/-- A value with a text behind it that breaks off: the value is refused, or what is behind it breaks
off. -/
theorem readValue_cut_append (hlayout : layout.IsPlain) {depth : Nat} {v : Json} (hplain : Plain v)
    (hv : CutRefused layout v) {tail part : List Char} (hne : tail ≠ []) (hends : EndsNumber tail)
    (h : Text.IsCut part (renderAt layout depth v ++ tail)) (fuel : Nat) :
    readValue fuel part = .error .malformed ∨
      ∃ w after, readValue fuel part = .ok (w, after) ∧ Text.IsCut after tail := by
  obtain hfirst | ⟨after, rfl, hafter⟩ := h.append
  · obtain hread | ⟨w, hread⟩ := hv depth fuel part hfirst
    · exact .inl hread
    · exact .inr ⟨w, [], hread, List.nil_prefix, hne.symm⟩
  · obtain hread | hread := hplain.readValue_or hlayout depth fuel (hends.of_prefix hafter.1)
    · exact .inl hread
    · exact .inr ⟨v, after, hread, hafter⟩

theorem readItems_cut (hlayout : layout.IsPlain) {blank : List Char} (hblank : IsBlank blank)
    {depth : Nat} {item : Json} {items : List Json} (hplain : Plain item)
    (hitem : CutRefused layout item) (hitems : ∀ next ∈ items, Plain next ∧ CutRefused layout next)
    {part : List Char} (h : Text.IsCut part (renderAt layout depth item ++
      (renderItems layout depth items ++ (blank ++ [']'])))) (fuel : Nat) :
    readItems fuel part = .error .malformed := by
  induction items generalizing item part fuel with
  | nil =>
    cases fuel with
    | zero => rfl
    | succ fuel =>
      obtain hread | ⟨w, after, hread, hafter⟩ := readValue_cut_append hlayout hplain hitem
        (by simp) (endsNumber_renderItems hlayout hblank depth [] []) h fuel
      · simp only [readItems, hread]
        rfl
      · have hskip := (isCut_skipSpaces hblank ⟨']', [], rfl, by decide⟩ hafter).singleton
        simp only [readItems, hread, bind, Except.bind, hskip]
  | cons next items ih =>
    cases fuel with
    | zero => rfl
    | succ fuel =>
      obtain ⟨hnextPlain, hnext⟩ := hitems next (by simp)
      obtain ⟨space, hbetween, hspace⟩ := hlayout.between depth
      obtain hread | ⟨w, after, hread, hafter⟩ := readValue_cut_append hlayout hplain hitem
        (by simp) (endsNumber_renderItems hlayout hblank depth (next :: items) []) h fuel
      · simp only [readItems, hread]
        rfl
      · simp only [renderItems, hbetween, List.cons_append, List.append_assoc] at hafter
        obtain rfl | ⟨after, rfl, hcut⟩ := hafter.cons
        · simp only [readItems, hread]
          rfl
        · have hrest := ih hnextPlain hnext (fun later hlater => hitems later (by simp [hlater]))
            (isCut_skipSpaces hspace ((renderAt_solid layout hnextPlain depth).append _) hcut) fuel
          simp only [readItems, hread, bind, Except.bind]
          rw [skipSpaces_solid ⟨',', after, rfl, by decide⟩]
          simp only [hrest]
          rfl

/-- A field that breaks off is refused, or its value breaks off with what is behind it. -/
theorem readFields_cut_key {key : String} {s part : List Char} (hs : StartsSolid s)
    (h : Text.IsCut part (stringText key ++ (':' :: ' ' :: s))) (before : List (String × Json))
    (fuel : Nat) : readFields (fuel + 1) before part = .error .malformed ∨
      ∃ after, Text.IsCut after s ∧ readFields (fuel + 1) before part =
        (readValue fuel after).bind fun (value, rest) =>
          readAfterValue fuel before key value rest := by
  obtain hkey | ⟨after, rfl, hafter⟩ := h.append
  · left
    obtain rfl | ⟨codes, rfl, hcodes⟩ := hkey.cons
    · rfl
    · simp only [readFields, readString_cut hcodes]
      rfl
  · obtain rfl | ⟨after, rfl, hcolon⟩ := hafter.cons
    · left
      simp only [stringText_append, readFields, readString_stringText]
      rfl
    · right
      have hblank : IsBlank [' '] := by simp [IsBlank, isSpace]
      exact ⟨_, isCut_skipSpaces hblank hs hcolon, readFields_key key before fuel after⟩

/-- Fields that break off are refused, if those behind the first value are. -/
theorem readFields_cut_of (hlayout : layout.IsPlain) {blank : List Char} (hblank : IsBlank blank)
    {depth : Nat} {key : String} {value : Json} {fields : List (String × Json)}
    (hplain : Plain value) (hvalue : CutRefused layout value)
    (hrest : ∀ {part}, Text.IsCut part (renderFields layout depth fields ++ (blank ++ ['\x7d'])) →
      ∀ before key value fuel, readAfterValue fuel before key value part = .error .malformed)
    {part : List Char} (h : Text.IsCut part (stringText key ++ (':' :: ' ' ::
      (renderAt layout depth value ++ (renderFields layout depth fields ++ (blank ++ ['\x7d']))))))
    (before : List (String × Json)) (fuel : Nat) :
    readFields fuel before part = .error .malformed := by
  cases fuel with
  | zero => rfl
  | succ fuel =>
    obtain hbad | ⟨after, hafter, hread⟩ := readFields_cut_key
      ((renderAt_solid layout hplain depth).append _) h before fuel
    · exact hbad
    · rw [hread]
      obtain hbad | ⟨w, later, hvalue, hlater⟩ := readValue_cut_append hlayout hplain hvalue
        (by simp) (endsNumber_renderFields hlayout hblank depth fields []) hafter fuel
      · rw [hbad]
        rfl
      · rw [hvalue]
        exact hrest hlater before key w fuel

theorem readAfterValue_cut (hlayout : layout.IsPlain) {blank : List Char} (hblank : IsBlank blank)
    {depth : Nat} {fields : List (String × Json)}
    (hfields : ∀ next ∈ fields, Plain next.2 ∧ CutRefused layout next.2) {part : List Char}
    (h : Text.IsCut part (renderFields layout depth fields ++ (blank ++ ['\x7d'])))
    (before : List (String × Json)) (key : String) (value : Json) (fuel : Nat) :
    readAfterValue fuel before key value part = .error .malformed := by
  induction fields generalizing before key value part fuel with
  | nil =>
    have hskip := (isCut_skipSpaces hblank ⟨'\x7d', [], rfl, by decide⟩ h).singleton
    simp only [readAfterValue, hskip]
  | cons next fields ih =>
    obtain ⟨nextKey, nextValue⟩ := next
    have hplain : Plain nextValue := (hfields (nextKey, nextValue) (by simp)).1
    have hvalue : CutRefused layout nextValue := (hfields (nextKey, nextValue) (by simp)).2
    obtain ⟨space, hbetween, hspace⟩ := hlayout.between depth
    have hsolid : StartsSolid (stringText nextKey) := ⟨'"', _, rfl, by decide⟩
    simp only [renderFields, hbetween, List.cons_append, List.append_assoc] at h
    obtain rfl | ⟨part, rfl, hpart⟩ := h.cons
    · rfl
    · have hcut := isCut_skipSpaces hspace (hsolid.append _) hpart
      simp only [readAfterValue]
      rw [skipSpaces_solid ⟨',', part, rfl, by decide⟩]
      exact readFields_cut_of hlayout hblank hplain hvalue
        (ih (fun later hlater => hfields later (by simp [hlater]))) hcut _ fuel

theorem readValue_nil (fuel : Nat) : readValue fuel [] = .error .malformed := by
  cases fuel <;> rfl

theorem readItems_nil (fuel : Nat) : readItems fuel [] = .error .malformed := by
  cases fuel with
  | zero => rfl
  | succ fuel => simp only [readItems, readValue_nil]; rfl

theorem readFields_nil (before : List (String × Json)) (fuel : Nat) :
    readFields fuel before [] = .error .malformed := by
  cases fuel <;> rfl

/-- An array that breaks off is refused. -/
theorem readValue_cut_arr (hlayout : layout.IsPlain) {items : List Json}
    (hitems : ∀ item ∈ items, Plain item ∧ CutRefused layout item) {depth : Nat} {part : List Char}
    (h : Text.IsCut part (renderAt layout depth (.arr items))) (fuel : Nat) :
    readValue fuel part = .error .malformed := by
  cases fuel with
  | zero => rfl
  | succ fuel =>
    cases items with
    | nil =>
      have htext : renderAt layout depth (.arr []) = ['[', ']'] := rfl
      rw [htext] at h
      obtain rfl | ⟨part, rfl, hcut⟩ := h.cons
      · exact readValue_nil _
      · rw [hcut.singleton]
        change Except.map _ (readItems fuel []) = _
        rw [readItems_nil]
        rfl
    | cons item items =>
      obtain ⟨hplain, hitem⟩ := hitems item (by simp)
      simp only [renderAt_arr_cons, List.cons_append, List.append_assoc] at h
      obtain rfl | ⟨part, rfl, hcut⟩ := h.cons
      · exact readValue_nil _
      · have hcut' := isCut_skipSpaces (hlayout.lineStart (depth + 1))
          ((renderAt_solid layout hplain (depth + 1)).append _) hcut
        have hread := readItems_cut hlayout (hlayout.lineStart depth) hplain hitem
          (fun next hnext => hitems next (by simp [hnext])) hcut' fuel
        obtain ⟨c, t, htext, -, hclose⟩ := renderAt_starts layout hplain (depth + 1)
        simp only [readValue]
        split
        · rename_i hskip
          rw [hskip, htext, List.cons_append] at hcut'
          obtain hnil | ⟨_, hcons, -⟩ := hcut'.cons
          · cases hnil
          · exact absurd (List.cons.inj hcons).1.symm hclose
        · rw [hread]
          rfl

/-- An object that breaks off is refused. -/
theorem readValue_cut_obj (hlayout : layout.IsPlain) {fields : List (String × Json)}
    (hfields : ∀ field ∈ fields, Plain field.2 ∧ CutRefused layout field.2) {depth : Nat}
    {part : List Char} (h : Text.IsCut part (renderAt layout depth (.obj fields))) (fuel : Nat) :
    readValue fuel part = .error .malformed := by
  cases fuel with
  | zero => rfl
  | succ fuel =>
    cases fields with
    | nil =>
      obtain rfl | ⟨part, rfl, hcut⟩ := h.cons
      · exact readValue_nil _
      · rw [hcut.singleton]
        change Except.map _ (readFields fuel [] []) = _
        rw [readFields_nil]
        rfl
    | cons field fields =>
      obtain ⟨key, value⟩ := field
      have hplain : Plain value := (hfields (key, value) (by simp)).1
      have hvalue : CutRefused layout value := (hfields (key, value) (by simp)).2
      have hsolid : StartsSolid (stringText key) := ⟨'"', _, rfl, by decide⟩
      simp only [renderAt_obj_cons, List.cons_append, List.append_assoc] at h
      obtain rfl | ⟨part, rfl, hcut⟩ := h.cons
      · exact readValue_nil _
      · have hcut' := isCut_skipSpaces (hlayout.lineStart (depth + 1)) (hsolid.append _) hcut
        have hread := readFields_cut_of hlayout (hlayout.lineStart depth) hplain hvalue
          (readAfterValue_cut hlayout (hlayout.lineStart depth)
            fun next hnext => hfields next (by simp [hnext])) hcut' [] fuel
        simp only [readValue]
        split
        · rename_i hskip
          rw [hskip] at hcut'
          obtain hnil | ⟨_, hcons, -⟩ := hcut'.cons
          · cases hnil
          · exact absurd (List.cons.inj hcons).1 (by decide)
        · rw [hread]
          rfl

/-- What begins with no quote or bracket is read as a word or a number wherever it breaks off. -/
theorem readValue_cut_scalar {c : Char} {rest part : List Char} (hquote : c ≠ '"')
    (hbracket : c ≠ '[') (hbrace : c ≠ '\x7b') (h : Text.IsCut part (c :: rest)) (fuel : Nat) :
    readValue fuel part = .error .malformed ∨ readValue fuel part = readScalar part := by
  cases fuel with
  | zero => exact .inl rfl
  | succ fuel =>
    obtain rfl | ⟨part, rfl, -⟩ := h.cons
    · exact .inl rfl
    · exact .inr (readValue_scalar hquote hbracket hbrace fuel part)

/-- A word that breaks off is none. -/
theorem readScalar_cut_word {word part : List Char}
    (hword : word ∈ [['n', 'u', 'l', 'l'], ['t', 'r', 'u', 'e'], ['f', 'a', 'l', 's', 'e']])
    (h : Text.IsCut part word) : readScalar part = .error .malformed := by
  have hlength := h.length_lt
  -- A word has few beginnings, so each is read.
  rw [List.prefix_iff_eq_take.1 h.1]
  generalize part.length = n at hlength
  simp only [List.mem_cons, List.not_mem_nil, or_false] at hword
  obtain rfl | rfl | rfl := hword
  · match n, hlength with
    | 0, _ | 1, _ | 2, _ | 3, _ => rfl
  · match n, hlength with
    | 0, _ | 1, _ | 2, _ | 3, _ => rfl
  · match n, hlength with
    | 0, _ | 1, _ | 2, _ | 3, _ | 4, _ => rfl

theorem cutRefused_word {v : Json} (word : List Char)
    (hword : word ∈ [['n', 'u', 'l', 'l'], ['t', 'r', 'u', 'e'], ['f', 'a', 'l', 's', 'e']])
    (htext : ∀ depth, renderAt layout depth v = word) : CutRefused layout v := by
  intro depth fuel part h
  rw [htext] at h
  have hbad := readScalar_cut_word hword h
  left
  simp only [List.mem_cons, List.not_mem_nil, or_false] at hword
  obtain rfl | rfl | rfl := hword <;>
    exact (readValue_cut_scalar (by decide) (by decide) (by decide) h fuel).elim id (·.trans hbad)

/-- A plain value that breaks off is refused, or it is a number. -/
theorem Plain.cutRefused (hlayout : layout.IsPlain) {v : Json} (hv : Plain v) :
    CutRefused layout v := by
  induction hv with
  | null => exact cutRefused_word ['n', 'u', 'l', 'l'] (by simp) fun _ => rfl
  | bool b =>
    cases b with
    | false => exact cutRefused_word ['f', 'a', 'l', 's', 'e'] (by simp) fun _ => rfl
    | true => exact cutRefused_word ['t', 'r', 'u', 'e'] (by simp) fun _ => rfl
  | @int n hshort =>
    intro depth fuel part h
    obtain ⟨c, t, htext, hc⟩ := intText_starts n
    have hcut : Text.IsCut part (c :: t) := htext ▸ h
    have hread : readValue fuel part = .error .malformed ∨
        readValue fuel part = readScalar part := by
      obtain rfl | hc := hc
      · exact readValue_cut_scalar (by decide) (by decide) (by decide) hcut fuel
      · apply readValue_cut_scalar _ _ _ hcut fuel <;> rintro rfl <;> exact absurd hc (by decide)
    obtain hbad | hread := hread
    · exact .inl hbad
    · rw [hread]
      obtain hbad | ⟨m, hnumber⟩ := readScalar_cut_intText hshort h
      · exact .inl hbad
      · exact .inr ⟨_, hnumber⟩
  | str s =>
    intro depth fuel part h
    left
    cases fuel with
    | zero => rfl
    | succ fuel =>
      obtain rfl | ⟨codes, rfl, hcodes⟩ := h.cons
      · exact readValue_nil _
      · simp only [readValue, readString_cut hcodes]
        rfl
  | arr hitems ih =>
    intro depth fuel part h
    exact .inl (readValue_cut_arr hlayout (fun item hitem => ⟨hitems item hitem, ih item hitem⟩)
      h fuel)
  | obj hkeys hfields ih =>
    intro depth fuel part h
    exact .inl (readValue_cut_obj hlayout
      (fun field hfield => ⟨hfields field hfield, ih field hfield⟩) h fuel)

/-- An object that breaks off is no JSON text. -/
theorem read_cut_obj (hlayout : layout.IsPlain) {fields : List (String × Json)}
    (hv : Plain (.obj fields)) {part : List Char}
    (h : Text.IsCut part (renderAt layout 0 (.obj fields))) : read part = .error .malformed := by
  have hblank : IsBlank [] := by simp [IsBlank]
  have hcut := isCut_skipSpaces hblank (renderAt_solid layout hv 0) h
  cases hv with
  | obj hkeys hfields =>
    unfold read
    rw [readValue_cut_obj hlayout (fun field hfield =>
      ⟨hfields field hfield, (hfields field hfield).cutRefused hlayout⟩) hcut]
    rfl

end

end Ripple.Json
