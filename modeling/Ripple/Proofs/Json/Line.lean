-- SUMMARY: The text of a plain JSON value on one line holds no control character.
import Ripple.Proofs.Json.Cut

/-! # Values on one line

The text of a plain value on one line holds no control character, so it is one line of a file,
whatever its strings hold.
-/

namespace Ripple.Json

/-- A text without control characters. -/
def IsPrintable (s : List Char) : Prop :=
  ∀ c ∈ s, 32 ≤ c.toNat

theorem IsPrintable.append {s t : List Char} (hs : IsPrintable s) (ht : IsPrintable t) :
    IsPrintable (s ++ t) := by
  intro c hc
  obtain hc | hc := List.mem_append.1 hc
  · exact hs c hc
  · exact ht c hc

theorem IsPrintable.cons {c : Char} {s : List Char} (hc : 32 ≤ c.toNat) (hs : IsPrintable s) :
    IsPrintable (c :: s) := by
  intro a ha
  obtain rfl | ha := List.mem_cons.1 ha
  · exact hc
  · exact hs a ha

theorem IsPrintable.notMem {s : List Char} (h : IsPrintable s) {c : Char} (hc : c.toNat < 32) :
    c ∉ s := by
  intro hmem
  have := h c hmem
  omega

theorem isPrintable_nil : IsPrintable [] := by
  simp [IsPrintable]

theorem isPrintable_stringChar (c : Char) : IsPrintable (stringChar c) := by
  have hescaped : ∀ e : Char, 32 ≤ e.toNat → IsPrintable ['\\', e] :=
    fun e he => .cons (by decide) (.cons he isPrintable_nil)
  unfold stringChar
  split
  · exact hescaped '"' (by decide)
  · exact hescaped '\\' (by decide)
  · exact hescaped 'n' (by decide)
  · exact hescaped 'r' (by decide)
  · exact hescaped 't' (by decide)
  · exact hescaped 'b' (by decide)
  · exact hescaped 'f' (by decide)
  · split
    · rename_i hcontrol
      rw [(hexDigits_control c.toNat hcontrol).1]
      have hdigit : ∀ n < 16, 32 ≤ (Nat.digitChar n).toNat := by decide
      have hhigh := hdigit (c.toNat / 16) (by omega)
      have hlow := hdigit (c.toNat % 16) (by omega)
      simp [IsPrintable, hhigh, hlow]
    · rename_i hcontrol
      exact .cons (by omega) isPrintable_nil

theorem isPrintable_stringText (s : String) : IsPrintable (stringText s) := by
  refine .append (.cons (by decide) ?_) (.cons (by decide) isPrintable_nil)
  intro c hc
  obtain ⟨a, -, ha⟩ := List.mem_flatMap.1 hc
  exact isPrintable_stringChar a c ha

theorem isPrintable_intText (n : Int) : IsPrintable (intText n) := by
  have hdigits : ∀ n : Nat, IsPrintable (Nat.toDigits 10 n) := by
    intro n c hc
    have hdigit := (toDigits_spec n).2.1 c hc
    simp only [Char.isDigit, Bool.and_eq_true, decide_eq_true_eq] at hdigit
    have hlow : 48 ≤ c.toNat := hdigit.1
    omega
  cases n with
  | ofNat n => exact hdigits n
  | negSucc n => exact .cons (by decide) (hdigits _)

theorem isPrintable_between (depth : Nat) : IsPrintable (Layout.line.between depth) := by
  simp [Layout.line, IsPrintable]

theorem isPrintable_lineStart (depth : Nat) : IsPrintable (Layout.line.lineStart depth) :=
  isPrintable_nil

theorem isPrintable_renderItems {depth : Nat} {items : List Json}
    (h : ∀ item ∈ items, IsPrintable (renderAt .line depth item)) :
    IsPrintable (renderItems .line depth items) := by
  induction items with
  | nil => exact isPrintable_nil
  | cons item items ih =>
    rw [renderItems]
    exact .append (.append (isPrintable_between depth) (h item (by simp)))
      (ih fun other hother => h other (by simp [hother]))

theorem isPrintable_renderFields {depth : Nat} {fields : List (String × Json)}
    (h : ∀ field ∈ fields, IsPrintable (renderAt .line depth field.2)) :
    IsPrintable (renderFields .line depth fields) := by
  induction fields with
  | nil => exact isPrintable_nil
  | cons field fields ih =>
    obtain ⟨key, value⟩ := field
    rw [renderFields]
    refine .append (.append (.append (isPrintable_between depth) (isPrintable_stringText key)) ?_)
      (ih fun other hother => h other (by simp [hother]))
    exact .cons (by decide) (.cons (by decide) (h (key, value) (by simp)))

/-- The text of a plain value on one line. -/
theorem Plain.isPrintable {v : Json} (hv : Plain v) (depth : Nat) :
    IsPrintable (renderAt .line depth v) := by
  have hword : ∀ word : List Char, (word.all fun c => 32 ≤ c.toNat) = true → IsPrintable word :=
    fun word h c hc => of_decide_eq_true (List.all_eq_true.1 h c hc)
  induction hv generalizing depth with
  | null => exact hword "null".toList (by decide)
  | bool b => cases b with
    | true => exact hword "true".toList (by decide)
    | false => exact hword "false".toList (by decide)
  | int hshort => exact isPrintable_intText _
  | str s => exact isPrintable_stringText s
  | @arr items hitems ih =>
    cases items with
    | nil => exact hword "[]".toList (by decide)
    | cons item items =>
      have hrest := isPrintable_renderItems fun other hother =>
        ih other (List.mem_cons_of_mem item hother) (depth + 1)
      rw [renderAt_arr_cons]
      refine .append (.append (.append (.append ?_ (ih item (by simp) _)) hrest) ?_) ?_
      · exact .cons (by decide) (isPrintable_lineStart _)
      · exact isPrintable_lineStart depth
      · exact .cons (by decide) isPrintable_nil
  | @obj fields hkeys hfields ih =>
    cases fields with
    | nil => exact hword ['\x7b', '\x7d'] (by decide)
    | cons field fields =>
      obtain ⟨key, value⟩ := field
      have hrest := isPrintable_renderFields fun other hother =>
        ih other (List.mem_cons_of_mem (key, value) hother) (depth + 1)
      rw [renderAt_obj_cons]
      refine .append (.append (.append (.append (.append ?_ (isPrintable_stringText key)) ?_)
        hrest) ?_) ?_
      · exact .cons (by decide) (isPrintable_lineStart _)
      · exact .cons (by decide) (.cons (by decide) (ih (key, value) (by simp) _))
      · exact isPrintable_lineStart depth
      · exact .cons (by decide) isPrintable_nil

/-- The text of an object stands between braces. -/
theorem renderAt_obj_braces (layout : Layout) (depth : Nat) (fields : List (String × Json)) :
    ∃ inner, renderAt layout depth (.obj fields) = '\x7b' :: inner ++ ['\x7d'] := by
  cases fields with
  | nil => exact ⟨[], rfl⟩
  | cons field fields =>
    obtain ⟨key, value⟩ := field
    rw [renderAt_obj_cons]
    exact ⟨_, rfl⟩

/-- Plain values hold no integer that is too long to be written. -/
theorem Plain.isWritable {v : Json} (hv : Plain v) : v.isWritable = true := by
  induction hv with
  | null => rfl
  | bool b => rfl
  | @int n hshort =>
    unfold IsShort at hshort
    simp [Json.isWritable, hshort]
  | str s => rfl
  | @arr items hitems ih =>
    rw [Json.isWritable]
    clear hitems
    induction items with
    | nil => rfl
    | cons item items ihitems =>
      rw [areWritable, ih item (by simp), ihitems fun other hother => ih other (by simp [hother])]
      rfl
  | @obj fields hkeys hfields ih =>
    rw [Json.isWritable]
    clear hkeys hfields
    induction fields with
    | nil => rfl
    | cons field fields ihfields =>
      rw [areFieldsWritable, ih field (by simp),
        ihfields fun other hother => ih other (by simp [hother])]
      rfl

end Ripple.Json
