-- SUMMARY: The bytes of a text in UTF-8, whole, cut at a character, and cut inside of one.
import Ripple.Text.Utf8
import Mathlib.Data.List.Infix
import Mathlib.Tactic.SplitIfs

/-!
# Reading what was written in UTF-8

The bytes of a text are read back as that text. A beginning of these bytes is read as a beginning of
the text, unless it cuts a character; then it is no text at all.
-/

namespace Ripple.Utf8

/-- Bytes one after the other: the second part begins with what the first one leaves open. -/
theorem piecesFrom_append (p : Option Partial) (first second : Bytes) :
    piecesFrom p (first ++ second) =
      ((piecesFrom p first).1 ++ (piecesFrom (piecesFrom p first).2 second).1,
        (piecesFrom (piecesFrom p first).2 second).2) := by
  induction first generalizing p with
  | nil => simp [piecesFrom]
  | cons byte rest ih => simp [piecesFrom, ih, List.append_assoc]

/-- A byte in its range goes on with a character that is not yet at its end. -/
theorem step_continue {p : Partial} {b : Nat} (hlow : p.low ≤ b) (hhigh : b ≤ p.high)
    (hdue : p.due ≠ 1) :
    step (some p) b = ([], some ⟨p.due - 1, p.bits * 64 + (b - 0x80), 0x80, 0xBF⟩) := by
  simp [step, hlow, hhigh, hdue]

/-- The last byte of a character ends it. -/
theorem step_end {p : Partial} {b : Nat} (hlow : p.low ≤ b) (hhigh : b ≤ p.high)
    (hdue : p.due = 1) :
    step (some p) b = ([some (Char.ofNat (p.bits * 64 + (b - 0x80)))], none) := by
  simp [step, hlow, hhigh, hdue]

/-- The first byte of a character of two bytes. -/
theorem begin_two {b : Nat} (hlow : 0xC2 ≤ b) (hhigh : b < 0xE0) :
    begin b = ([], some ⟨1, b - 0xC0, 0x80, 0xBF⟩) := by
  unfold begin
  rw [if_neg (by omega), if_neg (by omega), if_pos hhigh]

/-- The first byte of a character of three bytes. What may follow keeps out the shorter characters
and the surrogates. -/
theorem begin_three {b : Nat} (hlow : 0xE0 ≤ b) (hhigh : b < 0xF0) :
    begin b = ([], some ⟨2, b - 0xE0, if b = 0xE0 then 0xA0 else 0x80,
      if b = 0xED then 0x9F else 0xBF⟩) := by
  unfold begin
  rw [if_neg (by omega), if_neg (by omega), if_neg (by omega)]
  by_cases hfirst : b = 0xE0
  · subst hfirst; rfl
  · by_cases hsurrogates : b = 0xED
    · subst hsurrogates; rfl
    · simp [hfirst, hsurrogates, hhigh]

/-- The first byte of a character of four bytes. -/
theorem begin_four {b : Nat} (hlow : 0xF0 ≤ b) (hhigh : b ≤ 0xF4) :
    begin b = ([], some ⟨3, b - 0xF0, if b = 0xF0 then 0x90 else 0x80,
      if b = 0xF4 then 0x8F else 0xBF⟩) := by
  unfold begin
  rw [if_neg (by omega), if_neg (by omega), if_neg (by omega)]
  by_cases hfirst : b = 0xF0
  · subst hfirst; rfl
  · by_cases hlast : b = 0xF4
    · subst hlast; rfl
    · have hmiddle : b < 0xF4 := by omega
      simp [hfirst, hmiddle, hlast, show b ≠ 0xE0 by omega, show b ≠ 0xED by omega,
        show ¬ b < 0xF0 by omega]

/-- Bytes that are read as one character, with nothing given before the last of them. -/
inductive Spells (c : Char) : Option Partial → Bytes → Prop where
  | last {p b} : step p b.toNat = ([some c], none) → Spells c p [b]
  | more {p q b rest} : step p b.toNat = ([], some q) → Spells c (some q) rest →
    Spells c p (b :: rest)

namespace Spells

variable {c : Char} {p : Option Partial} {bytes : Bytes}

theorem piecesFrom_eq (h : Spells c p bytes) : piecesFrom p bytes = ([some c], none) := by
  induction h with
  | last hstep => simp [piecesFrom, hstep]
  | more hstep _ ih => simp [piecesFrom, hstep, ih]

theorem piecesFrom_take (h : Spells c p bytes) {kept : Nat} (hpos : 0 < kept)
    (hlt : kept < bytes.length) : ∃ q, piecesFrom p (bytes.take kept) = ([], some q) := by
  induction h generalizing kept with
  | last _ =>
    simp only [List.length_singleton] at hlt
    omega
  | more hstep hrest ih =>
    rename_i p q b rest
    obtain ⟨kept, rfl⟩ := Nat.exists_eq_succ_of_ne_zero (by omega : kept ≠ 0)
    cases kept with
    | zero => exact ⟨q, by simp [piecesFrom, hstep]⟩
    | succ kept =>
      simp only [List.length_cons] at hlt
      obtain ⟨q', hq'⟩ := ih (Nat.succ_pos kept) (by omega)
      exact ⟨q', by simp [piecesFrom, hstep, hq']⟩

end Spells

/-- A byte that holds a small number. -/
theorem toNat_byte {n : Nat} (h : n < 256) : (UInt8.ofNat n).toNat = n := by
  simp [UInt8.toNat_ofNat', Nat.mod_eq_of_lt h]

/-- The last byte of the character with given bits. -/
theorem Spells.ofBits {p : Partial} {c : Char} (hdue : p.due = 1) (hlow : p.low ≤ c.toNat % 64 + 128)
    (hhigh : c.toNat % 64 + 128 ≤ p.high) (hbits : p.bits = c.toNat / 64) :
    Spells c (some p) [UInt8.ofNat (c.toNat % 64 + 128)] := by
  apply Spells.last
  rw [toNat_byte (by omega), step_end hlow hhigh hdue, hbits,
    show c.toNat / 64 * 64 + (c.toNat % 64 + 128 - 0x80) = c.toNat by omega, Char.ofNat_toNat]

/-- A byte in the middle of the character with given bits. -/
theorem Spells.continue {p : Partial} {c : Char} {b v : Nat} {rest : Bytes} (hb : b < 256)
    (hdue : p.due ≠ 1) (hlow : p.low ≤ b) (hhigh : b ≤ p.high)
    (hbits : p.bits * 64 + (b - 0x80) = v)
    (hrest : Spells c (some ⟨p.due - 1, v, 0x80, 0xBF⟩) rest) :
    Spells c (some p) (UInt8.ofNat b :: rest) := by
  apply Spells.more _ hrest
  rw [toNat_byte hb, step_continue hlow hhigh hdue, hbits]

/-- The bytes of a character are read as that character. -/
theorem spells_utf8EncodeChar (c : Char) : Spells c none (String.utf8EncodeChar c) := by
  have hvalid : c.toNat < 0xD800 ∨ 0xDFFF < c.toNat ∧ c.toNat < 0x110000 := c.valid
  unfold String.utf8EncodeChar
  simp only [show c.val.toNat = c.toNat from rfl]
  split_ifs with hone htwo hthree
  · apply Spells.last
    rw [toNat_byte (by omega)]
    simp [step, begin, show c.toNat < 128 by omega]
  · have hfirst := begin_two (b := c.toNat / 64 % 32 + 192) (by omega) (by omega)
    refine .more (by rw [toNat_byte (by omega)]; exact hfirst) ?_
    exact .ofBits rfl (by simp) (by simp only; omega) (by simp only; omega)
  · have hfirst := begin_three (b := c.toNat / 4096 % 16 + 224) (by omega) (by omega)
    refine .more (by rw [toNat_byte (by omega)]; exact hfirst) ?_
    refine .continue (v := c.toNat / 64) (by omega) (by simp) ?_ ?_ ?_ ?_
    · simp only; split_ifs <;> omega
    · simp only; split_ifs <;> omega
    · simp only; omega
    · exact .ofBits rfl (by simp) (by simp only; omega) rfl
  · have hfirst := begin_four (b := c.toNat / 262144 % 8 + 240) (by omega) (by omega)
    refine .more (by rw [toNat_byte (by omega)]; exact hfirst) ?_
    refine .continue (v := c.toNat / 4096) (by omega) (by simp) ?_ ?_ ?_ ?_
    · simp only; split_ifs <;> omega
    · simp only; split_ifs <;> omega
    · simp only; omega
    · refine .continue (v := c.toNat / 64) (by omega) (by simp) ?_ ?_ ?_ ?_
      · simp only; omega
      · simp only; omega
      · simp only; omega
      · exact .ofBits rfl (by simp) (by simp only; omega) rfl

/-- The bytes of a text in front of others are read as that text. -/
theorem piecesFrom_encode_append (text : List Char) (rest : Bytes) :
    piecesFrom none (encode text ++ rest) =
      (text.map some ++ (piecesFrom none rest).1, (piecesFrom none rest).2) := by
  induction text with
  | nil => rfl
  | cons c text ih =>
    have hc := (spells_utf8EncodeChar c).piecesFrom_eq
    unfold encode at ih ⊢
    rw [List.flatMap_cons, List.append_assoc, piecesFrom_append, hc, ih]
    rfl

/-- The first bytes of a text are read as its beginning, up to a character that they may cut. -/
theorem piecesFrom_take_encode (text : List Char) (kept : Nat) :
    ∃ front open?, piecesFrom none ((encode text).take kept) = (front.map some, open?) ∧
      front <+: text ∧ (open? = none → encode front = (encode text).take kept) := by
  induction text generalizing kept with
  | nil => exact ⟨[], none, by simp [encode, piecesFrom], List.prefix_rfl, by simp [encode]⟩
  | cons c text ih =>
    have hencode : encode (c :: text) = String.utf8EncodeChar c ++ encode text := rfl
    rw [hencode, List.take_append]
    by_cases hlt : kept < (String.utf8EncodeChar c).length
    · -- The cut is before this character or in it.
      rw [show kept - (String.utf8EncodeChar c).length = 0 by omega, List.take_zero,
        List.append_nil]
      obtain rfl | hpos := Nat.eq_zero_or_pos kept
      · exact ⟨[], none, by simp [piecesFrom], List.nil_prefix, by simp [encode]⟩
      · obtain ⟨q, hq⟩ := (spells_utf8EncodeChar c).piecesFrom_take hpos hlt
        exact ⟨[], some q, hq, List.nil_prefix, fun hnone => by cases hnone⟩
    · rw [List.take_of_length_le (Nat.le_of_not_lt hlt), piecesFrom_append,
        (spells_utf8EncodeChar c).piecesFrom_eq]
      obtain ⟨front, open?, hpieces, hfront, hbytes⟩ := ih (kept - (String.utf8EncodeChar c).length)
      refine ⟨c :: front, open?, by rw [hpieces]; rfl, List.cons_prefix_cons.2 ⟨rfl, hfront⟩, ?_⟩
      intro hnone
      rw [← hbytes hnone]
      rfl

theorem mapM_id_map_some (text : List Char) : (text.map some).mapM id = some text := by
  induction text with
  | nil => rfl
  | cons c text ih =>
    rw [List.map_cons, List.mapM_cons, ih]
    rfl

/-- Characters only are a text, unless the last one is cut. -/
theorem decode?_of_pieces {bytes : Bytes} {text : List Char} {open? : Option Partial}
    (h : piecesFrom none bytes = (text.map some, open?)) :
    decode? bytes = if open?.isNone then some text else none := by
  unfold decode? pieces
  rw [h]
  cases open? with
  | none => exact mapM_id_map_some text
  | some p =>
    simp only [List.mapM_append, mapM_id_map_some]
    rfl

/-- A character in front of bytes is the first character of their text. -/
theorem decode?_utf8EncodeChar_append (c : Char) (rest : Bytes) :
    decode? (String.utf8EncodeChar c ++ rest) = (decode? rest).map (c :: ·) := by
  have hc := (spells_utf8EncodeChar c).piecesFrom_eq
  unfold decode? pieces
  rw [piecesFrom_append, hc]
  obtain ⟨ps, q⟩ := piecesFrom none rest
  cases q with
  | none => cases hps : ps.mapM id <;> simp [hps]
  | some p => simp

/-- A character that is cut short is no text. -/
theorem decode?_take_utf8EncodeChar (c : Char) {kept : Nat} (hpos : 0 < kept)
    (hlt : kept < (String.utf8EncodeChar c).length) :
    decode? ((String.utf8EncodeChar c).take kept) = none := by
  obtain ⟨q, hq⟩ := (spells_utf8EncodeChar c).piecesFrom_take hpos hlt
  unfold decode? pieces
  rw [hq]
  rfl

theorem decode?_encode (text : List Char) : decode? (encode text) = some text := by
  induction text with
  | nil => rfl
  | cons c text ih =>
    simp only [encode, List.flatMap_cons] at ih ⊢
    rw [decode?_utf8EncodeChar_append, ih]
    rfl

/-- What is left of a text whose bytes are cut, if it can be read at all, is its beginning. -/
theorem decode?_take_encode {text found : List Char} {kept : Nat}
    (h : decode? ((encode text).take kept) = some found) :
    found <+: text ∧ encode found = (encode text).take kept := by
  induction text generalizing kept found with
  | nil =>
    simp only [encode, List.flatMap_nil, List.take_nil] at h ⊢
    obtain rfl : [] = found := by simpa [decode?, pieces, piecesFrom] using h
    simp
  | cons c text ih =>
    simp only [encode, List.flatMap_cons, List.take_append] at h ih ⊢
    by_cases hlt : kept < (String.utf8EncodeChar c).length
    · obtain rfl | hpos := Nat.eq_zero_or_pos kept
      · obtain rfl : [] = found := by simpa [decode?, pieces, piecesFrom] using h
        simp
      · rw [show kept - (String.utf8EncodeChar c).length = 0 by omega, List.take_zero,
          List.append_nil, decode?_take_utf8EncodeChar c hpos hlt] at h
        cases h
    · have hwhole := List.take_of_length_le (Nat.le_of_not_lt hlt)
      rw [hwhole, decode?_utf8EncodeChar_append] at h
      obtain ⟨later, hlater, rfl⟩ := Option.map_eq_some_iff.1 h
      obtain ⟨hbegins, heq⟩ := ih hlater
      refine ⟨List.cons_prefix_cons.2 ⟨rfl, hbegins⟩, ?_⟩
      rw [hwhole, List.flatMap_cons, heq]

/-- Different texts have different bytes. -/
theorem encode_injective : Function.Injective encode := by
  intro a b h
  exact Option.some.inj (by rw [← decode?_encode a, h, decode?_encode])

/-- A zero stands for the zero character only. -/
theorem toNat_eq_zero_of_mem {c : Char} (h : 0 ∈ String.utf8EncodeChar c) : c.toNat = 0 := by
  have hbyte {n : Nat} (hn : n < 256) (heq : (0 : UInt8) = UInt8.ofNat n) : n = 0 := by
    have hvalue := congrArg UInt8.toNat heq
    rw [toNat_byte hn] at hvalue
    exact hvalue.symm
  unfold String.utf8EncodeChar at h
  simp only [show c.val.toNat = c.toNat from rfl] at h
  split_ifs at h with hone htwo hthree
  · exact hbyte (by omega) (List.mem_singleton.1 h)
  -- The bytes of all other characters are at least 128.
  · simp only [List.mem_cons, List.not_mem_nil, or_false] at h
    rcases h with h | h <;> cases hbyte (by omega) h
  · simp only [List.mem_cons, List.not_mem_nil, or_false] at h
    rcases h with h | h | h <;> cases hbyte (by omega) h
  · simp only [List.mem_cons, List.not_mem_nil, or_false] at h
    rcases h with h | h | h | h <;> cases hbyte (by omega) h

theorem zero_notMem_encode {text : List Char} (h : ∀ c ∈ text, c.toNat ≠ 0) : 0 ∉ encode text := by
  intro hzero
  obtain ⟨c, hc, hmem⟩ := List.mem_flatMap.1 hzero
  exact h c hc (toNat_eq_zero_of_mem hmem)

end Ripple.Utf8
