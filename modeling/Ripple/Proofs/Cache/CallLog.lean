-- SUMMARY: Lines of a log, written and read: whole logs, logs that break off, and logs that are no text.
import Ripple.Cache.CallLog
import Ripple.Proofs.Json.Line
import Ripple.Proofs.Text.Lines
import Ripple.Proofs.Text.Utf8
import Ripple.Proofs.Workspace

/-!
# The log of call sites

A log holds one record a line. What is read from it are the records that were written, and of a log
that breaks off those whose text is there as a whole, as long as no character is cut.
-/

namespace Ripple

/-- A value that makes a line of the log: an object of plain values. -/
def Json.IsRecord (value : Json) : Prop :=
  value.Plain ∧ ∃ fields, value = .obj fields

namespace CallLog

open Utf8 (decode? encode piecesFrom)

/-- The line of a record. -/
def lineOf (record : Json) : List Char :=
  Json.renderAt .line 0 record

/-- The bytes of a log with given records. -/
def bytesOf (records : List Json) : Bytes :=
  linesBytes (records.map (Json.render .line))

/-- The records whose whole text lies within the first bytes of their log. -/
def wholeIn (kept : Nat) : List Json → List Json
  | [] => []
  | record :: rest =>
    let size := (encode (lineOf record)).length
    if size ≤ kept then record :: wholeIn (kept - (size + 1)) rest else []

theorem bytesOf_cons (record : Json) (rest : List Json) :
    bytesOf (record :: rest) = encode (lineOf record ++ ['\n']) ++ bytesOf rest := by
  simp [bytesOf, linesBytes, Json.render, lineOf]

theorem length_encode_line (record : Json) :
    (encode (lineOf record ++ ['\n'])).length = (encode (lineOf record)).length + 1 := by
  simp [encode, String.utf8EncodeChar]

/-- A log is a text. -/
theorem bytesOf_eq_encode (records : List Json) :
    bytesOf records = encode (records.flatMap fun record => lineOf record ++ ['\n']) := by
  induction records with
  | nil => rfl
  | cons record rest ih =>
    rw [bytesOf_cons, ih]
    simp [encode]

theorem bytesOf_append (first second : List Json) :
    bytesOf (first ++ second) = bytesOf first ++ bytesOf second := by
  simp [bytesOf, linesBytes]

/-! ## Lines -/

section
variable {record : Json}

theorem lineOf_braces (h : record.IsRecord) :
    ∃ inner, lineOf record = '\x7b' :: inner ++ ['\x7d'] := by
  obtain ⟨-, fields, rfl⟩ := h
  exact Json.renderAt_obj_braces .line 0 fields

theorem trim_lineOf (h : record.IsRecord) : Text.trim (lineOf record) = lineOf record := by
  obtain ⟨inner, hline⟩ := lineOf_braces h
  rw [hline, List.cons_append, Text.trim_cons (by decide), ← List.cons_append]
  exact Text.dropEndWhile_concat (by decide) _

theorem readLine_of_read_ok {line : List Char} (hne : Text.trim line ≠ [])
    (h : Json.read (Text.trim line) = .ok record) : readLine line = .ok (.record record) := by
  unfold readLine
  split
  · contradiction
  · rw [h]

theorem readLine_of_malformed {line : List Char} (hne : Text.trim line ≠ [])
    (h : Json.read (Text.trim line) = .error .malformed) : readLine line = .ok .torn := by
  unfold readLine
  split
  · contradiction
  · rw [h]

/-- The line of a record is read as that record. -/
theorem readLine_lineOf (h : record.IsRecord) :
    readLine (lineOf record) = .ok (.record record) := by
  have hread : Json.read (lineOf record) = .ok record :=
    Json.read_render Json.Layout.line_isPlain h.1
  refine readLine_of_read_ok ?_ (by rw [trim_lineOf h, hread])
  obtain ⟨inner, hline⟩ := lineOf_braces h
  rw [trim_lineOf h, hline]
  exact List.cons_ne_nil _ _

/-- A line that breaks off is blank or torn, whatever blanks stand at its end. -/
theorem readLine_cut (h : record.IsRecord) {part : List Char}
    (hcut : Text.IsCut part (lineOf record)) :
    readLine part = .ok .blank ∨ readLine part = .ok .torn := by
  obtain ⟨inner, hline⟩ := lineOf_braces h
  rw [hline] at hcut
  obtain rfl | ⟨rest, rfl, -⟩ := hcut.cons
  · exact .inl rfl
  · right
    have htrim : Text.trim ('\x7b' :: rest) = Text.dropEndWhile Text.isBlank ('\x7b' :: rest) :=
      Text.trim_cons (by decide) rest
    -- Without the blanks at its end it is an even shorter beginning.
    have hshorter : Text.IsCut (Text.trim ('\x7b' :: rest)) (lineOf record) := by
      rw [htrim, hline]
      have hbegins : Text.dropEndWhile Text.isBlank ('\x7b' :: rest) <+: '\x7b' :: rest :=
        Text.dropEndWhile_prefix _
      refine ⟨hbegins.trans hcut.1, fun heq => ?_⟩
      have hlength := hbegins.length_le
      rw [heq] at hlength
      have hlt := hcut.length_lt
      simp only [List.length_append, List.length_cons] at hlength hlt
      omega
    obtain ⟨hplain, fields, rfl⟩ := h
    refine readLine_of_malformed ?_ (Json.read_cut_obj Json.Layout.line_isPlain hplain hshorter)
    rw [htrim]
    exact Text.dropEndWhile_cons_ne_nil (by decide) rest

theorem notMem_lineOf (h : record.IsRecord) {c : Char} (hc : c.toNat < 32) : c ∉ lineOf record :=
  (h.1.isPrintable 0).notMem hc

end

/-! ## Blocks -/

/-- Reading block by block gives the text of all bytes. -/
theorem textBefore_of_pieces {fuel : Nat} {bytes : Bytes} {before open? : Option Utf8.Partial}
    {text : List Char} (hfuel : bytes.length < fuel)
    (h : piecesFrom before bytes = (text.map some, open?)) :
    textBefore fuel before bytes = (text, open?.isNone) := by
  induction fuel generalizing before bytes text with
  | zero => omega
  | succ fuel ih =>
    rw [textBefore]
    split
    · rename_i hempty
      obtain rfl : bytes = [] := by simpa using hempty
      simp only [piecesFrom, Prod.mk.injEq] at h
      obtain ⟨htext, rfl⟩ := h
      obtain rfl : text = [] := by simpa using htext.symm
      rfl
    · rename_i hempty
      have hne : bytes ≠ [] := by simpa using hempty
      rw [← List.take_append_drop blockSize bytes, Utf8.piecesFrom_append] at h
      obtain ⟨hpieces, hopen⟩ := Prod.mk.inj h
      -- The text is that of the block and that of the other blocks.
      obtain ⟨now, later, rfl, hnow, hlater⟩ := List.map_eq_append_iff.1 hpieces.symm
      have hshorter : (bytes.drop blockSize).length < fuel := by
        have hpos : 0 < bytes.length := List.length_pos_iff.2 hne
        simp only [List.length_drop, blockSize]
        omega
      have hrest := ih hshorter (Prod.ext hlater.symm hopen)
      simp only [← hnow, Utf8.mapM_id_map_some, hrest]

/-- The lines of a log without carriage returns. If its last character is cut, the last line is
not handed on. -/
theorem readableLines_of_pieces {bytes : Bytes} {text : List Char} {open? : Option Utf8.Partial}
    (h : piecesFrom none bytes = (text.map some, open?)) (hreturn : '\r' ∉ text) :
    readableLines bytes =
      if open?.isNone then (Text.splitWhen (· == '\n') text, true)
      else ((Text.splitWhen (· == '\n') text).dropLast, false) := by
  have hlast : text.getLast? ≠ some '\r' := fun hlast => hreturn (List.mem_of_getLast? hlast)
  unfold readableLines
  rw [textBefore_of_pieces (Nat.lt_succ_self _) h]
  simp only [beq_iff_eq, hlast, if_false, Text.plainLineEnds_eq_self hreturn]

/-! ## Reading -/

/-- The record of a line, if it holds one. -/
def Line.record? : Line → Option Json
  | .record value => some value
  | _ => none

theorem wholeIn_zero {records : List Json} (hrecords : ∀ record ∈ records, record.IsRecord) :
    wholeIn 0 records = [] := by
  cases records with
  | nil => rfl
  | cons record rest =>
    obtain ⟨inner, hline⟩ := lineOf_braces (hrecords record (by simp))
    have hpos : ¬ (encode (lineOf record)).length ≤ 0 := by
      rw [hline]
      simp [encode, String.utf8EncodeChar]
    rw [wholeIn, if_neg hpos]

/-- What the cut of a log inside the first line leaves of it. -/
theorem readLine_take {record : Json} (h : record.IsRecord) {kept : Nat} {front : List Char}
    (hfront : front <+: lineOf record)
    (hbytes : encode front = (encode (lineOf record)).take kept) :
    ∃ line, readLine front = .ok line ∧
      [line].filterMap Line.record? =
        if (encode (lineOf record)).length ≤ kept then [record] else [] := by
  by_cases hwhole : front = lineOf record
  · subst hwhole
    have hlength := congrArg List.length hbytes
    rw [List.length_take] at hlength
    exact ⟨_, readLine_lineOf h, by rw [if_pos (by omega)]; rfl⟩
  · -- A beginning of all bytes would be the whole line.
    have hlt : ¬ (encode (lineOf record)).length ≤ kept := by
      intro hle
      rw [List.take_of_length_le hle] at hbytes
      exact hwhole (Utf8.encode_injective hbytes)
    rw [if_neg hlt]
    obtain hblank | htorn := readLine_cut h ⟨hfront, hwhole⟩
    · exact ⟨_, hblank, rfl⟩
    · exact ⟨_, htorn, rfl⟩

theorem beq_feed_of_mem_lineOf {record : Json} (h : record.IsRecord) :
    ∀ c ∈ lineOf record, (c == '\n') = false := by
  intro c hc
  have hne : c ≠ '\n' := by
    rintro rfl
    exact notMem_lineOf h (by decide) hc
  simpa using hne

/-- A cut behind the first line leaves it whole. -/
theorem take_bytesOf_of_lt {record : Json} {rest : List Json} {kept : Nat}
    (h : (encode (lineOf record)).length < kept) :
    (bytesOf (record :: rest)).take kept = encode (lineOf record ++ ['\n']) ++
      (bytesOf rest).take (kept - ((encode (lineOf record)).length + 1)) := by
  have hsize := length_encode_line record
  rw [bytesOf_cons, List.take_append, hsize, List.take_of_length_le (by omega)]

/-- A cut in the first line, or between it and its end, leaves nothing of the others. -/
theorem take_bytesOf_of_le {record : Json} {rest : List Json} {kept : Nat}
    (h : kept ≤ (encode (lineOf record)).length) :
    (bytesOf (record :: rest)).take kept = (encode (lineOf record)).take kept := by
  have hsplit : encode (lineOf record ++ ['\n']) = encode (lineOf record) ++ encode ['\n'] := by
    simp [encode]
  rw [bytesOf_cons, hsplit, List.append_assoc, List.take_append_of_le_length h]

/-- The first bytes of a log hold whole lines and a last one, and their records are those whose
whole text is there. The last line counts if no character of it is cut. -/
theorem pieces_take_bytesOf {records : List Json} (hrecords : ∀ record ∈ records, record.IsRecord)
    (kept : Nat) :
    ∃ text open? lines last found, piecesFrom none ((bytesOf records).take kept) =
        (text.map some, open?) ∧ '\r' ∉ text ∧
      Text.splitWhen (· == '\n') text = lines ++ [last] ∧ lines.mapM readLine = .ok found ∧
      (open? = none → ∃ line, readLine last = .ok line ∧
        (found ++ [line]).filterMap Line.record? = wholeIn kept records) := by
  induction records generalizing kept with
  | nil =>
    refine ⟨[], none, [], [], [], ?_, List.not_mem_nil, rfl, rfl, fun _ => ⟨.blank, rfl, rfl⟩⟩
    simp [bytesOf, linesBytes, piecesFrom]
  | cons record rest ih =>
    have hrecord := hrecords record (by simp)
    have hrest : ∀ other ∈ rest, other.IsRecord :=
      fun other hother => hrecords other (by simp [hother])
    have hfeed := beq_feed_of_mem_lineOf hrecord
    have hreturn := notMem_lineOf hrecord (c := '\r') (by decide)
    by_cases hkept : (encode (lineOf record)).length < kept
    · obtain ⟨text, open?, lines, last, found, hpieces, hreturns, hsplit, hfound, hlast⟩ :=
        ih hrest (kept - ((encode (lineOf record)).length + 1))
      refine ⟨lineOf record ++ '\n' :: text, open?, lineOf record :: lines, last,
        .record record :: found, ?_, ?_, ?_, ?_, ?_⟩
      · rw [take_bytesOf_of_lt hkept, Utf8.piecesFrom_encode_append, hpieces]
        simp
      · simp [hreturn, hreturns]
      · rw [Text.splitWhen_append_cons hfeed (by decide), hsplit]
        rfl
      · exact mapM_cons_eq_ok.2 ⟨_, _, readLine_lineOf hrecord, hfound, rfl⟩
      · intro hnone
        obtain ⟨line, hline, hwhole⟩ := hlast hnone
        refine ⟨line, hline, ?_⟩
        rw [wholeIn, if_pos (by omega), ← hwhole]
        rfl
    · obtain ⟨front, open?, hpieces, hfront, hbytes⟩ :=
        Utf8.piecesFrom_take_encode (lineOf record) kept
      refine ⟨front, open?, [], front, [], ?_, fun hmem => hreturn (hfront.subset hmem),
        Text.splitWhen_eq_singleton fun c hc => hfeed c (hfront.subset hc), rfl, ?_⟩
      · rw [take_bytesOf_of_le (by omega), hpieces]
      · intro hnone
        obtain ⟨line, hline, hwhole⟩ := readLine_take hrecord hfront (hbytes hnone)
        refine ⟨line, hline, ?_⟩
        rw [List.nil_append, hwhole, wholeIn,
          show kept - ((encode (lineOf record)).length + 1) = 0 by omega, wholeIn_zero hrest]

section
variable {σ : Type} {consume : σ → Json → Except Fault σ}

/-- Lines that can all be read hand their records on. The files stay as they are. -/
theorem replayLines_spec (log : CallLog) {lines : List (List Char)} {found : List Line}
    (hlines : lines.mapM readLine = .ok found) {state final : σ}
    (hfinal : (found.filterMap Line.record?).foldlM consume state = .ok final) (number : Nat)
    (w : Workspace) :
    ∃ w', (replayLines log consume state number lines).outcome w = (.ok final, w') ∧
      w'.files = w.files := by
  induction lines generalizing found state number w with
  | nil =>
    cases hlines
    cases hfinal
    exact ⟨w, rfl, rfl⟩
  | cons line lines ih =>
    obtain ⟨held, later, hheld, hlater, rfl⟩ := mapM_cons_eq_ok.1 hlines
    rw [replayLines, hheld, Work.outcome_bind_ok (Work.outcome_ofExcept_ok held w)]
    cases held with
    | blank => exact ih hlater hfinal (number + 1) w
    | torn =>
      dsimp only
      rw [Work.outcome_bind_ok (Work.outcome_log ..)]
      exact ih hlater hfinal (number + 1) _
    | record value =>
      rw [List.filterMap_cons_some (by rfl), List.foldlM_cons] at hfinal
      obtain ⟨next, hnext, hfinal⟩ := bind_eq_ok.1 hfinal
      dsimp only
      rw [hnext, Work.outcome_bind_ok (Work.outcome_ofExcept_ok next w)]
      exact ih hlater hfinal (number + 1) w

/-- A log that can be read to its end hands the records of its lines on; another one is refused
after them. -/
theorem replay_spec {log : CallLog} {w : Workspace} {bytes : Bytes}
    (hread : w.files.read log.path = .ok bytes) {lines : List (List Char)} {whole : Bool}
    (hreadable : readableLines bytes = (lines, whole)) {found : List Line}
    (hlines : lines.mapM readLine = .ok found) {state final : σ}
    (hfinal : (found.filterMap Line.record?).foldlM consume state = .ok final) :
    ((log.replay consume state).outcome w).1 =
      if whole then .ok final else .error .undecodable := by
  obtain ⟨w', hreplay, -⟩ := replayLines_spec log hlines hfinal 1 w
  have hexists : (Work.ofFiles (w.files.existsAt log.path)).outcome w = (.ok true, w) := by
    rw [Disk.existsAt_of_read hread]
    rfl
  unfold replay
  rw [Work.outcome_bind_ok (Work.outcome_files w), Work.outcome_bind_ok hexists]
  simp only [Bool.not_true, Bool.false_eq_true, if_false, hread, hreadable]
  rw [Work.outcome_bind_ok hreplay]
  cases whole <;> rfl

end

/-- Handing records on one by one collects them. -/
theorem foldlM_concat (before records : List Json) :
    records.foldlM (fun found record => (.ok (found ++ [record]) : Except Fault (List Json))) before =
      .ok (before ++ records) := by
  induction records generalizing before with
  | nil => simp [pure, Except.pure]
  | cons record records ih =>
    rw [List.foldlM_cons]
    simp [bind, Except.bind, ih]

/-- A log of which only the first bytes are left. If they are a text, the records whose whole text
is there are handed on. -/
theorem replay_take {σ : Type} {consume : σ → Json → Except Fault σ} {log : CallLog}
    {records : List Json} (hrecords : ∀ record ∈ records, record.IsRecord) {kept : Nat}
    {w : Workspace} (hread : w.files.read log.path = .ok ((bytesOf records).take kept))
    (htext : (decode? ((bytesOf records).take kept)).isSome) {state final : σ}
    (hfinal : (wholeIn kept records).foldlM consume state = .ok final) :
    ((log.replay consume state).outcome w).1 = .ok final := by
  obtain ⟨text, open?, lines, last, found, hpieces, hreturn, hsplit, hfound, hlast⟩ :=
    pieces_take_bytesOf hrecords kept
  have hreadable := readableLines_of_pieces hpieces hreturn
  rw [Utf8.decode?_of_pieces hpieces] at htext
  cases open? with
  | some p => cases htext
  | none =>
    obtain ⟨line, hline, hwhole⟩ := hlast rfl
    have hlines : (lines ++ [last]).mapM readLine = .ok (found ++ [line]) := by
      rw [List.mapM_append, hfound]
      simp [bind, Except.bind, hline, pure, Except.pure]
    rw [Option.isNone_none, if_pos rfl, hsplit] at hreadable
    rw [replay_spec hread hreadable hlines (by rw [hwhole]; exact hfinal), if_pos rfl]

theorem wholeIn_of_length_le {records : List Json} {kept : Nat}
    (h : (bytesOf records).length ≤ kept) : wholeIn kept records = records := by
  induction records generalizing kept with
  | nil => rfl
  | cons record rest ih =>
    rw [bytesOf_cons, List.length_append, length_encode_line] at h
    rw [wholeIn, if_pos (by omega), ih (by omega)]

/-- A log that is whole hands all its records on. -/
theorem replay_whole {σ : Type} {consume : σ → Json → Except Fault σ} {log : CallLog}
    {records : List Json} (hrecords : ∀ record ∈ records, record.IsRecord) {w : Workspace}
    (hread : w.files.read log.path = .ok (bytesOf records)) {state final : σ}
    (hfinal : records.foldlM consume state = .ok final) :
    ((log.replay consume state).outcome w).1 = .ok final := by
  have htake : w.files.read log.path = .ok ((bytesOf records).take (bytesOf records).length) := by
    rw [List.take_length, hread]
  refine replay_take hrecords htake ?_ ?_
  · rw [List.take_length, bytesOf_eq_encode, Utf8.decode?_encode]
    rfl
  · rw [wholeIn_of_length_le (Nat.le_refl _)]
    exact hfinal

/-- If the cut is inside a character, nothing is given back. -/
theorem records_take_eq_error {log : CallLog} {records : List Json}
    (hrecords : ∀ record ∈ records, record.IsRecord) {kept : Nat} {w : Workspace}
    (hread : w.files.read log.path = .ok ((bytesOf records).take kept))
    (htext : decode? ((bytesOf records).take kept) = none) :
    (log.records.outcome w).1 = .error .undecodable := by
  obtain ⟨text, open?, lines, last, found, hpieces, hreturn, hsplit, hfound, -⟩ :=
    pieces_take_bytesOf hrecords kept
  have hreadable := readableLines_of_pieces hpieces hreturn
  rw [Utf8.decode?_of_pieces hpieces] at htext
  cases open? with
  | none => cases htext
  | some p =>
    rw [hsplit, List.dropLast_concat] at hreadable
    exact replay_spec hread hreadable hfound (foldlM_concat [] _)

end CallLog

end Ripple
