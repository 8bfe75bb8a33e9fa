-- SUMMARY: A log that is written in batches, step by step, and what can be read of it after a crash.
import Ripple.Proofs.Cache.CallLog

/-!
# Writing in batches

A log that was begun holds the first of the records that were appended to it; the others, fewer than
a batch, are collected. What is left of such a log after a crash is the beginning of its bytes.
-/

namespace Ripple.CallLog

/-- What is done with a log that was begun. -/
inductive Step where
  | append (record : Json)
  | flush

namespace Step

def apply (log : CallLog) : Step → Work CallLog
  | .append record => log.append record
  | .flush => log.flush

def record? : Step → Option Json
  | .append record => some record
  | .flush => none

end Step

/-- The records that steps append. -/
def appended (steps : List Step) : List Json :=
  steps.filterMap Step.record?

/-- Takes one step after the other. -/
def run (log : CallLog) (steps : List Step) : Work CallLog :=
  steps.foldlM Step.apply log

/-- A workspace in which the file of a log can be begun. -/
def CanBegin (log : CallLog) (w : Workspace) : Prop :=
  ((Work.writeFile log.path []).outcome w).1 = .ok (.ok ())

/-- A log after records were appended to it since it was begun: as many as it has counted are in its
file, and the lines of the others are collected. -/
structure Follows (begun : CallLog) (records : List Json) (log : CallLog) (w : Workspace) : Prop where
  path : log.path = begun.path
  batchSize : log.batchSize = begun.batchSize
  file : w.files.Holds begun.path (bytesOf (records.take log.written))
  buffer : log.buffer = (records.drop log.written).map (Json.render .line)
  written : log.written ≤ records.length

/-- The batch of a log is not full. -/
def HasRoom (log : CallLog) : Prop :=
  (log.buffer.length : Int) < max log.batchSize 1

section
variable {begun log : CallLog} {records : List Json} {w : Workspace}

theorem Follows.written_add_length (h : Follows begun records log w) :
    log.written + log.buffer.length = records.length := by
  have hwritten := h.written
  rw [h.buffer, List.length_map, List.length_drop]
  omega

/-- Where all records are written, none is collected. -/
theorem Follows.hasRoom (h : Follows begun records log w) (hall : log.written = records.length) :
    log.HasRoom := by
  have hcount := h.written_add_length
  unfold HasRoom
  omega

/-- A log that is begun has counted nothing. -/
theorem reset_spec (h : log.CanBegin w) :
    ∃ begun w', log.reset.outcome w = (.ok begun, w') ∧ Follows log [] begun w' ∧ begun.HasRoom := by
  obtain ⟨w', hwrite, hholds⟩ := Work.outcome_writeFile_ok h
  have hfollows : Follows log [] { log with buffer := [], written := 0 } w' :=
    ⟨rfl, rfl, hholds, rfl, Nat.le_refl 0⟩
  refine ⟨_, w', ?_, hfollows, hfollows.hasRoom rfl⟩
  unfold reset
  rw [Work.outcome_bind_ok hwrite]
  rfl

/-- After a flush all records are in the file. -/
theorem flush_spec (h : Follows begun records log w) :
    ∃ log' w', log.flush.outcome w = (.ok log', w') ∧ Follows begun records log' w' ∧
      log'.written = records.length := by
  have hcount := h.written_add_length
  unfold flush
  split
  · rename_i hempty
    obtain hnil : log.buffer = [] := by simpa using hempty
    rw [hnil, List.length_nil] at hcount
    exact ⟨log, w, rfl, h, hcount⟩
  · obtain ⟨files, happend, hholds⟩ := h.file.append (linesBytes log.buffer)
    -- The bytes of the written records, and behind them those of the others.
    have hbytes : bytesOf (records.take log.written) ++ linesBytes log.buffer = bytesOf records := by
      rw [h.buffer]
      exact (bytesOf_append ..).symm.trans (by rw [List.take_append_drop])
    rw [← h.path] at happend
    have hchange : (Work.tryChange (·.append log.path (linesBytes log.buffer))).outcome w =
        (.ok (.ok ()), { w with files }) := by
      rw [Work.outcome_tryChange, happend]
    rw [Work.outcome_bind_ok hchange]
    refine ⟨_, _, rfl, ⟨h.path, h.batchSize, ?_, ?_, Nat.le_of_eq hcount⟩, hcount⟩
    · dsimp only
      rw [hcount, List.take_length, ← hbytes]
      exact hholds
    · dsimp only
      rw [hcount, List.drop_length]
      rfl

/-- A record that is appended comes last, and a full batch is written. -/
theorem append_spec (h : Follows begun records log w) {record : Json}
    (hrecord : record.isWritable = true) :
    ∃ log' w', (log.append record).outcome w = (.ok log', w') ∧
      Follows begun (records ++ [record]) log' w' ∧ log'.HasRoom := by
  have hwritten := h.written
  -- Nothing is written yet, so the file and the count stay as they are.
  have hnext : Follows begun (records ++ [record])
      { log with buffer := log.buffer ++ [Json.render .line record] } w := by
    refine ⟨h.path, h.batchSize, ?_, ?_, by simp only [List.length_append]; omega⟩
    · rw [List.take_append_of_le_length hwritten]
      exact h.file
    · rw [List.drop_append_of_le_length hwritten, List.map_append, h.buffer]
      rfl
  unfold append
  rw [if_pos hrecord]
  dsimp only
  split
  · obtain ⟨log', w', hflush, hfollows, hall⟩ := flush_spec hnext
    exact ⟨log', w', hflush, hfollows, hfollows.hasRoom hall⟩
  · rename_i hfull
    refine ⟨_, w, rfl, hnext, ?_⟩
    unfold HasRoom
    dsimp only
    omega

theorem Step.apply_spec (h : Follows begun records log w) {step : Step}
    (hstep : ∀ record, step.record? = some record → record.isWritable = true) :
    ∃ log' w', (step.apply log).outcome w = (.ok log', w') ∧
      Follows begun (records ++ step.record?.toList) log' w' ∧ log'.HasRoom := by
  cases step with
  | append record => exact append_spec h (hstep record rfl)
  | flush =>
    obtain ⟨log', w', hflush, hfollows, hall⟩ := flush_spec h
    refine ⟨log', w', hflush, ?_, hfollows.hasRoom hall⟩
    rw [Step.record?, Option.toList_none, List.append_nil]
    exact hfollows

/-- Where records can be appended, steps lead from log to log. -/
theorem run_spec (h : Follows begun records log w) (hroom : log.HasRoom) {steps : List Step}
    (hsteps : ∀ record ∈ appended steps, record.isWritable = true) :
    ∃ log' w', (log.run steps).outcome w = (.ok log', w') ∧
      Follows begun (records ++ appended steps) log' w' ∧ log'.HasRoom := by
  unfold run
  induction steps generalizing log records w with
  | nil => exact ⟨log, w, rfl, by simpa [appended] using h, hroom⟩
  | cons step steps ih =>
    have happended : appended (step :: steps) = step.record?.toList ++ appended steps := by
      cases step <;> rfl
    rw [happended] at hsteps ⊢
    have hfirst : ∀ record, step.record? = some record → record.isWritable = true :=
      fun record hrecord => hsteps record (by simp [hrecord])
    obtain ⟨next, w₁, hstep, hnext, hroom⟩ := Step.apply_spec h hfirst
    rw [List.foldlM_cons, Work.outcome_bind_ok hstep, ← List.append_assoc]
    exact ih hnext hroom fun record hrecord => hsteps record (by simp [hrecord])

end

/-- A log is begun, and steps are taken. -/
theorem reset_run_spec {log : CallLog} {w : Workspace} (hbegin : log.CanBegin w) {steps : List Step}
    (hsteps : ∀ record ∈ appended steps, record.isWritable = true) :
    ∃ log' w', (log.reset >>= (·.run steps)).outcome w = (.ok log', w') ∧
      Follows log (appended steps) log' w' ∧ log'.HasRoom := by
  obtain ⟨begun, w₁, hreset, hfollows, hroom⟩ := reset_spec hbegin
  rw [Work.outcome_bind_ok hreset]
  have hrun := run_spec hfollows hroom hsteps
  rw [List.nil_append] at hrun
  exact hrun

/-- A log that was flushed at last holds all records. -/
theorem reset_run_flush_spec {log : CallLog} {w : Workspace} (hbegin : log.CanBegin w)
    {steps : List Step} (hsteps : ∀ record ∈ appended steps, record.isWritable = true) :
    ∃ log' w', (log.reset >>= (·.run (steps ++ [.flush]))).outcome w = (.ok log', w') ∧
      w'.files.read log.path = .ok (bytesOf (appended steps)) := by
  obtain ⟨begun, w₁, hreset, hbegun, hroom⟩ := reset_spec hbegin
  obtain ⟨filled, w₂, hrun, hfilled, -⟩ := run_spec hbegun hroom hsteps
  obtain ⟨flushed, w₃, hflush, hlast, hwritten⟩ := flush_spec hfilled
  refine ⟨flushed, w₃, ?_, ?_⟩
  · unfold run at hrun ⊢
    rw [Work.outcome_bind_ok hreset, List.foldlM_append, Work.outcome_bind_ok hrun,
      List.foldlM_cons]
    exact (Work.outcome_bind_ok hflush _).trans rfl
  · have hread := hlast.file.read
    rw [hwritten, List.take_length, List.nil_append] at hread
    exact hread

/-! ## Torn logs -/

/-- Of a log of which only the first bytes are left, the records are listed whose whole text is
there, exactly if the bytes end with a whole character. Otherwise there is no list: the lines that
are read before the bad block are handed on one by one, but collecting them fails in the end. -/
theorem records_torn_iff {writer : CallLog} {w : Workspace} (hbegin : writer.CanBegin w)
    {steps : List Step} (hsteps : ∀ record ∈ appended steps, record.IsRecord) :
    ∃ written w',
      (writer.reset >>= (·.run (steps ++ [.flush]))).outcome w = (.ok written, w') ∧
      w'.files.read writer.path = .ok (bytesOf (appended steps)) ∧
      ∀ (kept : Nat) (log : CallLog) (torn : Workspace),
        torn.files.read log.path = .ok ((bytesOf (appended steps)).take kept) →
        ((log.records.outcome torn).1 = .ok (wholeIn kept (appended steps)) ↔
          ∃ text, Utf8.encode text = (bytesOf (appended steps)).take kept) ∧
        ((¬ ∃ text, Utf8.encode text = (bytesOf (appended steps)).take kept) →
          (log.records.outcome torn).1 = .error .undecodable) := by
  obtain ⟨written, w', hrun, hbytes⟩ :=
    reset_run_flush_spec hbegin fun record hrecord => (hsteps record hrecord).1.isWritable
  refine ⟨written, w', hrun, hbytes, ?_⟩
  intro kept log torn hread
  cases htext : Utf8.decode? ((bytesOf (appended steps)).take kept) with
  | some text =>
    have hwhole : (log.records.outcome torn).1 = .ok (wholeIn kept (appended steps)) :=
      replay_take hsteps hread (by rw [htext]; rfl) (foldlM_concat [] _)
    have hencode : Utf8.encode text = (bytesOf (appended steps)).take kept := by
      rw [bytesOf_eq_encode] at htext ⊢
      exact (Utf8.decode?_take_encode htext).2
    exact ⟨⟨fun _ => ⟨text, hencode⟩, fun _ => hwhole⟩, fun hnone => absurd ⟨text, hencode⟩ hnone⟩
  | none =>
    have herror := records_take_eq_error hsteps hread htext
    have hnone : ¬ ∃ text, Utf8.encode text = (bytesOf (appended steps)).take kept := by
      rintro ⟨text, hencode⟩
      rw [← hencode, Utf8.decode?_encode] at htext
      cases htext
    refine ⟨⟨fun hok => ?_, fun hsome => absurd hsome hnone⟩, fun _ => herror⟩
    cases herror.symm.trans hok

/-- A call by a method to another one. -/
def sampleRecord (callee : String) : Json :=
  .obj [("callee", .str callee), ("caller", .str "B.b"), ("file", .str "B.java"), ("line", .int 1)]

def sampleRecords : List Json :=
  [sampleRecord "A.a", sampleRecord "é.a"]

def sampleLog : CallLog where
  path := { names := ["calls.jsonl"] }
  batchSize := 2
  journal := "log"

/-- A workspace in which only the first bytes of the log are left. -/
def sampleTorn (kept : Nat) : Workspace where
  files :=
    { home := ["home"]
      tree := .folder [("home", .folder [("calls.jsonl",
        .file ((bytesOf sampleRecords).take kept) 0)])] }

theorem isRecord_sampleRecord (callee : String) : (sampleRecord callee).IsRecord := by
  refine ⟨.obj (by simp) ?_, _, rfl⟩
  intro field hfield
  simp only [List.mem_cons, List.not_mem_nil, or_false] at hfield
  obtain rfl | rfl | rfl | rfl := hfield
  · exact .str callee
  · exact .str _
  · exact .str _
  · exact .int (show (Nat.toDigits 10 1).length ≤ Text.maxIntegerDigits by decide)

theorem isRecord_of_mem_sampleRecords {record : Json} (h : record ∈ sampleRecords) :
    record.IsRecord := by
  simp only [sampleRecords, List.mem_cons, List.not_mem_nil, or_false] at h
  obtain rfl | rfl := h <;> exact isRecord_sampleRecord _

/-- The log breaks off before the name of the second method. -/
theorem records_torn_iff_sampleTorn :
    sampleLog.CanBegin {} ∧ (∀ record ∈ sampleRecords, record.IsRecord) ∧
      (sampleLog.records.outcome (sampleTorn 76)).1 = .ok (wholeIn 76 sampleRecords) := by
  have hbegin : sampleLog.CanBegin {} := rfl
  have hrecords : ∀ record ∈ appended (sampleRecords.map .append), record.IsRecord :=
    fun record hrecord => isRecord_of_mem_sampleRecords hrecord
  obtain ⟨written, w', -, -, htorn⟩ := records_torn_iff hbegin hrecords
  have htext : (Utf8.decode? ((bytesOf sampleRecords).take 76)).isSome := by decide +kernel
  obtain ⟨text, htext⟩ := Option.isSome_iff_exists.1 htext
  rw [bytesOf_eq_encode] at htext
  obtain ⟨-, hencode⟩ := Utf8.decode?_take_encode htext
  rw [← bytesOf_eq_encode] at hencode
  exact ⟨hbegin, hrecords, (htorn 76 sampleLog (sampleTorn 76) rfl).1.2 ⟨text, hencode⟩⟩

/-- The log breaks off inside the first character of that name: the first record is there as a
whole, but the records are not listed. -/
theorem records_sampleTorn_undecodable :
    wholeIn 77 sampleRecords = [sampleRecord "A.a"] ∧
      (sampleLog.records.outcome (sampleTorn 77)).1 = .error .undecodable := by
  constructor
  · have hfirst : (Utf8.encode (lineOf (sampleRecord "A.a"))).length = 63 := by decide +kernel
    have hsecond : (Utf8.encode (lineOf (sampleRecord "é.a"))).length = 64 := by decide +kernel
    simp [sampleRecords, wholeIn, hfirst, hsecond]
  · have htext : (Utf8.decode? ((bytesOf sampleRecords).take 77)).isNone := by decide +kernel
    exact records_take_eq_error (fun record hrecord => isRecord_of_mem_sampleRecords hrecord) rfl
      (Option.isNone_iff_eq_none.1 htext)

end Ripple.CallLog
