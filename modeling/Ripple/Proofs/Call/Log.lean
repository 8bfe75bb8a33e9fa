-- SUMMARY: The log of a build holds the calls of its index in their order, and the index is made again from it.
import Ripple.Call.Building
import Ripple.Proofs.Cache.Batches
import Ripple.Proofs.Settings.Standard
import Ripple.Proofs.Workers

/-!
# The log of an index

While an index is built, every call site goes to the index and to the log. So the log has the calls
of the index in their order, and the index can be made again from it.
-/

namespace Ripple

namespace CallSite

/-- The record of a call site that can be written can be read. -/
theorem isRecord_record {site : CallSite} (h : site.record.isWritable = true) :
    site.record.IsRecord := by
  refine ⟨.obj (by simp) ?_, _, rfl⟩
  have hshort : Json.IsShort site.reference.line := by
    unfold Json.IsShort
    simpa [record, map, CallReference.map, toRecord, Json.isWritable, Json.areFieldsWritable] using h
  intro field hfield
  simp only [List.mem_cons, List.not_mem_nil, or_false] at hfield
  obtain rfl | rfl | rfl | rfl := hfield
  · exact .str _
  · exact .str _
  · exact .str _
  · exact .int hshort

end CallSite

namespace CallIndex

/-- The record of a call site adds that call site. -/
theorem addRecord_record (index : CallIndex Json) (site : CallSite) :
    index.addRecord site.record = .ok (index.add (site.map .str)) := rfl

theorem foldlM_addRecord (index : CallIndex Json) (sites : List CallSite) :
    (sites.map (·.record)).foldlM addRecord index =
      .ok ((sites.map (·.map .str)).foldl add index) := by
  induction sites generalizing index with
  | nil => rfl
  | cons site sites ih =>
    rw [List.map_cons, List.foldlM_cons, addRecord_record]
    exact ih _

/-- Adding a call site and renaming change places, since texts are the same if their values are. -/
theorem map_str_add (index : CallIndex) (site : CallSite) :
    (index.add site).map Json.str = (index.map Json.str).add (site.map .str) := by
  -- Only the callers change, so the induction is on them alone.
  have hcallers : ∀ callers : List (String × List CallReference),
      (({ callers := addTo site.callee site.reference callers } : CallIndex).map Json.str).callers =
        addTo (Json.str site.callee) (site.reference.map Json.str)
          (({ callers } : CallIndex).map Json.str).callers := by
    intro callers
    simp only [map]
    induction callers with
    | nil => rfl
    | cons found callers ih =>
      obtain ⟨callee, references⟩ := found
      by_cases hsame : callee = site.callee
      · simp [addTo, Json.beq_str, hsame]
      · simp [addTo, Json.beq_str, hsame, ih]
  have hadd := hcallers index.callers
  simp only [map, add] at hadd ⊢
  rw [hadd]
  rfl

theorem map_str_foldl_add (index : CallIndex) (sites : List CallSite) :
    (sites.foldl add index).map Json.str =
      (sites.map (·.map .str)).foldl add (index.map Json.str) := by
  induction sites generalizing index with
  | nil => rfl
  | cons site sites ih => rw [List.map_cons, List.foldl_cons, List.foldl_cons, ih, map_str_add]

/-! ## Building -/

open CallLog (Follows)

/-- The calls that an index has are those that were appended to its log. -/
def Progress.IsLogged (begun : CallLog) (progress : Progress) (w : Workspace) : Prop :=
  ∃ sites : List CallSite, (∀ site ∈ sites, site.record.isWritable = true) ∧
    Follows begun (sites.map (·.record)) progress.log w ∧
    progress.index.callers = (ofSites sites).callers

/-- What is appended can be written. -/
theorem append_eq_ok {begun log log' : CallLog} {records : List Json} {w w' : Workspace}
    (h : Follows begun records log w) {record : Json}
    (happend : (log.append record).outcome w = (.ok log', w')) :
    record.isWritable = true ∧ Follows begun (records ++ [record]) log' w' := by
  by_cases hwritable : record.isWritable = true
  · obtain ⟨_, _, hspec, hfollows, -⟩ := CallLog.append_spec h hwritable
    cases happend.symm.trans hspec
    exact ⟨hwritable, hfollows⟩
  · unfold CallLog.append at happend
    rw [if_neg hwritable] at happend
    cases happend

theorem foldlM_append_eq_ok {begun log log' : CallLog} {records : List Json} {w w' : Workspace}
    (h : Follows begun records log w) {sites : List CallSite}
    (happend : (sites.foldlM (fun (log : CallLog) site => log.append site.record) log).outcome w =
      (.ok log', w')) :
    (∀ site ∈ sites, site.record.isWritable = true) ∧
      Follows begun (records ++ sites.map (·.record)) log' w' := by
  induction sites generalizing log records w with
  | nil =>
    cases happend
    exact ⟨(fun _ hsite => by cases hsite), by simpa using h⟩
  | cons site sites ih =>
    rw [List.foldlM_cons] at happend
    obtain ⟨next, w₁, hnext, hrest⟩ := Work.outcome_bind_eq_ok happend
    obtain ⟨hwritable, hfollows⟩ := append_eq_ok h hnext
    obtain ⟨hall, hlast⟩ := ih hfollows hrest
    refine ⟨List.forall_mem_cons.2 ⟨hwritable, hall⟩, ?_⟩
    rw [List.append_assoc] at hlast
    exact hlast

/-- Adding call sites looks at the callers only. -/
theorem callers_foldl_add {index index' : CallIndex} (h : index.callers = index'.callers)
    (sites : List CallSite) :
    (sites.foldl add index).callers = (sites.foldl add index').callers := by
  induction sites generalizing index index' with
  | nil => exact h
  | cons site sites ih => exact ih (by simp only [add, h])

theorem Progress.step_isLogged {begun : CallLog} {progress progress' : Progress}
    {w w' : Workspace} (h : progress.IsLogged begun w) {calls : Java.FileCalls}
    (hstep : (progress.step calls).outcome w = (.ok progress', w')) :
    progress'.IsLogged begun w' := by
  obtain ⟨sites, hwritable, hfollows, hcallers⟩ := h
  unfold Progress.step at hstep
  dsimp only at hstep
  split at hstep
  · cases hstep
    exact ⟨sites, hwritable, hfollows, hcallers⟩
  · obtain ⟨log, w₁, hlog, hrest⟩ := Work.outcome_bind_eq_ok hstep
    obtain ⟨hnew, hlogged⟩ := foldlM_append_eq_ok hfollows hlog
    cases hrest
    refine ⟨sites ++ calls.sites, ?_, ?_, ?_⟩
    · intro site hsite
      exact (List.mem_append.1 hsite).elim (hwritable site) (hnew site)
    · rw [List.map_append]
      exact hlogged
    · unfold ofSites
      rw [List.foldl_append]
      refine callers_foldl_add ?_ calls.sites
      exact hcallers

/-- A log looks at nothing but the files. -/
theorem Progress.IsLogged.of_files {begun : CallLog} {progress : Progress} {w w' : Workspace}
    (hfiles : w'.files = w.files) (h : progress.IsLogged begun w) : progress.IsLogged begun w' := by
  obtain ⟨sites, hwritable, hfollows, hcallers⟩ := h
  have hfile := hfollows.file
  rw [← hfiles] at hfile
  exact ⟨sites, hwritable, { hfollows with file := hfile }, hcallers⟩

/-- The log that is begun for an index. -/
def logFor (settings : Settings) (journal : String) : CallLog where
  path := settings.callSiteLogFile
  batchSize := settings.callSiteLogBatch
  journal := journal

/-- Where the log can be begun, the index that is built has the calls of the log. -/
theorem build_logs {settings : Settings} {journal : String} {sources : List Path}
    {w w' : Workspace} {index : CallIndex} (hbegin : (logFor settings journal).CanBegin w)
    (hbuild : (build settings journal sources).outcome w = (.ok index, w')) :
    ∃ sites : List CallSite, (∀ site ∈ sites, site.record.isWritable = true) ∧
      index.callers = (ofSites sites).callers ∧
      w'.files.read settings.callSiteLogFile = .ok (CallLog.bytesOf (sites.map (·.record))) := by
  unfold build at hbuild
  rw [Work.outcome_bind_ok (Work.outcome_log ..)] at hbuild
  obtain ⟨begun, w₁, hreset, hbuild⟩ := Work.outcome_bind_eq_ok hbuild
  obtain ⟨reached, w₂, hfold, hbuild⟩ := Work.outcome_bind_eq_ok hbuild
  obtain ⟨flushed, w₃, hflush, hbuild⟩ := Work.outcome_bind_eq_ok hbuild
  obtain ⟨progress, fault?⟩ := reached
  obtain ⟨begun', w₁', hreset', hbegun, -⟩ :=
    CallLog.reset_spec ((Work.writeFile_journal _ _ w _).trans hbegin)
  cases hreset.symm.trans hreset'
  have hstart : Progress.IsLogged (logFor settings journal) { log := begun } w₁ :=
    ⟨[], (fun _ hsite => by cases hsite), hbegun, rfl⟩
  -- Also a build that is given up has logged what it indexed; it fails only behind the flush.
  have hlogged : Progress.IsLogged (logFor settings journal) progress w₂ := by
    refine Workers.foldWith_keeps ?_ ?_ hstart hfold
    · exact fun _ _ _ hfiles h => h.of_files hfiles
    · exact fun _ _ _ _ _ h hstep => Progress.step_isLogged h hstep
  obtain ⟨sites, hwritable, hfollows, hcallers⟩ := hlogged
  obtain ⟨flushed', w₃', hflush', hlast, hwritten⟩ := CallLog.flush_spec hfollows
  cases hflush.symm.trans hflush'
  have hread := hlast.file.read
  rw [hwritten, List.take_length] at hread
  cases fault? with
  | some fault => cases hbuild
  | none =>
    cases hbuild
    exact ⟨sites, hwritable, hcallers, hread⟩

/-- A log loses at most a batch that is not full: what was counted as written can be read back, in
its order, after every step. So the index of a build that has ended can be made again from its
log. -/
theorem log_restores_index :
    (∀ {log : CallLog} {w : Workspace} {steps : List CallLog.Step}, 1 ≤ log.batchSize →
      log.CanBegin w → (∀ record ∈ CallLog.appended steps, record.IsRecord) →
      ∃ now w', (log.reset >>= (·.run steps)).outcome w = (.ok now, w') ∧
        (now.buffer.length : Int) < log.batchSize ∧
        now.written + now.buffer.length = (CallLog.appended steps).length ∧
        (now.records.outcome w').1 = .ok ((CallLog.appended steps).take now.written)) ∧
    (∀ {settings : Settings} {journal : String} {sources : List Path} {w w' : Workspace}
      {index : CallIndex}, (logFor settings journal).CanBegin w →
      (build settings journal sources).outcome w = (.ok index, w') →
      ∀ log : CallLog, log.path = settings.callSiteLogFile →
        ∃ restored, ((ofLog log).outcome w').1 = .ok restored ∧
          restored.callers = (index.map .str).callers) := by
  constructor
  · intro log w steps hbatch hbegin hrecords
    obtain ⟨now, w', hrun, hfollows, hroom⟩ :=
      CallLog.reset_run_spec hbegin fun record hrecord => (hrecords record hrecord).1.isWritable
    refine ⟨now, w', hrun, ?_, hfollows.written_add_length, ?_⟩
    · have hsize := hfollows.batchSize
      unfold CallLog.HasRoom at hroom
      omega
    · have hread := hfollows.file.read
      rw [← hfollows.path] at hread
      exact CallLog.replay_whole (fun record hrecord => hrecords record (List.mem_of_mem_take hrecord))
        hread (CallLog.foldlM_concat [] _)
  · intro settings journal sources w w' index hbegin hbuild log hlog
    obtain ⟨sites, hwritable, hcallers, hread⟩ := build_logs hbegin hbuild
    have hrecords : ∀ record ∈ sites.map (·.record), record.IsRecord := by
      intro record hrecord
      obtain ⟨site, hsite, rfl⟩ := List.mem_map.1 hrecord
      exact CallSite.isRecord_record (hwritable site hsite)
    rw [← hlog] at hread
    refine ⟨_, CallLog.replay_whole hrecords hread (foldlM_addRecord {} sites), ?_⟩
    have hmap : (sites.map (·.map .str)).foldl add ({} : CallIndex Json) =
        (ofSites sites).map Json.str := (map_str_foldl_add {} sites).symm
    rw [hmap]
    simp only [map, hcallers]

/-- A source file with a call. -/
def sampleSources : Workspace where
  files :=
    { home := ["home"]
      tree := .folder [("home", .folder [("A.java",
        .file (Utf8.encode "class A { void a() { b(); } }".toList) 0)])] }

def sampleBuilding : Except Fault CallIndex × Workspace :=
  (build .standard "index" [{ names := ["A.java"] }]).outcome sampleSources

/-- A log with one record in its file and one in its batch, and the log of a build. -/
theorem log_restores_index_sample :
    (∃ now w', (CallLog.sampleLog.reset >>= (·.run [.append (CallLog.sampleRecord "A.a"), .flush,
          .append (CallLog.sampleRecord "é.a")])).outcome {} = (.ok now, w') ∧
        (now.buffer.length : Int) < 2 ∧ now.written + now.buffer.length = 2 ∧
        (now.records.outcome w').1 = .ok (CallLog.sampleRecords.take now.written)) ∧
    ∃ index, sampleBuilding.1 = .ok index ∧ index.callees = ["A.b"] ∧
      ∃ restored, ((ofLog (logFor .standard "index")).outcome sampleBuilding.2).1 = .ok restored ∧
        restored.callers = (index.map .str).callers := by
  obtain ⟨hlog, hindex⟩ := log_restores_index
  constructor
  · have hbatch : 1 ≤ CallLog.sampleLog.batchSize := by decide
    exact hlog hbatch rfl fun record hrecord => CallLog.isRecord_of_mem_sampleRecords hrecord
  · have hcallees : sampleBuilding.1.toOption.map (·.callees) = some ["A.b"] := by decide +kernel
    have hbegin : (logFor .standard "index").CanBegin sampleSources := rfl
    cases hbuilding : sampleBuilding.1 with
    | error fault => rw [hbuilding] at hcallees; cases hcallees
    | ok index =>
      rw [hbuilding] at hcallees
      refine ⟨index, rfl, Option.some.inj hcallees, ?_⟩
      exact hindex hbegin (Prod.ext hbuilding rfl) _ rfl

end CallIndex

end Ripple
