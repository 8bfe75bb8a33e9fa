-- SUMMARY: The build of the call index touches no file but its log.
import Ripple.Call.Building
import Ripple.Proofs.Workers

/-! # Building the index of calls

The building changes nothing but the log of call sites, which keeps its place.
-/

namespace Ripple

namespace CallLog

variable {place : Path} {log : CallLog}

theorem reset_touches (h : log.path = place) :
    log.reset.Touches place (fun _ => True) ∧ log.reset.Gives (·.path = place) := by
  subst h
  constructor
  · refine .bind (.writeFile log.path fun _ => trivial) fun result => ?_
    split
    · exact .pure _
    · exact .throw _
    · exact .bind .log fun _ => .pure _
  · refine .of_bind fun result => ?_
    split
    · exact .pure rfl
    · exact .throw _
    · exact .of_bind fun _ => .pure rfl

theorem flush_touches (h : log.path = place) :
    log.flush.Touches place (fun _ => True) ∧ log.flush.Gives (·.path = place) := by
  subst h
  unfold flush
  split
  · exact ⟨.pure _, .pure rfl⟩
  · constructor
    · refine .bind (.append log.path _) fun result => ?_
      split
      · exact .pure _
      · exact .throw _
      · exact .bind .log fun _ => .pure _
    · refine .of_bind fun result => ?_
      split
      · exact .pure rfl
      · exact .throw _
      · exact .of_bind fun _ => .pure rfl

theorem append_touches (h : log.path = place) (record : Json) :
    (log.append record).Touches place (fun _ => True) ∧
      (log.append record).Gives (·.path = place) := by
  unfold append
  dsimp only
  split
  · split
    · exact flush_touches h
    · exact ⟨.pure _, .pure h⟩
  · exact ⟨.throw _, .throw _⟩

theorem foldlM_append_touches (h : log.path = place) (sites : List CallSite) :
    (sites.foldlM (fun (log : CallLog) site => log.append site.record) log).Touches place
        (fun _ => True) ∧
      (sites.foldlM (fun (log : CallLog) site => log.append site.record) log).Gives
        (·.path = place) := by
  induction sites generalizing log with
  | nil => exact ⟨.pure _, .pure h⟩
  | cons site sites ih =>
    obtain ⟨htouches, hgives⟩ := append_touches h site.record
    rw [List.foldlM_cons]
    exact ⟨.bind_gives htouches hgives fun log' hpath => (ih hpath).1,
      .bind hgives fun log' hpath => (ih hpath).2⟩

end CallLog

namespace CallIndex

theorem step_touches {place : Path} {progress : Progress} (h : progress.log.path = place)
    (calls : Java.FileCalls) :
    (progress.step calls).Touches place (fun _ => True) ∧
      (progress.step calls).Gives (·.log.path = place) := by
  obtain ⟨htouches, hgives⟩ := CallLog.foldlM_append_touches h calls.sites
  unfold Progress.step
  dsimp only
  split
  · exact ⟨.pure _, .pure h⟩
  · exact ⟨.bind htouches fun _ => .pure _, .bind hgives fun _ hpath => .pure hpath⟩

/-- Building the index of calls changes nothing but the log. -/
theorem build_touches (settings : Settings) (journal : String) (sources : List Path) :
    (build settings journal sources).Touches settings.callSiteLogFile fun _ => True := by
  let start : CallLog :=
    { path := settings.callSiteLogFile, batchSize := settings.callSiteLogBatch, journal }
  have hstart : start.path = settings.callSiteLogFile := rfl
  obtain ⟨hreset, hlog⟩ := CallLog.reset_touches hstart
  refine .bind .log fun _ => .bind_gives hreset hlog fun log hpath => ?_
  obtain ⟨hfold, hreached⟩ := Workers.foldWith_touches
    (fun progress calls h => (step_touches h calls).1)
    (fun progress calls h => (step_touches h calls).2) settings
    (show ({ log } : Progress).log.path = settings.callSiteLogFile from hpath) sources
  refine .bind_gives hfold hreached fun reached hpath => ?_
  refine .bind (CallLog.flush_touches hpath).1 fun _ => ?_
  split
  · exact .throw _
  · exact .bind .log fun _ => .pure _

end CallIndex

end Ripple
