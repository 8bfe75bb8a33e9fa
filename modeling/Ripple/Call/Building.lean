-- SUMMARY: The build of the call index from all source files, which logs every call site.
import Ripple.Call.Record
import Ripple.Repository.Linking

/-! # Building the index of calls

All source files are read once. The call sites are logged while the index grows.
-/

namespace Ripple.CallIndex

/-- How far the building has come. -/
structure Progress where
  index : CallIndex := {}
  log : CallLog

/-- Adds the calls of a source file. -/
def Progress.step (progress : Progress) (calls : Java.FileCalls) : Work Progress := do
  let index := progress.index
  if !calls.parsed then
    return { progress with index := { index with filesFailed := index.filesFailed + 1 } }
  else
    let index := { index with
      filesIndexed := index.filesIndexed + 1
      unresolved := index.unresolved + calls.unresolved }
    let log ← calls.sites.foldlM (fun log site => log.append site.record) progress.log
    return { index := calls.sites.foldl add index, log }

/-- The calls of a source file. -/
def readCalls (settings : Settings) : Labor Path Java.FileCalls :=
  fun files path => do Java.FileCalls.load files (← settings.encoding) path

/-- The index of the calls in source files. What was logged stays logged also if the work ends
before its end. -/
def build (settings : Settings) (journal : String) (sources : List Path) : Work CallIndex := do
  Work.log .info journal ("Building call-site index over " ++ toString sources.length ++
    " source files...")
  let log : CallLog :=
    { path := settings.callSiteLogFile, batchSize := settings.callSiteLogBatch, journal }
  let log ← log.reset
  let (progress, fault?) ←
    Workers.foldWith settings (readCalls settings) Progress.step { log } sources
  let _ ← progress.log.flush
  match fault? with
  | some fault => throw fault
  | none =>
    let index := progress.index
    Work.log .info journal ("Call-site index built. Callees: " ++
      toString index.callers.length ++ ", call references: " ++ toString index.totalReferences ++
      ", unparsable files: " ++ toString index.filesFailed ++ ", unresolved receivers: " ++
      toString index.unresolved ++ ".")
    return index

end Ripple.CallIndex
