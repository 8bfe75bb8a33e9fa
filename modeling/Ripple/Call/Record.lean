-- SUMMARY: Call sites as JSON records, and an index made again from the records of a log.
import Ripple.Cache.CallLog
import Ripple.Call.Index
import Ripple.Json.Record

/-! # Records of call sites -/

namespace Ripple

namespace CallReference

/-- The same reference with other names. -/
def map (f : α → β) (ref : CallReference α) : CallReference β :=
  ⟨f ref.caller, f ref.file, ref.line⟩

end CallReference

namespace CallSite

/-- The same call site with other names. -/
def map (f : α → β) (site : CallSite α) : CallSite β :=
  ⟨f site.callee, site.reference.map f⟩

/-- The record of a call site. -/
def toRecord (site : CallSite Json) : Json :=
  .obj [("callee", site.callee), ("caller", site.reference.caller), ("file", site.reference.file),
    ("line", .int site.reference.line)]

/-- The record of a call site whose names are texts. -/
def record (site : CallSite) : Json :=
  (site.map .str).toRecord

/-- The call site of a record. Its names are taken over as they are. -/
def ofRecord (record : Json) : Except Fault (CallSite Json) := do
  let callee ← record.required "callee"
  let caller ← record.required "caller"
  let file ← record.required "file"
  let line ← (← record.required "line").integer
  return ⟨callee, caller, file, line⟩

end CallSite

namespace CallIndex

/-- The same index with other names. -/
def map (f : α → β) (index : CallIndex α) : CallIndex β :=
  { callers := index.callers.map fun (callee, references) =>
      (f callee, references.map (CallReference.map f))
    filesIndexed := index.filesIndexed
    filesFailed := index.filesFailed
    unresolved := index.unresolved }

/-- The index as JSON. -/
def toJson (index : CallIndex Json) : Json :=
  .obj [("callees", .arr (index.callers.map fun (callee, references) =>
      .arr [callee, .arr (references.map fun ref => .arr [ref.caller, ref.file, .int ref.line])])),
    ("indexed", .int index.filesIndexed), ("failed", .int index.filesFailed),
    ("unresolved", .int index.unresolved), ("total", .int index.totalReferences)]

/-- Adds the call site of a record. -/
def addRecord (index : CallIndex Json) (record : Json) : Except Fault (CallIndex Json) := do
  let site ← CallSite.ofRecord record
  if site.callee.isKey then return index.add site else .error .wrongType

/-- The index of the call sites in a log. -/
def ofLog (log : CallLog) : Work (CallIndex Json) :=
  log.replay addRecord {}

end CallIndex

end Ripple
