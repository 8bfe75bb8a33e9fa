-- SUMMARY: The mapper files of a module and the source files of all modules.
import Ripple.BuildModule.Basic

/-! # The files of build modules -/

namespace Ripple.BuildModule

/-- The roots of other modules inside a module. -/
def nestedRoots (m : BuildModule) (modules : List BuildModule) : List Path :=
  (modules.map (·.root)).filter m.root.isAbove

/-- Whether a relative path has one of the markers. They are tried in order, and it is a fault to
come to one that is no text. -/
def hasPathMarker (markers : List Datum) (relative : String) : Except Fault Bool :=
  let (texts, faulty) := Datum.leadingTexts markers
  if texts.any fun marker => Text.occursIn marker.toList relative.toList then .ok true
  else if faulty then .error .wrongType
  else .ok false

/-- The mapper files of a module, without those of the modules inside it. -/
def mapperFiles (files : Disk) (settings : Settings) (m : BuildModule)
    (modules : List BuildModule) : Except Fault (List Path) :=
  let found := files.filesBelow m.root ".xml" (excludedNames settings) (m.nestedRoots modules)
  (found.filter fun path => !isDescriptor settings path.name).filterM fun path =>
    hasPathMarker settings.mapperPathMarkers (path.relativeText m.root)

/-- Adds a path to those of different files, with the places that they lead to. -/
def addFile (files : Disk) (found : List (List String) × List Path) (path : Path) :
    List (List String) × List Path :=
  let place := files.wayTo path
  if found.1.contains place then found else (found.1 ++ [place], found.2 ++ [path])

/-- Paths of different files, in the order of first appearance. -/
def distinctFiles (files : Disk) (paths : List Path) : List Path :=
  (paths.foldl (addFile files) ([], [])).2

/-- The source files of modules, each once. -/
def sourceFiles (files : Disk) (settings : Settings) (modules : List BuildModule) : List Path :=
  let sources := modules.filterMap (·.source)
  distinctFiles files
    (sources.flatMap fun source => files.filesBelow source ".java" (excludedNames settings) [])

/-- What is told about the source files that were found. -/
def sourcesMessage (journal : String) (sources : List Path) : Message :=
  ⟨.info, journal, "Found " ++ toString sources.length ++ " Java source files"⟩

end Ripple.BuildModule
