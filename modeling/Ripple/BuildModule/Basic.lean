-- SUMMARY: Build modules, and the scan that finds their roots, sources and resources below a folder.
import Ripple.Files.Walk
import Ripple.Settings.Basic
import Ripple.Workspace

/-! # Build modules

Every folder that holds a descriptor is a module.
-/

namespace Ripple

/-- A module of the scanned tree. -/
structure BuildModule where
  name : String
  root : Path
  source : Option Path
  resource : Option Path
deriving DecidableEq, Repr

namespace BuildModule

/-- What tells two modules apart. -/
def identity (m : BuildModule) : String × Path :=
  (m.name, m.root)

/-- The names of folders that are not entered. -/
def excludedNames (settings : Settings) : List String :=
  Datum.textItems settings.excludedDirs

/-- Whether a file of this name describes a module. -/
def isDescriptor (settings : Settings) (name : String) : Bool :=
  match settings.moduleDescriptor with
  | .text descriptor => name == descriptor
  | _ => false

/-- The folders that hold a descriptor, from the top. -/
def rootsBelow (files : Disk) (settings : Settings) (root : Path) : List Path :=
  match files.find root with
  | .error _ => []
  | .ok entry =>
    let enter (_ : Path) (name : String) : Bool := !(excludedNames settings).contains name
    (entry.walk enter root).filterMap fun (here, names) =>
      if names.any (isDescriptor settings) then some here else none

/-- The first of some paths that is a folder. -/
def firstFolder? (files : Disk) : List Path → Except FileError (Option Path)
  | [] => .ok none
  | path :: paths => do
    if ← files.isFolderAt path then return some path else firstFolder? files paths

/-- The module at a folder. -/
def ofRoot (files : Disk) (settings : Settings) (root : Path) : Except Fault BuildModule := do
  let source := root.below (← settings.sourceDir.asText)
  let (resourceDirs, faulty) := Datum.leadingTexts settings.resourceDirs
  let resource ← (firstFolder? files (resourceDirs.map root.below)).mapError FileError.fault
  if resource.isNone && faulty then .error .wrongType
  else
    let source ← (firstFolder? files [source]).mapError FileError.fault
    return { name := root.name, root, resource, source }

/-- The roots of the modules below a folder. If there are several, a descriptor at the top only
lists the others. -/
def moduleRoots (files : Disk) (settings : Settings) (root : Path) : List Path :=
  let roots := rootsBelow files settings root
  if 1 < roots.length then roots.erase root else roots

/-- The modules below a folder, and the messages about them. A tree without a descriptor is one
module. -/
def scan (files : Disk) (settings : Settings) (journal : String) (root : Path) :
    List Message × Except Fault (List BuildModule) :=
  match files.isFolderAt root with
  | .error e => ([], .error e.fault)
  | .ok false =>
    ([⟨.error, journal, "Root path " ++ root.text ++ " is not a directory."⟩], .ok [])
  | .ok true =>
    let roots := moduleRoots files settings root
    let warnings : List Message :=
      if roots.isEmpty then
        [⟨.warning, journal, "No " ++ settings.moduleDescriptor.shown ++ " found under " ++
          root.text ++ ". Treating the root as a single module."⟩]
      else []
    match (if roots.isEmpty then [root] else roots).mapM (ofRoot files settings) with
    | .error fault => (warnings, .error fault)
    | .ok modules =>
      let found := "Found " ++ toString modules.length ++ " modules under " ++ root.text
      (warnings ++ [⟨.info, journal, found⟩], .ok modules)

end BuildModule

end Ripple
