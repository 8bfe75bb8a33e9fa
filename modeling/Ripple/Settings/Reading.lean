-- SUMMARY: Settings loaded from a file and from what a caller gives, and the naming policy that they name.
import Ripple.Policy.Reading
import Ripple.Settings.Basic

/-! # Reading settings -/

namespace Ripple.Settings

/-- The fields of a settings file, which has to hold a mapping. -/
def fileFields (files : Disk) (path : Path) : Except Fault (List (String × Datum)) :=
  match files.entryAt path with
  | .error e => .error e.fault
  | .ok (some (.file bytes _)) => do
    let loaded ← Yaml.read bytes
    match (if loaded.isEmpty then .map [] else loaded : Datum).fields? with
    | some fields => .ok (fields.map fun (key, value) => (key.shown, value))
    | none => refuse ("Settings file must contain a mapping: " ++ path.text)
  | .ok _ => refuse ("Settings file not found: " ++ path.text)

/-- The fields that a settings file gives, if one is named. -/
def givenFields (files : Disk) : Option Path → Except Fault (List (String × Datum))
  | some path => fileFields files path
  | none => .ok []

/-- The names that stand for the settings as a whole and for their file, and so for no value. -/
def reserved : List String :=
  ["self", "settings_file"]

/-- The settings of a file, if one is named, with other values put over them, on a machine with so
many processors. -/
def load (processors : Option Nat) (files : Disk) (file : Option Path)
    (overrides : List (String × Datum)) : Except Fault Settings := do
  if overrides.any fun (name, _) => reserved.contains name then throw .wrongType
  let given ← givenFields files file
  ofValues processors
    ((defaults.update (Values.ofFields given)).update (Values.ofFields overrides))

/-- The naming policy that the settings ask for, and the messages about it. -/
def policy (settings : Settings) (files : Disk) (journal : String) :
    Except Fault (List Message × Policy Datum) :=
  match settings.namingPolicyFile with
  | none => .ok ([], settings.conventions)
  | some path => Policy.load files journal path settings.conventions

end Ripple.Settings
