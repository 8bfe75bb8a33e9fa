-- SUMMARY: Tags of YAML nodes.
/-! # Tags -/

namespace Ripple.Yaml

/-- The kinds of values that tags name. -/
inductive Tag where
  | null
  | bool
  | int
  | real
  | binary
  | moment
  | text
  | sequence
  | mapping
  | set
  | pairs
  /-- The key that takes over the fields of other mappings. -/
  | merge
  /-- The key that stands for the value of its mapping. -/
  | value
  | unknown
deriving DecidableEq, Repr, Inhabited

namespace Tag

/-- What the full names of the tags begin with. -/
def leading : String := "tag:yaml.org,2002:"

/-- The tags by the rest of their names. -/
def words : List (String × Tag) :=
  [("null", null), ("bool", bool), ("int", int), ("float", real), ("binary", binary),
    ("timestamp", moment), ("str", text), ("seq", sequence), ("map", mapping), ("set", set),
    ("omap", pairs), ("pairs", pairs), ("merge", merge), ("value", value)]

/-- The tag with a full name. -/
def ofName (name : String) : Tag :=
  ((words.find? fun (word, _) => leading ++ word == name).map (·.2)).getD unknown

end Tag

end Ripple.Yaml
