-- SUMMARY: A YAML document, read from its source to one value.
import Ripple.Yaml.Grammar
import Ripple.Yaml.Value

/-! # Documents -/

namespace Ripple.Yaml

/-- The value of a file that holds one document; an empty file has the value null. -/
def read (bytes : Bytes) : Except Fault Datum := do
  match ← Graph.ofSource (Source.ofBytes bytes) with
  | (_, none) => .ok .null
  | (graph, some root) => graph.datum root

end Ripple.Yaml
