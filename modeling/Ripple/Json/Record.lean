-- SUMMARY: Fields, items and keys of JSON values that are used as records, with the faults where there are none.
import Ripple.Datum

/-! # Records

What a JSON value holds when it is used as a record, a list or a key.
-/

namespace Ripple.Json

/-- A field that a record must have. -/
def required (record : Json) (key : String) : Except Fault Json :=
  match record with
  | .obj _ =>
    match record.field? key with
    | some value => .ok value
    | none => .error (.missingKey key)
  | _ => .error .wrongType

/-- The values inside a value: the characters of a text, the keys of an object. -/
def items : Json → Except Fault (List Json)
  | .arr items => .ok items
  | .str s => .ok (s.toList.map fun c => .str (String.ofList [c]))
  | .broken codes => .ok (codes.map fun code => ofCodes [code])
  | .obj fields => .ok (fields.map fun field => .str field.1)
  | _ => .error .wrongType

/-- Whether a value can be a key or a member of a set. -/
def isKey : Json → Bool
  | .arr _ | .obj _ => false
  | _ => true

/-- A value as it is shown in texts. -/
def shown (value : Json) : String :=
  (Datum.ofJson value).shown

/-- The integer that a value stands for. -/
def integer (value : Json) : Except Fault Int :=
  (Datum.ofJson value).integer

end Ripple.Json
