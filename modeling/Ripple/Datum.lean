-- SUMMARY: Values of settings: how they are shown, compared as keys and taken as texts, numbers and lists.
import Ripple.Fault
import Ripple.Json.Basic
import Ripple.Text.Integer
import Ripple.Text.Quoted
import Ripple.Text.Utf8
import Ripple.Timestamp

/-! # Values of settings

The values that a settings file or a caller can give. What a setting needs is taken from them where
it is used, and a value of the wrong kind is a fault there.
-/

namespace Ripple

/-- A value of a setting. -/
inductive Datum where
  | null
  | bool (b : Bool)
  | int (n : Int)
  | real (x : Binary64)
  | text (s : String)
  | moment (time : Timestamp)
  | bytes (content : Bytes)
  | seq (items : List Datum)
  | map (fields : List (Datum × Datum))
  | set (items : List Datum)
  | pair (first second : Datum)
  /-- A collection that is found inside itself, with a number by which to know it again. It is
  unfolded a few times. -/
  | knot (number : Nat) (value : Datum)
deriving Inhabited

namespace Datum

/-- The values that count as absent. -/
def isEmpty : Datum → Bool
  | .null => true
  | .bool b => !b
  | .int n => n == 0
  | .real x => x.isZero
  | .text s => s.isEmpty
  | .moment _ => false
  | .bytes content => content.isEmpty
  | .seq items => items.isEmpty
  | .map fields => fields.isEmpty
  | .set items => items.isEmpty
  | .pair .. => false
  | .knot _ value => value.isEmpty

/-- The number that a value stands for in comparisons: true and false are one and zero. -/
def number? : Datum → Option (Int ⊕ Binary64)
  | .bool b => Json.number? (.bool b)
  | .int n => Json.number? (.int n)
  | .real x => Json.number? (.real x)
  | _ => none

/-- Equality of the values that can be keys. -/
def sameKey : Datum → Datum → Bool
  | .null, .null => true
  | .text s, .text t => s == t
  | .moment s, .moment t => s.same t
  | .bytes s, .bytes t => s == t
  | .pair a b, .pair c d => a.sameKey c && b.sameKey d
  | a, b => Json.sameNumber a.number? b.number?

/-- Whether a value can be a key or a member of a set. -/
def isKey : Datum → Bool
  | .seq _ | .map _ | .set _ | .knot .. => false
  | .pair first second => first.isKey && second.isKey
  | _ => true

/-- Keys with their values, each key once: a later value replaces an earlier one in place. -/
def putKey (key : Datum) (value : α) : List (Datum × α) → List (Datum × α)
  | [] => [(key, value)]
  | (k, v) :: rest => if k.sameKey key then (k, value) :: rest else (k, v) :: putKey key value rest

/-- The values without repetition, in the order of first appearance. -/
def distinct (items : List Datum) : List Datum :=
  (items.foldl (fun fields item => putKey item () fields) []).map (·.1)

/-- The fields of a mapping. -/
def fields? : Datum → Option (List (Datum × Datum))
  | .map fields => some fields
  | .knot _ value => value.fields?
  | _ => none

/-- The value of a key in a mapping. -/
def field? (key : String) (value : Datum) : Option Datum := do
  let fields ← value.fields?
  (fields.find? fun (k, _) => k.sameKey (.text key)).map (·.2)

/-- The text of a byte inside quotes, `q` being the quote. -/
def shownByte (q : Char) (b : UInt8) : List Char :=
  let c := Char.ofNat b.toNat
  if c == q || c == '\\' then ['\\', c]
  else if c == '\t' then ['\\', 't']
  else if c == '\n' then ['\\', 'n']
  else if c == '\r' then ['\\', 'r']
  else if 32 ≤ b.toNat && b.toNat < 127 then [c]
  else '\\' :: 'x' :: Text.hexDigits 2 b.toNat

/-- Bytes in quotes, which are chosen as for texts. -/
def shownBytes (content : Bytes) : String :=
  let q := if content.contains 39 && !content.contains 34 then '"' else '\''
  String.ofList ('b' :: q :: content.flatMap (shownByte q) ++ [q])

/-- How a collection is shown inside itself. -/
def ellipsis : Datum → String
  | .map _ => "\x7b...\x7d"
  | _ => "[...]"

mutual
/-- A value as it is shown inside others: texts are quoted. The collections around it that may come
again are known by their numbers. -/
def shownWithin (around : List Nat) : Datum → String
  | .null => "None"
  | .bool b => if b then "True" else "False"
  | .int n => toString n
  | .real x => x.text
  | .text s => Text.quoted s
  | .moment time => time.constructor
  | .bytes content => shownBytes content
  | .seq items => "[" ++ shownItems around items ++ "]"
  | .map fields => "\x7b" ++ shownFields around fields ++ "\x7d"
  | .set [] => "set()"
  | .set (item :: items) => "\x7b" ++ shownItems around (item :: items) ++ "\x7d"
  | .pair first second =>
    "(" ++ shownWithin around first ++ ", " ++ shownWithin around second ++ ")"
  | .knot number value =>
    if around.contains number then ellipsis value else shownWithin (number :: around) value

def shownItems (around : List Nat) : List Datum → String
  | [] => ""
  | [item] => shownWithin around item
  | item :: items => shownWithin around item ++ ", " ++ shownItems around items

def shownFields (around : List Nat) : List (Datum × Datum) → String
  | [] => ""
  | [(key, value)] => shownWithin around key ++ ": " ++ shownWithin around value
  | (key, value) :: fields =>
    shownWithin around key ++ ": " ++ shownWithin around value ++ ", " ++ shownFields around fields
end

/-- A value as it is shown inside another one. -/
def shownInside (value : Datum) : String :=
  value.shownWithin []

/-- A value as it is shown in messages. -/
def shown : Datum → String
  | .text s => s
  | .moment time => time.shown
  | value => value.shownInside

/-- The integer that a value stands for: numbers lose their fraction, texts are read. -/
def integer : Datum → Except Fault Int
  | .bool b => .ok (if b then 1 else 0)
  | .int n => .ok n
  | .real .nan => .error .invalidValue
  | .real x =>
    match x.truncate? with
    | some n => .ok n
    | none => .error .overflow
  | .text s =>
    match Text.readInteger? s.toList with
    | some n => .ok n
    | none => .error .invalidValue
  | .bytes content =>
    match Text.readPlainInteger? (content.map fun b => Char.ofNat b.toNat) with
    | some n => .ok n
    | none => .error .invalidValue
  | _ => .error .wrongType

/-- The values inside a value: the characters of a text, the keys of a mapping. -/
def items : Datum → Except Fault (List Datum)
  | .text s => .ok (s.toList.map fun c => .text (String.ofList [c]))
  | .bytes content => .ok (content.map fun b => .int b.toNat)
  | .seq items => .ok items
  | .map fields => .ok (fields.map (·.1))
  | .set items => .ok items
  | .pair first second => .ok [first, second]
  | .knot _ value => value.items
  | _ => .error .wrongType

/-- The text of a value that has to be one. -/
def asText : Datum → Except Fault String
  | .text s => .ok s
  | _ => .error .wrongType

/-- The texts in front of the first value that is none, and whether there is such a value. -/
def leadingTexts : List Datum → List String × Bool
  | [] => ([], false)
  | .text s :: rest => let (texts, faulty) := leadingTexts rest; (s :: texts, faulty)
  | _ :: _ => ([], true)

/-- The values that are texts. -/
def textItems (items : List Datum) : List String :=
  items.filterMap fun
    | .text s => some s
    | _ => none

mutual
def ofJson : Json → Datum
  | .null => .null
  | .bool b => .bool b
  | .int n => .int n
  | .real x => .real x
  | .str s => .text s
  | .broken codes => .text (Json.lossyText codes)
  | .arr items => .seq (ofItems items)
  | .obj fields => .map (ofFields fields)

def ofItems : List Json → List Datum
  | [] => []
  | item :: items => ofJson item :: ofItems items

def ofFields : List (String × Json) → List (Datum × Datum)
  | [] => []
  | (key, value) :: fields => (.text key, ofJson value) :: ofFields fields
end

end Datum

end Ripple
