-- SUMMARY: JSON values, with fields in the order of their keys' first appearance.
import Ripple.Number.Binary64

/-! # JSON values

Objects keep their fields in the order in which the keys first appeared.
-/

namespace Ripple

/-- A JSON value. -/
inductive Json where
  | null
  | bool (b : Bool)
  | int (n : Int)
  | real (x : Binary64)
  | str (s : String)
  /-- A string with surrogates that have no partner, as code points. -/
  | broken (codes : List Nat)
  | arr (items : List Json)
  | obj (fields : List (String × Json))
deriving Inhabited

/-- Replaces the value of a key that is present, in place, or adds the key at the end. -/
def putField [BEq α] (key : α) (value : β) : List (α × β) → List (α × β)
  | [] => [(key, value)]
  | (k, v) :: rest => if k == key then (k, value) :: rest else (k, v) :: putField key value rest

namespace Json

/-- The value of a field of an object. -/
def field? (key : String) : Json → Option Json
  | .obj fields => (fields.find? (·.1 == key)).map (·.2)
  | _ => none

/-- The values that count as absent: null, false, zero, and empty texts, arrays and objects. -/
def isEmpty : Json → Bool
  | .null => true
  | .bool b => !b
  | .int n => n == 0
  | .real x => x.isZero
  | .str s => s.isEmpty
  | .broken codes => codes.isEmpty
  | .arr items => items.isEmpty
  | .obj fields => fields.isEmpty

def text? : Json → Option String
  | .str s => some s
  | _ => none

/-- Whether a code point is a surrogate. -/
def isSurrogate (code : Nat) : Bool :=
  0xD800 ≤ code && code ≤ 0xDFFF

/-- The text of code points, with the replacement character for surrogates. -/
def lossyText (codes : List Nat) : String :=
  String.ofList (codes.map fun code => if isSurrogate code then '�' else Char.ofNat code)

/-- The string of code points. -/
def ofCodes (codes : List Nat) : Json :=
  if codes.any isSurrogate then .broken codes else .str (String.ofList (codes.map Char.ofNat))

/-- The number that a value stands for in comparisons: true and false are one and zero. -/
def number? : Json → Option (Int ⊕ Binary64)
  | .bool b => some (.inl (if b then 1 else 0))
  | .int n => some (.inl n)
  | .real x => match x.integer? with
    | some n => some (.inl n)
    | none => some (.inr x)
  | _ => none

mutual

/-- Equality of values: numbers by value, objects whatever the order of their fields. -/
def same : Json → Json → Bool
  | .null, .null => true
  | .str s, .str t => s == t
  | .broken s, .broken t => s == t
  | .arr xs, .arr ys => sameItems xs ys
  | .obj xs, .obj ys => xs.length == ys.length && sameFields xs ys
  | .bool a, v => sameNumber (number? (.bool a)) (number? v)
  | .int a, v => sameNumber (number? (.int a)) (number? v)
  | .real a, v => sameNumber (number? (.real a)) (number? v)
  | _, _ => false

def sameItems : List Json → List Json → Bool
  | [], [] => true
  | x :: xs, y :: ys => same x y && sameItems xs ys
  | _, _ => false

/-- Every field on the left has an equal field on the right. -/
def sameFields : List (String × Json) → List (String × Json) → Bool
  | [], _ => true
  | (k, v) :: rest, ys =>
    (match ys.find? (·.1 == k) with
      | some (_, w) => same v w
      | none => false) && sameFields rest ys

def sameNumber : Option (Int ⊕ Binary64) → Option (Int ⊕ Binary64) → Bool
  | some (.inl a), some (.inl b) => a == b
  | some (.inr a), some (.inr b) => a.same b
  | _, _ => false

end

instance : BEq Json := ⟨same⟩

end Json

end Ripple
