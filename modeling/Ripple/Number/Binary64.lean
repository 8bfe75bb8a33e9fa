-- SUMMARY: Binary floating-point numbers: reading and writing decimals with correct rounding.
/-! # Floating-point numbers

Numbers `± mantissa · 2 ^ exponent` with a mantissa of at most 53 bits. Reading a decimal rounds to
the nearest such number, ties to the even mantissa; writing one uses the fewest digits that read
back as the same number.
-/

namespace Ripple

/-- A floating-point number. A finite one has `mantissa < Nat.pow 2 53` and `-1074 ≤ exponent`; its
mantissa has 53 bits unless the exponent is the least one. -/
inductive Binary64 where
  | finite (negative : Bool) (mantissa : Nat) (exponent : Int)
  | infinite (negative : Bool)
  | nan
deriving DecidableEq, Repr, Inhabited

namespace Binary64

def leastExponent : Int := -1074

def greatestExponent : Int := 971

/-- The quotient rounded to the nearest integer, ties to the even one. -/
def roundedQuotient (a b : Nat) : Nat :=
  let q := a / b
  let r := a % b
  if 2 * r < b then q else if b < 2 * r then q + 1 else q + q % 2

/-- The number nearest to `± a / b`, for `b ≠ 0`. -/
def ofFraction (negative : Bool) (a b : Nat) : Binary64 :=
  if a == 0 then .finite negative 0 leastExponent
  else
    let guess : Int := (Nat.log2 a : Int) - (Nat.log2 b : Int) - 52
    let scaled (e : Int) : Nat × Nat :=
      if e < 0 then (a * Nat.pow 2 (-e).toNat, b) else (a, b * Nat.pow 2 e.toNat)
    let fits (e : Int) : Bool := let (x, y) := scaled e; x / y < Nat.pow 2 53
    let e := if fits (guess - 1) then guess - 1 else if fits guess then guess else guess + 1
    let e := if e < leastExponent then leastExponent else e
    let (x, y) := scaled e
    let m := roundedQuotient x y
    let (m, e) := if m == Nat.pow 2 53 then (Nat.pow 2 52, e + 1) else (m, e)
    if greatestExponent < e then .infinite negative else .finite negative m e

/-- The number nearest to `± digits · 10 ^ exponent`. -/
def ofDecimal (negative : Bool) (digits : Nat) (exponent : Int) : Binary64 :=
  if digits == 0 then .finite negative 0 leastExponent
  else
    let size : Int := (Nat.toDigits 10 digits).length
    if 310 < size + exponent then .infinite negative
    else if size + exponent < -330 then .finite negative 0 leastExponent
    else if exponent < 0 then ofFraction negative digits (Nat.pow 10 (-exponent).toNat)
    else ofFraction negative (digits * Nat.pow 10 exponent.toNat) 1

/-- The integer part of a finite number. -/
def truncate? : Binary64 → Option Int
  | .finite negative m e =>
    let n : Nat := if e < 0 then m / Nat.pow 2 (-e).toNat else m * Nat.pow 2 e.toNat
    some (if negative then -n else n)
  | _ => none

/-- The decimal digits and the power of ten of a positive number `m · 2 ^ e`: the fewest digits
that read back, and of those the nearest. -/
def shortestDigits (m : Nat) (e : Int) : Nat × Int :=
  let value : Nat × Nat := if e < 0 then (m, Nat.pow 2 (-e).toNat) else (m * Nat.pow 2 e.toNat, 1)
  let (a, b) := value
  let size : Int := if b ≤ a then (Nat.toDigits 10 (a / b)).length
    else 1 - (Nat.toDigits 10 ((b - 1) / a)).length
  let reads (d : Nat) (p : Int) : Bool := ofDecimal false d p == .finite false m e
  let grid (k : Nat) : Option (Nat × Int) :=
    let p := size - k
    let (x, y) := if p < 0 then (a * Nat.pow 10 (-p).toNat, b) else (a, b * Nat.pow 10 p.toNat)
    let low := x / y
    let near := roundedQuotient x y
    let far := if near == low then low + 1 else low
    if reads near p then some (near, p) else if reads far p then some (far, p) else none
  ((List.range 18).findSome? fun k => grid (k + 1)).getD (m, e)

/-- Drops the zeros at the end of a digit string, counting them. -/
def dropZeros (fuel digits : Nat) (power : Int) : Nat × Int :=
  match fuel with
  | 0 => (digits, power)
  | fuel + 1 =>
    if digits != 0 && digits % 10 == 0 then dropZeros fuel (digits / 10) (power + 1)
    else (digits, power)

/-- The text of a positive number from its digits: positional for exponents from -4 to 15,
scientific with a signed exponent of at least two digits elsewhere. -/
def decimalText (digits : Nat) (power : Int) : String :=
  let (digits, power) := dropZeros 20 digits power
  let ds := Nat.toDigits 10 digits
  let point : Int := ds.length + power
  if -4 < point && point ≤ 16 then
    if point ≤ 0 then
      String.ofList ('0' :: '.' :: List.replicate (-point).toNat '0' ++ ds)
    else if ds.length ≤ point.toNat then
      String.ofList (ds ++ List.replicate (point.toNat - ds.length) '0' ++ ['.', '0'])
    else
      String.ofList (ds.take point.toNat ++ '.' :: ds.drop point.toNat)
  else
    let exponent := point - 1
    let fraction := match ds.drop 1 with
      | [] => []
      | rest => '.' :: rest
    let magnitude := Nat.toDigits 10 exponent.natAbs
    let magnitude := if magnitude.length < 2 then '0' :: magnitude else magnitude
    String.ofList (ds.take 1 ++ fraction ++ 'e' :: (if exponent < 0 then '-' else '+') :: magnitude)

/-- The text of a number. -/
def text : Binary64 → String
  | .nan => "nan"
  | .infinite negative => if negative then "-inf" else "inf"
  | .finite negative m e =>
    let body := if m == 0 then "0.0" else
      let (digits, power) := shortestDigits m e
      decimalText digits power
    if negative then "-" ++ body else body

/-- Whether a number is an integer, and which. -/
def integer? : Binary64 → Option Int
  | .finite negative m e =>
    if e < 0 && m % Nat.pow 2 (-e).toNat != 0 then none else truncate? (.finite negative m e)
  | _ => none

def isZero : Binary64 → Bool
  | .finite _ m _ => m == 0
  | _ => false

/-- The number with the other sign. -/
def negate : Binary64 → Binary64
  | .finite negative m e => .finite (!negative) m e
  | .infinite negative => .infinite (!negative)
  | .nan => .nan

/-- The number nearest to an integer. -/
def ofNat (n : Nat) : Binary64 :=
  ofFraction false n 1

/-- The number nearest to `± m · 2 ^ e`. -/
def ofScaled (negative : Bool) (m : Nat) (e : Int) : Binary64 :=
  if e < 0 then ofFraction negative m (Nat.pow 2 (-e).toNat)
  else ofFraction negative (m * Nat.pow 2 e.toNat) 1

/-- The rounded sum. A sum of zero is negative only if both numbers are. -/
def add : Binary64 → Binary64 → Binary64
  | .finite s m e, .finite s' m' e' =>
    let least := min e e'
    let signed (negative : Bool) (m : Nat) (e : Int) : Int :=
      let n : Int := (m * Nat.pow 2 (e - least).toNat : Nat)
      if negative then -n else n
    let sum := signed s m e + signed s' m' e'
    ofScaled (if sum == 0 then s && s' else sum < 0) sum.natAbs least
  | .infinite s, .infinite s' => if s == s' then .infinite s else .nan
  | .infinite s, .finite .. => .infinite s
  | .finite .., .infinite s => .infinite s
  | _, _ => .nan

/-- The rounded product. -/
def mul : Binary64 → Binary64 → Binary64
  | .finite s m e, .finite s' m' e' => ofScaled (s != s') (m * m') (e + e')
  | .infinite s, .infinite s' => .infinite (s != s')
  | .infinite s, .finite s' m _ => if m == 0 then .nan else .infinite (s != s')
  | .finite s m _, .infinite s' => if m == 0 then .nan else .infinite (s != s')
  | _, _ => .nan

/-- Equality of numbers: the two zeros are equal, and `nan` differs from everything. -/
def same : Binary64 → Binary64 → Bool
  | .finite s m e, .finite s' m' e' => (m == 0 && m' == 0) || (s == s' && m == m' && e == e')
  | .infinite s, .infinite s' => s == s'
  | _, _ => false

end Binary64

end Ripple
