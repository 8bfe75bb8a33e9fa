-- SUMMARY: The values of YAML scalars, by their form and by their tags.
import Ripple.Datum
import Ripple.Text.Lower
import Ripple.Text.Real
import Ripple.Yaml.Tag

/-! # Scalars

What a scalar without a tag stands for is told by its form. A scalar with a tag is read as the tag
says.
-/

namespace Ripple.Yaml.Scalar

/-! ## Forms -/

def isDigitOrUnderscore (c : Char) : Bool :=
  c.isDigit || c == '_'

/-- A text without its sign. -/
def unsigned : List Char → List Char
  | '+' :: s => s
  | '-' :: s => s
  | s => s

/-- Whether a text is empty or an exponent with its sign. -/
def isExponent : List Char → Bool
  | [] => true
  | e :: sign :: digits =>
    (e == 'e' || e == 'E') && (sign == '+' || sign == '-') && !digits.isEmpty &&
      digits.all Char.isDigit
  | _ => false

/-- Whether a part between colons is a number below sixty. -/
def isSixtieth : List Char → Bool
  | [a] => a.isDigit
  | [a, b] => '0' ≤ a && a ≤ '5' && b.isDigit
  | _ => false

/-- A number in parts of sixty: a first part and at least one other. -/
def isSexagesimal (isFirst : Char → Bool) (s : List Char) : Bool :=
  match Text.splitWhen (· == ':') s with
  | (c :: first) :: part :: parts =>
    isFirst c && first.all isDigitOrUnderscore && (part :: parts).all isSixtieth
  | _ => false

def isBool (s : List Char) : Bool :=
  ["yes", "Yes", "YES", "no", "No", "NO", "true", "True", "TRUE", "false", "False", "FALSE", "on",
    "On", "ON", "off", "Off", "OFF"].any (·.toList == s)

def isNull (s : List Char) : Bool :=
  ["", "~", "null", "Null", "NULL"].any (·.toList == s)

def isInt (s : List Char) : Bool :=
  match unsigned s with
  | ['0'] => true
  | '0' :: 'b' :: digits =>
    !digits.isEmpty && digits.all fun c => c == '0' || c == '1' || c == '_'
  | '0' :: 'x' :: digits =>
    !digits.isEmpty &&
      digits.all fun c => isDigitOrUnderscore c || ('a' ≤ c && c ≤ 'f') || ('A' ≤ c && c ≤ 'F')
  | '0' :: digits => digits.all fun c => ('0' ≤ c && c ≤ '7') || c == '_'
  | c :: digits =>
    (c.isDigit && digits.all isDigitOrUnderscore) ||
      isSexagesimal (fun c => c.isDigit && c != '0') (c :: digits)
  | [] => false

def isReal (s : List Char) : Bool :=
  let body := unsigned s
  let whole := body.takeWhile isDigitOrUnderscore
  let rest := body.drop whole.length
  if [".inf", ".Inf", ".INF"].any (·.toList == body) then true
  else if [".nan", ".NaN", ".NAN"].any (·.toList == s) then true
  else
    match whole, rest with
    | [], '.' :: c :: fraction =>
      s == body && c.isDigit && isExponent (fraction.dropWhile isDigitOrUnderscore)
    | c :: _, '.' :: fraction =>
      c.isDigit && isExponent (fraction.dropWhile isDigitOrUnderscore)
    | _, _ =>
      match Text.cutLast? (· == '.') body with
      | some (before, after) => isSexagesimal Char.isDigit before && after.all isDigitOrUnderscore
      | none => false

/-! ## Dates and times -/

/-- One or two digits. -/
def shortNumber? (s : List Char) : Option (Nat × List Char) :=
  match s with
  | a :: b :: rest =>
    if a.isDigit && b.isDigit then some ((a.toNat - 48) * 10 + (b.toNat - 48), rest)
    else if a.isDigit then some (a.toNat - 48, b :: rest)
    else none
  | [a] => if a.isDigit then some (a.toNat - 48, []) else none
  | [] => none

/-- The number of a run of digits. -/
def decimal (digits : List Char) : Nat :=
  digits.foldl (fun n c => n * 10 + (c.toNat - 48)) 0

/-- Exactly so many digits. -/
def digits? (count : Nat) (s : List Char) : Option (Nat × List Char) :=
  let digits := s.take count
  if digits.length == count && digits.all Char.isDigit then some (decimal digits, s.drop count)
  else none

def sign? (c : Char) : List Char → Option (List Char)
  | [] => none
  | first :: rest => if first == c then some rest else none

/-- The zone behind a time. -/
def zone? (s : List Char) : Option (Option Int) :=
  match s.dropWhile fun c => c == ' ' || c == '\t' with
  | [] => if s.isEmpty then some none else none
  | ['Z'] => some (some 0)
  | sign :: rest =>
    if sign != '+' && sign != '-' then none
    else do
      let (hours, rest) ← shortNumber? rest
      let minutes ← match rest with
        | [] => some 0
        | rest => do
          let (minutes, rest) ← digits? 2 (← sign? ':' rest)
          if rest.isEmpty then some minutes else none
      let ahead : Int := hours * 60 + minutes
      some (some (if sign == '-' then -ahead else ahead))

/-- The time behind a date. -/
def dayTime? (s : List Char) : Option DayTime := do
  let isSeparator (c : Char) : Bool := c == ' ' || c == '\t'
  let s ← match s with
    | c :: rest =>
      if c == 'T' || c == 't' then some rest
      else if isSeparator c then some (rest.dropWhile isSeparator)
      else none
    | [] => none
  let (hour, s) ← shortNumber? s
  let (minute, s) ← digits? 2 (← sign? ':' s)
  let (second, s) ← digits? 2 (← sign? ':' s)
  let (fraction, s) := match s with
    | '.' :: rest => (rest.takeWhile Char.isDigit, rest.dropWhile Char.isDigit)
    | s => ([], s)
  let millionth := decimal ((fraction ++ List.replicate 6 '0').take 6)
  some { hour, minute, second, millionth, zone := ← zone? s }

/-- The date or time that a text spells. -/
def timestamp? (s : List Char) : Option Timestamp := do
  let (year, rest) ← digits? 4 (Text.chomp s)
  let (month, rest) ← shortNumber? (← sign? '-' rest)
  let (day, rest) ← shortNumber? (← sign? '-' rest)
  if rest.isEmpty then some { year, month, day }
  else some { year, month, day, time := some (← dayTime? rest) }

/-- Whether a text has the form of a date or time. A date alone has two digits for month and day. -/
def isTimestamp (s : List Char) : Bool :=
  (timestamp? s).any fun t => t.time.isSome || s.length == 10

/-- The tag of a scalar that has none. A line feed at the end of the text does not count. The signs
that stand in front of nodes mean nothing alone. -/
def implicitTag (s : List Char) : Tag :=
  let form := Text.chomp s
  if s == ['\n'] then .text
  else if isBool form then .bool
  else if isReal form then .real
  else if isInt form then .int
  else if form == ['<', '<'] then .merge
  else if isNull form then .null
  else if isTimestamp form then .moment
  else if form == ['='] then .value
  else if form == ['!'] || form == ['&'] || form == ['*'] then .unknown
  else .text

/-! ## Values -/

/-- The value that was read, if any. -/
def accepted (value? : Option α) : Except Fault α :=
  match value? with
  | some value => .ok value
  | none => .error .invalidValue

/-- Whether a text begins with a minus sign, and the text without a sign. -/
def splitSign : List Char → Bool × List Char
  | '-' :: s => (true, s)
  | '+' :: s => (false, s)
  | s => (false, s)

/-- Parts of a text read as numbers, the last one being the units and each other worth sixty times
as much as the next. -/
def sexagesimal? (s : List Char) : Option Int :=
  (Text.splitWhen (· == ':') s).foldlM (fun n part => (Text.readInteger? part).map (n * 60 + ·)) 0

/-- An integer, in parts of sixty, or in the base that its front tells. -/
def readInt (s : List Char) : Except Fault Datum :=
  let (negative, body) := splitSign (s.filter (· != '_'))
  let read? : Option Int :=
    match body with
    | ['0'] => some 0
    | '0' :: 'b' :: digits => Text.readInBase? 2 'b' digits
    | '0' :: 'x' :: digits => Text.readInBase? 16 'x' digits
    | '0' :: digits => Text.readInBase? 8 'o' ('0' :: digits)
    | body => if body.contains ':' then sexagesimal? body else Text.readInteger? body
  if body.isEmpty then .error .outOfRange
  else do
    let n ← accepted read?
    return .int (if negative then -n else n)

/-- The sum of numbers of which each is worth sixty times as much as the one before. -/
def sexagesimalSum (digits : List Binary64) : Except Fault Binary64 := do
  let (sum, _) ← digits.foldlM (fun (sum, unit) digit =>
    match Binary64.ofNat unit with
    | .infinite _ => Except.error Fault.overflow
    | factor => .ok (sum.add (digit.mul factor), unit * 60)) (Binary64.ofNat 0, 1)
  return sum

/-- A floating-point number, which may be in parts of sixty. -/
def readReal (s : List Char) : Except Fault Datum := do
  let text := (s.filter (· != '_')).map Char.toLower
  let (negative, body) := splitSign text
  let signed (x : Binary64) : Datum := .real (if negative then x.negate else x)
  if text.isEmpty then .error .outOfRange
  else if body == ".inf".toList then return signed (.infinite false)
  else if body == ".nan".toList then return .real .nan
  else if body.contains ':' then
    let digits ← accepted ((Text.splitWhen (· == ':') body).mapM Text.readReal?)
    return signed (← sexagesimalSum digits.reverse)
  else return signed (← accepted (Text.readReal? body))

def readBool (s : List Char) : Except Fault Datum :=
  let lower := String.ofList (Text.lower s)
  if ["yes", "true", "on"].contains lower then .ok (.bool true)
  else if ["no", "false", "off"].contains lower then .ok (.bool false)
  else .error (.missingKey lower)

def readMoment (s : List Char) : Except Fault Datum :=
  match timestamp? s with
  | none => .error .missingPart
  | some time => if time.isValid then .ok (.moment time) else .error .invalidValue

/-- The value of a base 64 digit. -/
def base64Digit? (c : Char) : Option Nat :=
  if c.isUpper then some (c.toNat - 65)
  else if c.isLower then some (c.toNat - 71)
  else if c.isDigit then some (c.toNat + 4)
  else if c == '+' then some 62
  else if c == '/' then some 63
  else none

/-- The bytes of base 64 digits: four digits make three bytes. `place` is the place of the next
digit in its group, `left` what is left of the digits before it, and `fill` how many fill characters
have come since the last digit. Fill characters end the bytes if they complete a group that has two
digits; other characters are skipped. -/
def base64Bytes? (place left fill : Nat) : List Char → Option Bytes
  | [] => if place == 0 then some [] else none
  | c :: rest =>
    match base64Digit? c with
    | some d =>
      match place with
      | 0 => base64Bytes? 1 d 0 rest
      | 1 => (base64Bytes? 2 (d % 16) 0 rest).map ((left * 4 + d / 16).toUInt8 :: ·)
      | 2 => (base64Bytes? 3 (d % 4) 0 rest).map ((left * 16 + d / 4).toUInt8 :: ·)
      | _ => (base64Bytes? 0 0 0 rest).map ((left * 64 + d).toUInt8 :: ·)
    | none =>
      if c == '=' && 2 ≤ place then
        if 4 ≤ place + fill + 1 then some [] else base64Bytes? place left (fill + 1) rest
      else base64Bytes? place left fill rest

/-- Bytes in base 64. -/
def readBinary (s : List Char) : Except Fault Datum :=
  match if s.all (·.toNat < 128) then base64Bytes? 0 0 0 s else none with
  | some bytes => .ok (.bytes bytes)
  | none => .error .malformedDocument

/-- The value of a scalar with a tag. -/
def read (tag : Tag) (s : List Char) : Except Fault Datum :=
  match tag with
  | .null => .ok .null
  | .bool => readBool s
  | .int => readInt s
  | .real => readReal s
  | .binary => readBinary s
  | .moment => readMoment s
  | .text => .ok (.text (String.ofList s))
  | _ => .error .malformedDocument

end Ripple.Yaml.Scalar
