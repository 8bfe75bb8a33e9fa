-- SUMMARY: Names of pictographs between colons, replaced by the pictographs.
import Ripple.Text.Blank
import Ripple.Text.Lower
import Ripple.Text.PictographTable

/-! # Pictographs

In a text a name between colons stands for a pictograph. Behind the name it can be said whether it
is shown as text or as picture. What is between colons and no name stays as it is.
-/

namespace Ripple.Text

/-- The character of a code in hexadecimal digits. -/
def hexChar (digits : List Char) : Char :=
  Char.ofNat (digits.foldl (fun n c => n * 16 + if c.isDigit then c.toNat - 48 else c.toNat - 87) 0)

/-- The entries of a table: the names and what they stand for. -/
def tableEntries (lines : List String) : List (List Char × List Char) :=
  lines.flatMap fun line => (splitWhen (· == ' ') line.toList).filterMap (cutFirst? (· == '='))

/-- The tones of skin. -/
def skinTones : List (String × Char) :=
  [("light", Char.ofNat 0x1F3FB), ("medium-light", Char.ofNat 0x1F3FC),
    ("medium", Char.ofNat 0x1F3FD), ("medium-dark", Char.ofNat 0x1F3FE),
    ("dark", Char.ofNat 0x1F3FF)]

/-- A pictograph in a tone, which stands behind the first character and replaces a selector
there. -/
def inTone (tone : Char) : List Char → List Char
  | [] => []
  | c :: rest => c :: tone :: if rest.head? == some '\ufe0f' then rest.drop 1 else rest

/-- A pictograph under its name, and in all tones of skin if there is a tilde behind the name. -/
def withTones (name picture : List Char) : List (List Char × List Char) :=
  match cutFirst? (· == '~') name with
  | none => [(name, picture)]
  | some (name, _) =>
    (name, picture) :: skinTones.map fun (tone, mark) =>
      (name ++ ("_" ++ tone ++ "_skin_tone").toList, inTone mark picture)

/-- The flag of two letters under the name of a country and as the flag for it. -/
def withFlag (name letters : List Char) : List (List Char × List Char) :=
  let flag := letters.map fun c => Char.ofNat (0x1F1E6 + (c.toNat - 97))
  [(name, flag), ("flag_for_".toList ++ name, flag)]

/-- The pictographs by name. -/
def pictographs : List (List Char × List Char) :=
  ((tableEntries pictographLines).flatMap fun (name, codes) =>
    withTones name ((splitWhen (· == '-') codes).map hexChar)) ++
  (tableEntries countryLines).flatMap fun (name, letters) => withFlag name letters

/-- The pictograph with a name. -/
def pictograph? (name : List Char) : Option (List Char) :=
  pictographs.lookup name

/-- The ends of a name: the colon, perhaps behind the word for a form, with the selector of that
form. -/
def nameEnds : List (List Char × List Char) :=
  [("-emoji:".toList, ['\ufe0f']), ("-text:".toList, ['\ufe0e']), ([':'], [])]

/-- The name at the front of a text up to the first end, with the selector and what follows. -/
def codeName? : List Char → Option (List Char × List Char × List Char)
  | [] => none
  | c :: rest =>
    match nameEnds.find? fun (ending, _) => ending.isPrefixOf (c :: rest) with
    | some (ending, selector) => some ([], selector, (c :: rest).drop ending.length)
    | none =>
      if isBlank c then none
      else (codeName? rest).map fun (name, found) => (c :: name, found)

/-- Puts pictographs for their names; `fuel` is at least the length of the text. -/
def withPictographsFrom : Nat → List Char → List Char
  | _, [] => []
  | 0, s => s
  | fuel + 1, c :: rest =>
    match if c == ':' then codeName? rest else none with
    | none => c :: withPictographsFrom fuel rest
    | some (name, selector, after) =>
      let shown := match pictograph? (lower name) with
        | some picture => picture ++ selector
        | none => (c :: rest).take (rest.length + 1 - after.length)
      shown ++ withPictographsFrom fuel after

/-- A text with pictographs for their names. -/
def withPictographs (s : List Char) : List Char :=
  withPictographsFrom s.length s

end Ripple.Text
