-- SUMMARY: Decoding of source files by the name of their encoding.
import Ripple.Text.Blank
import Ripple.Text.Utf8

/-! # Text encodings

How the bytes of a source file become text. Bytes that mean nothing in the encoding become the
replacement character, and the line ends of all systems become line feeds.
-/

namespace Ripple

/-- The encodings of source files. -/
inductive Encoding where
  | utf8
  | latin1
  | ascii
  | utf16
deriving DecidableEq, Repr

namespace Encoding

/-- The spelling of an encoding name that comparisons use: lower case, with one hyphen between the
parts. -/
def canonical (name : String) : String :=
  let parts := Text.splitWhen (fun c => !c.isAlphanum && c != '.') (name.toList.map Char.toLower)
  String.ofList (['-'].intercalate (parts.filter (!·.isEmpty)))

/-- The names that have points themselves. -/
def pointedNames : List String :=
  ["ansi-x3.4-1968", "ansi-x3.4-1986", "iso-646.irv-1991"]

/-- The names that have hyphens only and cannot be written with points. -/
def hyphenedNames : List String :=
  ["euc-jis-2004", "euc-jisx0213", "euc-jp", "euc-kr", "hp-roman8", "iso2022-jp", "iso2022-jp-1",
    "iso2022-jp-2", "iso2022-jp-2004", "iso2022-jp-3", "iso2022-jp-ext", "iso2022-kr", "iso8859-10",
    "iso8859-11", "iso8859-13", "iso8859-14", "iso8859-15", "iso8859-16", "iso8859-2", "iso8859-3",
    "iso8859-4", "iso8859-5", "iso8859-6", "iso8859-7", "iso8859-8", "iso8859-9", "koi8-r",
    "koi8-t", "koi8-u", "latin-1", "mac-arabic", "mac-croatian", "mac-cyrillic", "mac-farsi",
    "mac-greek", "mac-iceland", "mac-latin2", "mac-roman", "mac-romanian", "mac-turkish",
    "raw-unicode-escape", "shift-jis", "shift-jis-2004", "shift-jisx0213", "tis-620",
    "unicode-escape", "utf-16", "utf-16-be", "utf-16-le", "utf-32", "utf-32-be", "utf-32-le",
    "utf-7", "utf-8", "utf-8-sig"]

/-- The name that an encoding is looked up by. Points count as hyphens in most names. -/
def lookupName (name : String) : String :=
  let name := canonical name
  let hyphened := name.map fun c => if c == '.' then '-' else c
  if pointedNames.contains name || hyphenedNames.contains hyphened then name else hyphened

/-- The names of each encoding. -/
def names : Encoding → List String
  | .utf8 => ["utf-8", "utf8", "u8", "utf", "cp65001", "utf8-ucs2", "utf8-ucs4"]
  | .latin1 => ["latin-1", "latin1", "latin", "l1", "iso-8859-1", "iso8859-1", "iso8859", "8859",
      "cp819", "csisolatin1", "ibm819", "iso-8859-1-1987", "iso-ir-100"]
  | .ascii => ["ascii", "us-ascii", "us", "646", "ansi-x3.4-1968", "ansi-x3-4-1968", "ansi-x3.4-1986",
      "cp367", "csascii", "ibm367", "iso646-us", "iso-646.irv-1991", "iso-ir-6"]
  | .utf16 => ["utf-16", "utf16", "u16"]

/-- The encoding of a name, if it is known. -/
def ofName? (name : String) : Option Encoding :=
  [utf8, latin1, ascii, utf16].find? (·.names.contains (lookupName name))

/-- Pairs the bytes up into code units; a byte left over gives no unit. -/
def units (bigEndian : Bool) : Bytes → List (Option Nat)
  | [] => []
  | [_] => [none]
  | a :: b :: rest =>
    some (if bigEndian then a.toNat * 256 + b.toNat else b.toNat * 256 + a.toNat) ::
      units bigEndian rest

/-- The characters of a sequence of 16-bit code units; a unit that means nothing gives `none`. -/
def unitChars : List (Option Nat) → List (Option Char)
  | [] => []
  | none :: rest => none :: unitChars rest
  | some a :: rest =>
    if 0xD800 ≤ a && a ≤ 0xDBFF then
      match rest with
      | some b :: rest =>
        if 0xDC00 ≤ b && b ≤ 0xDFFF then
          some (Char.ofNat (0x10000 + (a - 0xD800) * 0x400 + (b - 0xDC00))) :: unitChars rest
        else none :: unitChars (some b :: rest)
      | rest => none :: unitChars rest
    else if 0xDC00 ≤ a && a ≤ 0xDFFF then none :: unitChars rest
    else some (Char.ofNat a) :: unitChars rest

/-- The text of a sequence of 16-bit code units. -/
def unitsText (units : List (Option Nat)) : List Char :=
  (unitChars units).map (·.getD '�')

/-- The text of bytes in an encoding; `none` for 16-bit units without a byte order mark. -/
def decode? : Encoding → Bytes → Option (List Char)
  | .utf8, bytes => some (Utf8.decodeLossy bytes)
  | .latin1, bytes => some (bytes.map fun b => Char.ofNat b.toNat)
  | .ascii, bytes => some (bytes.map fun b => if b.toNat < 128 then Char.ofNat b.toNat else '�')
  | .utf16, bytes =>
    match bytes with
    | 0xFF :: 0xFE :: rest => some (unitsText (units false rest))
    | 0xFE :: 0xFF :: rest => some (unitsText (units true rest))
    | [] => some []
    | [_] => some ['�']
    | _ => none

end Encoding

/-- A text in which every line ends with a line feed. -/
def Text.plainLineEnds : List Char → List Char
  | [] => []
  | '\r' :: '\n' :: rest => '\n' :: plainLineEnds rest
  | '\r' :: rest => '\n' :: plainLineEnds rest
  | c :: rest => c :: plainLineEnds rest

end Ripple
