-- SUMMARY: The encoding of an XML document, and its decoding.
import Ripple.Text.Encoding
import Ripple.Xml.CodePage
import Ripple.Xml.Lexical

/-! # The encoding of a document

A document is in UTF-8, unless a byte order mark or its declaration says otherwise.
-/

namespace Ripple.Xml

/-- What a document declares about itself. -/
structure Declared where
  encoding : Option (List Char) := none
  standalone : Bool := false
deriving Inhabited

/-- Characters of the values in an XML declaration. -/
def isDeclaredChar (c : Char) : Bool :=
  c.isAlphanum || c == '.' || c == '-' || c == '_'

/-- One item of an XML declaration: a name, an equals sign and a quoted value, after a space.
The outer `none` is an error, the inner one the end. -/
def declaredItem? (s : List Char) : Option (Option (List Char × List Char × List Char)) :=
  match s with
  | [] => some none
  | c :: rest =>
    if !isSpace c then none
    else
      match rest.dropWhile isSpace with
      | [] => some none
      | s =>
        let name := s.takeWhile fun c => c != '=' && !isSpace c
        match (s.drop name.length).dropWhile isSpace with
        | '=' :: rest =>
          if name.isEmpty then none
          else
            match rest.dropWhile isSpace with
            | quote :: rest =>
              if quote != '"' && quote != '\'' then none
              else
                let value := rest.takeWhile isDeclaredChar
                match rest.drop value.length with
                | close :: rest => if close == quote then some (some (name, value, rest)) else none
                | [] => none
            | [] => none
        | _ => none

/-- The last item of an XML declaration, and only blanks behind it. -/
def declaredEnd? (encoding : Option (List Char)) (item : List Char × List Char × List Char) :
    Option Declared :=
  let (name, value, rest) := item
  if name != "standalone".toList || !rest.all isSpace then none
  else if value == "yes".toList then some ⟨encoding, true⟩
  else if value == "no".toList then some ⟨encoding, false⟩
  else none

/-- The content of an XML declaration: a version, perhaps an encoding and a word on whether the
document stands alone. -/
def declared? (s : List Char) : Option Declared := do
  let some (name, _, rest) ← declaredItem? s | none
  if name != "version".toList then none
  else
    match ← declaredItem? rest with
    | none => some {}
    | some (name, value, rest) =>
      if name == "encoding".toList then
        if !(value.head?.any Char.isAlpha) then none
        else
          match ← declaredItem? rest with
          | none => some { encoding := some value }
          | some item => declaredEnd? (some value) item
      else declaredEnd? none (name, value, rest)

/-- The declaration at the front of a document, if there is one, and the rest. -/
def declaration? (s : List Char) : Option (Declared × List Char) :=
  match dropText? "<?xml".toList s with
  | some (c :: rest) =>
    if isSpace c then do
      let (content, rest) ← cutAt? ['?', '>'] (c :: rest)
      some (← declared? content, rest)
    else some ({}, s)
  | _ => some ({}, s)

/-- The characters of bytes that are one character each; `none` if a byte has none. -/
def pageText? (page : String) (bytes : Bytes) : Option (List Char) :=
  let further := page.toList
  bytes.mapM fun b =>
    let n := b.toNat
    if n < 128 then some (Char.ofNat n)
    else
      match further[n - 128]? with
      | some c => if c == '\ufffd' then none else some c
      | none => none

/-- The text of bytes in a declared encoding. -/
def decodeDeclared (name : List Char) (bytes : Bytes) : Except XmlError (List Char) :=
  let strict (text? : Option (List Char)) : Except XmlError (List Char) :=
    match text? with
    | some text => .ok text
    | none => .error .malformed
  let upper := name.map Char.toUpper
  let canonical := Ripple.Encoding.lookupName (String.ofList name)
  if upper == "UTF-8".toList then strict (Utf8.decode? bytes)
  else if ["UTF-16", "UTF-16BE", "UTF-16LE"].any (·.toList == upper) then .error .malformed
  else if latinPages.contains canonical then .ok (bytes.map fun b => Char.ofNat b.toNat)
  else if plainPages.contains canonical then strict (pageText? "" bytes)
  else
    match codePages.find? (·.1.contains canonical) with
    | some (_, page) => strict (pageText? page bytes)
    | none =>
      if wideEncodings.contains canonical then .error .unsupportedEncoding
      else if foreignEncodings.contains canonical then .error .malformed
      else if canonical == "idna" || canonical == "undefined" then .error .unreadableEncoding
      else if canonical == "punycode" then .error .undecodable
      else .error .unknownEncoding

/-- Pairs of bytes as characters; `none` if they are no text. -/
def wideText? (bigEndian : Bool) (bytes : Bytes) : Option (List Char) :=
  (Ripple.Encoding.unitChars (Ripple.Encoding.units bigEndian bytes)).mapM id

/-- The text of a document in 16-bit units behind its declaration, which must not name another
encoding. -/
def decodeWide (bigEndian : Bool) (bytes : Bytes) : Except XmlError (Bool × List Char) :=
  match wideText? bigEndian bytes with
  | none => .error .malformed
  | some text =>
    match declaration? text with
    | none => .error .malformed
    | some (declared, rest) =>
      let same := if bigEndian then "UTF-16BE" else "UTF-16LE"
      match declared.encoding with
      | none => .ok (declared.standalone, rest)
      | some name =>
        let upper := name.map Char.toUpper
        if upper == "UTF-16".toList || upper == same.toList then .ok (declared.standalone, rest)
        else do
          let _ ← decodeDeclared name []
          .error .malformed

/-- The text of a document behind its declaration, and whether it stands alone. -/
def decode (bytes : Bytes) : Except XmlError (Bool × List Char) :=
  match bytes with
  | 0xFE :: 0xFF :: rest => decodeWide true rest
  | 0xFF :: 0xFE :: rest => decodeWide false rest
  | 0x00 :: _ :: _ => decodeWide true bytes
  | _ :: 0x00 :: _ => decodeWide false bytes
  | bytes =>
    let bytes := match bytes with
      | 0xEF :: 0xBB :: 0xBF :: rest => rest
      | bytes => bytes
    let ascii := bytes.map fun b => Char.ofNat b.toNat
    match declaration? ascii with
    | none => .error .malformed
    | some (declared, rest) => do
      let bytes := bytes.drop (bytes.length - rest.length)
      let text ← match declared.encoding, Utf8.decode? bytes with
        | some name, _ => decodeDeclared name bytes
        | none, some text => .ok text
        | none, none => .error .malformed
      .ok (declared.standalone, text)

end Ripple.Xml
