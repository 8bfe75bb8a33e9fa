-- SUMMARY: UTF-8: encoding, and decoding with pieces that are no characters.
/-! # UTF-8

A byte sequence is read as a sequence of pieces: characters, and stretches of bytes that no
character begins with. A stretch is as long as it could still have become a character.
-/

namespace Ripple

abbrev Bytes := List UInt8

namespace Utf8

/-- The bytes of a text. -/
def encode (s : List Char) : Bytes :=
  s.flatMap String.utf8EncodeChar

/-- A character whose first bytes were read: how many bytes are still due, the bits so far, and the
range of the next byte. -/
structure Partial where
  due : Nat
  bits : Nat
  low : Nat
  high : Nat
deriving DecidableEq, Repr

/-- What one byte at the start of a piece gives: pieces that end with it, and a character that it
begins. -/
def begin (b : Nat) : List (Option Char) × Option Partial :=
  if b < 0x80 then ([some (Char.ofNat b)], none)
  else if b < 0xC2 then ([none], none)
  else if b < 0xE0 then ([], some ⟨1, b - 0xC0, 0x80, 0xBF⟩)
  else if b == 0xE0 then ([], some ⟨2, 0, 0xA0, 0xBF⟩)
  else if b == 0xED then ([], some ⟨2, 0xD, 0x80, 0x9F⟩)
  else if b < 0xF0 then ([], some ⟨2, b - 0xE0, 0x80, 0xBF⟩)
  else if b == 0xF0 then ([], some ⟨3, 0, 0x90, 0xBF⟩)
  else if b < 0xF4 then ([], some ⟨3, b - 0xF0, 0x80, 0xBF⟩)
  else if b == 0xF4 then ([], some ⟨3, 4, 0x80, 0x8F⟩)
  else ([none], none)

/-- What one byte gives after the start of a character, if there is one. -/
def step (p : Option Partial) (b : Nat) : List (Option Char) × Option Partial :=
  match p with
  | none => begin b
  | some p =>
    if p.low ≤ b && b ≤ p.high then
      let bits := p.bits * 64 + (b - 0x80)
      if p.due == 1 then ([some (Char.ofNat bits)], none)
      else ([], some ⟨p.due - 1, bits, 0x80, 0xBF⟩)
    else
      let (ps, q) := begin b
      (none :: ps, q)

/-- The pieces of a byte sequence, and the character that its end cuts short, if any. -/
def piecesFrom : Option Partial → Bytes → List (Option Char) × Option Partial
  | p, [] => ([], p)
  | p, byte :: rest =>
    let (now, p) := step p byte.toNat
    let (later, p) := piecesFrom p rest
    (now ++ later, p)

/-- The pieces of a byte sequence; `none` stands for bytes that are no character. -/
def pieces (bytes : Bytes) : List (Option Char) :=
  match piecesFrom none bytes with
  | (ps, none) => ps
  | (ps, some _) => ps ++ [none]

/-- The text of a byte sequence that holds characters only. -/
def decode? (bytes : Bytes) : Option (List Char) :=
  (pieces bytes).mapM id

/-- The text of any byte sequence, with the replacement character for what is no character. -/
def decodeLossy (bytes : Bytes) : List Char :=
  (pieces bytes).map (·.getD '�')

end Utf8

end Ripple
