-- SUMMARY: The upper-case form of a text.
import Ripple.Text.UpperTable

/-! # Upper case

The upper-case form of a text, for every script: some characters become several, as the German
sharp s does.
-/

namespace Ripple.Text

/-- The upper-case form of a character outside the basic Latin block. -/
def upperWide (n : Nat) : List Nat :=
  match upperExpansions.find? (·.1 == n) with
  | some (_, image) => image
  | none =>
    match upperRunImages.find? fun (first, last, step, _) =>
        first ≤ n && n ≤ last && (n - first) % step == 0 with
    | some (first, _, _, image) => [n - first + image]
    | none => [n]

/-- The upper-case form of a character. -/
def upperChar (c : Char) : List Char :=
  if c.toNat < 128 then [c.toUpper] else (upperWide c.toNat).map Char.ofNat

/-- The upper-case form of a text. -/
def upper (s : List Char) : List Char :=
  s.flatMap upperChar

end Ripple.Text
