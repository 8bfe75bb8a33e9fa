-- SUMMARY: The normal form of a table's name.
import Ripple.Text.Blank
import Ripple.Text.Upper

/-! # Table names

Statements spell one table in many ways: with a schema in front, in quotes of several kinds, in any
letter case. The normal form keeps none of that.
-/

namespace Ripple.TableName

/-- Characters that only quote a name. -/
def isQuote (c : Char) : Bool :=
  c == '\x60' || c == '\'' || c == '"' || c == '[' || c == ']'

/-- The normal form of a table name, on characters: the part after the last point, without quotes
and outer blanks, in upper case. -/
def normalChars (name : List Char) : List Char :=
  let last := Text.afterLast (· == '.') (Text.trim name)
  Text.upper (Text.trim (last.filter (!isQuote ·)))

/-- The normal form of a table name. -/
def normalize (name : String) : String :=
  String.ofList (normalChars name.toList)

end Ripple.TableName
