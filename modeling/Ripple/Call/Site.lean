-- SUMMARY: Call sites and the references that they leave, with names of any type.
/-! # Call sites

A call site says which method is called, by which method, in which file and on which line. The
names are texts in an index built from sources; a log read back from disk may hold other values.
-/

namespace Ripple

/-- Where a call comes from. -/
structure CallReference (ν : Type := String) where
  caller : ν
  file : ν
  line : Int
deriving DecidableEq, Repr

/-- A call reference with the method that it calls. -/
structure CallSite (ν : Type := String) where
  callee : ν
  reference : CallReference ν
deriving DecidableEq, Repr

/-- The text of a reference. -/
def CallReference.text (ref : CallReference) : String :=
  ref.file ++ ":" ++ toString ref.line ++ ":" ++ ref.caller

end Ripple
