-- SUMMARY: The faults that end an operation, and their messages.
import Ripple.Text.Quoted

/-! # Faults -/

namespace Ripple

/-- Why an operation of the analyzer stops. -/
inductive Fault where
  /-- Indexing was cancelled. -/
  | cancelled
  /-- A query before the indices are built. -/
  | notInitialized (operation : String)
  /-- A field that a record must have is missing. -/
  | missingKey (key : String)
  /-- A value of a kind that the operation cannot use. -/
  | wrongType
  /-- A value without the parts that the operation asks for. -/
  | missingPart
  /-- A value of the right kind that is not acceptable. -/
  | invalidValue
  /-- A number beyond all bounds. -/
  | overflow
  /-- A list that is too short. -/
  | outOfRange
  /-- The name of an encoding that is not known. -/
  | unknownEncoding
  /-- A text in 16-bit units without a byte order mark. -/
  | missingByteOrder
  /-- An encoding in which nothing can be read. -/
  | unreadableEncoding
  /-- Bytes that are no text. -/
  | undecodable
  /-- A text that cannot be written as bytes. -/
  | unencodable
  /-- A folder in the place of a file. -/
  | isFolder
  /-- A path that the files cannot be asked for. -/
  | inaccessible
  /-- A text that is no YAML document. -/
  | malformedDocument
  /-- A value that stands for itself. -/
  | endless
  /-- Settings that are refused, with the reason. -/
  | refusedSettings (reason : String)
deriving DecidableEq, Repr

/-- What a fault is told by. -/
def Fault.message : Fault → String
  | .cancelled => "Indexing was cancelled"
  | .notInitialized operation =>
    "ImpactAnalyzer is not initialized: call initialize() before " ++ operation ++ "()"
  | .missingKey key => Text.quoted key
  | .wrongType => "A value is of the wrong kind"
  | .missingPart => "A value lacks a part"
  | .invalidValue => "A value is not acceptable"
  | .overflow => "A number is too large"
  | .outOfRange => "A list is too short"
  | .unknownEncoding => "An encoding is not known"
  | .missingByteOrder => "A byte order mark is missing"
  | .unreadableEncoding => "Nothing can be read in an encoding"
  | .undecodable => "A file is no text"
  | .unencodable => "A text cannot be written"
  | .isFolder => "A folder is in the place of a file"
  | .inaccessible => "A path cannot be asked for"
  | .malformedDocument => "A document is malformed"
  | .endless => "A value stands for itself"
  | .refusedSettings reason => reason

end Ripple
