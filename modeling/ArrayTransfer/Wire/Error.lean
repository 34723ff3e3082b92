import ArrayTransfer.Bytes
import ArrayTransfer.DataType.Basic
import ArrayTransfer.Json.Printer
import ArrayTransfer.Selection.Error

/-!
What can be wrong with elements on the wire.
-/

namespace ArrayTransfer

/-- Why a response is no document with values. -/
inductive Malformed where
  | notJson
  | noValue
  deriving DecidableEq

/-- Why elements cannot be decoded or encoded. -/
inductive WireError where
  | malformed (cause : Malformed)
  | unsupportedElement (value : Json) (type : DataType)
  | unsupportedType (type : DataType)
  | countMismatch (got expected : Nat)
  | invalidReference (text : String)
  | bufferLength (mismatch : LengthMismatch)
  | uncountable (type : DataType) (count : Nat)
  | selection (error : SelectionError)

/-- The text of a wire error. Of a body that is not JSON nothing more is said. -/
def WireError.message : WireError → String
  | malformed .notJson => "malformed JSON response: "
  | malformed .noValue => "malformed JSON response: response has no value field"
  | unsupportedElement value t => "unsupported JSON value " ++ value.render ++ " for data type " ++ t.name
  | unsupportedType t => "data type " ++ t.name ++ " cannot be transferred"
  | countMismatch got expected => s!"response holds {got} elements, expected {expected}"
  | invalidReference text => "invalid object reference " ++ Text.quote text
  | bufferLength mismatch => mismatch.message
  | uncountable t count => s!"the bytes of {count} elements of {t.name} cannot be counted"
  | selection error => error.message

/-- Whether the program stops with the error and answers nothing: the length of the elements is no word. -/
def WireError.stops : WireError → Bool
  | uncountable .. => true
  | _ => false

end ArrayTransfer
