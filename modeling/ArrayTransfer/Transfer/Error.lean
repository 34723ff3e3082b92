import ArrayTransfer.Conversion.Plan
import ArrayTransfer.Http.Error
import ArrayTransfer.Http.Status
import ArrayTransfer.Wire.Error

/-!
Why a transfer fails, and why a call of several transfers does.
-/

namespace ArrayTransfer

/-- Why a transfer fails. -/
inductive TransferError where
  | selection (error : SelectionError)
  | conversion (error : ConversionError)
  | wire (error : WireError)
  | transport (error : TransportError)
  | status (status : UInt16) (url : String)
  | bufferLength (got expected : Nat)
  | variableCallerType (type : DataType)
  | incomplete (iterations : Nat)

namespace TransferError

def message : TransferError → String
  | selection error => error.message
  | conversion error => error.message
  | wire error => error.message
  | transport error => error.message
  | status code url => Status.message code ++ " (" ++ url ++ ")"
  | bufferLength got expected => s!"caller buffer has length {got}, expected length {expected}"
  | variableCallerType t => "caller data type " ++ t.name ++ " has a variable size"
  | incomplete iterations => s!"transfer did not complete within {iterations} poll iterations"

/-- Whether the transfer may succeed another time: after a failure of the transport, or an error of the server. -/
def isRetryable : TransferError → Bool
  | transport error => error.isRetryable
  | status code _ => Status.classify code = .retryable
  | _ => false

/-- Whether the program stops with the error, so that no call returns it. -/
def stops : TransferError → Bool
  | conversion error => error.stops
  | wire error => error.stops
  | _ => false

end TransferError

/-- Why a call fails: its first failed transfer, and how many of all have failed. -/
structure BulkError where
  target : String
  first : TransferError
  failed : Nat
  total : Nat

def BulkError.message (e : BulkError) : String :=
  toString e.failed ++ " of " ++ toString e.total ++ " transfers failed, first failure for " ++ e.target ++ ": " ++
    e.first.message

end ArrayTransfer
