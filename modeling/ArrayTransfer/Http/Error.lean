/-!
Handles of requests under way, and what can go wrong with a request before it has a response.
-/

namespace ArrayTransfer

/-- Names a request that was handed over. -/
structure Handle where
  id : UInt64
  deriving DecidableEq

def Handle.render (h : Handle) : String := "#" ++ toString h.id

/-- Why a request has no response. -/
inductive TransportError where
  | connection (text : String)
  | timeout (text : String)
  | invalidUrl (text : String)
  | urlTooLong (length limit : Nat)
  | invalidRequest (text : String)
  | unknownHandle (handle : Handle)
  deriving DecidableEq

namespace TransportError

def message : TransportError → String
  | connection text => s!"connection failed: {text}"
  | timeout text => s!"request timed out: {text}"
  | invalidUrl text => s!"invalid URL {text}"
  | urlTooLong length limit => s!"request URL of length {length} exceeds the maximum length {limit}"
  | invalidRequest text => s!"invalid request: {text}"
  | unknownHandle handle => "unknown transfer handle " ++ handle.render

def isRetryable : TransportError → Bool
  | connection _ => true
  | timeout _ => true
  | _ => false

end TransportError

end ArrayTransfer
