/-!
What the status of a response means.
-/

namespace ArrayTransfer

/-- The classes of statuses. -/
inductive StatusClass where
  | success
  | retryable
  | fatal
  deriving DecidableEq

def StatusClass.name : StatusClass → String
  | success => "success"
  | retryable => "retryable"
  | fatal => "fatal"

namespace Status

/-- Three statuses are a success, errors of the server may pass, and all else is final. -/
def classify (status : UInt16) : StatusClass :=
  if status = 200 ∨ status = 201 ∨ status = 204 then .success
  else if 500 ≤ status ∧ status ≤ 599 then .retryable
  else .fatal

def message (status : UInt16) : String :=
  match status with
  | 200 => "200 - OK"
  | 201 => "201 - Created"
  | 204 => "204 - No content"
  | 400 => "400 - Malformed/Bad request for resource"
  | 401 => "401 - Valid authentication needed to access resource"
  | 403 => "403 - Unauthorized access to resource"
  | 404 => "404 - Resource not found"
  | 405 => "405 - Method not allowed"
  | 409 => "409 - Resource already exists"
  | 410 => "410 - Resource has been deleted"
  | 413 => "413 - Selection too large"
  | 500 => "500 - An internal server error occurred"
  | 501 => "501 - Functionality not implemented"
  | 502 => "502 - Bad gateway"
  | 503 => "503 - Service unavailable"
  | 504 => "504 - Gateway timeout"
  | _ => "Unknown error occurred"

end Status

end ArrayTransfer
