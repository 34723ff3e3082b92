/-!
The states of a transfer and the moves between them. A transfer that has succeeded or failed stays so.
-/

namespace ArrayTransfer

/-- The direction of a transfer. -/
inductive Direction where
  | read
  | write
  deriving DecidableEq

def Direction.name : Direction → String
  | read => "read"
  | write => "write"

/-- The state of a transfer. -/
inductive TransferState where
  | init
  | configured
  | enqueued
  | inFlight
  | retryPending
  | succeeded
  | failed
  deriving DecidableEq

namespace TransferState

def all : List TransferState := [init, configured, enqueued, inFlight, retryPending, succeeded, failed]

def name : TransferState → String
  | init => "init"
  | configured => "configured"
  | enqueued => "enqueued"
  | inFlight => "in flight"
  | retryPending => "retry pending"
  | succeeded => "succeeded"
  | failed => "failed"

def isTerminal : TransferState → Bool
  | succeeded => true
  | failed => true
  | _ => false

/-- Whether a transfer may move from the one state to the other. -/
def canMoveTo : (before after : TransferState) → Bool
  | init, configured => true
  | configured, enqueued => true
  | configured, succeeded => true
  | enqueued, inFlight => true
  | inFlight, succeeded => true
  | inFlight, retryPending => true
  | retryPending, enqueued => true
  | before, failed => !before.isTerminal
  | _, _ => false

end TransferState

end ArrayTransfer
