import ArrayTransfer.Transfer.Retry

/-!
Defaults for the whole program, and the options of one client, which are taken from the defaults when it
is made.
-/

namespace ArrayTransfer

/-- The defaults. -/
structure Config where
  maxConnections : Nat
  pollInterval : Duration
  requestTimeout : Duration
  maxRetries : UInt32
  initialBackoff : Duration
  maxBackoff : Duration
  backoffWindow : Duration
  base64Writes : Bool

namespace Config

def default : Config where
  maxConnections := 8
  pollInterval := Duration.ofParts 0 100000000
  requestTimeout := Duration.ofParts 300 0
  maxRetries := 5
  initialBackoff := Duration.ofParts 0 100000000
  maxBackoff := Duration.ofParts 5 0
  backoffWindow := Duration.ofParts 30 0
  base64Writes := true

/-- Sets the number of connections to a store; there is always one. -/
def setMaxConnections (c : Config) (n : Nat) : Config := { c with maxConnections := max n 1 }

end Config

/-- The options of the sessions of a client. -/
structure SessionOptions where
  pollInterval : Duration
  retryPolicy : RetryPolicy
  base64Writes : Bool
  maxPolls : Option Nat

def SessionOptions.ofConfig (c : Config) : SessionOptions where
  pollInterval := c.pollInterval
  retryPolicy := ⟨c.maxRetries, c.initialBackoff, c.maxBackoff, c.backoffWindow⟩
  base64Writes := c.base64Writes
  maxPolls := none

end ArrayTransfer
