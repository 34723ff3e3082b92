import ArrayTransfer.Transfer.Error

/-!
Retries. After a passing error a transfer waits, each time twice as long as before up to a limit, and gives up
after a number of retries or when it would have waited too long in all. Times are natural numbers of
nanoseconds.
-/

namespace ArrayTransfer

/-- A length of time in nanoseconds. -/
abbrev Duration := Nat

/-- A moment, in nanoseconds since an arbitrary start. -/
abbrev Instant := Nat

namespace Duration

def second : Duration := 1000000000

def ofParts (seconds nanoseconds : Nat) : Duration := seconds * second + nanoseconds

def parts (d : Duration) : Nat × Nat := (d / second, d % second)

/-- A duration has fewer than this many nanoseconds: its seconds are a word. -/
def limit : Duration := UInt64.size * second

end Duration

/-- A moment has fewer than this many nanoseconds: its seconds are a signed word. -/
def Instant.limit : Instant := Nat.pow 2 63 * Duration.second

/-- The limits of retries. -/
structure RetryPolicy where
  maxRetries : UInt32
  initialBackoff : Duration
  maxBackoff : Duration
  window : Duration

namespace RetryPolicy

/-- How many times longer than the first the wait before a retry is, as a word: doubled each time, and the largest word
    when that is no word any more. -/
def factor (retry : UInt32) : Nat := if retry.toNat - 1 < 32 then Nat.pow 2 (retry.toNat - 1) else UInt32.size - 1

def backoff (p : RetryPolicy) (retry : UInt32) : Duration :=
  let wait := p.initialBackoff * factor retry
  if Duration.limit ≤ wait then p.maxBackoff else min wait p.maxBackoff

end RetryPolicy

/-- The attempts of a transfer: how many were started, when the next is due, how long was waited in all, what went wrong
    last, and whether waiting once more would have been no duration any more in all. -/
structure Retry where
  attempts : UInt32
  dueAt : Option Instant
  totalBackoff : Duration
  lastError : Option TransferError
  isOverlong : Bool

namespace Retry

def fresh : Retry := ⟨0, none, 0, none, false⟩

def start (r : Retry) : Retry := { r with attempts := r.attempts + 1, dueAt := none }

def isDue (r : Retry) (now : Instant) : Bool :=
  match r.dueAt with
  | some due => due ≤ now
  | none => true

/-- Whether the waits add up to what is no duration, or the next attempt is due at what is no moment. Working that out
    stops the program. -/
def isBeyondTime (r : Retry) : Bool := r.isOverlong || r.dueAt.any fun due => Instant.limit ≤ due

/-- The attempts after the last one went wrong, with the next one due if the error and the policy allow it. Times are
    added as numbers, and the program stops over a sum that is no time (`isBeyondTime`). -/
def schedule (r : Retry) (policy : RetryPolicy) (error : TransferError) (now : Instant) : Bool × Retry :=
  let r := { r with lastError := some error }
  let backoff := policy.backoff r.attempts
  if error.isRetryable ∧ r.attempts ≤ policy.maxRetries then
    if Duration.limit ≤ r.totalBackoff + backoff then (false, { r with isOverlong := true })
    else if policy.window < r.totalBackoff + backoff then (false, r)
    else (true, { r with totalBackoff := r.totalBackoff + backoff, dueAt := some (now + backoff) })
  else (false, r)

end Retry

end ArrayTransfer
