import ArrayTransfer.Http.Request
import ArrayTransfer.Transfer.Retry

/-!
What a session runs in: a multiplexer that takes requests and reports how they ended, and a clock. Nothing is
assumed of either.
-/

namespace ArrayTransfer

/-- The end of a request: a response, or why there is none. -/
structure Completion where
  handle : Handle
  result : Except TransportError Response

/-- A multiplexer and a clock with states `σ`. -/
structure Environment (σ : Type) where
  /-- Takes a request and names it, or refuses it. -/
  add : σ → Request → Except TransportError Handle × σ
  /-- Waits for ends of requests, up to the duration. -/
  poll : σ → Duration → List Completion × σ
  /-- The number of requests taken and not yet reported. -/
  pending : σ → Nat
  /-- Reads the clock. -/
  now : σ → Instant × σ
  /-- Waits for the duration. -/
  sleep : σ → Duration → σ

end ArrayTransfer
