import ArrayTransfer.Session.Environment
import ArrayTransfer.Session.Options
import ArrayTransfer.Transfer.Basic

/-!
Driving transfers until each has succeeded or failed. `Session.iterate` is one turn of the loop: it starts
the retries that are due, and then either ends, or waits for the next retry, or polls the multiplexer and hands out
what it reports. The journal of a session lists what happened in order, with all that the environment was asked and
answered; warnings are made from it.
-/

namespace ArrayTransfer

/-- What happened in a session. Transfers are numbered in the order of the call. -/
inductive Event where
  | submitted (transfer : Nat) (request : Request) (result : Except TransportError Handle)
  | changed (transfer : Nat) (change : Change)
  | polled (completions : List Completion)
  | counted (pending : Nat)
  | clock (now : Instant)
  | slept (duration : Duration)
  | unknownCompletion (handle : Handle)

/-- Transfers being driven, the state of their environment, the polls so far, and what has happened. -/
structure Session (σ : Type) where
  world : σ
  transfers : List Transfer
  iterations : Nat
  journal : List Event

/-- How a call ended well. -/
structure Summary where
  transfers : Nat
  attempts : Nat
  iterations : Nat
  deriving DecidableEq

namespace Session

variable {σ : Type}

/-- Puts a changed transfer back in its place and notes the changes. -/
def update (s : Session σ) (i : Nat) (changed : Transfer.Changed) : Session σ :=
  { s with
    transfers := s.transfers.set i changed.1
    journal := s.journal ++ changed.2.map (Event.changed i) }

def readClock (env : Environment σ) (s : Session σ) : Instant × Session σ :=
  let (now, world) := env.now s.world
  (now, { s with world := world, journal := s.journal ++ [.clock now] })

def forEach (f : Session σ → Nat → Transfer → Session σ) (s : Session σ) : Session σ :=
  (List.range s.transfers.length).foldl
    (fun s i => match s.transfers[i]? with
      | some t => f s i t
      | none => s) s

def submit (env : Environment σ) (s : Session σ) (i : Nat) (t : Transfer) : Session σ :=
  match t.request with
  | none => s.update i (t.fail (.transport (.invalidRequest "transfer is not configured")))
  | some request =>
    let (result, world) := env.add s.world request
    let s := { s with world := world, journal := s.journal ++ [Event.submitted i request result] }
    match result with
    | .ok handle => s.update i (t.submitted handle)
    | .error e => s.update i (t.fail (.transport e))

def prepare (connection : Connection) (base64 : Bool) (s : Session σ) (i : Nat) (t : Transfer) : Session σ :=
  if t.state = .init then
    match t.configure connection base64 with
    | .ok changed => s.update i changed
    | .error e => s.update i (t.fail e)
  else s

def launch (env : Environment σ) (connection : Connection) (base64 : Bool) (s : Session σ) (i : Nat) (t : Transfer) :
    Session σ :=
  let s := s.prepare connection base64 i t
  match s.transfers[i]? with
  | some t => if t.state = .configured then s.submit env i t else s
  | none => s

def startDue (env : Environment σ) (now : Instant) (s : Session σ) : Session σ :=
  s.forEach fun s i t => if t.isRetryDue now then s.submit env i t else s

/-- Fails every transfer that is not final. -/
def failUnfinished (s : Session σ) : Session σ :=
  s.forEach fun s i t => if t.state.isTerminal then s else s.update i (t.fail (.incomplete s.iterations))

def isFinished (s : Session σ) : Bool := s.transfers.all (·.state.isTerminal)

def firstDue? (s : Session σ) : Option Instant := (s.transfers.filterMap (·.retry.dueAt)).min?

def waitForRetry (env : Environment σ) (s : Session σ) : Session σ :=
  match s.firstDue? with
  | none => s
  | some due =>
    let (now, s) := s.readClock env
    { s with world := env.sleep s.world (due - now), journal := s.journal ++ [.slept (due - now)] }

/-- Hands the end of a request to the first transfer that holds its handle. -/
def deliver (env : Environment σ) (policy : RetryPolicy) (s : Session σ) (c : Completion) : Session σ :=
  match s.transfers.findIdx? (·.handle = some c.handle) with
  | none => { s with journal := s.journal ++ [.unknownCompletion c.handle] }
  | some i =>
    match s.transfers[i]? with
    | none => s
    | some t =>
      let (now, s) := s.readClock env
      s.update i (t.complete policy now c.result)

def poll (env : Environment σ) (options : SessionOptions) (s : Session σ) : List Completion × Session σ :=
  let (completions, world) := env.poll s.world options.pollInterval
  (completions, { s with world := world, journal := s.journal ++ [.polled completions] })

/-- Asks for the number of requests that were taken and not yet reported. -/
def countPending (env : Environment σ) (s : Session σ) : Nat × Session σ :=
  let pending := env.pending s.world
  (pending, { s with journal := s.journal ++ [.counted pending] })

/-- Polls the multiplexer and hands out what it reports. If it reports nothing and has nothing left, no transfer will
    ever be reported. -/
def pollOnce (env : Environment σ) (options : SessionOptions) (s : Session σ) : Session σ :=
  let (completions, s) := s.poll env options
  let s := completions.foldl (deliver env options.retryPolicy) s
  if completions.isEmpty then
    let (pending, s) := s.countPending env
    if pending = 0 then s.failUnfinished else s
  else s

def isExhausted (options : SessionOptions) (s : Session σ) : Bool :=
  match options.maxPolls with
  | some n => n ≤ s.iterations
  | none => false

/-- One turn of the loop, and whether it was the last. -/
def iterate (env : Environment σ) (options : SessionOptions) (s : Session σ) : Session σ × Bool :=
  let (now, s) := s.readClock env
  let s := s.startDue env now
  if s.isFinished then (s, true)
  else if s.isExhausted options then (s.failUnfinished, true)
  else
    let s := s.forEach fun s i t => s.update i t.beginFlight
    let s := { s with iterations := s.iterations + 1 }
    if s.transfers.any (·.state = .inFlight) then (s.pollOnce env options, false)
    else (s.waitForRetry env, false)

def hasStopped (s : Session σ) : Bool := s.transfers.any (·.hasStopped)

/-- Turns of the loop until it ends; `none` if `fuel` turns are not enough, or if the program stops in one of them. -/
def drain (env : Environment σ) (options : SessionOptions) : (fuel : Nat) → Session σ → Option (Session σ)
  | 0, _ => none
  | fuel + 1, s =>
    let (s, isLast) := s.iterate env options
    if s.hasStopped then none else if isLast then some s else drain env options fuel s

/-- A session in which the requests of the new transfers are handed over. -/
def start (env : Environment σ) (connection : Connection) (options : SessionOptions) (world : σ)
    (transfers : List Transfer) : Session σ :=
  forEach (launch env connection options.base64Writes) ⟨world, transfers, 0, []⟩

def attempts (s : Session σ) : Nat := s.transfers.foldl (fun sum t => sum + t.retry.attempts.toNat) 0

/-- How the call ended: well, if every transfer succeeded. -/
def verdict (s : Session σ) : Except BulkError Summary :=
  let failed := s.transfers.countP (·.state = .failed)
  match s.transfers.find? (·.state = .failed) with
  | some t => .error ⟨t.array.id, t.error.getD (.incomplete s.iterations), failed, s.transfers.length⟩
  | none => .ok ⟨s.transfers.length, s.attempts, s.iterations⟩

/-- Drives transfers until each is final; `none` if `fuel` turns are not enough, or if the program stops before. A program
    that stops as a request is built is seen to have stopped in the first turn. -/
def execute (env : Environment σ) (connection : Connection) (options : SessionOptions) (fuel : Nat) (world : σ)
    (transfers : List Transfer) : Option (Session σ) :=
  drain env options fuel (start env connection options world transfers)

def warning? (transfers : List Transfer) : Event → Option String
  | .changed i change =>
    let subject := match transfers[i]? with
      | some t => t.direction.name ++ " of " ++ t.array.id
      | none => ""
    match change with
    | .retrying attempt e => some (subject ++ " failed on attempt " ++ toString attempt ++ ", retrying: " ++ e.message)
    | .failed attempts e => some (subject ++ " failed after " ++ toString attempts ++ " attempt(s): " ++ e.message)
    | .moved .. => none
  | .unknownCompletion handle => some ("ignoring completion of unknown transfer " ++ handle.render)
  | _ => none

def warnings (s : Session σ) : List String := s.journal.filterMap (warning? s.transfers)

end Session

end ArrayTransfer
