import ArrayTransfer.Session.Environment

/-!
An environment in which everything is laid down beforehand: the answers for each array, and how completions
are grouped, ordered, delayed, repeated and invented. Its clock stands still but for sleeping. It keeps a log of what
it was asked.
-/

namespace ArrayTransfer

/-- What becomes of a request: it is answered, it is kept and never reported, or it is lost. -/
inductive ScriptedAnswer where
  | reply (result : Except TransportError Response)
  | never
  | lost

/-- An entry of the log. -/
inductive ScriptedEntry where
  | rejected (url : String)
  | added (handle : Handle) (request : Request)
  | polled (handles : List Handle)

/-- A request that was taken and not reported. -/
structure ScriptedRequest where
  handle : Handle
  result? : Option (Except TransportError Response)

/-- How completions are reported. -/
structure ScriptedPolling where
  /-- The calls of `add` that are refused. -/
  rejections : List (Nat × TransportError)
  /-- The first handles to give out. -/
  handles : List Handle
  /-- This many polls report nothing. -/
  idle : Nat
  /-- At most this many completions at a time, all if zero. -/
  perPoll : Nat
  /-- Whether the last request is reported first. -/
  isReversed : Bool
  /-- Whether each completion is reported twice. -/
  isDuplicated : Bool
  /-- Whether each poll reports a request that was never made. -/
  hasGhost : Bool

/-- The state of a scripted environment. -/
structure Scripted where
  polling : ScriptedPolling
  answers : List (String × List ScriptedAnswer)
  queue : List ScriptedRequest
  adds : Nat
  accepted : Nat
  polls : Nat
  time : Instant
  log : List ScriptedEntry

namespace Scripted

/-- What follows the first place where `pattern` stands. -/
def after? (pattern : List Char) : List Char → Option (List Char)
  | [] => if pattern.isEmpty then some [] else none
  | c :: rest => if pattern.isPrefixOf (c :: rest) then some ((c :: rest).drop pattern.length) else after? pattern rest

/-- What stands before the first place where `pattern` stands. -/
def before (pattern : List Char) : List Char → List Char
  | [] => []
  | c :: rest => if pattern.isPrefixOf (c :: rest) then [] else c :: before pattern rest

def arrayOf (url : String) : String :=
  String.ofList (before "/value".toList ((after? "/datasets/".toList url.toList).getD []))

/-- The next answer for an array, and the answers left; without an answer the array is not there. -/
def nextAnswer (id : String) :
    List (String × List ScriptedAnswer) → ScriptedAnswer × List (String × List ScriptedAnswer)
  | [] => (.reply (.ok ⟨404, []⟩), [])
  | (k, answers) :: rest =>
    if k = id then
      match answers with
      | [] => (.reply (.ok ⟨404, []⟩), (k, []) :: rest)
      | a :: left => (a, (k, left) :: rest)
    else
      let (a, rest) := nextAnswer id rest
      (a, (k, answers) :: rest)

def add (s : Scripted) (request : Request) : Except TransportError Handle × Scripted :=
  match s.polling.rejections.lookup s.adds with
  | some e => (.error e, { s with adds := s.adds + 1, log := s.log ++ [.rejected request.url] })
  | none =>
    let (handle, handles) := match s.polling.handles with
      | h :: rest => (h, rest)
      | [] => (⟨UInt64.ofNat s.accepted⟩, [])
    let (answer, answers) := nextAnswer (arrayOf request.url) s.answers
    let queue := match answer with
      | .reply result => s.queue ++ [⟨handle, some result⟩]
      | .never => s.queue ++ [⟨handle, none⟩]
      | .lost => s.queue
    (.ok handle, { s with
      polling := { s.polling with handles := handles }
      answers := answers
      queue := queue
      adds := s.adds + 1
      accepted := s.accepted + 1
      log := s.log ++ [.added handle request] })

/-- The places of the requests that a poll reports, in the order of the report. -/
def reportOrder (s : Scripted) : List Nat :=
  let ready := (List.range s.queue.length).filter fun i => (s.queue[i]?.bind (·.result?)).isSome
  let ordered := if s.polling.isReversed then ready.reverse else ready
  if s.polling.perPoll = 0 then ordered else ordered.take s.polling.perPoll

def completion? (r : ScriptedRequest) : Option Completion := r.result?.map (Completion.mk r.handle)

def poll (s : Scripted) : List Completion × Scripted :=
  let places := if s.polls < s.polling.idle then [] else s.reportOrder
  let reported := places.flatMap fun i =>
    match s.queue[i]?.bind completion? with
    | some c => if s.polling.isDuplicated then [c, c] else [c]
    | none => []
  let ghost := if s.polling.hasGhost then [Completion.mk ⟨999999⟩ (.ok ⟨500, []⟩)] else []
  let completions := ghost ++ reported
  let queue := (s.queue.zipIdx.filter fun (_, i) => !places.contains i).map (·.1)
  let entry := ScriptedEntry.polled (completions.map (·.handle))
  (completions, { s with queue := queue, polls := s.polls + 1, log := s.log ++ [entry] })

def environment : Environment Scripted where
  add := add
  poll := fun s _ => s.poll
  pending := fun s => s.queue.length
  now := fun s => (s.time, s)
  sleep := fun s wait => { s with time := s.time + wait }

end Scripted

end ArrayTransfer
