import ArrayTransfer.Proofs.Transfer.Lifecycle
import ArrayTransfer.Proofs.Transfer.Raised
import ArrayTransfer.Proofs.Transfer.Read
import ArrayTransfer.Session.Options

/-! What becomes of one transfer by itself: `Transfer.fates` folds the results of its attempts, in their order, with no
    other transfer, no environment and no clock. -/

namespace ArrayTransfer

/-- What a call makes of a transfer. -/
structure Fate where
  state : TransferState
  error : Option TransferError
  attempts : UInt32
  totalBackoff : Duration
  buffer : Bytes

namespace Transfer

/-- A new transfer, of which nothing was attempted. -/
structure Fresh (t : Transfer) : Prop where
  state : t.state = .init
  request : t.request = none
  handle : t.handle = none
  retry : t.retry = .fresh
  error : t.error = none

def fate (t : Transfer) : Fate := ⟨t.state, t.error, t.retry.attempts, t.retry.totalBackoff, t.buffer⟩

/-- The transfer with its request, or failed without one. -/
def prepared (t : Transfer) (connection : Connection) (options : SessionOptions) : Transfer :=
  match t.configure connection options.base64Writes with
  | .ok done => done.1
  | .error e => (t.fail e).1

end Transfer

/-- The fate after one more attempt at a transfer and its result. -/
def Fate.after (t : Transfer) (policy : RetryPolicy) (f : Fate) (result : Except TransportError Response) : Fate :=
  match t.outcome result with
  | .ok buffer => { f with state := .succeeded, attempts := f.attempts + 1, buffer := buffer }
  | .error e =>
    match Retry.schedule ⟨f.attempts + 1, none, f.totalBackoff, none, false⟩ policy e 0 with
    | (true, retry) => { f with state := .retryPending, attempts := retry.attempts, totalBackoff := retry.totalBackoff }
    | (false, retry) =>
      { f with state := .failed, error := some e, attempts := retry.attempts, totalBackoff := retry.totalBackoff }

namespace Transfer

/-- The fate of a transfer after some attempts with the results, the first of which is `results 1`. -/
def fates (t : Transfer) (connection : Connection) (options : SessionOptions)
    (results : Nat → Except TransportError Response) : Nat → Fate
  | 0 => (t.prepared connection options).fate
  | n + 1 =>
    let f := t.fates connection options results n
    if f.state.isTerminal then f else f.after (t.prepared connection options) options.retryPolicy (results (n + 1))

variable {t u c : Transfer} {connection : Connection} {options : SessionOptions} {policy : RetryPolicy} {now : Instant}
  {result : Except TransportError Response} {results : Nat → Except TransportError Response} {n k : Nat} {f : Fate}

theorem Fresh.of_make {direction : Direction} {array : RemoteArray} {selection : Selection} {memory : Option Dataspace}
    {callerType : DataType} {buffer : Bytes} (h : make direction array selection memory callerType buffer = .ok t) :
    t.Fresh := by
  obtain ⟨-, file, -, rfl⟩ := Made.of_make h
  exact ⟨rfl, rfl, rfl, rfl, rfl⟩

theorem Fresh.idle (h : t.Fresh) : t.Idle where
  handle := by simp [h.handle, h.state]
  request := by simp [h.request, h.state]
  error := by simp [h.error, h.state]
  state := .inl h.state

/-- A new transfer is prepared with a request, or it has ended. -/
theorem Fresh.prepared (h : t.Fresh) (connection : Connection) (options : SessionOptions) :
    (t.prepared connection options).handle = none ∧
    ((t.prepared connection options).state = .configured ∧
        (∃ request, (t.prepared connection options).request = some request) ∧
        (t.prepared connection options).error = none ∨
      (t.prepared connection options).state.isTerminal = true) := by
  unfold Transfer.prepared
  cases configured : t.configure connection options.base64Writes with
  | error e => exact ⟨rfl, .inr rfl⟩
  | ok done =>
    obtain ⟨_, _, request, -, ⟨-, rfl⟩ | ⟨-, rfl⟩⟩ := configure_cases configured
    · exact ⟨h.handle, .inr rfl⟩
    · exact ⟨h.handle, .inl ⟨rfl, ⟨request, rfl⟩, h.error⟩⟩

/-! ### Attempts -/

/-- `u` is at an attempt of the configured transfer `c`, or between two. -/
structure Attempts (c u : Transfer) : Prop where
  configured : c.state = .configured
  same : Same c u
  request : u.request = c.request
  error : u.error = none

theorem Attempts.goOn {v : Transfer} (h : c.Attempts u) (same : Same u v) (request : v.request = u.request)
    (error : v.error = u.error) : c.Attempts v :=
  ⟨h.configured, h.same.trans same, request.trans h.request, error.trans h.error⟩

theorem Attempts.outcome_eq (h : c.Attempts u) (result : Except TransportError Response) :
    u.outcome result = c.outcome result := by
  obtain ⟨-, same, request, -⟩ := h
  unfold outcome
  cases result with
  | error e => rfl
  | ok response => simp only [same.direction, same.buffer, request, same.receive_eq]

/-- When the next attempt is due and what went wrong before make no difference to whether there is one. -/
theorem schedule_eq {r retry : Retry} {e : TransferError} {again : Bool} (r' : Retry)
    (attempts : r.attempts = r'.attempts) (waited : r.totalBackoff = r'.totalBackoff)
    (h : r.schedule policy e now = (again, retry)) (now' : Instant) :
    ∃ retry', r'.schedule policy e now' = (again, retry') ∧ retry'.attempts = retry.attempts ∧
      retry'.totalBackoff = retry.totalBackoff := by
  unfold Retry.schedule at *
  simp only [attempts, waited] at h
  simp only
  split at h
  · rename_i passes
    rw [if_pos passes]
    split at h
    · rename_i overlong
      cases h
      exact ⟨_, if_pos overlong, rfl, rfl⟩
    · rename_i brief
      rw [if_neg brief]
      split at h
      · rename_i outside
        cases h
        exact ⟨_, if_pos outside, rfl, rfl⟩
      · rename_i within
        cases h
        exact ⟨_, if_neg within, rfl, rfl⟩
  · rename_i refused
    cases h
    exact ⟨_, if_neg refused, rfl, rfl⟩

/-- An attempt that is completed adds its result to the fate before it. -/
theorem Attempts.complete (h : c.Attempts u)
    (before : u.fate = { f with state := u.state, attempts := f.attempts + 1 }) :
    (u.complete policy now result).1.fate = f.after c policy result ∧
      (u.complete policy now result).1.handle = none ∧
      ((u.complete policy now result).1.state = .retryPending ∧ c.Attempts (u.complete policy now result).1 ∨
        (u.complete policy now result).1.state.isTerminal = true) := by
  have error : u.error = f.error := congrArg Fate.error before
  have attempts : u.retry.attempts = f.attempts + 1 := congrArg Fate.attempts before
  have waited : u.retry.totalBackoff = f.totalBackoff := congrArg Fate.totalBackoff before
  have buffer : u.buffer = f.buffer := congrArg Fate.buffer before
  unfold Fate.after
  rw [← h.outcome_eq result]
  obtain ⟨b, ok, eq⟩ | ⟨e, retry, failed, scheduled, eq⟩ | ⟨e, retry, failed, scheduled, eq⟩ :=
    complete_cases u policy now result
  · rw [eq, ok]
    refine ⟨?_, rfl, .inr rfl⟩
    simp only [fate, error, attempts, waited]
  · obtain ⟨retry', scheduled', number, wait⟩ :=
      schedule_eq ⟨f.attempts + 1, none, f.totalBackoff, none, false⟩ attempts waited scheduled 0
    rw [eq, failed]
    simp only [scheduled', number, wait]
    refine ⟨?_, trivial, .inl ⟨trivial, h.goOn ⟨rfl, rfl, rfl, rfl, rfl, rfl, rfl⟩ rfl rfl⟩⟩
    simp only [fate, error, buffer]
  · obtain ⟨retry', scheduled', number, wait⟩ :=
      schedule_eq ⟨f.attempts + 1, none, f.totalBackoff, none, false⟩ attempts waited scheduled 0
    rw [eq, failed]
    simp only [scheduled', number, wait]
    refine ⟨?_, rfl, .inr rfl⟩
    simp only [fate, fail, buffer]

/-! ### Fates -/

theorem fates_succ (more : (t.fates connection options results n).state.isTerminal = false) :
    t.fates connection options results (n + 1) =
      (t.fates connection options results n).after (t.prepared connection options) options.retryPolicy
        (results (n + 1)) := by
  rw [fates]
  simp only [more, Bool.false_eq_true, if_false]

/-- A final fate is kept, whatever comes after. -/
theorem fates_of_terminal (ended : (t.fates connection options results n).state.isTerminal = true) (later : n ≤ k) :
    t.fates connection options results k = t.fates connection options results n := by
  induction later with
  | refl => rfl
  | step _ ih =>
    rw [fates]
    simp only [ih, ended, if_true]

/-! ### Errors -/

/-- No result of its own gives a transfer up. -/
theorem Fresh.fates_error (h : t.Fresh) (n k : Nat) :
    (t.fates connection options results n).error ≠ some (.incomplete k) := by
  induction n with
  | zero =>
    show (t.prepared connection options).error ≠ _
    unfold Transfer.prepared
    cases configured : t.configure connection options.base64Writes with
    | ok done =>
      obtain ⟨_, _, _, -, ⟨-, rfl⟩ | ⟨-, rfl⟩⟩ := configure_cases configured
      · exact fun eq => nomatch h.error.symm.trans eq
      · exact fun eq => nomatch h.error.symm.trans eq
    | error e =>
      exact fun eq => (raises_configure _ _ t e configured).ne_incomplete k (Option.some.inj eq)
  | succ n ih =>
    rw [fates]
    split
    · exact ih
    · unfold Fate.after
      split
      · exact ih
      · rename_i e failed
        split
        · exact ih
        · exact fun eq => (raises_outcome _ _ e failed).ne_incomplete k (Option.some.inj eq)

end Transfer

end ArrayTransfer
