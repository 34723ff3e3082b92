import ArrayTransfer.Proofs.Session.Safety
import ArrayTransfer.Proofs.Transfer.Fate

/-! The account of one transfer, kept from the journal of a call: the requests that were taken for it, the attempts that
    went wrong and are to be repeated, and whether it failed while it waited for that. At each moment a transfer agrees
    with its account (`Accounted`), and so do the numbers of its attempts as long as they are counted in a word
    (`Numbered`). -/

namespace ArrayTransfer

/-! ### Errors and retries -/

theorem Status.classify_eq_retryable_iff {status : UInt16} :
    Status.classify status = .retryable ↔ 500 ≤ status ∧ status ≤ 599 := by
  unfold Status.classify
  split
  · rename_i success
    obtain rfl | rfl | rfl := success <;> decide
  · split
    · rename_i server
      exact iff_of_true rfl server
    · rename_i other
      exact iff_of_false nofun other

namespace TransferError

/-- An error that may pass: there was no connection, no response in time, or a fault of the server. -/
inductive Passing : TransferError → Prop
  | connection (text : String) : Passing (.transport (.connection text))
  | timeout (text : String) : Passing (.transport (.timeout text))
  | server {status : UInt16} (url : String) (least : 500 ≤ status) (most : status ≤ 599) : Passing (.status status url)

theorem isRetryable_iff {e : TransferError} : e.isRetryable = true ↔ e.Passing := by
  refine ⟨fun h => ?_, fun h => ?_⟩
  · cases e with
    | transport error =>
      cases error with
      | connection text => exact .connection text
      | timeout text => exact .timeout text
      | invalidUrl | urlTooLong | invalidRequest | unknownHandle => cases h
    | status code url =>
      obtain ⟨least, most⟩ := Status.classify_eq_retryable_iff.mp (of_decide_eq_true h)
      exact .server url least most
    | selection | conversion | wire | bufferLength | variableCallerType | incomplete => cases h
  · cases h with
    | connection | timeout => rfl
    | server url least most => exact decide_eq_true (Status.classify_eq_retryable_iff.mpr ⟨least, most⟩)

end TransferError

/-- Another attempt is scheduled after an error that may pass, while retries and time to wait are left. If none is, the
    waits may have been no duration. -/
theorem Retry.schedule_cases (r : Retry) (policy : RetryPolicy) (e : TransferError) (now : Instant) :
    (e.Passing ∧ r.attempts ≤ policy.maxRetries ∧ r.totalBackoff + policy.backoff r.attempts ≤ policy.window ∧
      r.schedule policy e now = (true, ⟨r.attempts, some (now + policy.backoff r.attempts),
        r.totalBackoff + policy.backoff r.attempts, some e, r.isOverlong⟩)) ∨
    ∃ overlong, r.schedule policy e now = (false, { r with lastError := some e, isOverlong := overlong }) ∧
      (overlong = r.isOverlong ∨ Duration.limit ≤ r.totalBackoff + policy.backoff r.attempts) := by
  unfold Retry.schedule
  simp only
  split
  · rename_i passes
    obtain ⟨passing, left⟩ := passes
    split
    · rename_i overlong
      exact .inr ⟨true, rfl, .inr overlong⟩
    · split
      · exact .inr ⟨_, rfl, .inl rfl⟩
      · rename_i within
        exact .inl ⟨TransferError.isRetryable_iff.mp passing, left, Nat.not_lt.mp within, rfl⟩
  · exact .inr ⟨_, rfl, .inl rfl⟩

/-! ### Accounts -/

/-- An attempt that went wrong and is to be repeated: its number, why, and when that was found. -/
structure Setback where
  attempt : UInt32
  error : TransferError
  time : Option Instant

/-- The sum of what the policy has for each setback. -/
def RetryPolicy.backoffs (policy : RetryPolicy) (setbacks : List Setback) : Duration :=
  setbacks.foldl (fun sum b => sum + policy.backoff b.attempt) 0

/-- The account of one transfer: the last reading of the clock, the handles of the requests that were taken for it, its
    setbacks, and whether it failed while it waited for a retry. -/
structure Account where
  reading : Option Instant
  taken : List Handle
  setbacks : List Setback
  dropped : Bool

namespace Account

def note (a : Account) : Event → Account
  | .clock now => { a with reading := some now }
  | .submitted _ _ (.ok handle) => { a with taken := a.taken ++ [handle] }
  | .changed _ (.retrying attempt error) => { a with setbacks := a.setbacks ++ [⟨attempt, error, a.reading⟩] }
  | .changed _ (.moved before after) =>
    { a with dropped := a.dropped || decide (before = .retryPending ∧ after = .failed) }
  | _ => a

/-- The account of the transfer at place `i` after a journal. -/
def of (i : Nat) (journal : List Event) : Account := (Session.entriesOf i journal).foldl note ⟨none, [], [], false⟩

theorem of_append {i : Nat} {journal past entries : List Event}
    (own : Session.entriesOf i journal = Session.entriesOf i past ++ entries) :
    of i journal = entries.foldl note (of i past) := by
  rw [of, own, List.foldl_append]
  rfl

/-- Entries about no transfer leave an account, but for the reading of the clock. -/
theorem foldl_note_other {entries : List Event} (other : ∀ e ∈ entries, e.subject? = none) (a : Account) :
    ∃ reading, entries.foldl note a = { a with reading := reading } := by
  induction entries generalizing a with
  | nil => exact ⟨a.reading, rfl⟩
  | cons e entries ih =>
    obtain ⟨nobody, rest⟩ := List.forall_mem_cons.mp other
    cases e with
    | submitted | changed => cases nobody
    | clock now => exact ih rest { a with reading := some now }
    | polled | counted | slept | unknownCompletion => exact ih rest a

theorem reading_of (i : Nat) (journal : List Event) : (of i journal).reading = Session.lastReading journal := by
  unfold of Session.entriesOf Session.lastReading
  rw [List.foldl_filter]
  refine (List.foldl_hom Account.reading fun a e => ?_).symm
  cases e with
  | submitted j request result =>
    rw [apply_ite Account.reading]
    cases result <;> exact (ite_self _).symm
  | changed j change =>
    rw [apply_ite Account.reading]
    cases change <;> exact (ite_self _).symm
  | clock | polled | counted | slept | unknownCompletion => rfl

@[simp] theorem note_moved {after : TransferState} (a : Account) (i : Nat) (before : TransferState)
    (h : after ≠ .failed) : a.note (.changed i (.moved before after)) = a := by
  simp [note, h]

theorem foldl_note_fail (a : Account) (i : Nat) (t : Transfer) (e : TransferError) :
    ((t.fail e).2.map (Event.changed i)).foldl note a =
      { a with dropped := a.dropped || decide (t.state = .retryPending) } := by
  simp [Transfer.fail, note]

theorem foldl_note_retrying (a : Account) (i : Nat) (attempt : UInt32) (e : TransferError) (before : TransferState) :
    (([.retrying attempt e, .moved before .retryPending] : List Change).map (Event.changed i)).foldl note a =
      { a with setbacks := a.setbacks ++ [⟨attempt, e, a.reading⟩] } := by
  simp [note]

end Account

/-! ### Agreement -/

/-- What the state of a transfer says of its account. -/
inductive Phase (policy : RetryPolicy) (a : Account) (u : Transfer) : Prop
  | new (state : u.state = .init ∨ u.state = .configured) (taken : a.taken = []) (setbacks : a.setbacks = [])
    (undropped : a.dropped = false) (due : u.retry.dueAt = none)
  | trying (state : u.state = .enqueued ∨ u.state = .inFlight) (taken : a.taken.length = a.setbacks.length + 1)
    (handle : u.handle = a.taken.getLast?) (undropped : a.dropped = false) (due : u.retry.dueAt = none)
  | waiting {b : Setback} {time : Instant} (state : u.state = .retryPending)
    (taken : a.taken.length = a.setbacks.length) (last : a.setbacks.getLast? = some b)
    (number : b.attempt = u.retry.attempts) (found : b.time = some time) (undropped : a.dropped = false)
    (due : u.retry.dueAt = some (time + policy.backoff b.attempt))
  | ended (terminal : u.state.isTerminal = true) (least : a.setbacks.length ≤ a.taken.length)
    (most : a.taken.length ≤ a.setbacks.length + 1) (due : u.retry.dueAt.isSome = a.dropped)
    (failed : a.dropped = true → u.state = .failed)

/-- A transfer agrees with its account: it has waited for each of its setbacks, which were such as may pass, and in all no
    longer than the policy allows. -/
structure Accounted (policy : RetryPolicy) (a : Account) (u : Transfer) : Prop where
  phase : Phase policy a u
  passing : ∀ b ∈ a.setbacks, b.error.Passing
  waited : u.retry.totalBackoff = policy.backoffs a.setbacks
  within : u.retry.totalBackoff ≤ policy.window

/-- The attempts of a transfer are counted as they are in its account, and none is repeated too often. -/
structure Numbered (policy : RetryPolicy) (a : Account) (u : Transfer) : Prop where
  attempts : u.retry.attempts.toNat = a.taken.length
  numbers : a.setbacks.map (·.attempt.toNat) = List.range' 1 a.setbacks.length
  budget : a.setbacks.length ≤ policy.maxRetries.toNat

namespace Phase

variable {policy : RetryPolicy} {a : Account} {t u : Transfer} {handle : Handle}

theorem reading (h : Phase policy a u) (reading : Option Instant) : Phase policy { a with reading := reading } u := by
  cases h with
  | new state taken setbacks undropped due => exact .new state taken setbacks undropped due
  | trying state taken handle undropped due => exact .trying state taken handle undropped due
  | waiting state taken last number found undropped due => exact .waiting state taken last number found undropped due
  | ended terminal least most due failed => exact .ended terminal least most due failed

/-- A transfer ends, and is dropped if it waited for a retry. -/
theorem finish (h : Phase policy a t) (unfinished : t.state.isTerminal = false) (terminal : u.state.isTerminal = true)
    (failed : t.state = .retryPending → u.state = .failed) (due : u.retry.dueAt = t.retry.dueAt) :
    Phase policy { a with dropped := a.dropped || decide (t.state = .retryPending) } u := by
  cases h with
  | new state taken setbacks undropped free =>
    have other : t.state ≠ .retryPending := by obtain state | state := state <;> rw [state] <;> exact nofun
    refine .ended terminal ?_ ?_ ?_ ?_
    · simp [taken, setbacks]
    · simp [taken, setbacks]
    · simp [due, free, undropped, other]
    · simp [undropped, other]
  | trying state taken handle undropped free =>
    have other : t.state ≠ .retryPending := by obtain state | state := state <;> rw [state] <;> exact nofun
    refine .ended terminal ?_ (Nat.le_of_eq taken) ?_ ?_
    · exact taken ▸ Nat.le_succ _
    · simp [due, free, undropped, other]
    · simp [undropped, other]
  | waiting state taken last number found undropped pending =>
    refine .ended terminal (Nat.le_of_eq taken.symm) (taken ▸ Nat.le_succ _) ?_ fun _ => failed state
    simp [due, pending, undropped, state]
  | ended terminal =>
    rw [unfinished] at terminal
    cases terminal

/-- A transfer has a time for its next attempt if it waits for one, or was dropped when it did. -/
theorem dueAt_isSome_iff (h : Phase policy a t) :
    t.retry.dueAt.isSome = true ↔ t.state = .retryPending ∨ a.dropped = true := by
  cases h with
  | new state _ _ undropped due => obtain state | state := state <;> simp [state, undropped, due]
  | trying state _ _ undropped due => obtain state | state := state <;> simp [state, undropped, due]
  | waiting state _ _ _ _ _ due => simp [state, due]
  | ended terminal _ _ due =>
    have other : t.state ≠ .retryPending := by
      intro state
      rw [state] at terminal
      cases terminal
    simp [due, other]

theorem of_waiting (h : Phase policy a t) (pending : t.state = .retryPending) :
    a.taken.length = a.setbacks.length ∧ 0 < a.setbacks.length := by
  cases h with
  | new state => obtain state | state := state <;> cases state.symm.trans pending
  | trying state => obtain state | state := state <;> cases state.symm.trans pending
  | waiting _ taken last => exact ⟨taken, List.length_pos_of_mem (List.mem_of_getLast? last)⟩
  | ended terminal =>
    rw [pending] at terminal
    cases terminal

/-- A transfer that waits for a retry has a time for it. -/
theorem dueAt_of_waiting (h : Phase policy a t) (pending : t.state = .retryPending) :
    ∃ due, t.retry.dueAt = some due :=
  Option.isSome_iff_exists.mp (h.dueAt_isSome_iff.mpr (.inl pending))

theorem failed_of_dropped (h : Phase policy a t) (dropped : a.dropped = true) : t.state = .failed := by
  cases h with
  | new _ _ _ undropped | trying _ _ _ undropped | waiting _ _ _ _ _ undropped => cases undropped.symm.trans dropped
  | ended _ _ _ _ failed => exact failed dropped

theorem taken_le (h : Phase policy a t) : a.taken.length ≤ a.setbacks.length + 1 := by
  cases h with
  | new _ taken => exact taken ▸ Nat.zero_le _
  | trying _ taken => exact Nat.le_of_eq taken
  | waiting _ taken => exact taken ▸ Nat.le_succ _
  | ended _ _ most => exact most

/-- A transfer that is ready has had as many requests as setbacks. -/
theorem of_ready (h : Phase policy a t) (ready : t.state = .configured ∨ t.state = .retryPending) :
    a.taken.length = a.setbacks.length ∧ a.dropped = false := by
  cases h with
  | new _ taken setbacks undropped => exact ⟨by rw [taken, setbacks]; rfl, undropped⟩
  | trying state => obtain state | state := state <;> obtain ready | ready := ready <;> cases state.symm.trans ready
  | waiting _ taken _ _ _ undropped => exact ⟨taken, undropped⟩
  | ended terminal => obtain state | state := ready <;> rw [state] at terminal <;> cases terminal

theorem configured (h : Phase policy a t) (new : t.state = .init) (state : u.state = .configured)
    (due : u.retry.dueAt = t.retry.dueAt) : Phase policy a u := by
  cases h with
  | new _ taken setbacks undropped free => exact .new (.inr state) taken setbacks undropped (due.trans free)
  | trying state => obtain state | state := state <;> cases state.symm.trans new
  | waiting state => cases state.symm.trans new
  | ended terminal =>
    rw [new] at terminal
    cases terminal

theorem submitted (h : Phase policy a t) (ready : t.state = .configured ∨ t.state = .retryPending) (handle : Handle) :
    Phase policy { a with taken := a.taken ++ [handle] } (t.submitted handle).1 := by
  obtain ⟨taken, undropped⟩ := h.of_ready ready
  refine .trying (.inl rfl) ?_ List.getLast?_concat.symm undropped rfl
  rw [List.length_append, taken]
  rfl

theorem began (h : Phase policy a t) (enqueued : t.state = .enqueued) : Phase policy a (t.moveTo .inFlight).1 := by
  cases h with
  | trying _ taken handle undropped due => exact .trying (.inr rfl) taken handle undropped due
  | new state => obtain state | state := state <;> cases state.symm.trans enqueued
  | waiting state => cases state.symm.trans enqueued
  | ended terminal =>
    rw [enqueued] at terminal
    cases terminal

/-- A transfer in flight has had one request more than setbacks, and holds the handle of the last. -/
theorem of_inFlight (h : Phase policy a t) (flying : t.state = .inFlight) :
    a.taken.length = a.setbacks.length + 1 ∧ t.handle = a.taken.getLast? ∧ a.dropped = false ∧
      t.retry.dueAt = none := by
  cases h with
  | trying _ taken handle undropped due => exact ⟨taken, handle, undropped, due⟩
  | new state => obtain state | state := state <;> cases state.symm.trans flying
  | waiting state => cases state.symm.trans flying
  | ended terminal =>
    rw [flying] at terminal
    cases terminal

end Phase

/-! ### Postings -/

/-- What one act makes of a transfer and of its account. -/
inductive Posting (policy : RetryPolicy) (a : Account) (t : Transfer) : Account → Transfer → Prop
  | kept (reading : Option Instant) : Posting policy a t { a with reading := reading } t
  | configured {u : Transfer} (new : t.state = .init) (state : u.state = .configured) (same : u.retry = t.retry) :
    Posting policy a t a u
  | submitted (ready : t.state = .configured ∨ t.state = .retryPending) (handle : Handle) :
    Posting policy a t { a with taken := a.taken ++ [handle] } (t.submitted handle).1
  | began (enqueued : t.state = .enqueued) : Posting policy a t a (t.moveTo .inFlight).1
  | retried {u : Transfer} {e : TransferError} {now : Instant} (flying : t.state = .inFlight) (passing : e.Passing)
    (left : t.retry.attempts ≤ policy.maxRetries)
    (within : t.retry.totalBackoff + policy.backoff t.retry.attempts ≤ policy.window) (state : u.state = .retryPending)
    (next : u.retry = ⟨t.retry.attempts, some (now + policy.backoff t.retry.attempts),
      t.retry.totalBackoff + policy.backoff t.retry.attempts, some e, t.retry.isOverlong⟩) :
    Posting policy a t ⟨some now, a.taken, a.setbacks ++ [⟨t.retry.attempts, e, some now⟩], a.dropped⟩ u
  | finished {u : Transfer} {last : Option TransferError} {overlong : Bool} (reading : Option Instant)
    (unfinished : t.state.isTerminal = false) (terminal : u.state.isTerminal = true)
    (failed : t.state = .retryPending → u.state = .failed)
    (same : u.retry = { t.retry with lastError := last, isOverlong := overlong }) :
    Posting policy a t ⟨reading, a.taken, a.setbacks, a.dropped || decide (t.state = .retryPending)⟩ u

namespace Posting

variable {policy : RetryPolicy} {a a' : Account} {t u : Transfer}

theorem fail (unfinished : t.state.isTerminal = false) (i : Nat) (e : TransferError) :
    Posting policy a t (((t.fail e).2.map (Event.changed i)).foldl Account.note a) (t.fail e).1 := by
  rw [Account.foldl_note_fail]
  exact .finished a.reading unfinished rfl (fun _ => rfl) rfl

theorem complete (flying : t.state = .inFlight) (i : Nat) (now : Instant)
    (result : Except TransportError Response) : Posting policy a t
      ((Event.clock now :: (t.complete policy now result).2.map (.changed i)).foldl Account.note a)
      (t.complete policy now result).1 := by
  have unfinished : t.state.isTerminal = false := congrArg TransferState.isTerminal flying
  rw [List.foldl_cons]
  obtain ⟨buffer, -, eq⟩ | ⟨e, retry, -, scheduled, eq⟩ | ⟨e, retry, -, scheduled, eq⟩ :=
    t.complete_cases policy now result
  · rw [eq]
    have noted : (([.moved t.state .succeeded] : List Change).map (Event.changed i)).foldl Account.note
        (a.note (.clock now)) = ⟨some now, a.taken, a.setbacks, a.dropped || decide (t.state = .retryPending)⟩ := by
      simp [Account.note, flying]
    rw [noted]
    exact .finished _ unfinished rfl (fun pending => nomatch flying.symm.trans pending) rfl
  · obtain ⟨passing, left, within, done⟩ | ⟨_, done, -⟩ := t.retry.schedule_cases policy e now
    · rw [eq, Account.foldl_note_retrying]
      cases done.symm.trans scheduled
      exact .retried flying passing left within rfl rfl
    · cases done.symm.trans scheduled
  · obtain ⟨-, -, -, done⟩ | ⟨_, done, -⟩ := t.retry.schedule_cases policy e now
    · cases done.symm.trans scheduled
    · rw [eq, Account.foldl_note_fail]
      cases done.symm.trans scheduled
      exact .finished _ unfinished rfl (fun _ => rfl) rfl

/-- A posting keeps a transfer in agreement with its account. -/
theorem accounted (h : Posting policy a t a' u) (agree : Accounted policy a t) : Accounted policy a' u := by
  obtain ⟨phase, passing, waited, within⟩ := agree
  cases h with
  | kept reading => exact ⟨phase.reading reading, passing, waited, within⟩
  | configured new state same =>
    rw [← same] at waited within
    exact ⟨phase.configured new state (congrArg Retry.dueAt same), passing, waited, within⟩
  | submitted ready handle => exact ⟨phase.submitted ready handle, passing, waited, within⟩
  | began enqueued => exact ⟨phase.began enqueued, passing, waited, within⟩
  | retried flying passes left within' state next =>
    refine ⟨?_, List.forall_mem_append.mpr ⟨passing, List.forall_mem_singleton.mpr passes⟩, ?_, ?_⟩
    · obtain ⟨taken, -, undropped, -⟩ := phase.of_inFlight flying
      refine .waiting state ?_ List.getLast?_concat (by rw [next]) rfl undropped (by rw [next])
      rw [taken, List.length_append]
      rfl
    · rw [next, waited, RetryPolicy.backoffs, RetryPolicy.backoffs, List.foldl_append]
      rfl
    · rw [next]
      exact within'
  | finished reading unfinished terminal failed same =>
    refine ⟨(phase.finish unfinished terminal failed (by rw [same])).reading reading, passing, ?_, ?_⟩
    · rw [same, ← waited]
    · rw [same]
      exact within

theorem taken_le (h : Posting policy a t a' u) : a.taken.length ≤ a'.taken.length := by
  cases h with
  | kept | configured | began | retried | finished => exact Nat.le_refl _
  | submitted => exact List.length_append ▸ Nat.le_add_right _ _

/-- A posting keeps the attempts numbered, if there is a number for the next. -/
theorem numbered (h : Posting policy a t a' u) (phase : Phase policy a t)
    (room : policy.maxRetries.toNat + 1 < UInt32.size ∨ a'.taken.length < UInt32.size)
    (agree : Numbered policy a t) : Numbered policy a' u := by
  obtain ⟨attempts, numbers, budget⟩ := agree
  cases h with
  | kept => exact ⟨attempts, numbers, budget⟩
  | configured new state same => exact ⟨by rw [same, attempts], numbers, budget⟩
  | submitted ready handle =>
    refine ⟨?_, numbers, budget⟩
    obtain ⟨taken, -⟩ := phase.of_ready ready
    have next : (a.taken ++ [handle]).length = a.taken.length + 1 := List.length_append
    have room : a.taken.length + 1 < UInt32.size := by
      obtain room | room := room
      · exact Nat.lt_of_le_of_lt (Nat.succ_le_succ (taken ▸ budget)) room
      · exact next ▸ room
    calc (t.retry.attempts + 1).toNat
      _ = (t.retry.attempts.toNat + 1) % UInt32.size := UInt32.toNat_add ..
      _ = a.taken.length + 1 := by rw [attempts, Nat.mod_eq_of_lt room]
      _ = (a.taken ++ [handle]).length := next.symm
  | began => exact ⟨attempts, numbers, budget⟩
  | retried flying passes left within state next =>
    obtain ⟨taken, -⟩ := phase.of_inFlight flying
    have number := attempts.trans taken
    refine ⟨by rw [next, attempts], ?_, ?_⟩
    · rw [List.map_append, numbers, List.length_append, List.length_singleton, List.range'_concat]
      simp [number, Nat.add_comm]
    · rw [List.length_append, List.length_singleton, ← number]
      exact left
  | finished reading unfinished terminal failed same => exact ⟨by rw [same, attempts], numbers, budget⟩

end Posting

theorem Accounted.opening {policy : RetryPolicy} {t : Transfer} (fresh : t.Fresh) (i : Nat) :
    Accounted policy (.of i []) t where
  phase := .new (.inl fresh.state) rfl rfl rfl (congrArg Retry.dueAt fresh.retry)
  passing := List.forall_mem_nil _
  waited := congrArg Retry.totalBackoff fresh.retry
  within := by rw [fresh.retry]; exact Nat.zero_le _

theorem Numbered.opening {policy : RetryPolicy} {t : Transfer} (fresh : t.Fresh) (i : Nat) :
    Numbered policy (.of i []) t where
  attempts := by rw [fresh.retry]; rfl
  numbers := rfl
  budget := Nat.zero_le _

namespace Session
open Transfer

variable {σ : Type} {env : Environment σ} {connection : Connection} {options : SessionOptions} {world : σ}
  {transfers : List Transfer} {m m' : Moment σ} {i : Nat} {t u : Transfer} {entries : List Event} {a : Account}
  {policy : RetryPolicy} {Ready : Transfer → Prop}

/-- Each act is a posting to the account. -/
theorem Act.posting (act : Act connection options Ready m i t u entries) (sound : Sound m)
    (ht : t ∈ m.session.transfers) (ready : Ready t → t.state = .configured ∨ t.state = .retryPending) (a : Account) :
    Posting options.retryPolicy a t (entries.foldl Account.note a) u := by
  have unfinished : Ready t → t.state.isTerminal = false := by
    intro this
    obtain state | state := ready this <;> rw [state] <;> rfl
  cases act with
  | kept other =>
    obtain ⟨reading, eq⟩ := Account.foldl_note_other other a
    rw [eq]
    exact .kept reading
  | @configured done new ok =>
    obtain ⟨_, _, _, -, ⟨-, rfl⟩ | ⟨-, rfl⟩⟩ := configure_cases ok
    · have noted : (([.moved t.state .configured, .moved .configured .succeeded] : List Change).map
          (Event.changed i)).foldl Account.note a =
          ⟨a.reading, a.taken, a.setbacks, a.dropped || decide (t.state = .retryPending)⟩ := by
        simp [Account.note, new]
      rw [noted]
      exact .finished _ (by rw [new]; rfl) rfl (fun pending => nomatch new.symm.trans pending) rfl
    · have noted : (([.moved t.state .configured] : List Change).map (Event.changed i)).foldl Account.note a = a :=
        Account.note_moved a i _ nofun
      rw [noted]
      exact .configured new rfl rfl
  | refused new => exact .fail (by rw [new]; rfl) i _
  | @submitted request handle idle this =>
    have noted : (Event.submitted i request (.ok handle) :: (t.submitted handle).2.map (.changed i)).foldl
        Account.note a = { a with taken := a.taken ++ [handle] } := Account.note_moved _ i _ nofun
    rw [noted]
    exact .submitted (ready this) handle
  | rejected this => exact .fail (unfinished this) i _
  | unasked this => exact .fail (unfinished this) i _
  | began enqueued =>
    have noted : ((t.moveTo .inFlight).2.map (Event.changed i)).foldl Account.note a = a :=
      Account.note_moved a i _ nofun
    rw [noted]
    exact .began enqueued
  | completed waiting held => exact .complete (sound.inFlight waiting ht (Option.isSome_of_eq_some held)) i _ _
  | abandoned unfinished => exact .fail unfinished i _

/-- Each step is a posting to each account. -/
theorem Step.posting (step : Step env connection options m m') (sound : Sound m)
    (here : m.session.transfers[i]? = some t) : ∃ u, m'.session.transfers[i]? = some u ∧
      Posting options.retryPolicy (.of i m.session.journal) t (.of i m'.session.journal) u := by
  obtain ⟨u, entries, act, hu, own⟩ := step.act i t here
  rw [Account.of_append own]
  exact ⟨u, hu, act.posting sound (List.mem_of_getElem? here) ready_state _⟩

/-- At each moment of a call, each new transfer agrees with its account. -/
theorem Reaches.accounted (h : Reaches env connection options (opening world transfers) m)
    (idle : ∀ t ∈ transfers, t.Idle) (here : transfers[i]? = some t) (fresh : t.Fresh) :
    ∃ u, m.session.transfers[i]? = some u ∧ Accounted options.retryPolicy (.of i m.session.journal) u := by
  induction h with
  | refl => exact ⟨t, here, .opening fresh i⟩
  | tail reached step ih =>
    obtain ⟨u, hu, agree⟩ := ih
    obtain ⟨v, hv, posting⟩ := step.posting (Reaches.sound reached (.opening idle)) hu
    exact ⟨v, hv, posting.accounted agree⟩

theorem Reaches.length (h : Reaches env connection options m m') :
    m'.session.transfers.length = m.session.transfers.length := by
  induction h with
  | refl => rfl
  | tail _ step ih => exact step.length.trans ih

/-- What stands at a place was there from the beginning. -/
theorem Reaches.origin (h : Reaches env connection options (opening world transfers) m)
    (hu : m.session.transfers[i]? = some u) : ∃ t ∈ transfers, transfers[i]? = some t := by
  obtain ⟨hi, -⟩ := List.getElem?_eq_some_iff.mp hu
  have there := List.getElem?_eq_getElem (l := transfers) (h.length ▸ hi)
  exact ⟨_, List.mem_of_getElem? there, there⟩

/-- At each moment of a call of new transfers, each agrees with its account. -/
theorem Reaches.agree (h : Reaches env connection options (opening world transfers) m)
    (fresh : ∀ t ∈ transfers, t.Fresh) (hu : m.session.transfers[i]? = some u) :
    Accounted options.retryPolicy (.of i m.session.journal) u := by
  obtain ⟨t, ht, here⟩ := h.origin hu
  obtain ⟨v, hv, agree⟩ := h.accounted (fun t ht => (fresh t ht).idle) here (fresh t ht)
  cases hu.symm.trans hv
  exact agree

/-- The attempts of a new transfer are numbered, as long as there are numbers for them. -/
theorem Reaches.numbered (h : Reaches env connection options (opening world transfers) m)
    (idle : ∀ t ∈ transfers, t.Idle) (here : transfers[i]? = some t) (fresh : t.Fresh)
    (room : options.retryPolicy.maxRetries.toNat + 1 < UInt32.size ∨
      (Account.of i m.session.journal).taken.length < UInt32.size) :
    ∃ u, m.session.transfers[i]? = some u ∧ Accounted options.retryPolicy (.of i m.session.journal) u ∧
      Numbered options.retryPolicy (.of i m.session.journal) u := by
  induction h with
  | refl => exact ⟨t, here, .opening fresh i, .opening fresh i⟩
  | tail reached step ih =>
    obtain ⟨u, hu, -⟩ := Reaches.accounted reached idle here fresh
    obtain ⟨v, hv, posting⟩ := step.posting (Reaches.sound reached (.opening idle)) hu
    obtain ⟨u', hu', agree, numbered⟩ := ih (room.imp_right (Nat.lt_of_le_of_lt posting.taken_le))
    cases hu.symm.trans hu'
    exact ⟨v, hv, posting.accounted agree, posting.numbered agree.phase room numbered⟩

end Session

end ArrayTransfer
