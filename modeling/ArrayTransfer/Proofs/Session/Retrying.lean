import ArrayTransfer.Proofs.Session.Account
import ArrayTransfer.Proofs.Session.Outcome

/-! Retries keep to their policy, whatever the environment does. A request is made when it is due (`Due`): it is the
    first, or the error of the one before may pass and the wait for it is over. -/

namespace ArrayTransfer

/-- The next request for a transfer is due by its account: none was made yet, or the last one met with an error that may
    pass, and by the last reading of the clock the wait since then is over. -/
inductive Due (policy : RetryPolicy) (a : Account) : Prop
  | first (taken : a.taken = []) (setbacks : a.setbacks = [])
  | again {b : Setback} {time now : Instant} (last : a.setbacks.getLast? = some b)
    (number : b.attempt.toNat = a.taken.length) (passing : b.error.Passing) (found : b.time = some time)
    (reading : a.reading = some now) (come : time + policy.backoff b.attempt ≤ now)

/-- A transfer that is ready by its state is due by its account. -/
theorem Accounted.due {policy : RetryPolicy} {a : Account} {t : Transfer} (h : Accounted policy a t)
    (numbered : Numbered policy a t)
    (ready : t.state = .configured ∨ ∃ now, a.reading = some now ∧ t.isRetryDue now = true) : Due policy a := by
  obtain configured | ⟨now, reading, due⟩ := ready
  · cases h.phase with
    | new _ taken setbacks => exact .first taken setbacks
    | trying state => obtain state | state := state <;> cases state.symm.trans configured
    | waiting state => cases state.symm.trans configured
    | ended terminal =>
      rw [configured] at terminal
      cases terminal
  · have pending := Transfer.retryPending_of_isRetryDue due
    cases h.phase with
    | new state => obtain state | state := state <;> cases state.symm.trans pending
    | trying state => obtain state | state := state <;> cases state.symm.trans pending
    | @waiting b time _ _ last number found _ dueAt =>
      have come : time + policy.backoff b.attempt ≤ now := by
        rw [Transfer.isRetryDue, Retry.isDue, dueAt] at due
        exact of_decide_eq_true ((Bool.and_eq_true _ _).mp due).2
      exact .again last (number ▸ numbered.attempts) (h.passing b (List.mem_of_getLast? last)) found reading come
    | ended terminal =>
      rw [pending] at terminal
      cases terminal

namespace Session
open Transfer

variable {σ : Type} {env : Environment σ} {connection : Connection} {options : SessionOptions} {world : σ}
  {transfers : List Transfer} {m m' : Moment σ} {i j : Nat} {t u v : Transfer} {entries before rest : List Event}
  {request : Request} {result : Except TransportError Handle} {a : Account} {policy : RetryPolicy} {now : Instant}
  {Ready : Transfer → Prop}

/-- At each moment, every request that was made for a new transfer was due by its account. -/
theorem Runs.due (h : Runs env connection options (opening world transfers) m) (idle : ∀ t ∈ transfers, t.Idle)
    (bounded : options.retryPolicy.maxRetries.toNat + 1 < UInt32.size) (here : transfers[i]? = some t) (fresh : t.Fresh)
    {past : List Event} (asked : m.session.journal = past ++ .submitted i request result :: rest) :
    Due options.retryPolicy (.of i past) := by
  -- What is about other transfers plays no part.
  suffices own : ∀ past rest, entriesOf i m.session.journal = past ++ .submitted i request result :: rest →
      Due options.retryPolicy (past.foldl Account.note (.of i [])) by
    refine own (entriesOf i past) (entriesOf i rest) ?_
    rw [asked, ← List.singleton_append, entriesOf_append, entriesOf_append,
      entriesOf_about (List.forall_mem_singleton.mpr (.inr rfl))]
    rfl
  clear asked
  induction h with
  | refl =>
    intro past rest eq
    cases (List.append_eq_nil_iff.mp eq.symm).2
  | @tail m m' reached timely ih =>
    intro past rest eq
    obtain ⟨u, hu, agree, numbered⟩ := (Runs.reaches reached).numbered idle here fresh (.inl bounded)
    obtain ⟨v, entries, act, -, own⟩ := timely.act i u hu
    rw [own] at eq
    -- Either the request was made before, or it is made by this step.
    have made : ∀ before, entries = before ++ .submitted i request result :: rest →
        past = entriesOf i m.session.journal ++ before → Due options.retryPolicy (past.foldl Account.note (.of i [])) := by
      intro before split eq
      obtain ⟨rfl, -, ready, -⟩ := act.asked split
      rw [eq, List.append_nil]
      exact agree.due numbered (ready.imp_right fun ⟨now, read, due⟩ =>
        ⟨now, (Account.reading_of i m.session.journal).trans read, due⟩)
    obtain ⟨before, eq, split⟩ | ⟨later, eq, split⟩ := List.append_eq_append_iff.mp eq
    · exact made before split eq
    · obtain ⟨rfl, only⟩ | ⟨more, rfl, -⟩ := List.cons_eq_append_iff.mp split
      · exact made [] only (by rw [eq, List.append_nil, List.append_nil])
      · exact ih past more eq

/-- A transfer is in flight until it is given up or its last request is reported: it has then succeeded, or waits to try
    again after an error that may pass, or has failed with the error of that request. -/
theorem Act.landed (act : Act connection options Ready m i u v entries) (phase : Phase policy a u)
    (ready : Ready u → u.state = .configured ∨ u.state = .retryPending) (flying : u.state = .inFlight)
    (landed : v.state ≠ .inFlight) :
    v.state = .failed ∧ v.error = some (.incomplete m.session.iterations) ∨
      ∃ c rest, m.waiting = c :: rest ∧ a.taken.getLast? = some c.handle ∧
        match u.outcome c.result with
        | .ok _ => v.state = .succeeded
        | .error e => e.Passing ∧ v.state = .retryPending ∨ v.state = .failed ∧ v.error = some e := by
  have unready : ¬Ready u := by
    intro this
    obtain state | state := ready this <;> cases flying.symm.trans state
  cases act with
  | kept => exact absurd flying landed
  | configured new | refused new => cases flying.symm.trans new
  | submitted _ this | rejected this | unasked this => exact absurd this unready
  | began enqueued => cases flying.symm.trans enqueued
  | abandoned => exact .inl ⟨rfl, rfl⟩
  | @completed c rest now waiting held =>
    obtain ⟨-, handle, -⟩ := phase.of_inFlight flying
    refine .inr ⟨c, rest, waiting, handle.symm.trans held, ?_⟩
    obtain ⟨buffer, outcome, eq⟩ | ⟨e, retry, outcome, scheduled, eq⟩ | ⟨e, retry, outcome, scheduled, eq⟩ :=
      u.complete_cases options.retryPolicy now c.result <;> rw [outcome, eq]
    · obtain ⟨passing, -⟩ | ⟨_, done, -⟩ := u.retry.schedule_cases options.retryPolicy e now
      · exact .inl ⟨passing, rfl⟩
      · cases done.symm.trans scheduled
    · exact .inr ⟨rfl, rfl⟩

/-- In any environment retries keep to their policy, if it allows no more of them than a word can count. At each moment
    of a call, no more requests were taken for a new transfer than the first and the retries that are allowed. Its setbacks
    are numbered from one, and the time it was to wait is the sum of what the policy has for each, which is never more
    than is allowed. Every request for it was due when it was made. And when it leaves its flight without being given
    up, then by the report of the last request that was taken: it waits for a retry only after an error that may pass,
    and fails with no other error than that of this request. -/
theorem retries_within_policy (env : Environment σ) (connection : Connection) (options : SessionOptions) (world : σ)
    (idle : ∀ t ∈ transfers, t.Idle) (bounded : options.retryPolicy.maxRetries.toNat + 1 < UInt32.size) :
    (∀ s, Head env connection options world transfers s →
      Runs env connection options (opening world transfers) ⟨s, []⟩) ∧
    (∀ fuel s, execute env connection options fuel world transfers = some s →
      Runs env connection options (opening world transfers) ⟨s, []⟩) ∧
    ∀ m, Runs env connection options (opening world transfers) m →
      ∀ (i : Nat) (t : Transfer), transfers[i]? = some t → t.Fresh → ∃ u, m.session.transfers[i]? = some u ∧
        (Account.of i m.session.journal).taken.length ≤ options.retryPolicy.maxRetries.toNat + 1 ∧
        (Account.of i m.session.journal).setbacks.map (·.attempt.toNat) =
          List.range' 1 (Account.of i m.session.journal).setbacks.length ∧
        u.retry.totalBackoff = options.retryPolicy.backoffs (Account.of i m.session.journal).setbacks ∧
        u.retry.totalBackoff ≤ options.retryPolicy.window ∧
        (∀ past request result rest, m.session.journal = past ++ .submitted i request result :: rest →
          Due options.retryPolicy (.of i past)) ∧
        ∀ m' v, Timely env connection options m m' → m'.session.transfers[i]? = some v → u.state = .inFlight →
          v.state ≠ .inFlight → v.state = .failed ∧ v.error = some (.incomplete m.session.iterations) ∨
            ∃ c rest, m.waiting = c :: rest ∧ (Account.of i m.session.journal).taken.getLast? = some c.handle ∧
              match u.outcome c.result with
              | .ok _ => v.state = .succeeded
              | .error e => e.Passing ∧ v.state = .retryPending ∨ v.state = .failed ∧ v.error = some e := by
  refine ⟨fun s head => (runs_head head).1, fun fuel s done => runs_execute done, fun m run i t here fresh => ?_⟩
  obtain ⟨u, hu, agree, numbered⟩ := run.reaches.numbered idle here fresh (.inl bounded)
  refine ⟨u, hu, Nat.le_trans agree.phase.taken_le (Nat.succ_le_succ numbered.budget), numbered.numbers, agree.waited,
    agree.within, fun past request result rest asked => run.due idle bounded here fresh asked,
    fun m' v timely hv flying landed => ?_⟩
  obtain ⟨v', entries, act, hv', -⟩ := timely.act i u hu
  cases hv.symm.trans hv'
  exact act.landed agree.phase (ready_state <| ·.imp_right fun ⟨now, _, due⟩ => ⟨now, due⟩) flying landed

/-- The transfer that has to try again does so once, after it has waited as the policy has it. -/
theorem retries_within_policy_busyOnce : ∃ s u,
    execute Scripted.environment plainStore oneRetry 9 busyOnce [oneRead, oneRead] = some s ∧
      s.transfers[0]? = some u ∧ (Account.of 0 s.journal).taken.length = 2 ∧
      (Account.of 0 s.journal).setbacks.length = 1 ∧ u.retry.totalBackoff = 1 ∧
      ∀ past request result rest, s.journal = past ++ .submitted 0 request result :: rest →
        Due oneRetry.retryPolicy (.of 0 past) := by
  have new : oneRead.Fresh := .of_make (show make .read oneByte onePoint none oneByte.type [0] = _ from rfl)
  have idle : ∀ t ∈ [oneRead, oneRead], t.Idle :=
    List.forall_mem_cons.mpr ⟨idle_oneRead, List.forall_mem_singleton.mpr idle_oneRead⟩
  have run : (execute Scripted.environment plainStore oneRetry 9 busyOnce [oneRead, oneRead]).map (fun s =>
      ((Account.of 0 s.journal).taken.length,
        (Account.of 0 s.journal).setbacks.length,
        oneRetry.retryPolicy.backoffs (Account.of 0 s.journal).setbacks)) = some (2, 1, 1) := by
    decide +kernel
  obtain ⟨s, done, account⟩ := Option.map_eq_some_iff.mp run
  simp only [Prod.mk.injEq] at account
  obtain ⟨taken, setbacks, waits⟩ := account
  obtain ⟨-, ends, within⟩ := retries_within_policy Scripted.environment plainStore oneRetry busyOnce idle (by decide)
  obtain ⟨u, hu, -, -, waited, -, due, -⟩ := within _ (ends 9 s done) 0 oneRead rfl new
  exact ⟨s, u, done, hu, taken, setbacks, waited.trans waits, due⟩

end Session

end ArrayTransfer
