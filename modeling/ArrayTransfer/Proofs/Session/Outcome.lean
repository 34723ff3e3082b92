import ArrayTransfer.Proofs.Session.Standing

/-! The outcome of a call does not depend on the order in which its requests are reported. If a multiplexer keeps its
    books, each transfer ends as its own results make it end, and nothing of the call is left in the multiplexer. -/

namespace ArrayTransfer.Session
open Transfer

variable {σ : Type} {env : Environment σ} {connection : Connection} {options : SessionOptions} {world : σ}
  {transfers : List Transfer} {results : Nat → Nat → Except TransportError Response} {s : Session σ} {m m' : Moment σ}
  {i : Nat} {t u : Transfer} {fuel : Nat}

/-- A step in which the transfers are given up. -/
structure Abandoned (options : SessionOptions) (m m' : Moment σ) : Prop where
  session : m'.session = m.session.failUnfinished
  idle : m.waiting = []
  idle' : m'.waiting = []
  reason : m.session.isExhausted options = true ∨ (∀ t ∈ m.session.transfers, t.Aloft) ∧
    (∃ t ∈ m.session.transfers, t.state = .inFlight) ∧ ∃ past, m.session.journal = past ++ [.polled [], .counted 0]

theorem prepare_new (connection : Connection) (options : SessionOptions) (s : Session σ) (i : Nat)
    (new : t.state = .init) : ∃ changes,
    s.prepare connection options.base64Writes i t = s.update i (t.prepared connection options, changes) := by
  obtain ⟨done, -, ok, eq⟩ | ⟨e, -, error, eq⟩ | ⟨old, -⟩ :=
    prepare_cases connection options.base64Writes s i t
  · exact ⟨done.2, by rw [eq, prepared, ok]⟩
  · exact ⟨(t.fail e).2, by rw [eq, prepared, error]⟩
  · exact absurd new old

theorem handle_beginFlight (t : Transfer) : t.beginFlight.1.handle = t.handle := by
  unfold beginFlight
  split <;> rfl

namespace RunningAt

theorem prepare (h : RunningAt connection options results transfers ⟨s, []⟩) (fresh : ∀ t ∈ transfers, t.Fresh)
    (at_ : s.transfers[i]? = some u) :
    RunningAt connection options results transfers ⟨s.prepare connection options.base64Writes i u, []⟩ := by
  by_cases new : u.state = .init
  · obtain ⟨changes, eq⟩ := prepare_new connection options s i new
    obtain ⟨t, ht, -, stands⟩ := h.origin at_
    obtain ⟨rfl, -⟩ := Standing.prepare (fresh t ht) stands new
    unfold RunningAt
    simp only [eq, update_transfers, update_journal, Ledger.of_append, Ledger.foldl_note_changes]
    refine h.set at_ (List.Subset.refl _) (fun _ _ _ _ _ _ c hc _ => hc) (fun t' ht' stands' => ?_) (.inl ?_)
    · obtain ⟨rfl, prepared⟩ := Standing.prepare (fresh t' ht') stands' new
      exact prepared
    · exact ((fresh u ht).prepared connection options).1.trans (fresh u ht).handle.symm
  · have eq : s.prepare connection options.base64Writes i u = s := if_neg new
    rw [eq]
    exact h

/-- A request is handed over, which the multiplexer takes. -/
theorem submit (h : RunningAt connection options results transfers ⟨s, []⟩) (fresh : ∀ t ∈ transfers, t.Fresh)
    (at_ : s.transfers[i]? = some u) (ready : u.state = .configured ∨ u.state = .retryPending)
    (accepts : Follows Accepts (.of []) (s.submit env i u).journal) :
    RunningAt connection options results transfers ⟨s.submit env i u, []⟩ := by
  obtain ⟨t, ht, -, stands⟩ := h.origin at_
  obtain ⟨-, ⟨request', held⟩, -⟩ := Standing.submit (fresh t ht) stands ready
  obtain ⟨none, -⟩ | ⟨request, handle, -, added, eq⟩ | ⟨request, e, -, added, eq⟩ := submit_cases env s i u
  · exact nomatch none.symm.trans held
  · rw [eq, asked_update_journal, added] at accepts
    have new : ∀ o ∈ (Ledger.of s.journal).unreported, o.handle ≠ handle := accepts.at
    unfold RunningAt
    simp only [eq, asked_update_journal, added, Ledger.of_append, List.foldl_cons, Ledger.foldl_note_changes]
    exact Running.submit h fresh at_ ready request new
  · rw [eq, asked_update_journal, added] at accepts
    exact absurd accepts.at id

/-- A completion is handed out. -/
theorem deliver {c : Completion} {rest : List Completion}
    (h : RunningAt connection options results transfers ⟨s, c :: rest⟩) (fresh : ∀ t ∈ transfers, t.Fresh) :
    RunningAt connection options results transfers ⟨s.deliver env options.retryPolicy c, rest⟩ := by
  unfold RunningAt
  obtain ⟨nobody, eq⟩ | ⟨j, u, at_, holds, eq⟩ := deliver_cases env options.retryPolicy s c
  · simp only [eq, Ledger.of_append]
    exact h.skip nobody
  · simp only [eq, update_transfers, update_journal, readClock_transfers, readClock_journal, Ledger.of_append,
      Ledger.foldl_note_changes]
    exact Running.deliver h fresh at_ holds _

/-- If the multiplexer does as it is to do, a step keeps each transfer on its course, or the transfers are given up. -/
theorem step (h : RunningAt connection options results transfers m) (fresh : ∀ t ∈ transfers, t.Fresh)
    (step : Step env connection options m m')
    (accepts : Follows Accepts (.of []) m'.session.journal)
    (answers : Follows (Answers results) (.of []) m'.session.journal) :
    RunningAt connection options results transfers m' ∨ Abandoned options m m' := by
  cases step with
  | prepare at_ => exact .inl (h.prepare fresh at_)
  | submit at_ ready => exact .inl (h.submit fresh at_ (ready_state ready) accepts)
  | readClock s =>
    left
    unfold RunningAt at *
    simp only [readClock_journal, Ledger.of_append]
    exact h
  | @beginFlight s j u at_ =>
    left
    unfold RunningAt
    simp only [update_transfers, update_journal, Ledger.of_append, Ledger.foldl_note_changes]
    refine h.set at_ (List.Subset.refl _) (fun _ _ _ _ _ _ c hc _ => hc) (fun t ht stands => ?_)
      (.inl (handle_beginFlight u))
    exact Standing.beginFlight (fresh t ht) stands
  | count s => exact .inl h
  | @poll s aloft flying =>
    left
    have journal : (s.poll env options).2.journal = s.journal ++ [.polled (s.poll env options).1] := rfl
    unfold RunningAt
    simp only [journal] at answers
    simp only [journal, Ledger.of_append]
    exact h.poll answers.at
  | deliver s c rest => exact .inl (h.deliver fresh)
  | countPending s =>
    left
    have journal : (s.countPending env).2.journal = s.journal ++ [.counted (s.countPending env).1] := rfl
    unfold RunningAt
    simp only [journal, Ledger.of_append]
    exact h
  | abandon reason => exact .inr ⟨rfl, rfl, rfl, reason⟩
  | wait s =>
    left
    obtain eq | ⟨duration, eq⟩ := waitForRetry_cases env s
    · rw [eq]
      exact h
    · unfold RunningAt
      simp only [eq, Ledger.of_append]
      exact h

end RunningAt

theorem not_exhausted (unlimited : options.maxPolls = none) (s : Session σ) : s.isExhausted options = false := by
  unfold isExhausted
  rw [unlimited]

/-- If nothing is left to hand out, a transfer in flight is owed a report of its last request. -/
theorem RunningAt.unreported (h : RunningAt connection options results transfers m) (fresh : ∀ t ∈ transfers, t.Fresh)
    (sound : Sound m) (idle : m.waiting = []) (hu : m.session.transfers[i]? = some u) (flying : u.state = .inFlight) :
    ∃ o ∈ (Ledger.of m.session.journal).unreported,
      o.transfer = i ∧ o.attempt = (Ledger.of m.session.journal).tries i := by
  obtain ⟨t, ht, -, stands⟩ := h.origin hu
  obtain ⟨handle, held⟩ :=
    Option.isSome_iff_exists.mp ((sound.coupled u (List.mem_of_getElem? hu)).handle.mpr (.inr flying))
  obtain ⟨-, unreported | ⟨⟨c, hc, -⟩, -⟩⟩ := Standing.owed_of_handle (fresh t ht) stands held
  · exact ⟨_, unreported, rfl, rfl⟩
  · rw [idle] at hc
    cases hc

/-- While there is no limit of polls and the multiplexer counts what it has not reported, nothing is given up. -/
theorem RunningAt.not_abandoned (h : RunningAt connection options results transfers m)
    (fresh : ∀ t ∈ transfers, t.Fresh) (sound : Sound m) (unlimited : options.maxPolls = none)
    (counts : Follows Counts (.of []) m.session.journal) : ¬Abandoned options m m' := by
  rintro ⟨-, idle, -, exhausted | ⟨-, ⟨u, hu, flying⟩, past, journal⟩⟩
  · exact Bool.noConfusion ((not_exhausted unlimited m.session).symm.trans exhausted)
  · obtain ⟨j, at_⟩ := List.getElem?_of_mem hu
    obtain ⟨o, unreported, -⟩ := h.unreported fresh sound idle at_ flying
    have split : m.session.journal = (past ++ [.polled []]) ++ [.counted 0] := by
      rw [journal, List.append_assoc]
      rfl
    rw [split] at counts unreported
    rw [Ledger.of_append] at unreported
    have counted : (Ledger.of (past ++ [.polled []])).unreported.length ≤ 0 := counts.at
    exact Nat.not_lt_of_le counted (List.length_pos_of_mem unreported)

theorem sound_of_fresh (fresh : ∀ t ∈ transfers, t.Fresh) : Sound (opening world transfers) :=
  .opening fun t ht => (fresh t ht).idle

/-- Each transfer of a call keeps to its course. -/
theorem Reaches.running (h : Reaches env connection options (opening world transfers) m)
    (fresh : ∀ t ∈ transfers, t.Fresh) (unlimited : options.maxPolls = none)
    (accepts : Follows Accepts (.of []) m.session.journal)
    (answers : Follows (Answers results) (.of []) m.session.journal)
    (counts : Follows Counts (.of []) m.session.journal) : RunningAt connection options results transfers m := by
  induction h with
  | refl => exact Running.opening fresh
  | @tail m m' reached step ih =>
    have running := ih (step.follows accepts) (step.follows answers) (step.follows counts)
    refine (running.step fresh step accepts answers).resolve_right ?_
    exact running.not_abandoned fresh (Reaches.sound reached (sound_of_fresh fresh)) unlimited
      (step.follows counts)

/-- A transfer that has ended on its course has the fate that all its results give it, also those that were never asked
    for. -/
theorem Standing.final {course : Nat → Except TransportError Response} {n : Nat} {owed : Handle → Prop}
    (fresh : t.Fresh) (h : Standing connection options course t n owed u) (terminal : u.state.isTerminal = true) :
    u.handle = none ∧ ∀ k, n ≤ k → u.fate = t.fates connection options course k := by
  cases h with
  | new =>
    rw [fresh.state] at terminal
    cases terminal
  | ready _ configured =>
    rw [configured] at terminal
    cases terminal
  | flying _ state =>
    obtain state | state := state <;> rw [state] at terminal <;> cases terminal
  | resting state =>
    rw [state] at terminal
    cases terminal
  | ended _ free fate =>
    refine ⟨free, fun k later => fate.trans (fates_of_terminal ?_ later).symm⟩
    rw [← fate]
    exact terminal

/-- A transfer that has ended on its course is owed nothing, was not given up, and has the fate of its results. -/
theorem Running.final {l : Ledger} {ts : List Transfer} {waiting : List Completion}
    (h : Running connection options results transfers ts l waiting) (fresh : ∀ t ∈ transfers, t.Fresh)
    (ht : transfers[i]? = some t) (hu : ts[i]? = some u) (terminal : u.state.isTerminal = true) :
    (∀ o ∈ l.unreported, o.transfer ≠ i) ∧ (∀ k, u.error ≠ some (.incomplete k)) ∧
      ∀ n, l.tries i ≤ n → u.fate = t.fates connection options (results i) n := by
  have new := fresh t (List.mem_of_getElem? ht)
  obtain ⟨free, fate⟩ := Standing.final new (h.stands i t u ht hu) terminal
  refine ⟨fun o ho own => ?_, fun k given => ?_, fate⟩
  · obtain ⟨w, hw, held, -⟩ := h.held o ho
    rw [own, hu] at hw
    cases hw
    exact nomatch free.symm.trans held
  · exact new.fates_error _ k ((congrArg Fate.error (fate _ (Nat.le_refl _))).symm.trans given)

/-- If a call of new transfers ends, without a limit of polls and with a multiplexer that takes requests under handles
    not in use, reports of each the result of its attempt, and counts those it has not reported, then each transfer has
    the fate that its own results give it, whatever the others do and however the reports are ordered, grouped and mixed
    with others. No transfer was given up, and none of the call's requests is left unreported. -/
theorem outcome_of_execute (fresh : ∀ t ∈ transfers, t.Fresh) (unlimited : options.maxPolls = none)
    (done : execute env connection options fuel world transfers = some s)
    (accepts : Follows Accepts (.of []) s.journal) (answers : Follows (Answers results) (.of []) s.journal)
    (counts : Follows Counts (.of []) s.journal) :
    s.transfers.length = transfers.length ∧
      (∀ (i : Nat) (t : Transfer), transfers[i]? = some t → ∃ u, s.transfers[i]? = some u ∧
        u.state.isTerminal = true ∧ (∀ k, u.error ≠ some (.incomplete k)) ∧
        ∀ n, (Ledger.of s.journal).tries i ≤ n → u.fate = t.fates connection options (results i) n) ∧
      (Ledger.of s.journal).unreported = [] := by
  have reached := reaches_execute done
  have terminal := isTerminal_of_execute done
  have running := reached.running fresh unlimited accepts answers counts
  refine ⟨running.length, fun i t ht => ?_, List.eq_nil_iff_forall_not_mem.mpr fun o ho => ?_⟩
  · obtain ⟨hi, -⟩ := List.getElem?_eq_some_iff.mp ht
    have hu := List.getElem?_eq_getElem (l := s.transfers) (running.length ▸ hi)
    have ended := terminal _ (List.mem_of_getElem? hu)
    obtain ⟨-, given, fate⟩ := running.final fresh ht hu ended
    exact ⟨_, hu, ended, given, fate⟩
  · obtain ⟨u, hu, -⟩ := running.held o ho
    obtain ⟨t, -, ht, -⟩ := running.origin hu
    exact (running.final fresh ht hu (terminal u (List.mem_of_getElem? hu))).1 o ho rfl

/-- A world that is busy once and answers then, after a poll with nothing, one request at a time, the last one first,
    and with each of them one that was never made. -/
def busyOnce : Scripted :=
  ⟨⟨[], [], 1, 1, true, false, true⟩,
    [("d", [.reply (.ok ⟨503, []⟩), .reply (.ok seven), .reply (.ok seven)])], [], 0, 0, 0, 0, []⟩

/-- It is the first of the transfers that has to try again. -/
def busyOnceResults (i j : Nat) : Except TransportError Response := if i = 0 ∧ j = 1 then .ok ⟨503, []⟩ else .ok seven

theorem outcome_of_execute_busyOnce : ∃ s,
    execute Scripted.environment plainStore oneRetry 9 busyOnce [oneRead, oneRead] = some s ∧
      Follows Accepts (.of []) s.journal ∧ Follows (Answers busyOnceResults) (.of []) s.journal ∧
      Follows Counts (.of []) s.journal ∧ (Ledger.of s.journal).tries 0 = 2 ∧ ∃ u, s.transfers[0]? = some u ∧
        u.fate = oneRead.fates plainStore oneRetry (busyOnceResults 0) 2 ∧ u.state = .succeeded ∧ u.buffer = [7] := by
  have new : oneRead.Fresh := .of_make (show make .read oneByte onePoint none oneByte.type [0] = _ from rfl)
  have fresh : ∀ t ∈ [oneRead, oneRead], t.Fresh := List.forall_mem_cons.mpr ⟨new, List.forall_mem_singleton.mpr new⟩
  have run : (execute Scripted.environment plainStore oneRetry 9 busyOnce [oneRead, oneRead]).map (fun s =>
      decide (Follows Accepts (.of []) s.journal ∧ Follows (Answers busyOnceResults) (.of []) s.journal ∧
        Follows Counts (.of []) s.journal ∧ (Ledger.of s.journal).tries 0 = 2 ∧
        s.transfers.map (fun t => (t.state, t.buffer)) = [(.succeeded, [7]), (.succeeded, [7])])) = some true := by
    decide +kernel
  obtain ⟨s, done, checked⟩ := Option.map_eq_some_iff.mp run
  obtain ⟨accepts, answers, counts, tries, ended⟩ := of_decide_eq_true checked
  obtain ⟨-, outcome, -⟩ := outcome_of_execute fresh rfl done accepts answers counts
  obtain ⟨u, hu, -, -, fate⟩ := outcome 0 oneRead rfl
  have here := congrArg (·[0]?) ended
  simp only [List.getElem?_map, hu, Option.map_some, List.getElem?_cons_zero, Option.some.injEq, Prod.mk.injEq] at here
  exact ⟨s, done, accepts, answers, counts, tries, u, hu, fate 2 (Nat.le_of_eq tries), here.1, here.2⟩

end ArrayTransfer.Session
