import ArrayTransfer.Proofs.Session.Outcome

/-! A multiplexer may lose requests: it takes them, and never reports them. Then a call gives up all that has not ended,
    and with the transfers whose requests are lost also those that wait for a retry, which lack nothing
    (`sibling_swept`). -/

namespace ArrayTransfer.Session
open Transfer

variable {σ : Type} {env : Environment σ} {connection : Connection} {options : SessionOptions} {world : σ}
  {transfers : List Transfer} {results : Nat → Nat → Except TransportError Response} {s : Session σ} {m m' : Moment σ}
  {i j : Nat} {t u v : Transfer} {fuel : Nat}

/-- How the transfer at place `i` that began as `t` can end: with the fate that its own results give it; given up, since
    its last request was never reported; or given up between two attempts, as all its requests were reported but the
    last one of another was not. -/
inductive Ending (connection : Connection) (options : SessionOptions)
    (results : Nat → Nat → Except TransportError Response) (l : Ledger) (i : Nat) (t : Transfer) : Transfer → Prop
  | own {u : Transfer} (reported : ∀ o ∈ l.unreported, o.transfer ≠ i) (error : ∀ k, u.error ≠ some (.incomplete k))
    (fate : u.fate = t.fates connection options (results i) (l.tries i)) : Ending connection options results l i t u
  | lost {u : Transfer} {k : Nat} {o : Taken} (unreported : o ∈ l.unreported)
    (last : o.transfer = i ∧ o.attempt = l.tries i) (error : u.error = some (.incomplete k)) :
    Ending connection options results l i t u
  | swept {u : Transfer} {k : Nat} {o : Taken} (reported : ∀ o ∈ l.unreported, o.transfer ≠ i)
    (between : (t.fates connection options (results i) (l.tries i)).state = .retryPending)
    (unreported : o ∈ l.unreported) (last : o.attempt = l.tries o.transfer)
    (error : u.error = some (.incomplete k)) : Ending connection options results l i t u

/-- All transfers have ended. -/
structure Over (connection : Connection) (options : SessionOptions)
    (results : Nat → Nat → Except TransportError Response) (transfers : List Transfer) (m : Moment σ) : Prop where
  idle : m.waiting = []
  terminal : ∀ t ∈ m.session.transfers, t.state.isTerminal = true
  length : m.session.transfers.length = transfers.length
  ending : ∀ (i : Nat) (t u : Transfer), transfers[i]? = some t → m.session.transfers[i]? = some u →
    Ending connection options results (.of m.session.journal) i t u

/-- A transfer that is given up, or had ended, when another is in flight. -/
theorem RunningAt.ending (h : RunningAt connection options results transfers m) (fresh : ∀ t ∈ transfers, t.Fresh)
    (sound : Sound m) (idle : m.waiting = []) (hv : m.session.transfers[j]? = some v) (flying : v.state = .inFlight)
    (ht : transfers[i]? = some t) (hu : m.session.transfers[i]? = some u) (aloft : u.Aloft) {iterations : Nat}
    {changes : List Change} {w : Transfer} (given : GivenUp iterations u w changes) :
    Ending connection options results (.of m.session.journal) i t w := by
  have new := fresh t (List.mem_of_getElem? ht)
  have stands := h.stands i t u ht hu
  cases given with
  | final terminal =>
    obtain ⟨reported, error, fate⟩ := h.final fresh ht hu terminal
    exact .own reported error (fate _ (Nat.le_refl _))
  | failed unfinished =>
    obtain state | state | terminal := aloft
    · obtain ⟨o, unreported, last⟩ := h.unreported fresh sound idle hu state
      exact .lost unreported last rfl
    · obtain ⟨o, unreported, sibling, last⟩ := h.unreported fresh sound idle hv flying
      refine .swept (fun o ho own => ?_) ?_ unreported (sibling ▸ last) rfl
      · -- A transfer that waits for a retry holds no handle, and so is owed nothing.
        obtain ⟨x, hx, held, -⟩ := h.held o ho
        rw [own, hu] at hx
        cases hx
        obtain ⟨flying | flying, -⟩ := Standing.owed_of_handle new stands held
        · exact nomatch state.symm.trans flying
        · exact nomatch state.symm.trans flying
      · rw [← Standing.fate_of_retryPending new stands state]
        exact state
    · exact nomatch unfinished.symm.trans terminal

theorem RunningAt.abandon (h : RunningAt connection options results transfers m) (fresh : ∀ t ∈ transfers, t.Fresh)
    (sound : Sound m) (unlimited : options.maxPolls = none) (abandoned : Abandoned options m m') :
    Over connection options results transfers m' := by
  obtain ⟨session, idle, idle', exhausted | ⟨aloft, ⟨v, hv, flying⟩, -⟩⟩ := abandoned
  · exact nomatch (not_exhausted unlimited m.session).symm.trans exhausted
  · obtain ⟨length, each, noted, journal⟩ := failUnfinished_spec m.session
    obtain ⟨j, hj⟩ := List.getElem?_of_mem hv
    rw [← session] at length each journal
    refine ⟨idle', ?_, length.trans h.length, fun i t w ht hw => ?_⟩
    · rw [session]
      exact isTerminal_of_failUnfinished _
    · rw [journal, Ledger.of_append, Ledger.foldl_note_noted]
      obtain ⟨hi, -⟩ := List.getElem?_eq_some_iff.mp ht
      have hu := List.getElem?_eq_getElem (l := m.session.transfers) (h.length ▸ hi)
      obtain ⟨x, changes, hx, -, given⟩ := each i _ hu
      cases hx.symm.trans hw
      exact h.ending fresh sound idle hj flying ht hu (aloft _ (List.mem_of_getElem? hu)) given

/-- Once all have ended and nothing is left to hand out, a step does nothing that the books note. -/
theorem Step.quiet (step : Step env connection options m m') (idle : m.waiting = [])
    (ended : ∀ t ∈ m.session.transfers, t.state.isTerminal = true) :
    m'.waiting = [] ∧ Ledger.of m'.session.journal = Ledger.of m.session.journal := by
  have final : ∀ {j : Nat} {u : Transfer} {a : TransferState}, m.session.transfers[j]? = some u → u.state = a →
      a.isTerminal = true := by
    rintro j u a hu rfl
    exact ended u (List.mem_of_getElem? hu)
  cases step with
  | @prepare s j u at_ =>
    obtain ⟨_, new, -⟩ | ⟨_, new, -⟩ | ⟨-, eq⟩ := prepare_cases connection options.base64Writes s j u
    · cases final at_ new
    · cases final at_ new
    · exact ⟨rfl, by rw [eq]⟩
  | submit at_ ready =>
    obtain state | state := ready_state ready
    · cases final at_ state
    · cases final at_ state
  | readClock s => exact ⟨rfl, Ledger.of_append _ _⟩
  | beginFlight at_ => exact ⟨rfl, by rw [update_journal, Ledger.of_append, Ledger.foldl_note_changes]⟩
  | count s => exact ⟨rfl, rfl⟩
  | poll aloft flying =>
    obtain ⟨u, hu, state⟩ := flying
    obtain ⟨j, hj⟩ := List.getElem?_of_mem hu
    cases final hj state
  | deliver s c rest => exact nomatch idle
  | countPending s => exact ⟨rfl, Ledger.of_append _ _⟩
  | @abandon s reason =>
    obtain ⟨-, -, noted, journal⟩ := failUnfinished_spec s
    exact ⟨rfl, by rw [journal, Ledger.of_append, Ledger.foldl_note_noted]⟩
  | wait s =>
    obtain eq | ⟨duration, eq⟩ := waitForRetry_cases env s
    · exact ⟨rfl, by rw [eq]⟩
    · exact ⟨rfl, by rw [eq]; exact Ledger.of_append _ _⟩

theorem Over.step (h : Over connection options results transfers m) (sound : Sound m)
    (step : Step env connection options m m') : Over connection options results transfers m' := by
  have kept : m'.session.transfers = m.session.transfers := by
    refine List.ext_getElem? fun i => ?_
    cases hu : m.session.transfers[i]? with
    | none =>
      rw [List.getElem?_eq_none_iff] at hu ⊢
      rwa [step.length]
    | some u =>
      have there := List.mem_of_getElem? hu
      obtain ⟨w, _, deed, hw, -⟩ := step.deed hu
      obtain ⟨rfl, -⟩ := sound.kept there deed (h.terminal u there)
      exact hw
  obtain ⟨idle, books⟩ := step.quiet h.idle h.terminal
  refine ⟨idle, ?_, ?_, ?_⟩
  · rw [kept]
    exact h.terminal
  · rw [kept]
    exact h.length
  · rw [kept, books]
    exact h.ending

/-- Each transfer of a call keeps to its course, until all end. -/
theorem Reaches.running_or_over (h : Reaches env connection options (opening world transfers) m)
    (fresh : ∀ t ∈ transfers, t.Fresh) (unlimited : options.maxPolls = none)
    (accepts : Follows Accepts (.of []) m.session.journal)
    (answers : Follows (Answers results) (.of []) m.session.journal) :
    RunningAt connection options results transfers m ∨ Over connection options results transfers m := by
  induction h with
  | refl => exact .inl (Running.opening fresh)
  | @tail m m' reached step ih =>
    have sound := Reaches.sound reached (sound_of_fresh fresh)
    obtain running | ended := ih (step.follows accepts) (step.follows answers)
    · obtain running' | abandoned := running.step fresh step accepts answers
      · exact .inl running'
      · exact .inr (running.abandon fresh sound unlimited abandoned)
    · exact .inr (ended.step sound step)

/-- If a call of new transfers ends, without a limit of polls and with a multiplexer that takes requests under handles
    not in use and reports of each nothing but the result of its attempt, if anything at all, then a transfer that was
    given up was owed a report of its last request, or it was waiting for a retry when another was owed one. -/
theorem ending_of_execute (fresh : ∀ t ∈ transfers, t.Fresh) (unlimited : options.maxPolls = none)
    (done : execute env connection options fuel world transfers = some s)
    (accepts : Follows Accepts (.of []) s.journal) (answers : Follows (Answers results) (.of []) s.journal) :
    ∀ (i : Nat) (t : Transfer), transfers[i]? = some t → ∃ u, s.transfers[i]? = some u ∧ u.state.isTerminal = true ∧
      Ending connection options results (.of s.journal) i t u := by
  have terminal := isTerminal_of_execute done
  intro i t ht
  obtain ⟨hi, -⟩ := List.getElem?_eq_some_iff.mp ht
  obtain running | ⟨-, -, length, ending⟩ := (reaches_execute done).running_or_over fresh unlimited accepts answers
  · have hu := List.getElem?_eq_getElem (l := s.transfers) (running.length ▸ hi)
    have ended := terminal _ (List.mem_of_getElem? hu)
    obtain ⟨reported, error, fate⟩ := running.final fresh ht hu ended
    exact ⟨_, hu, ended, .own reported error (fate _ (Nat.le_refl _))⟩
  · have hu := List.getElem?_eq_getElem (l := s.transfers) (length ▸ hi)
    exact ⟨_, hu, terminal _ (List.mem_of_getElem? hu), ending i t _ ht hu⟩

/-! ### A swept transfer -/

/-- An array of one byte. -/
def byteArray (id : String) : RemoteArray := ⟨id, [1], .numeric (.unsigned .w8), .little⟩

/-- The read of it. -/
def byteRead (id : String) : Transfer :=
  ⟨byteArray id, ⟨[1], .all, by decide⟩, ⟨[1], .all, by decide⟩, .numeric (.unsigned .w8), .read, [0], .init, none,
    none, none, .fresh, none⟩

/-- A world that is busy once for the array `a` and has a seven for it then, and that loses the request for `b`. -/
def forgetful : Scripted :=
  ⟨⟨[], [], 0, 0, false, false, false⟩,
    [("a", [.reply (.ok ⟨503, []⟩), .reply (.ok ⟨200, [7]⟩)]), ("b", [.lost])], [], 0, 0, 0, 0, []⟩

/-- One retry, after a second. -/
def retryLater : SessionOptions :=
  ⟨100000000, ⟨1, Duration.second, Duration.second, 30 * Duration.second⟩, true, none⟩

/-- Its results for `a`, and any for `b`. -/
def forgetfulResults (_ j : Nat) : Except TransportError Response := .ok (if j = 1 then ⟨503, []⟩ else ⟨200, [7]⟩)

/-- How far a transfer that was given up had to be waited for. -/
def givenUpAfter? (t : Transfer) : Option Nat :=
  match t.error with
  | some (.incomplete k) => some k
  | _ => none

theorem error_of_givenUpAfter {k : Nat} (h : givenUpAfter? t = some k) : t.error = some (.incomplete k) := by
  unfold givenUpAfter? at h
  split at h
  · cases h
    assumption
  · cases h

/-- What the call comes to. -/
theorem run_forgetful : ∃ s : Session Scripted,
    execute Scripted.environment plainStore retryLater 9 forgetful [byteRead "a", byteRead "b"] = some s ∧
      Follows Accepts (.of []) s.journal ∧ Follows (Answers forgetfulResults) (.of []) s.journal ∧
      (Ledger.of s.journal).tries 0 = 1 ∧ (∀ o ∈ (Ledger.of s.journal).unreported, o.transfer = 1) ∧
      s.transfers.map givenUpAfter? = [some 2, some 2] := by
  have run : (execute Scripted.environment plainStore retryLater 9 forgetful [byteRead "a", byteRead "b"]).map
      (fun s : Session Scripted =>
        decide (Follows Accepts (.of []) s.journal ∧ Follows (Answers forgetfulResults) (.of []) s.journal ∧
          (Ledger.of s.journal).tries 0 = 1 ∧ (∀ o ∈ (Ledger.of s.journal).unreported, o.transfer = 1) ∧
          s.transfers.map givenUpAfter? = [some 2, some 2])) = some true := by decide +kernel
  obtain ⟨s, done, checked⟩ := Option.map_eq_some_iff.mp run
  exact ⟨s, done, of_decide_eq_true checked⟩

theorem ending_of_execute_forgetful : ∃ s,
    execute Scripted.environment plainStore retryLater 9 forgetful [byteRead "a", byteRead "b"] = some s ∧
      ∃ u, s.transfers[1]? = some u ∧ u.state.isTerminal = true ∧
        Ending plainStore retryLater forgetfulResults (.of s.journal) 1 (byteRead "b") u := by
  have new : ∀ id, (byteRead id).Fresh := fun _ => ⟨rfl, rfl, rfl, rfl, rfl⟩
  have fresh : ∀ t ∈ [byteRead "a", byteRead "b"], t.Fresh :=
    List.forall_mem_cons.mpr ⟨new "a", List.forall_mem_singleton.mpr (new "b")⟩
  obtain ⟨s, done, accepts, answers, -⟩ := run_forgetful
  exact ⟨s, done, ending_of_execute fresh rfl done accepts answers 1 (byteRead "b") rfl⟩

/-- The read of `a` is given up although its only request was reported, while it waits for a retry with which it would
    succeed; what was not reported is a request for `b`. -/
theorem sibling_swept : ∃ s,
    execute Scripted.environment plainStore retryLater 9 forgetful [byteRead "a", byteRead "b"] = some s ∧
      Follows Accepts (.of []) s.journal ∧ Follows (Answers forgetfulResults) (.of []) s.journal ∧
      (Ledger.of s.journal).tries 0 = 1 ∧ (∀ o ∈ (Ledger.of s.journal).unreported, o.transfer = 1) ∧
      (∃ u, s.transfers[0]? = some u ∧ u.error = some (.incomplete 2)) ∧
      ((byteRead "a").fates plainStore retryLater (forgetfulResults 0) 1).state = .retryPending ∧
      ((byteRead "a").fates plainStore retryLater (forgetfulResults 0) 2).state = .succeeded := by
  obtain ⟨s, done, accepts, answers, tries, unreported, given⟩ := run_forgetful
  refine ⟨s, done, accepts, answers, tries, unreported, ?_, by decide +kernel, by decide +kernel⟩
  have there := congrArg (·[0]?) given
  obtain ⟨u, hu, own⟩ := Option.map_eq_some_iff.mp ((List.getElem?_map ..).symm.trans there)
  exact ⟨u, hu, error_of_givenUpAfter own⟩

end ArrayTransfer.Session
