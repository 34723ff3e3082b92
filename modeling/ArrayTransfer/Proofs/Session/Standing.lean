import ArrayTransfer.Proofs.Session.Ledger
import ArrayTransfer.Proofs.Transfer.Fate

/-! Where the transfers of a call stand, by the books of the multiplexer. Each is at an attempt of its own course: its
    fate is that of the results so far (`Standing`), and while it is in flight its request is owed. No two share a
    handle, so that what is reported reaches the transfer it is meant for (`Running`). -/

namespace ArrayTransfer.Session
open Transfer

variable {connection : Connection} {options : SessionOptions} {transfers ts : List Transfer}
  {results : Nat → Nat → Except TransportError Response} {result : Except TransportError Response}
  {course : Nat → Except TransportError Response} {i j n : Nat} {t u v : Transfer} {l : Ledger}
  {waiting rest : List Completion} {c : Completion} {handle : Handle} {owed owed' : Handle → Prop} {now : Instant}

/-! ### One transfer -/

/-- Where the transfer that began as `t` stands after `n` requests were taken for it, with `owed` for what it may be
    waiting for. -/
inductive Standing (connection : Connection) (options : SessionOptions) (course : Nat → Except TransportError Response)
    (t : Transfer) (n : Nat) (owed : Handle → Prop) : Transfer → Prop
  | new (none : n = 0) : Standing connection options course t n owed t
  | ready (none : n = 0) (configured : (t.prepared connection options).state = .configured) :
    Standing connection options course t n owed (t.prepared connection options)
  | flying {u : Transfer} {k : Nat} {handle : Handle} (next : n = k + 1)
    (state : u.state = .enqueued ∨ u.state = .inFlight) (attempts : (t.prepared connection options).Attempts u)
    (more : (t.fates connection options course k).state.isTerminal = false)
    (before : u.fate = { t.fates connection options course k with
      state := u.state, attempts := (t.fates connection options course k).attempts + 1 })
    (held : u.handle = some handle) (due : owed handle) : Standing connection options course t n owed u
  | resting {u : Transfer} (state : u.state = .retryPending) (attempts : (t.prepared connection options).Attempts u)
    (free : u.handle = none) (fate : u.fate = t.fates connection options course n) :
    Standing connection options course t n owed u
  | ended {u : Transfer} (terminal : u.state.isTerminal = true) (free : u.handle = none)
    (fate : u.fate = t.fates connection options course n) : Standing connection options course t n owed u

namespace Standing

theorem mono (h : Standing connection options course t n owed u)
    (imp : ∀ handle, u.handle = some handle → owed handle → owed' handle) :
    Standing connection options course t n owed' u := by
  cases h with
  | new none => exact .new none
  | ready none configured => exact .ready none configured
  | flying next state attempts more before held due =>
    exact .flying next state attempts more before held (imp _ held due)
  | resting state attempts free fate => exact .resting state attempts free fate
  | ended terminal free fate => exact .ended terminal free fate

/-- Only a transfer in flight holds a handle, and it is owed an answer. -/
theorem owed_of_handle (fresh : t.Fresh) (h : Standing connection options course t n owed u)
    (held : u.handle = some handle) : (u.state = .enqueued ∨ u.state = .inFlight) ∧ owed handle := by
  cases h with
  | new => exact nomatch fresh.handle.symm.trans held
  | ready => exact nomatch (fresh.prepared connection options).1.symm.trans held
  | flying _ state _ _ _ held' due =>
    cases held'.symm.trans held
    exact ⟨state, due⟩
  | resting _ _ free | ended _ free => exact nomatch free.symm.trans held

/-- A transfer that waits for a retry has the fate of its results so far. -/
theorem fate_of_retryPending (fresh : t.Fresh) (h : Standing connection options course t n owed u)
    (pending : u.state = .retryPending) : u.fate = t.fates connection options course n := by
  cases h with
  | new => exact nomatch fresh.state.symm.trans pending
  | ready _ configured => exact nomatch configured.symm.trans pending
  | flying _ state => obtain state | state := state <;> exact nomatch state.symm.trans pending
  | resting _ _ _ fate | ended _ _ fate => exact fate

theorem prepare (fresh : t.Fresh) (h : Standing connection options course t n owed u) (new : u.state = .init) :
    u = t ∧ Standing connection options course t n owed (t.prepared connection options) := by
  cases h with
  | new none =>
    refine ⟨rfl, ?_⟩
    obtain ⟨free, ⟨configured, -⟩ | terminal⟩ := fresh.prepared connection options
    · exact .ready none configured
    · exact .ended terminal free (by rw [none]; rfl)
  | ready _ configured => exact nomatch configured.symm.trans new
  | flying _ state =>
    obtain state | state := state
    · exact nomatch state.symm.trans new
    · exact nomatch state.symm.trans new
  | resting state => exact nomatch state.symm.trans new
  | ended terminal =>
    rw [new] at terminal
    cases terminal

/-- A transfer that is handed over has a request, and none is out for it. -/
theorem submit (fresh : t.Fresh) (h : Standing connection options course t n owed u)
    (ready : u.state = .configured ∨ u.state = .retryPending) :
    u.handle = none ∧ (∃ request, u.request = some request) ∧
      ∀ (owed' : Handle → Prop) (handle : Handle), owed' handle →
        Standing connection options course t (n + 1) owed' (u.submitted handle).1 := by
  have prepared := fresh.prepared connection options
  cases h with
  | new => obtain state | state := ready <;> exact nomatch fresh.state.symm.trans state
  | ready none configured =>
    subst none
    obtain ⟨free, ⟨-, request, error⟩ | terminal⟩ := prepared
    · refine ⟨free, request, fun owed' handle due => .flying rfl (.inl rfl) ?_ ?_ rfl rfl due⟩
      · exact ⟨configured, ⟨rfl, rfl, rfl, rfl, rfl, rfl, rfl⟩, rfl, error⟩
      · exact congrArg TransferState.isTerminal configured
    · rw [configured] at terminal
      cases terminal
  | flying _ state =>
    obtain state | state := state <;> obtain ready | ready := ready <;> exact nomatch state.symm.trans ready
  | resting state attempts free fate =>
    obtain ⟨-, ⟨-, request, -⟩ | terminal⟩ := prepared
    · refine ⟨free, attempts.request ▸ request, fun owed' handle due => .flying rfl (.inl rfl) ?_ ?_ ?_ rfl due⟩
      · exact attempts.goOn ⟨rfl, rfl, rfl, rfl, rfl, rfl, rfl⟩ rfl rfl
      · rw [← fate]
        exact congrArg TransferState.isTerminal state
      · rw [← fate]
        rfl
    · rw [attempts.configured] at terminal
      cases terminal
  | ended terminal =>
    obtain state | state := ready <;> rw [state] at terminal <;> cases terminal

theorem beginFlight (fresh : t.Fresh) (h : Standing connection options course t n owed u) :
    Standing connection options course t n owed u.beginFlight.1 := by
  unfold Transfer.beginFlight
  split
  · rename_i enqueued
    cases h with
    | new => exact nomatch fresh.state.symm.trans enqueued
    | ready _ configured => exact nomatch configured.symm.trans enqueued
    | flying next _ attempts more before held due =>
      refine .flying next (.inr rfl) ?_ more ?_ held due
      · exact attempts.goOn ⟨rfl, rfl, rfl, rfl, rfl, rfl, rfl⟩ rfl rfl
      · calc (u.moveTo .inFlight).1.fate
          _ = { u.fate with state := .inFlight } := rfl
          _ = _ := by rw [before]; rfl
    | resting state => exact nomatch state.symm.trans enqueued
    | ended terminal =>
      rw [enqueued] at terminal
      cases terminal
  · exact h

theorem complete (fresh : t.Fresh) (h : Standing connection options course t n owed u) (held : u.handle = some handle)
    (now : Instant) : (u.complete options.retryPolicy now (course n)).1.handle = none ∧
      ∀ owed' : Handle → Prop, Standing connection options course t n owed'
        (u.complete options.retryPolicy now (course n)).1 := by
  cases h with
  | new => exact nomatch fresh.handle.symm.trans held
  | ready => exact nomatch (fresh.prepared connection options).1.symm.trans held
  | flying next state attempts more before =>
    subst next
    obtain ⟨fate, free, ⟨pending, again⟩ | terminal⟩ := attempts.complete before
    · rw [← fates_succ more] at fate
      exact ⟨free, fun _ => .resting pending again free fate⟩
    · rw [← fates_succ more] at fate
      exact ⟨free, fun _ => .ended terminal free fate⟩
  | resting _ _ free | ended _ free => exact nomatch free.symm.trans held

end Standing

/-! ### All transfers -/

/-- The request is still to be reported, or what was reported of it is its result and is still to be handed out. -/
def Owed (result : Except TransportError Response) (l : Ledger) (waiting : List Completion) (o : Taken) : Prop :=
  o ∈ l.unreported ∨
    (∃ c ∈ waiting, c.handle = o.handle) ∧ ∀ c ∈ waiting, c.handle = o.handle → c.result = result

theorem Owed.handed {o : Taken} (h : Owed result l waiting o) (fewer : rest ⊆ waiting)
    (kept : ∀ c ∈ waiting, c.handle = o.handle → c ∈ rest) : Owed result l rest o := by
  obtain unreported | ⟨⟨c, hc, same⟩, every⟩ := h
  · exact .inl unreported
  · exact .inr ⟨⟨c, kept c hc same, same⟩, fun c hc => every c (fewer hc)⟩

/-- Where the transfer at place `i` stands, by the books and the completions that are still to be handed out. -/
def Stands (connection : Connection) (options : SessionOptions) (results : Nat → Nat → Except TransportError Response)
    (l : Ledger) (waiting : List Completion) (i : Nat) (t u : Transfer) : Prop :=
  Standing connection options (results i) t (l.tries i)
    (fun handle => Owed (results i (l.tries i)) l waiting ⟨handle, i, l.tries i⟩) u

/-- The transfers that began as `transfers` are now `ts`, and none was given up. -/
structure Running (connection : Connection) (options : SessionOptions)
    (results : Nat → Nat → Except TransportError Response) (transfers ts : List Transfer) (l : Ledger)
    (waiting : List Completion) : Prop where
  length : ts.length = transfers.length
  stands : ∀ (i : Nat) (t u : Transfer), transfers[i]? = some t → ts[i]? = some u →
    Stands connection options results l waiting i t u
  distinct : ∀ (i j : Nat) (u v : Transfer) (handle : Handle), ts[i]? = some u → ts[j]? = some v →
    u.handle = some handle → v.handle = some handle → i = j
  held : ∀ o ∈ l.unreported, ∃ u, ts[o.transfer]? = some u ∧ u.handle = some o.handle ∧ o.attempt = l.tries o.transfer
  apart : ∀ o ∈ l.unreported, ∀ c ∈ waiting, c.handle ≠ o.handle

namespace Running

theorem opening (fresh : ∀ t ∈ transfers, t.Fresh) :
    Running connection options results transfers transfers (.of []) [] where
  length := rfl
  stands := fun i t u ht hu => by
    cases ht.symm.trans hu
    exact .new rfl
  distinct := fun i _ u _ _ hu _ held _ => nomatch (fresh u (List.mem_of_getElem? hu)).handle.symm.trans held
  held := fun o ho => nomatch ho
  apart := fun o ho => nomatch ho

theorem origin (h : Running connection options results transfers ts l waiting) (at_ : ts[j]? = some u) :
    ∃ t, t ∈ transfers ∧ transfers[j]? = some t ∧ Stands connection options results l waiting j t u := by
  obtain ⟨hj, -⟩ := List.getElem?_eq_some_iff.mp at_
  have there := List.getElem?_eq_getElem (h.length ▸ hj)
  exact ⟨_, List.mem_of_getElem? there, there, h.stands j _ u there at_⟩

/-- One transfer is changed, and holds the handle it held or none; some completions that no other waits for are
    handed out. -/
theorem set (h : Running connection options results transfers ts l waiting) (at_ : ts[j]? = some u)
    (fewer : rest ⊆ waiting)
    (others : ∀ i w handle, i ≠ j → ts[i]? = some w → w.handle = some handle →
      ∀ c ∈ waiting, c.handle = handle → c ∈ rest)
    (own : ∀ t, t ∈ transfers → Stands connection options results l waiting j t u →
      Stands connection options results l rest j t v)
    (handle : v.handle = u.handle ∨ v.handle = none ∧ ∀ o ∈ l.unreported, o.transfer ≠ j) :
    Running connection options results transfers (ts.set j v) l rest where
  length := List.length_set.trans h.length
  stands := by
    intro i t w ht hw
    obtain ⟨rfl, rfl⟩ | ⟨other, hw⟩ := getElem?_set_cases hw
    · exact own t (List.mem_of_getElem? ht) (h.stands j t u ht at_)
    · exact (h.stands i t w ht hw).mono fun handle held due =>
        due.handed fewer (others i w handle (Ne.symm other) hw held)
  distinct := by
    -- A handle that is held now was held before, in the same place.
    have before : ∀ {i : Nat} {w : Transfer} {handle : Handle}, (ts.set j v)[i]? = some w → w.handle = some handle →
        ∃ w' : Transfer, ts[i]? = some w' ∧ w'.handle = some handle := by
      intro i w handle' hw held
      obtain ⟨rfl, rfl⟩ | ⟨-, hw⟩ := getElem?_set_cases hw
      · obtain same | ⟨free, -⟩ := handle
        · exact ⟨u, at_, same.symm.trans held⟩
        · exact nomatch free.symm.trans held
      · exact ⟨w, hw, held⟩
    intro i k w x handle hw hx held held'
    obtain ⟨w', hw', held⟩ := before hw held
    obtain ⟨x', hx', held'⟩ := before hx held'
    exact h.distinct i k w' x' handle hw' hx' held held'
  held := by
    intro o ho
    obtain ⟨w, hw, held, attempt⟩ := h.held o ho
    by_cases own : j = o.transfer
    · obtain same | ⟨-, others⟩ := handle
      · subst own
        cases at_.symm.trans hw
        exact ⟨v, getElem?_set_self at_ v, same.trans held, attempt⟩
      · exact absurd own.symm (others o ho)
    · exact ⟨w, (List.getElem?_set_ne own).trans hw, held, attempt⟩
  apart := fun o ho c hc => h.apart o ho c (fewer hc)

/-- A request is taken under a handle that is not in use. -/
theorem submit (h : Running connection options results transfers ts l []) (fresh : ∀ t ∈ transfers, t.Fresh)
    (at_ : ts[j]? = some u) (ready : u.state = .configured ∨ u.state = .retryPending) (request : Request)
    (new : ∀ o ∈ l.unreported, o.handle ≠ handle) : Running connection options results transfers
      (ts.set j (u.submitted handle).1) (l.note (.submitted j request (.ok handle))) [] := by
  obtain ⟨t, ht, there, stands⟩ := h.origin at_
  obtain ⟨free, -, submitted⟩ := Standing.submit (fresh t ht) stands ready
  -- What the others hold is unreported, so that it is another handle.
  have other : ∀ {i : Nat} {w : Transfer} {held : Handle}, ts[i]? = some w → w.handle = some held → held ≠ handle := by
    intro i w held hw holds
    obtain ⟨t', ht', -, stands'⟩ := h.origin hw
    obtain ⟨-, unreported | ⟨⟨c, hc, -⟩, -⟩⟩ := Standing.owed_of_handle (fresh t' ht') stands' holds
    · exact new _ unreported
    · cases hc
  refine ⟨List.length_set.trans h.length, fun i t' w ht' hw => ?_, fun i k w x held hw hx holds holds' => ?_,
    fun o ho => ?_, fun _ _ _ hc => nomatch hc⟩
  · obtain ⟨rfl, rfl⟩ | ⟨different, hw⟩ := getElem?_set_cases hw
    · cases there.symm.trans ht'
      unfold Stands
      rw [Ledger.tries_submitted, if_pos rfl]
      exact submitted _ handle (.inl (Ledger.mem_submitted.mpr (.inr rfl)))
    · unfold Stands
      rw [Ledger.tries_submitted, if_neg different]
      refine (h.stands i t' w ht' hw).mono fun held _ due => ?_
      exact due.imp_left fun unreported => Ledger.mem_submitted.mpr (.inl unreported)
  · obtain ⟨rfl, rfl⟩ | ⟨-, hw⟩ := getElem?_set_cases hw <;> obtain ⟨rfl, rfl⟩ | ⟨-, hx⟩ := getElem?_set_cases hx
    · rfl
    · exact absurd (Option.some.inj holds).symm (other hx holds')
    · exact absurd (Option.some.inj holds').symm (other hw holds)
    · exact h.distinct i k w x held hw hx holds holds'
  · obtain old | rfl := Ledger.mem_submitted.mp ho
    · obtain ⟨w, hw, holds, attempt⟩ := h.held o old
      have different : j ≠ o.transfer := by
        rintro rfl
        cases at_.symm.trans hw
        exact nomatch free.symm.trans holds
      refine ⟨w, (List.getElem?_set_ne different).trans hw, holds, ?_⟩
      rw [Ledger.tries_submitted, if_neg different, attempt]
    · refine ⟨_, getElem?_set_self at_ _, rfl, ?_⟩
      rw [Ledger.tries_submitted, if_pos rfl]

/-- Completions are reported, each with the result of the attempt that it is of. -/
theorem poll {completions : List Completion} (h : Running connection options results transfers ts l [])
    (answers : ∀ c ∈ completions, ∀ o ∈ l.unreported, o.handle = c.handle → c.result = results o.transfer o.attempt) :
    Running connection options results transfers ts (l.note (.polled completions)) completions where
  length := h.length
  stands := by
    intro i t u ht hu
    refine (h.stands i t u ht hu).mono fun handle _ due => ?_
    obtain unreported | ⟨⟨c, hc, -⟩, -⟩ := due
    · by_cases reported : ∃ c ∈ completions, c.handle = handle
      · exact .inr ⟨reported, fun c hc same => answers c hc _ unreported same.symm⟩
      · exact .inl (Ledger.mem_polled.mpr ⟨unreported, fun c hc same => reported ⟨c, hc, same⟩⟩)
    · cases hc
  distinct := h.distinct
  held := fun o ho => h.held o (Ledger.mem_polled.mp ho).1
  apart := fun o ho => (Ledger.mem_polled.mp ho).2

/-- A completion is handed to the transfer that holds its handle. -/
theorem deliver (h : Running connection options results transfers ts l (c :: rest)) (fresh : ∀ t ∈ transfers, t.Fresh)
    (at_ : ts[j]? = some u) (holds : u.handle = some c.handle) (now : Instant) :
    Running connection options results transfers (ts.set j (u.complete options.retryPolicy now c.result).1) l rest := by
  have unowed : ∀ o ∈ l.unreported, o.transfer ≠ j := by
    rintro o ho rfl
    obtain ⟨w, hw, held, -⟩ := h.held o ho
    cases at_.symm.trans hw
    exact h.apart o ho c List.mem_cons_self (Option.some.inj (holds.symm.trans held))
  obtain ⟨t, ht, -, stands⟩ := h.origin at_
  obtain ⟨-, unreported | ⟨-, every⟩⟩ := Standing.owed_of_handle (fresh t ht) stands holds
  · exact absurd rfl (unowed _ unreported)
  · have result := every c List.mem_cons_self rfl
    refine h.set at_ (List.subset_cons_self c rest) (fun i w handle different hw held c' hc' same => ?_)
      (fun t' ht' stands' => ?_) (.inr ⟨?_, unowed⟩)
    · refine (List.mem_cons.mp hc').resolve_left ?_
      rintro rfl
      exact different (h.distinct i j w u handle hw at_ held (same ▸ holds))
    · rw [result]
      exact (Standing.complete (fresh t' ht') stands' holds now).2 _
    · rw [result]
      exact (Standing.complete (fresh t ht) stands holds now).1

/-- A completion that no transfer waits for is passed over. -/
theorem skip (h : Running connection options results transfers ts l (c :: rest))
    (nobody : ∀ u ∈ ts, u.handle ≠ some c.handle) : Running connection options results transfers ts l rest where
  length := h.length
  stands := by
    intro i t u ht hu
    refine (h.stands i t u ht hu).mono fun handle held due => ?_
    refine due.handed (List.subset_cons_self c rest) fun c' hc' same => (List.mem_cons.mp hc').resolve_left ?_
    rintro rfl
    exact nobody u (List.mem_of_getElem? hu) (same ▸ held)
  distinct := h.distinct
  held := h.held
  apart := fun o ho c' hc' => h.apart o ho c' (List.mem_cons_of_mem c hc')

end Running

/-- At the moment no transfer is given up, and each stands by the books that the journal gives. -/
abbrev RunningAt {σ : Type} (connection : Connection) (options : SessionOptions)
    (results : Nat → Nat → Except TransportError Response) (transfers : List Transfer) (m : Moment σ) : Prop :=
  Running connection options results transfers m.session.transfers (.of m.session.journal) m.waiting

end ArrayTransfer.Session
