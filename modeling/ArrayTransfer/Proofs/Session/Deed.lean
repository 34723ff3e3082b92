import ArrayTransfer.Proofs.Session.Step

/-! What a step can do to one transfer, and note of it, said once for all that is proved of runs: `Act` has the entries
    of the journal (`Step.act`, and `Timely.act` with the clock), and `Deed` only the changes (`Step.deed`). -/

namespace ArrayTransfer.Session

variable {σ : Type} {env : Environment σ} {connection : Connection} {options : SessionOptions} {s s' : Session σ}
  {m m' : Moment σ} {i j : Nat} {t u : Transfer} {Ready : Transfer → Prop} {request : Request}
  {result : Except TransportError Handle} {entries before rest : List Event}

/-! ### Acts -/

/-- What one step from a moment can make of the transfer at place `i`, with the entries about it or about none that the
    journal takes on, where those that are handed over are `Ready`. -/
inductive Act (connection : Connection) (options : SessionOptions) (Ready : Transfer → Prop) (m : Moment σ) (i : Nat)
    (t : Transfer) : Transfer → List Event → Prop
  | kept {entries : List Event} (other : ∀ e ∈ entries, e.subject? = none) : Act connection options Ready m i t t entries
  | configured {done : Transfer.Changed} (new : t.state = .init)
    (ok : t.configure connection options.base64Writes = .ok done) :
    Act connection options Ready m i t done.1 (done.2.map (.changed i))
  | refused {e : TransferError} (new : t.state = .init)
    (error : t.configure connection options.base64Writes = .error e) :
    Act connection options Ready m i t (t.fail e).1 ((t.fail e).2.map (.changed i))
  | submitted {request : Request} {handle : Handle} (idle : m.waiting = []) (ready : Ready t)
    (held : t.request = some request) : Act connection options Ready m i t (t.submitted handle).1
      (.submitted i request (.ok handle) :: (t.submitted handle).2.map (.changed i))
  | rejected {request : Request} {e : TransportError} (ready : Ready t) (held : t.request = some request) :
    Act connection options Ready m i t (t.fail (.transport e)).1
      (.submitted i request (.error e) :: (t.fail (.transport e)).2.map (.changed i))
  | unasked {e : TransportError} (ready : Ready t) (free : t.request = none) :
    Act connection options Ready m i t (t.fail (.transport e)).1 ((t.fail (.transport e)).2.map (.changed i))
  | began (enqueued : t.state = .enqueued) :
    Act connection options Ready m i t (t.moveTo .inFlight).1 ((t.moveTo .inFlight).2.map (.changed i))
  | completed {c : Completion} {rest : List Completion} {now : Instant} (waiting : m.waiting = c :: rest)
    (held : t.handle = some c.handle) : Act connection options Ready m i t
      (t.complete options.retryPolicy now c.result).1
      (.clock now :: (t.complete options.retryPolicy now c.result).2.map (.changed i))
  | abandoned (unfinished : t.state.isTerminal = false) : Act connection options Ready m i t
      (t.fail (.incomplete m.session.iterations)).1
      ((t.fail (.incomplete m.session.iterations)).2.map (.changed i))

/-- From one moment to another each transfer is acted on, and the journal notes it. -/
def Acts (connection : Connection) (options : SessionOptions) (Ready : Transfer → Prop) (m m' : Moment σ) : Prop :=
  ∀ (i : Nat) (t : Transfer), m.session.transfers[i]? = some t → ∃ u entries,
    Act connection options Ready m i t u entries ∧ m'.session.transfers[i]? = some u ∧
      entriesOf i m'.session.journal = entriesOf i m.session.journal ++ entries

namespace Acts

/-- What changes one transfer acts at that one, and keeps the others. -/
theorem update {changed : Transfer.Changed} {events : List Event} {rest : List Completion}
    (at_ : m.session.transfers[j]? = some u)
    (act : Act connection options Ready m j u changed.1 (events ++ changed.2.map (.changed j)))
    (same : s.transfers = m.session.transfers) (noted : s.journal = m.session.journal ++ events)
    (about : ∀ e ∈ events, e.subject? = none ∨ e.subject? = some j) :
    Acts connection options Ready m ⟨s.update j changed, rest⟩ := by
  intro i t here
  rw [update_transfers, update_journal, same, noted, entriesOf_append, entriesOf_append, List.append_assoc]
  by_cases hj : j = i
  · subst hj
    cases at_.symm.trans here
    exact ⟨_, _, act, getElem?_set_self at_ _, by rw [entriesOf_about about, entriesOf_own]⟩
  · refine ⟨t, entriesOf i events, .kept (subject?_of_mem_entriesOf about hj), ?_, ?_⟩
    · rw [List.getElem?_set_ne hj, here]
    · rw [entriesOf_other hj, List.append_nil]

theorem keep {events : List Event} {rest : List Completion} (same : s.transfers = m.session.transfers)
    (noted : s.journal = m.session.journal ++ events) (other : ∀ e ∈ events, e.subject? = none) :
    Acts connection options Ready m ⟨s, rest⟩ := by
  intro i t here
  refine ⟨t, entriesOf i events, .kept fun e he => other e (List.mem_of_mem_filter he), by rw [same, here], ?_⟩
  rw [noted, entriesOf_append]

theorem prepare (at_ : s.transfers[j]? = some u) :
    Acts connection options Ready ⟨s, []⟩ ⟨s.prepare connection options.base64Writes j u, []⟩ := by
  obtain ⟨done, new, ok, eq⟩ | ⟨e, new, error, eq⟩ | ⟨-, eq⟩ :=
    prepare_cases connection options.base64Writes s j u
  · rw [eq]
    exact update at_ (.configured new ok) rfl (List.append_nil _).symm (List.forall_mem_nil _)
  · rw [eq]
    exact update at_ (.refused new error) rfl (List.append_nil _).symm (List.forall_mem_nil _)
  · rw [eq]
    exact keep rfl (List.append_nil _).symm (List.forall_mem_nil _)

theorem submit (env : Environment σ) (at_ : s.transfers[j]? = some u) (ready : Ready u) :
    Acts connection options Ready ⟨s, []⟩ ⟨s.submit env j u, []⟩ := by
  obtain ⟨free, eq⟩ | ⟨request, handle, held, added, eq⟩ | ⟨request, e, held, added, eq⟩ := submit_cases env s j u
  · rw [eq]
    exact update at_ (.unasked ready free) rfl (List.append_nil _).symm (List.forall_mem_nil _)
  · rw [eq]
    refine update at_ ?_ rfl (asked_journal env s j request) (List.forall_mem_singleton.mpr (.inr rfl))
    rw [added]
    exact .submitted rfl ready held
  · rw [eq]
    refine update at_ ?_ rfl (asked_journal env s j request) (List.forall_mem_singleton.mpr (.inr rfl))
    rw [added]
    exact .rejected ready held

theorem readClock (env : Environment σ) (s : Session σ) :
    Acts connection options Ready ⟨s, []⟩ ⟨(s.readClock env).2, []⟩ :=
  keep rfl rfl (List.forall_mem_singleton.mpr rfl)

theorem beginFlight (at_ : s.transfers[j]? = some u) :
    Acts connection options Ready ⟨s, []⟩ ⟨s.update j u.beginFlight, []⟩ := by
  unfold Transfer.beginFlight
  split
  · rename_i enqueued
    exact update at_ (.began enqueued) rfl (List.append_nil _).symm (List.forall_mem_nil _)
  · exact update at_ (.kept (List.forall_mem_nil _)) rfl (List.append_nil _).symm (List.forall_mem_nil _)

theorem count (s : Session σ) :
    Acts connection options Ready ⟨s, []⟩ ⟨{ s with iterations := s.iterations + 1 }, []⟩ :=
  keep rfl (List.append_nil _).symm (List.forall_mem_nil _)

theorem poll (env : Environment σ) (s : Session σ) :
    Acts connection options Ready ⟨s, []⟩ ⟨(s.poll env options).2, (s.poll env options).1⟩ :=
  keep rfl rfl (List.forall_mem_singleton.mpr rfl)

theorem deliver (env : Environment σ) (s : Session σ) (c : Completion) (rest : List Completion) :
    Acts connection options Ready ⟨s, c :: rest⟩ ⟨s.deliver env options.retryPolicy c, rest⟩ := by
  obtain ⟨-, eq⟩ | ⟨k, u, at_, held, eq⟩ := deliver_cases env options.retryPolicy s c
  · rw [eq]
    exact keep rfl rfl (List.forall_mem_singleton.mpr rfl)
  · rw [eq]
    exact update at_ (.completed rfl held) rfl rfl (List.forall_mem_singleton.mpr (.inl rfl))

theorem countPending (env : Environment σ) (s : Session σ) :
    Acts connection options Ready ⟨s, []⟩ ⟨(s.countPending env).2, []⟩ :=
  keep rfl rfl (List.forall_mem_singleton.mpr rfl)

theorem abandon (s : Session σ) : Acts connection options Ready ⟨s, []⟩ ⟨s.failUnfinished, []⟩ := by
  intro i t here
  obtain ⟨-, each, noted, journal⟩ := failUnfinished_spec s
  obtain ⟨u, changes, hu, own, given⟩ := each i t here
  rw [journal, changesOf_append] at own
  have entries : entriesOf i s.failUnfinished.journal = entriesOf i s.journal ++ changes.map (.changed i) := by
    rw [journal, entriesOf_append, entriesOf_noted, List.append_cancel_left own]
  cases given with
  | final => exact ⟨_, _, .kept (List.forall_mem_nil _), hu, entries⟩
  | failed unfinished => exact ⟨_, _, .abandoned unfinished, hu, entries⟩

theorem wait (env : Environment σ) (s : Session σ) :
    Acts connection options Ready ⟨s, []⟩ ⟨s.waitForRetry env, []⟩ := by
  obtain eq | ⟨duration, eq⟩ := waitForRetry_cases env s
  · rw [eq]
    exact keep rfl (List.append_nil _).symm (List.forall_mem_nil _)
  · rw [eq]
    exact keep rfl rfl (List.forall_mem_cons.mpr ⟨rfl, List.forall_mem_singleton.mpr rfl⟩)

end Acts

/-- What a step does to each transfer, and notes of it. -/
theorem Step.act (h : Step env connection options m m') :
    Acts connection options (fun t => t.state = .configured ∨ ∃ now, t.isRetryDue now = true) m m' := by
  cases h with
  | prepare at_ => exact .prepare at_
  | submit at_ ready => exact .submit env at_ ready
  | readClock s => exact .readClock env s
  | beginFlight at_ => exact .beginFlight at_
  | count s => exact .count s
  | poll => exact .poll env _
  | deliver s c rest => exact .deliver env s c rest
  | countPending s => exact .countPending env s
  | abandon => exact .abandon _
  | wait s => exact .wait env s

/-- What a step on time does to each transfer: a retry is due by the last reading of the clock. -/
theorem Timely.act (h : Timely env connection options m m') : Acts connection options (fun t => t.state = .configured ∨
    ∃ now, lastReading m.session.journal = some now ∧ t.isRetryDue now = true) m m' := by
  cases h with
  | prepare at_ => exact .prepare at_
  | first at_ ready => exact .submit env at_ (.inl ready)
  | retry at_ read due => exact .submit env at_ (.inr ⟨_, read, due⟩)
  | readClock s => exact .readClock env s
  | beginFlight at_ => exact .beginFlight at_
  | count s => exact .count s
  | poll => exact .poll env _
  | deliver s c rest => exact .deliver env s c rest
  | countPending s => exact .countPending env s
  | abandon => exact .abandon _
  | wait s => exact .wait env s

theorem submitted_not_mem_changes (changes : List Change) :
    Event.submitted j request result ∉ changes.map (Event.changed i) := by
  intro noted
  obtain ⟨change, -, eq⟩ := List.mem_map.mp noted
  cases eq

/-- A request is made first of all that an act notes, and it is the one that the transfer holds. -/
theorem Act.asked (act : Act connection options Ready m i t u entries)
    (eq : entries = before ++ .submitted j request result :: rest) :
    before = [] ∧ j = i ∧ Ready t ∧ t.request = some request := by
  have noted : Event.submitted j request result ∈ entries := eq ▸ List.mem_append_right _ List.mem_cons_self
  have first : ∀ {own : Request} {answer : Except TransportError Handle} {changes : List Change},
      Event.submitted i own answer :: changes.map (.changed i) = before ++ .submitted j request result :: rest →
        before = [] ∧ j = i ∧ own = request := by
    intro own answer changes eq
    obtain ⟨rfl, same⟩ | ⟨later, -, same⟩ := List.cons_eq_append_iff.mp eq
    · cases same
      exact ⟨rfl, rfl, rfl⟩
    · have again : Event.submitted j request result ∈ changes.map (Event.changed i) :=
        same ▸ List.mem_append_right _ List.mem_cons_self
      exact absurd again (submitted_not_mem_changes changes)
  cases act with
  | kept other => cases other _ noted
  | configured | refused | unasked | began | abandoned => exact absurd noted (submitted_not_mem_changes _)
  | completed => exact absurd ((List.mem_cons.mp noted).resolve_left nofun) (submitted_not_mem_changes _)
  | submitted idle ready held =>
    obtain ⟨none, own, same⟩ := first eq
    exact ⟨none, own, ready, same ▸ held⟩
  | rejected ready held =>
    obtain ⟨none, own, same⟩ := first eq
    exact ⟨none, own, ready, same ▸ held⟩

/-! ### Deeds -/

/-- What one step from a moment can make of a transfer, with the changes that are noted of it. -/
inductive Deed (env : Environment σ) (connection : Connection) (options : SessionOptions) (m : Moment σ)
    (t : Transfer) : Transfer → List Change → Prop
  | kept : Deed env connection options m t t []
  | configured {done : Transfer.Changed} (new : t.state = .init)
    (ok : t.configure connection options.base64Writes = .ok done) : Deed env connection options m t done.1 done.2
  | refused {e : TransferError} (new : t.state = .init)
    (error : t.configure connection options.base64Writes = .error e) :
    Deed env connection options m t (t.fail e).1 (t.fail e).2
  | submitted {request : Request} {handle : Handle} (idle : m.waiting = [])
    (ready : t.state = .configured ∨ ∃ now, t.isRetryDue now = true) (held : t.request = some request) :
    Deed env connection options m t (t.submitted handle).1 (t.submitted handle).2
  | rejected {e : TransportError} (ready : t.state = .configured ∨ ∃ now, t.isRetryDue now = true) :
    Deed env connection options m t (t.fail (.transport e)).1 (t.fail (.transport e)).2
  | began (enqueued : t.state = .enqueued) :
    Deed env connection options m t (t.moveTo .inFlight).1 (t.moveTo .inFlight).2
  | completed {c : Completion} {rest : List Completion} {now : Instant} (waiting : m.waiting = c :: rest)
    (held : t.handle = some c.handle) : Deed env connection options m t
      (t.complete options.retryPolicy now c.result).1 (t.complete options.retryPolicy now c.result).2
  | abandoned (unfinished : t.state.isTerminal = false) : Deed env connection options m t
      (t.fail (.incomplete m.session.iterations)).1 (t.fail (.incomplete m.session.iterations)).2

/-- An act is a deed, and notes its changes. -/
theorem Act.deed {entries : List Event} (h : Act connection options
    (fun t => t.state = .configured ∨ ∃ now, t.isRetryDue now = true) m i t u entries) :
    Deed env connection options m t u (changesOf i entries) := by
  cases h with
  | kept other =>
    rw [changesOf_eq_nil other]
    exact .kept
  | configured new ok =>
    rw [changesOf_own]
    exact .configured new ok
  | refused new error =>
    rw [changesOf_own]
    exact .refused new error
  | submitted idle ready held =>
    rw [changesOf_submitted, changesOf_own]
    exact .submitted idle ready held
  | rejected ready =>
    rw [changesOf_submitted, changesOf_own]
    exact .rejected ready
  | unasked ready =>
    rw [changesOf_own]
    exact .rejected ready
  | began enqueued =>
    rw [changesOf_own]
    exact .began enqueued
  | completed waiting held =>
    rw [changesOf_clock, changesOf_own]
    exact .completed waiting held
  | abandoned unfinished =>
    rw [changesOf_own]
    exact .abandoned unfinished

/-- What a step does to each transfer. -/
theorem Step.deed (h : Step env connection options m m') (here : m.session.transfers[i]? = some t) :
    ∃ u changes, Deed env connection options m t u changes ∧ m'.session.transfers[i]? = some u ∧
      changesOf i m'.session.journal = changesOf i m.session.journal ++ changes := by
  obtain ⟨u, entries, act, hu, own⟩ := h.act i t here
  refine ⟨u, changesOf i entries, act.deed, hu, ?_⟩
  rw [← changesOf_entriesOf, own, changesOf_append, changesOf_entriesOf]

/-- A step keeps each transfer or changes it by a deed, and makes none. -/
theorem Step.deed_back (h : Step env connection options m m') (here : m'.session.transfers[i]? = some u) :
    ∃ t changes, m.session.transfers[i]? = some t ∧ Deed env connection options m t u changes := by
  obtain ⟨hi, -⟩ := List.getElem?_eq_some_iff.mp here
  have there := List.getElem?_eq_getElem (h.length ▸ hi)
  obtain ⟨v, changes, deed, hv, -⟩ := h.deed there
  rw [here] at hv
  cases hv
  exact ⟨_, changes, there, deed⟩

end ArrayTransfer.Session
