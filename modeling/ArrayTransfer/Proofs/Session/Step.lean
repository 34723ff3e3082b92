import ArrayTransfer.Proofs.Session.Loop

/-! A call in small steps. `Step` is one thing that a call does, to one transfer or to the environment, and `Timely` is
    the same with an eye on the clock. The journal only grows, and can be read for one transfer alone (`entriesOf`). -/

namespace ArrayTransfer

/-- A moment of a call: the session, and the completions of the last poll that are not yet handed out. -/
structure Moment (σ : Type) where
  session : Session σ
  waiting : List Completion

/-- The transfer that an entry of a journal is about, if it is about one. -/
def Event.subject? : Event → Option Nat
  | .submitted i .. => some i
  | .changed i _ => some i
  | _ => none

namespace Transfer

/-- What a call begins with is done: the transfer was configured and handed over, or has ended. -/
def Launched (t : Transfer) : Prop := t.state ≠ .init ∧ t.state ≠ .configured

/-- What is done before a poll: the transfer is under way, waits for a retry, or has ended. -/
def Aloft (t : Transfer) : Prop := t.state = .inFlight ∨ t.state = .retryPending ∨ t.state.isTerminal = true

end Transfer

namespace Session

variable {σ : Type} {env : Environment σ} {connection : Connection} {options : SessionOptions} {world : σ}
  {transfers : List Transfer} {s s' : Session σ} {m m' : Moment σ} {i j : Nat} {t u : Transfer}

/-- One thing that a call does. A poll comes when some are in flight and all that was handed over is. Transfers are
    given up when the polls are used up, or when a poll with some under way reported nothing and nothing is left to
    report. -/
inductive Step (env : Environment σ) (connection : Connection) (options : SessionOptions) : Moment σ → Moment σ → Prop
  | prepare {s : Session σ} {i : Nat} {t : Transfer} (at_ : s.transfers[i]? = some t) :
    Step env connection options ⟨s, []⟩ ⟨s.prepare connection options.base64Writes i t, []⟩
  | submit {s : Session σ} {i : Nat} {t : Transfer} (at_ : s.transfers[i]? = some t)
    (ready : t.state = .configured ∨ ∃ now, t.isRetryDue now = true) :
    Step env connection options ⟨s, []⟩ ⟨s.submit env i t, []⟩
  | readClock (s : Session σ) : Step env connection options ⟨s, []⟩ ⟨(s.readClock env).2, []⟩
  | beginFlight {s : Session σ} {i : Nat} {t : Transfer} (at_ : s.transfers[i]? = some t) :
    Step env connection options ⟨s, []⟩ ⟨s.update i t.beginFlight, []⟩
  | count (s : Session σ) : Step env connection options ⟨s, []⟩ ⟨{ s with iterations := s.iterations + 1 }, []⟩
  | poll {s : Session σ} (aloft : ∀ t ∈ s.transfers, t.Aloft) (flying : ∃ t ∈ s.transfers, t.state = .inFlight) :
    Step env connection options ⟨s, []⟩ ⟨(s.poll env options).2, (s.poll env options).1⟩
  | deliver (s : Session σ) (c : Completion) (rest : List Completion) :
    Step env connection options ⟨s, c :: rest⟩ ⟨s.deliver env options.retryPolicy c, rest⟩
  | countPending (s : Session σ) : Step env connection options ⟨s, []⟩ ⟨(s.countPending env).2, []⟩
  | abandon {s : Session σ} (reason : s.isExhausted options = true ∨ (∀ t ∈ s.transfers, t.Aloft) ∧
      (∃ t ∈ s.transfers, t.state = .inFlight) ∧ ∃ past, s.journal = past ++ [.polled [], .counted 0]) :
    Step env connection options ⟨s, []⟩ ⟨s.failUnfinished, []⟩
  | wait (s : Session σ) : Step env connection options ⟨s, []⟩ ⟨s.waitForRetry env, []⟩

/-! ### Steps on time -/

/-- The last reading of the clock that a journal notes. -/
def lastReading (journal : List Event) : Option Instant :=
  journal.foldl (fun last e =>
    match e with
    | .clock now => some now
    | _ => last) none

/-- A step that starts a retry only if it is due by the last reading of the clock. -/
inductive Timely (env : Environment σ) (connection : Connection) (options : SessionOptions) :
    Moment σ → Moment σ → Prop
  | prepare {s : Session σ} {i : Nat} {t : Transfer} (at_ : s.transfers[i]? = some t) :
    Timely env connection options ⟨s, []⟩ ⟨s.prepare connection options.base64Writes i t, []⟩
  | first {s : Session σ} {i : Nat} {t : Transfer} (at_ : s.transfers[i]? = some t) (ready : t.state = .configured) :
    Timely env connection options ⟨s, []⟩ ⟨s.submit env i t, []⟩
  | retry {s : Session σ} {i : Nat} {t : Transfer} {now : Instant} (at_ : s.transfers[i]? = some t)
    (read : lastReading s.journal = some now) (due : t.isRetryDue now = true) :
    Timely env connection options ⟨s, []⟩ ⟨s.submit env i t, []⟩
  | readClock (s : Session σ) : Timely env connection options ⟨s, []⟩ ⟨(s.readClock env).2, []⟩
  | beginFlight {s : Session σ} {i : Nat} {t : Transfer} (at_ : s.transfers[i]? = some t) :
    Timely env connection options ⟨s, []⟩ ⟨s.update i t.beginFlight, []⟩
  | count (s : Session σ) : Timely env connection options ⟨s, []⟩ ⟨{ s with iterations := s.iterations + 1 }, []⟩
  | poll {s : Session σ} (aloft : ∀ t ∈ s.transfers, t.Aloft) (flying : ∃ t ∈ s.transfers, t.state = .inFlight) :
    Timely env connection options ⟨s, []⟩ ⟨(s.poll env options).2, (s.poll env options).1⟩
  | deliver (s : Session σ) (c : Completion) (rest : List Completion) :
    Timely env connection options ⟨s, c :: rest⟩ ⟨s.deliver env options.retryPolicy c, rest⟩
  | countPending (s : Session σ) : Timely env connection options ⟨s, []⟩ ⟨(s.countPending env).2, []⟩
  | abandon {s : Session σ} (reason : s.isExhausted options = true ∨ (∀ t ∈ s.transfers, t.Aloft) ∧
      (∃ t ∈ s.transfers, t.state = .inFlight) ∧ ∃ past, s.journal = past ++ [.polled [], .counted 0]) :
    Timely env connection options ⟨s, []⟩ ⟨s.failUnfinished, []⟩
  | wait (s : Session σ) : Timely env connection options ⟨s, []⟩ ⟨s.waitForRetry env, []⟩

theorem Timely.step (h : Timely env connection options m m') : Step env connection options m m' := by
  cases h with
  | prepare at_ => exact .prepare at_
  | first at_ ready => exact .submit at_ (.inl ready)
  | retry at_ read due => exact .submit at_ (.inr ⟨_, due⟩)
  | readClock s => exact .readClock s
  | beginFlight at_ => exact .beginFlight at_
  | count s => exact .count s
  | poll aloft flying => exact .poll aloft flying
  | deliver s c rest => exact .deliver s c rest
  | countPending s => exact .countPending s
  | abandon reason => exact .abandon reason
  | wait s => exact .wait s

/-! ### The journal -/

/-- The changes of one transfer that a journal notes, in order. -/
def changesOf (i : Nat) (journal : List Event) : List Change :=
  journal.filterMap fun
    | .changed j change => if j = i then some change else none
    | _ => none

@[simp] theorem changesOf_append (i : Nat) (journal more : List Event) :
    changesOf i (journal ++ more) = changesOf i journal ++ changesOf i more := List.filterMap_append

@[simp] theorem changesOf_own (i : Nat) (changes : List Change) :
    changesOf i (changes.map (Event.changed i)) = changes := by
  simp [changesOf, List.filterMap_map]

theorem changesOf_other (h : j ≠ i) (changes : List Change) : changesOf i (changes.map (Event.changed j)) = [] := by
  simp [changesOf, List.filterMap_map, h]

@[simp] theorem changesOf_submitted (i j : Nat) (request : Request) (result : Except TransportError Handle)
    (rest : List Event) : changesOf i (.submitted j request result :: rest) = changesOf i rest := rfl

@[simp] theorem changesOf_clock (i : Nat) (now : Instant) (rest : List Event) :
    changesOf i (.clock now :: rest) = changesOf i rest := rfl

/-- The entries of a journal that are about one transfer or about none. -/
def entriesOf (i : Nat) (journal : List Event) : List Event := journal.filter fun e => e.subject?.all (· = i)

@[simp] theorem entriesOf_append (i : Nat) (journal more : List Event) :
    entriesOf i (journal ++ more) = entriesOf i journal ++ entriesOf i more := List.filter_append ..

@[simp] theorem entriesOf_own (i : Nat) (changes : List Change) :
    entriesOf i (changes.map (Event.changed i)) = changes.map (Event.changed i) := by
  simp [entriesOf, Event.subject?]

theorem entriesOf_other (h : j ≠ i) (changes : List Change) : entriesOf i (changes.map (Event.changed j)) = [] := by
  simp [entriesOf, Event.subject?, h]

theorem entriesOf_about {events : List Event} (about : ∀ e ∈ events, e.subject? = none ∨ e.subject? = some i) :
    entriesOf i events = events := by
  refine List.filter_eq_self.mpr fun e he => ?_
  obtain none | own := about e he
  · rw [none]
    rfl
  · simp [own]

theorem subject?_of_mem_entriesOf {events : List Event} (about : ∀ e ∈ events, e.subject? = none ∨ e.subject? = some j)
    (h : j ≠ i) : ∀ e ∈ entriesOf i events, e.subject? = none := by
  intro e he
  obtain ⟨he, own⟩ := List.mem_filter.mp he
  refine (about e he).resolve_right fun other => ?_
  simp [other, h] at own

theorem changesOf_entriesOf (i : Nat) (journal : List Event) : changesOf i (entriesOf i journal) = changesOf i journal := by
  unfold changesOf entriesOf
  rw [List.filterMap_filter]
  refine List.filterMap_congr fun e _ => ?_
  cases e with
  | changed j change => by_cases own : j = i <;> simp [Event.subject?, own]
  | submitted j request result => simp
  | polled | counted | clock | slept | unknownCompletion => rfl

theorem changesOf_eq_nil {events : List Event} (other : ∀ e ∈ events, e.subject? = none) : changesOf i events = [] := by
  refine List.filterMap_eq_nil_iff.mpr fun e he => ?_
  cases e with
  | changed j change => cases other _ he
  | submitted | polled | counted | clock | slept | unknownCompletion => rfl

/-- Of changes alone, the entries about one transfer are its changes. -/
theorem entriesOf_noted (i : Nat) (noted : List (Nat × Change)) :
    entriesOf i (noted.map fun n => .changed n.1 n.2) =
      (changesOf i (noted.map fun n => .changed n.1 n.2)).map (Event.changed i) := by
  induction noted with
  | nil => rfl
  | cons n noted ih =>
    rw [← List.singleton_append, List.map_append, entriesOf_append, changesOf_append, List.map_append, ih]
    by_cases own : n.1 = i
    · obtain ⟨j, change⟩ := n
      cases own
      simp [entriesOf, changesOf, Event.subject?]
    · simp [entriesOf, changesOf, Event.subject?, own]

/-- What giving up does to a transfer: it fails if it is not final. -/
inductive GivenUp (iterations : Nat) (t : Transfer) : Transfer → List Change → Prop
  | final (terminal : t.state.isTerminal = true) : GivenUp iterations t t []
  | failed (unfinished : t.state.isTerminal = false) :
    GivenUp iterations t (t.fail (.incomplete iterations)).1 (t.fail (.incomplete iterations)).2

theorem GivenUp.isTerminal {iterations : Nat} {changes : List Change} (h : GivenUp iterations t u changes) :
    u.state.isTerminal = true := by
  cases h with
  | final terminal => exact terminal
  | failed => rfl

/-- From one session to another some transfers may have been given up, and only that is noted. -/
structure GivesUp (s s' : Session σ) : Prop where
  iterations : s'.iterations = s.iterations
  length : s'.transfers.length = s.transfers.length
  each : ∀ i t, s.transfers[i]? = some t → ∃ u changes, s'.transfers[i]? = some u ∧
    changesOf i s'.journal = changesOf i s.journal ++ changes ∧
      (u = t ∧ changes = [] ∨ GivenUp s.iterations t u changes)
  noted : ∃ noted : List (Nat × Change), s'.journal = s.journal ++ noted.map fun n => .changed n.1 n.2

namespace GivesUp

theorem refl (s : Session σ) : GivesUp s s where
  iterations := rfl
  length := rfl
  each := fun _ t ht => ⟨t, [], ht, (List.append_nil _).symm, .inl ⟨rfl, rfl⟩⟩
  noted := ⟨[], (List.append_nil _).symm⟩

theorem trans {s'' : Session σ} (h : GivesUp s s') (h' : GivesUp s' s'') : GivesUp s s'' where
  iterations := h'.iterations.trans h.iterations
  length := h'.length.trans h.length
  each := by
    intro i t ht
    obtain ⟨u, changes, hu, own, kept | given⟩ := h.each i t ht
    · obtain ⟨rfl, rfl⟩ := kept
      obtain ⟨v, more, hv, own', done⟩ := h'.each i u hu
      rw [h.iterations] at done
      exact ⟨v, more, hv, by rw [own', own, List.append_nil], done⟩
    · obtain ⟨v, more, hv, own', kept | again⟩ := h'.each i u hu
      · obtain ⟨rfl, rfl⟩ := kept
        exact ⟨v, changes, hv, by rw [own', own, List.append_nil], .inr given⟩
      · -- What was given up is final, and is not given up again.
        have terminal := given.isTerminal
        cases again with
        | final => exact ⟨_, changes, hv, by rw [own', own, List.append_nil], .inr given⟩
        | failed unfinished =>
          rw [terminal] at unfinished
          cases unfinished
  noted := by
    obtain ⟨noted, eq⟩ := h.noted
    obtain ⟨more, eq'⟩ := h'.noted
    exact ⟨noted ++ more, by rw [eq', eq, List.append_assoc, List.map_append]⟩

theorem fail (at_ : s.transfers[j]? = some t) (unfinished : t.state.isTerminal = false) :
    GivesUp s (s.update j (t.fail (.incomplete s.iterations))) where
  iterations := rfl
  length := List.length_set
  each := by
    intro i u hu
    by_cases hj : j = i
    · subst hj
      cases at_.symm.trans hu
      exact ⟨_, _, getElem?_set_self at_ _, by rw [update_journal, changesOf_append, changesOf_own],
        .inr (.failed unfinished)⟩
    · refine ⟨u, [], by rw [update_transfers, List.getElem?_set_ne hj, hu], ?_, .inl ⟨rfl, rfl⟩⟩
      rw [update_journal, changesOf_append, changesOf_other hj]
  noted := ⟨(t.fail (.incomplete s.iterations)).2.map (Prod.mk j), by rw [update_journal, List.map_map]; rfl⟩

theorem failUnfinished (s : Session σ) : GivesUp s s.failUnfinished := by
  refine forEach_rel refl (fun _ _ _ => trans) (fun s i t at_ => ?_) s
  split
  · exact refl s
  · rename_i unfinished
    exact fail at_ (eq_false_of_ne_true unfinished)

end GivesUp

/-- Giving up fails each transfer that is not final and keeps the others, and only that is noted. -/
theorem failUnfinished_spec (s : Session σ) : s.failUnfinished.transfers.length = s.transfers.length ∧
    (∀ i t, s.transfers[i]? = some t → ∃ u changes, s.failUnfinished.transfers[i]? = some u ∧
      changesOf i s.failUnfinished.journal = changesOf i s.journal ++ changes ∧ GivenUp s.iterations t u changes) ∧
    ∃ noted : List (Nat × Change), s.failUnfinished.journal = s.journal ++ noted.map fun n => .changed n.1 n.2 := by
  obtain ⟨-, length, each, noted⟩ := GivesUp.failUnfinished s
  refine ⟨length, fun i t ht => ?_, noted⟩
  obtain ⟨u, changes, hu, own, kept | given⟩ := each i t ht
  · -- What is as it was is final, as all are.
    obtain ⟨rfl, rfl⟩ := kept
    exact ⟨u, [], hu, own, .final (isTerminal_of_failUnfinished s u (List.mem_of_getElem? hu))⟩
  · exact ⟨u, changes, hu, own, given⟩

/-! ### Steps -/

theorem Step.length (h : Step env connection options m m') :
    m'.session.transfers.length = m.session.transfers.length := by
  cases h with
  | @prepare s j t₀ at_ =>
    obtain ⟨_, -, -, eq⟩ | ⟨_, -, -, eq⟩ | ⟨-, eq⟩ :=
      prepare_cases connection options.base64Writes s j t₀ <;> simp [eq]
  | @submit s j t₀ at_ ready =>
    obtain ⟨-, eq⟩ | ⟨_, _, -, -, eq⟩ | ⟨_, _, -, -, eq⟩ := submit_cases env s j t₀ <;> simp [eq]
  | readClock s => rfl
  | beginFlight at_ => exact List.length_set
  | count s => rfl
  | poll => rfl
  | deliver s c rest =>
    obtain ⟨-, eq⟩ | ⟨_, _, -, -, eq⟩ := deliver_cases env options.retryPolicy s c <;> simp [eq]
  | countPending s => rfl
  | abandon reason => exact (failUnfinished_spec _).1
  | wait s => obtain eq | ⟨_, eq⟩ := waitForRetry_cases env s <;> simp [eq]

/-- A step only adds to the journal. -/
theorem Step.noted (h : Step env connection options m m') :
    ∃ more, m'.session.journal = m.session.journal ++ more := by
  cases h with
  | @prepare s j t₀ at_ =>
    obtain ⟨_, -, -, eq⟩ | ⟨_, -, -, eq⟩ | ⟨-, eq⟩ :=
      prepare_cases connection options.base64Writes s j t₀ <;> rw [eq]
    · exact ⟨_, rfl⟩
    · exact ⟨_, rfl⟩
    · exact ⟨[], (List.append_nil _).symm⟩
  | @submit s j t₀ at_ ready =>
    obtain ⟨-, eq⟩ | ⟨_, _, -, -, eq⟩ | ⟨_, _, -, -, eq⟩ := submit_cases env s j t₀ <;> rw [eq]
    · exact ⟨_, rfl⟩
    · exact ⟨_, List.append_assoc ..⟩
    · exact ⟨_, List.append_assoc ..⟩
  | readClock s => exact ⟨_, rfl⟩
  | beginFlight at_ => exact ⟨_, rfl⟩
  | count s => exact ⟨[], (List.append_nil _).symm⟩
  | poll => exact ⟨_, rfl⟩
  | deliver s c rest =>
    obtain ⟨-, eq⟩ | ⟨_, _, -, -, eq⟩ := deliver_cases env options.retryPolicy s c <;> rw [eq]
    · exact ⟨_, rfl⟩
    · exact ⟨_, List.append_assoc ..⟩
  | countPending s => exact ⟨_, rfl⟩
  | @abandon s reason =>
    obtain ⟨-, -, noted, eq⟩ := failUnfinished_spec s
    exact ⟨_, eq⟩
  | wait s =>
    obtain eq | ⟨_, eq⟩ := waitForRetry_cases env s <;> rw [eq]
    · exact ⟨[], (List.append_nil _).symm⟩
    · exact ⟨_, rfl⟩

end Session

end ArrayTransfer
