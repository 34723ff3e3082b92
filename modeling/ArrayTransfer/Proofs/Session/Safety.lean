import ArrayTransfer.Proofs.Session.Run
import ArrayTransfer.Proofs.Transfer.Read
import ArrayTransfer.Session.Scripted

/-! Transfers keep to their states whatever the environment does: it may refuse requests, name two of them alike, report
    what was never asked for, report it twice or not at all, and miscount. -/

namespace ArrayTransfer.Session

variable {σ : Type} {env : Environment σ} {connection : Connection} {options : SessionOptions} {world : σ}
  {transfers : List Transfer} {s s' : Session σ} {m m' : Moment σ} {i : Nat} {t u : Transfer} {changes : List Change}

/-- What holds at each moment: every transfer holds what its state needs, and while completions are handed out, none is
    still to take off. -/
structure Sound (m : Moment σ) : Prop where
  coupled : ∀ t ∈ m.session.transfers, t.Coupled
  boarded : m.waiting ≠ [] → ∀ t ∈ m.session.transfers, t.state ≠ .enqueued

theorem Sound.opening (idle : ∀ t ∈ transfers, t.Idle) : Sound (opening world transfers) where
  coupled := fun t ht => (idle t ht).toCoupled
  boarded := fun h => absurd rfl h

/-- While completions are handed out, a transfer with a handle is in flight. -/
theorem Sound.inFlight (h : Sound m) {c : Completion} {rest : List Completion} (waiting : m.waiting = c :: rest)
    (ht : t ∈ m.session.transfers) (held : t.handle.isSome = true) : t.state = .inFlight :=
  ((h.coupled t ht).handle.mp held).resolve_left (h.boarded (by rw [waiting]; exact List.cons_ne_nil _ _) t ht)

theorem ready_state (ready : t.state = .configured ∨ ∃ now, t.isRetryDue now = true) :
    t.state = .configured ∨ t.state = .retryPending :=
  ready.imp_right fun ⟨_, due⟩ => Transfer.retryPending_of_isRetryDue due

/-- Each deed keeps a transfer coupled, and moves it as it may. -/
theorem Sound.deed (h : Sound m) (ht : t ∈ m.session.transfers) (deed : Deed env connection options m t u changes) :
    u.Coupled ∧ Leads t.state changes u.state := by
  have coupled := h.coupled t ht
  cases deed with
  | kept => exact ⟨coupled, .refl _⟩
  | configured new ok => exact Transfer.coupled_configure coupled new ok
  | refused new => exact ⟨t.coupled_fail _, Transfer.leads_fail (by rw [new]; rfl) _⟩
  | submitted idle ready held => exact Transfer.coupled_submitted coupled (ready_state ready) held _
  | rejected ready =>
    refine ⟨t.coupled_fail _, Transfer.leads_fail ?_ _⟩
    obtain state | state := ready_state ready <;> rw [state] <;> rfl
  | began enqueued => exact Transfer.coupled_began coupled enqueued
  | completed waiting held =>
    exact Transfer.coupled_complete coupled (h.inFlight waiting ht (Option.isSome_of_eq_some held))
  | abandoned unfinished => exact ⟨t.coupled_fail _, Transfer.leads_fail unfinished _⟩

/-- A final transfer is kept. -/
theorem Sound.kept (h : Sound m) (ht : t ∈ m.session.transfers) (deed : Deed env connection options m t u changes)
    (terminal : t.state.isTerminal = true) : u = t ∧ changes = [] := by
  have other : ∀ {a : TransferState}, a.isTerminal = false → t.state ≠ a := by
    rintro a unfinished rfl
    rw [terminal] at unfinished
    cases unfinished
  cases deed with
  | kept => exact ⟨rfl, rfl⟩
  | configured new | refused new => exact absurd new (other rfl)
  | submitted _ ready | rejected ready =>
    obtain state | state := ready_state ready
    · exact absurd state (other rfl)
    · exact absurd state (other rfl)
  | began enqueued => exact absurd enqueued (other rfl)
  | completed waiting held => exact absurd (h.inFlight waiting ht (Option.isSome_of_eq_some held)) (other rfl)
  | abandoned unfinished => exact absurd rfl (other unfinished)

/-- Completions are handed out after a poll, until there are none left. -/
theorem Step.waiting (h : Step env connection options m m') (some : m'.waiting ≠ []) :
    (∃ c rest, m.waiting = c :: rest) ∨ ∀ t ∈ m'.session.transfers, t.Aloft := by
  cases h with
  | poll aloft => exact .inr aloft
  | deliver s c rest => exact .inl ⟨c, rest, rfl⟩
  | _ => exact absurd rfl some

theorem Sound.step (h : Sound m) (step : Step env connection options m m') : Sound m' where
  coupled := by
    intro u hu
    obtain ⟨i, hi⟩ := List.getElem?_of_mem hu
    obtain ⟨t, changes, ht, deed⟩ := step.deed_back hi
    exact (h.deed (List.mem_of_getElem? ht) deed).1
  boarded := by
    intro some u hu enqueued
    obtain ⟨c, rest, waiting⟩ | aloft := step.waiting some
    · obtain ⟨i, hi⟩ := List.getElem?_of_mem hu
      obtain ⟨t, changes, ht, deed⟩ := step.deed_back hi
      have grounded := h.boarded (by rw [waiting]; exact List.cons_ne_nil _ _) t (List.mem_of_getElem? ht)
      cases deed with
      | kept => exact grounded enqueued
      | @configured done new ok =>
        obtain ⟨_, _, _, -, ⟨-, rfl⟩ | ⟨-, rfl⟩⟩ := Transfer.configure_cases ok <;> cases enqueued
      | submitted idle =>
        rw [idle] at waiting
        cases waiting
      | refused | rejected | began | abandoned => cases enqueued
      | @completed c rest now =>
        obtain ⟨_, -, eq⟩ | ⟨_, _, -, -, eq⟩ | ⟨_, _, -, -, eq⟩ :=
          t.complete_cases options.retryPolicy now c.result <;> rw [eq] at enqueued <;> cases enqueued
    · obtain state | state | terminal := aloft u hu
      · rw [state] at enqueued
        cases enqueued
      · rw [state] at enqueued
        cases enqueued
      · rw [enqueued] at terminal
        cases terminal

theorem Reaches.sound (h : Reaches env connection options m m') (hm : Sound m) : Sound m' := by
  induction h with
  | refl => exact hm
  | tail _ step ih => exact ih.step step

/-- Along a run each transfer moves as it may, as the journal notes. -/
theorem Reaches.leads (h : Reaches env connection options m m') (hm : Sound m)
    (here : m.session.transfers[i]? = some t) : ∃ u changes, m'.session.transfers[i]? = some u ∧
      changesOf i m'.session.journal = changesOf i m.session.journal ++ changes ∧ Leads t.state changes u.state := by
  induction h with
  | refl => exact ⟨t, [], here, (List.append_nil _).symm, .refl _⟩
  | tail reached step ih =>
    obtain ⟨u, changes, hu, noted, leads⟩ := ih
    obtain ⟨v, more, deed, hv, noted'⟩ := step.deed hu
    have moved := (Reaches.sound reached hm).deed (List.mem_of_getElem? hu) deed
    exact ⟨v, changes ++ more, hv, by rw [noted', noted, List.append_assoc], leads.trans moved.2⟩

/-- A final transfer stays as it is. -/
theorem Reaches.kept (h : Reaches env connection options m m') (hm : Sound m) (here : m.session.transfers[i]? = some t)
    (terminal : t.state.isTerminal = true) : m'.session.transfers[i]? = some t := by
  induction h with
  | refl => exact here
  | tail reached step ih =>
    obtain ⟨u, changes, deed, hu, -⟩ := step.deed ih
    obtain ⟨rfl, -⟩ := (Reaches.sound reached hm).kept (List.mem_of_getElem? ih) deed terminal
    exact hu

/-- In any environment, a call moves its transfers only as they may move, from where they are; a final transfer stays as
    it is, and a completion is handed only to a transfer in flight. At the head of each turn of the loop, a transfer
    holds a handle, a request and an error exactly in the states that need them. If the call ends, every transfer is
    final, and can be given to another call. -/
theorem safe_in_any_environment (env : Environment σ) (connection : Connection) (options : SessionOptions) (world : σ)
    (idle : ∀ t ∈ transfers, t.Idle) :
    (∀ m, Reaches env connection options (opening world transfers) m →
      (∀ (i : Nat) (t : Transfer), transfers[i]? = some t → ∃ u, m.session.transfers[i]? = some u ∧
        Leads t.state (changesOf i m.session.journal) u.state) ∧
      (∀ m', Reaches env connection options m m' → ∀ (i : Nat) (t : Transfer), m.session.transfers[i]? = some t →
        t.state.isTerminal = true → m'.session.transfers[i]? = some t) ∧
      ∀ c rest, m.waiting = c :: rest → ∀ t ∈ m.session.transfers, t.handle = some c.handle → t.state = .inFlight) ∧
    (∀ s, Head env connection options world transfers s →
      Reaches env connection options (opening world transfers) ⟨s, []⟩ ∧ ∀ t ∈ s.transfers,
        (t.handle.isSome ↔ t.state = .enqueued ∨ t.state = .inFlight) ∧
        (t.request.isSome ↔ t.state = .enqueued ∨ t.state = .inFlight ∨ t.state = .retryPending) ∧
        (t.error.isSome ↔ t.state = .failed)) ∧
    ∀ fuel s, execute env connection options fuel world transfers = some s →
      Reaches env connection options (opening world transfers) ⟨s, []⟩ ∧
        ∀ t ∈ s.transfers, t.state.isTerminal = true ∧ t.Idle := by
  have sound : Sound (opening world transfers) := .opening idle
  refine ⟨fun m reached => ⟨fun i t ht => ?_, fun m' later i t ht terminal => ?_, fun c rest waiting t ht held => ?_⟩,
    fun s head => ?_, fun fuel s done => ?_⟩
  · obtain ⟨u, changes, hu, noted, leads⟩ := reached.leads sound ht
    rw [noted]
    exact ⟨u, hu, leads⟩
  · exact later.kept (reached.sound sound) ht terminal
  · exact (reached.sound sound).inFlight waiting ht (Option.isSome_of_eq_some held)
  · obtain ⟨reached, launched⟩ := reaches_head head
    refine ⟨reached, fun t ht => ?_⟩
    obtain ⟨handle, request, error⟩ := (reached.sound sound).coupled t ht
    exact ⟨handle, request.trans (or_iff_right (launched t ht).2), error⟩
  · have reached := reaches_execute done
    have terminal := isTerminal_of_execute done
    exact ⟨reached, fun t ht => ⟨terminal t ht, (reached.sound sound).coupled t ht, .inr (terminal t ht)⟩⟩

/-- A response with a seven in it. -/
def seven : Response := ⟨200, Utf8.encode (Json.object [("value", .array [.number (.unsigned 7)])]).render⟩

/-- A world that reports each request twice, the last one first, and with it one that was never made. -/
def noisy : Scripted :=
  ⟨⟨[], [], 1, 0, true, true, true⟩, [("d", [.reply (.ok ⟨503, []⟩), .reply (.ok seven)])], [], 0, 0, 0, 0, []⟩

/-- One retry, after the shortest wait. -/
def oneRetry : SessionOptions := ⟨0, ⟨1, 1, 1, 1⟩, false, none⟩

theorem idle_oneRead : Transfer.oneRead.Idle :=
  .of_make (show Transfer.make .read Transfer.oneByte Transfer.onePoint none Transfer.oneByte.type [0] = _ from rfl)

theorem safe_in_noise : ∃ s,
    execute Scripted.environment Transfer.plainStore oneRetry 9 noisy [Transfer.oneRead, Transfer.oneRead] = some s ∧
      ∀ t ∈ s.transfers, t.state.isTerminal = true ∧ t.Idle := by
  have idle : ∀ t ∈ [Transfer.oneRead, Transfer.oneRead], t.Idle :=
    List.forall_mem_cons.mpr ⟨idle_oneRead, List.forall_mem_singleton.mpr idle_oneRead⟩
  have ends : (execute Scripted.environment Transfer.plainStore oneRetry 9 noisy
      [Transfer.oneRead, Transfer.oneRead]).isSome = true := by decide +kernel
  obtain ⟨s, done⟩ := Option.isSome_iff_exists.mp ends
  have safe := safe_in_any_environment Scripted.environment Transfer.plainStore oneRetry noisy idle
  exact ⟨s, done, (safe.2.2 9 s done).2⟩

end ArrayTransfer.Session
