import ArrayTransfer.Proofs.Session.Waiting

/-! A multiplexer that takes every request and leaves none unreported for ever. Whatever else it does, no transfer is
    dropped, every handle that is held is still to be reported or handed out (`Booked`), and each poll strikes a request
    off the books, so that there are no more polls than requests (`Tended`). -/

namespace ArrayTransfer.Session
open Transfer

variable {σ : Type} {env : Environment σ} {connection : Connection} {options : SessionOptions} {world : σ}
  {transfers ts : List Transfer} {s s' : Session σ} {m m' : Moment σ} {i j : Nat} {t u v : Transfer} {l : Ledger}
  {waiting rest completions : List Completion} {c : Completion} {handle : Handle} {request : Request}

/-! ### Handles -/

/-- What was taken is for one of the transfers. A handle that is held is to be reported or to be handed out, and no two
    transfers hold one. -/
structure Booked (ts : List Transfer) (l : Ledger) (waiting : List Completion) : Prop where
  inside : ∀ o ∈ l.taken, o.transfer < ts.length
  held : ∀ (i : Nat) (u : Transfer) (handle : Handle), ts[i]? = some u → u.handle = some handle →
    (∃ o ∈ l.unreported, o.handle = handle) ∨ ∃ c ∈ waiting, c.handle = handle
  distinct : ∀ (i j : Nat) (u v : Transfer) (handle : Handle), ts[i]? = some u → ts[j]? = some v →
    u.handle = some handle → v.handle = some handle → i = j

namespace Booked

theorem opening (fresh : ∀ t ∈ transfers, t.Fresh) : Booked transfers (.of []) [] where
  inside := List.forall_mem_nil _
  held := fun _ u _ hu held => nomatch (fresh u (List.mem_of_getElem? hu)).handle.symm.trans held
  distinct := fun _ _ u _ _ hu _ held _ => nomatch (fresh u (List.mem_of_getElem? hu)).handle.symm.trans held

/-- Transfers may let go of their handles. -/
theorem fewer {ts' : List Transfer} (h : Booked ts l waiting) (length : ts'.length = ts.length)
    (before : ∀ (i : Nat) (v : Transfer), ts'[i]? = some v →
      ∃ u, ts[i]? = some u ∧ (v.handle = u.handle ∨ v.handle = none)) : Booked ts' l waiting := by
  have held : ∀ {i : Nat} {v : Transfer} {handle : Handle}, ts'[i]? = some v → v.handle = some handle →
      ∃ u, ts[i]? = some u ∧ u.handle = some handle := by
    intro i v handle hv held
    obtain ⟨u, hu, same | none⟩ := before i v hv
    · exact ⟨u, hu, same ▸ held⟩
    · cases none.symm.trans held
  refine ⟨length ▸ h.inside, fun i v handle hv own => ?_, fun i j v w handle hv hw own own' => ?_⟩
  · obtain ⟨u, hu, own⟩ := held hv own
    exact h.held i u handle hu own
  · obtain ⟨u, hu, own⟩ := held hv own
    obtain ⟨x, hx, own'⟩ := held hw own'
    exact h.distinct i j u x handle hu hx own own'

theorem set (h : Booked ts l waiting) (at_ : ts[j]? = some u) (handle : v.handle = u.handle ∨ v.handle = none) :
    Booked (ts.set j v) l waiting := by
  refine h.fewer List.length_set fun i w hw => ?_
  obtain ⟨rfl, rfl⟩ | ⟨-, hw⟩ := getElem?_set_cases hw
  · exact ⟨u, at_, handle⟩
  · exact ⟨w, hw, .inl rfl⟩

/-- A request is taken under a handle that is not in use. -/
theorem submit (h : Booked ts l []) (at_ : ts[j]? = some u) (request : Request)
    (new : ∀ o ∈ l.unreported, o.handle ≠ handle) : Booked (ts.set j (u.submitted handle).1)
      (l.note (.submitted j request (.ok handle))) [] := by
  have other : ∀ {i : Nat} {w : Transfer}, ts[i]? = some w → w.handle ≠ some handle := by
    intro i w hw held
    obtain ⟨o, ho, same⟩ | ⟨c, hc, -⟩ := h.held i w handle hw held
    · exact new o ho same
    · cases hc
  refine ⟨fun o ho => ?_, fun i w held hw own => .inl ?_, fun i k w x held hw hx own own' => ?_⟩
  · rw [List.length_set]
    obtain old | rfl := (List.mem_append.mp ho).imp_right List.mem_singleton.mp
    · exact h.inside o old
    · exact (List.getElem?_eq_some_iff.mp at_).1
  · obtain ⟨rfl, rfl⟩ | ⟨-, hw⟩ := getElem?_set_cases hw
    · cases own
      exact ⟨_, Ledger.mem_submitted.mpr (.inr rfl), rfl⟩
    · obtain ⟨o, ho, same⟩ | ⟨c, hc, -⟩ := h.held i w held hw own
      · exact ⟨o, Ledger.mem_submitted.mpr (.inl ho), same⟩
      · cases hc
  · obtain ⟨rfl, rfl⟩ | ⟨-, hw⟩ := getElem?_set_cases hw <;> obtain ⟨rfl, rfl⟩ | ⟨-, hx⟩ := getElem?_set_cases hx
    · rfl
    · cases own
      exact absurd own' (other hx)
    · cases own'
      exact absurd own (other hw)
    · exact h.distinct i k w x held hw hx own own'

theorem poll (h : Booked ts l []) (completions : List Completion) :
    Booked ts (l.note (.polled completions)) completions where
  inside := h.inside
  held := by
    intro i u handle hu own
    obtain ⟨o, ho, same⟩ | ⟨c, hc, -⟩ := h.held i u handle hu own
    · by_cases reported : ∃ c ∈ completions, c.handle = handle
      · exact .inr reported
      · refine .inl ⟨o, Ledger.mem_polled.mpr ⟨ho, fun c hc reports => reported ⟨c, hc, reports.trans same⟩⟩, same⟩
    · cases hc
  distinct := h.distinct

/-- A completion that no transfer waits for any more is done with. -/
theorem skip (h : Booked ts l (c :: rest)) (nobody : ∀ u ∈ ts, u.handle ≠ some c.handle) : Booked ts l rest where
  inside := h.inside
  held := by
    intro i u handle hu own
    refine (h.held i u handle hu own).imp_right fun ⟨c', hc', same⟩ => ⟨c', ?_, same⟩
    refine (List.mem_cons.mp hc').resolve_left ?_
    rintro rfl
    exact nobody u (List.mem_of_getElem? hu) (same ▸ own)
  distinct := h.distinct

/-- A completion is handed to the transfer that holds its handle, which lets go of it. -/
theorem deliver (h : Booked ts l (c :: rest)) (at_ : ts[j]? = some u) (own : u.handle = some c.handle)
    (free : v.handle = none) : Booked (ts.set j v) l rest := by
  refine (h.set at_ (.inr free)).skip fun w hw held => ?_
  obtain ⟨i, hi⟩ := List.getElem?_of_mem hw
  obtain ⟨rfl, rfl⟩ | ⟨other, hi⟩ := getElem?_set_cases hi
  · cases free.symm.trans held
  · exact other (h.distinct j i u w c.handle at_ hi own held)

end Booked

theorem handle_configure {done : Transfer.Changed} (ok : t.configure connection options.base64Writes = .ok done) :
    done.1.handle = t.handle := by
  obtain ⟨_, _, _, -, ⟨-, rfl⟩ | ⟨-, rfl⟩⟩ := configure_cases ok
  · rfl
  · rfl

theorem handle_complete (u : Transfer) (policy : RetryPolicy) (now : Instant)
    (result : Except TransportError Response) : (u.complete policy now result).1.handle = none := by
  obtain ⟨_, -, eq⟩ | ⟨_, _, -, -, eq⟩ | ⟨_, _, -, -, eq⟩ := u.complete_cases policy now result
  · rw [eq]
  · rw [eq]
  · rw [eq]
    rfl

/-- By the books that the journal gives at a moment. -/
abbrev BookedAt (m : Moment σ) : Prop := Booked m.session.transfers (.of m.session.journal) m.waiting

theorem BookedAt.update {changed : Transfer.Changed}
    (h : Booked (s.transfers.set i changed.1) (.of s.journal) rest) : BookedAt ⟨s.update i changed, rest⟩ := by
  unfold BookedAt
  rw [update_transfers, update_journal, Ledger.of_append, Ledger.foldl_note_changes]
  exact h

/-- A step keeps to the books, if no handle is given out that is in use. -/
theorem Booked.step (h : BookedAt m) (step : Step env connection options m m')
    (accepts : Follows Accepts (.of []) m'.session.journal) : BookedAt m' := by
  cases step with
  | @prepare s i t at_ =>
    obtain ⟨done, -, ok, eq⟩ | ⟨e, -, -, eq⟩ | ⟨-, eq⟩ := prepare_cases connection options.base64Writes s i t
    · rw [eq]
      exact .update (h.set at_ (.inl (handle_configure ok)))
    · rw [eq]
      exact .update (h.set at_ (.inr rfl))
    · rw [eq]
      exact h
  | @submit s i t at_ ready =>
    obtain ⟨-, eq⟩ | ⟨request, handle, -, added, eq⟩ | ⟨request, e, -, added, eq⟩ := submit_cases env s i t
    · rw [eq]
      exact .update (h.set at_ (.inr rfl))
    · rw [eq, asked_update_journal, added] at accepts
      rw [eq]
      refine .update ?_
      rw [asked_journal, added, Ledger.of_append]
      exact Booked.submit h at_ request (Follows.at accepts)
    · rw [eq, asked_update_journal, added] at accepts
      exact absurd (Follows.at accepts) id
  | readClock s =>
    unfold BookedAt
    rw [readClock_journal, Ledger.of_append]
    exact h
  | @beginFlight s i t at_ => exact .update (h.set at_ (.inl (handle_beginFlight t)))
  | count s => exact h
  | @poll s aloft flying =>
    have journal : (s.poll env options).2.journal = s.journal ++ [.polled (s.poll env options).1] := rfl
    unfold BookedAt
    rw [journal, Ledger.of_append]
    exact h.poll _
  | deliver s c rest =>
    obtain ⟨nobody, eq⟩ | ⟨i, t, at_, own, eq⟩ := deliver_cases env options.retryPolicy s c
    · rw [eq, BookedAt, Ledger.of_append]
      exact h.skip nobody
    · rw [eq]
      refine .update ?_
      rw [readClock_journal, Ledger.of_append]
      exact h.deliver at_ own (handle_complete t _ _ _)
  | countPending s =>
    have journal : (s.countPending env).2.journal = s.journal ++ [.counted (s.countPending env).1] := rfl
    unfold BookedAt
    rw [journal, Ledger.of_append]
    exact h
  | @abandon s reason =>
    obtain ⟨length, each, noted, journal⟩ := failUnfinished_spec s
    unfold BookedAt
    rw [journal, Ledger.of_append, Ledger.foldl_note_noted]
    refine h.fewer length fun i v hv => ?_
    obtain ⟨hi, -⟩ := List.getElem?_eq_some_iff.mp hv
    have hu := List.getElem?_eq_getElem (length ▸ hi)
    obtain ⟨w, _, hw, -, given⟩ := each i _ hu
    cases hv.symm.trans hw
    refine ⟨_, hu, ?_⟩
    cases given with
    | final => exact .inl rfl
    | failed => exact .inr rfl
  | wait s =>
    obtain eq | ⟨duration, eq⟩ := waitForRetry_cases env s
    · rw [eq]
      exact h
    · rw [eq, BookedAt, Ledger.of_append]
      exact h

/-! ### Polls -/

/-- A step polls once, when some are in flight, or not at all. -/
theorem Step.polls (h : Step env connection options m m') : polls m'.session.journal = polls m.session.journal ∨
    m.waiting = [] ∧ (∃ t ∈ m.session.transfers, t.state = .inFlight) ∧
      m'.session.transfers = m.session.transfers ∧
      m'.session.journal = m.session.journal ++ [.polled m'.waiting] := by
  cases h with
  | @prepare s i t at_ => exact .inl (Quiet.prepare s i t).polls
  | @submit s i t => exact .inl (Quiet.submit env s i t).polls
  | readClock s => exact .inl (Quiet.readClock env s).polls
  | @beginFlight s i t => exact .inl (Quiet.update s i _).polls
  | count => exact .inl rfl
  | poll aloft flying => exact .inr ⟨rfl, flying, rfl, rfl⟩
  | deliver s c rest => exact .inl (Quiet.deliver env options.retryPolicy s c).polls
  | countPending s => exact .inl (Quiet.countPending env s).polls
  | @abandon s => exact .inl (Quiet.failUnfinished s).polls
  | wait s =>
    obtain eq | ⟨_, eq⟩ := waitForRetry_cases env s <;> rw [eq]
    · exact .inl rfl
    · exact .inl (by rw [polls_append]; rfl)

/-- Without a poll the books only gain requests that are to be reported. -/
theorem gain_of_unpolled (l : Ledger) {more : List Event} (none : ∀ e ∈ more, e.isPoll = false) :
    l.taken.length + (more.foldl Ledger.note l).unreported.length =
      (more.foldl Ledger.note l).taken.length + l.unreported.length := by
  induction more generalizing l with
  | nil => rfl
  | cons e more ih =>
    obtain ⟨other, none⟩ := List.forall_mem_cons.mp none
    have later := ih (l.note e) none
    rw [List.foldl_cons]
    cases e with
    | submitted i request result =>
      cases result with
      | ok handle =>
        simp only [Ledger.note, List.length_append, List.length_singleton] at later ⊢
        omega
      | error => exact later
    | polled => cases other
    | changed | counted | clock | slept | unknownCompletion => exact later

/-! ### Transfers that wait -/

theorem Undropped.append {journal more : List Event} (h : Undropped journal) (kept : ∀ e ∈ more, e.isDrop = false) :
    Undropped (journal ++ more) :=
  List.forall_mem_append.mpr ⟨h, kept⟩

theorem undropped_fail (i : Nat) (other : t.state ≠ .retryPending) (e : TransferError) :
    Undropped ((t.fail e).2.map (Event.changed i)) := by
  refine List.forall_mem_cons.mpr ⟨rfl, List.forall_mem_singleton.mpr ?_⟩
  cases state : t.state with
  | retryPending => exact absurd state other
  | init | configured | enqueued | inFlight | succeeded | failed => rfl

/-- Another state than failure is no drop. -/
theorem isDrop_moved {after : TransferState} (i : Nat) (before : TransferState) (h : after ≠ .failed) :
    (Event.changed i (.moved before after)).isDrop = false := by
  cases before <;> cases after <;> first | rfl | exact absurd rfl h

theorem undropped_complete (i : Nat) (flying : t.state = .inFlight) (policy : RetryPolicy) (now : Instant)
    (result : Except TransportError Response) :
    Undropped ((t.complete policy now result).2.map (Event.changed i)) := by
  obtain ⟨_, -, eq⟩ | ⟨_, _, -, -, eq⟩ | ⟨e, retry, -, -, eq⟩ := t.complete_cases policy now result
  · rw [eq]
    exact List.forall_mem_singleton.mpr (isDrop_moved i _ nofun)
  · rw [eq]
    exact List.forall_mem_cons.mpr ⟨rfl, List.forall_mem_singleton.mpr (isDrop_moved i _ nofun)⟩
  · rw [eq]
    refine undropped_fail (t := { t with handle := none, retry := { retry with lastError := none } }) i ?_ e
    rw [flying]
    exact nofun

/-- A step drops no transfer, if no request is refused and the transfers are not given up. -/
theorem Undropped.step (h : Undropped m.session.journal) (sound : Sound m)
    (step : Step env connection options m m') (accepts : Follows Accepts (.of []) m'.session.journal) :
    Undropped m'.session.journal ∨ Abandoned options m m' := by
  cases step with
  | @prepare s i t at_ =>
    left
    obtain ⟨done, new, ok, eq⟩ | ⟨e, new, -, eq⟩ | ⟨-, eq⟩ := prepare_cases connection options.base64Writes s i t
    · rw [eq]
      refine h.append ?_
      obtain ⟨_, _, _, -, ⟨-, rfl⟩ | ⟨-, rfl⟩⟩ := configure_cases ok
      · exact List.forall_mem_cons.mpr ⟨isDrop_moved i _ nofun, List.forall_mem_singleton.mpr rfl⟩
      · exact List.forall_mem_singleton.mpr (isDrop_moved i _ nofun)
    · rw [eq]
      exact h.append (undropped_fail i (by rw [new]; exact nofun) e)
    · rw [eq]
      exact h
  | @submit s i t at_ ready =>
    left
    have held := (sound.coupled t (List.mem_of_getElem? at_)).request.mpr
      ((ready_state ready).imp_right fun pending => .inr (.inr pending))
    obtain ⟨none, -⟩ | ⟨request, handle, -, added, eq⟩ | ⟨request, e, -, added, eq⟩ := submit_cases env s i t
    · rw [none] at held
      cases held
    · rw [eq]
      refine (h.append (List.forall_mem_singleton.mpr rfl)).append ?_
      exact List.forall_mem_singleton.mpr (isDrop_moved i _ nofun)
    · rw [eq, asked_update_journal, added] at accepts
      exact absurd (Follows.at accepts) id
  | readClock s => exact .inl (h.append (List.forall_mem_singleton.mpr rfl))
  | @beginFlight s i t at_ =>
    left
    refine h.append ?_
    unfold beginFlight
    split
    · exact List.forall_mem_singleton.mpr (isDrop_moved i _ nofun)
    · exact List.forall_mem_nil _
  | count s => exact .inl h
  | poll => exact .inl (h.append (List.forall_mem_singleton.mpr rfl))
  | deliver s c rest =>
    left
    obtain ⟨-, eq⟩ | ⟨i, t, at_, own, eq⟩ := deliver_cases env options.retryPolicy s c
    · rw [eq]
      exact h.append (List.forall_mem_singleton.mpr rfl)
    · rw [eq]
      refine (h.append (List.forall_mem_singleton.mpr rfl)).append (undropped_complete i ?_ _ _ _)
      exact sound.inFlight rfl (List.mem_of_getElem? at_) (Option.isSome_of_eq_some own)
  | countPending s => exact .inl (h.append (List.forall_mem_singleton.mpr rfl))
  | abandon reason => exact .inr ⟨rfl, rfl, rfl, reason⟩
  | wait s =>
    left
    obtain eq | ⟨duration, eq⟩ := waitForRetry_cases env s <;> rw [eq]
    · exact h
    · exact h.append (List.forall_mem_cons.mpr ⟨rfl, List.forall_mem_singleton.mpr rfl⟩)

/-! ### Runs -/

/-- At a moment the books are kept, no more was polled than was reported, and no transfer was dropped. -/
structure Tended (m : Moment σ) : Prop where
  booked : BookedAt m
  polled : polls m.session.journal + (Ledger.of m.session.journal).unreported.length ≤
    (Ledger.of m.session.journal).taken.length
  undropped : Undropped m.session.journal

namespace Tended

theorem opening (fresh : ∀ t ∈ transfers, t.Fresh) : Tended (opening world transfers) where
  booked := .opening fresh
  polled := Nat.le_refl 0
  undropped := List.forall_mem_nil _

/-- While some transfer is in flight and nothing is left to hand out, a request is still to be reported. -/
theorem unreported (h : Tended m) (sound : Sound m) (idle : m.waiting = [])
    (flying : ∃ t ∈ m.session.transfers, t.state = .inFlight) : (Ledger.of m.session.journal).unreported ≠ [] := by
  obtain ⟨u, hu, flying⟩ := flying
  obtain ⟨i, hi⟩ := List.getElem?_of_mem hu
  obtain ⟨handle, own⟩ := Option.isSome_iff_exists.mp ((sound.coupled u hu).handle.mpr (.inr flying))
  obtain ⟨o, ho, -⟩ | ⟨c, hc, -⟩ := h.booked.held i u handle hi own
  · exact List.ne_nil_of_mem ho
  · rw [idle] at hc
    cases hc

/-- The transfers are not given up while there is no limit of polls. -/
theorem not_abandoned (h : Tended m) (sound : Sound m) (unlimited : options.maxPolls = none)
    (reports : Follows Reports (.of []) m.session.journal) : ¬Abandoned options m m' := by
  rintro ⟨-, idle, -, exhausted | ⟨-, flying, past, journal⟩⟩
  · exact Bool.noConfusion ((not_exhausted unlimited m.session).symm.trans exhausted)
  · have split : m.session.journal = past ++ .polled [] :: [.counted 0] := journal
    obtain ⟨o, ho⟩ := List.exists_mem_of_ne_nil _ (h.unreported sound idle flying)
    rw [split] at reports ho
    rw [Ledger.of_append] at ho
    have before : o ∈ (Ledger.of past).unreported := (Ledger.mem_polled.mp ho).1
    obtain ⟨-, -, c, hc, -⟩ := (Follows.at reports : Reports _ _) (List.ne_nil_of_mem before)
    cases hc

theorem step (h : Tended m) (sound : Sound m) (step : Step env connection options m m')
    (unlimited : options.maxPolls = none) (accepts : Follows Accepts (.of []) m'.session.journal)
    (reports : Follows Reports (.of []) m'.session.journal) : Tended m' where
  booked := h.booked.step step accepts
  polled := by
    have polled := h.polled
    obtain none | ⟨idle, flying, -, journal⟩ := step.polls
    · obtain ⟨more, noted⟩ := step.noted
      rw [noted, polls_append, Nat.add_eq_left] at none
      have gain := gain_of_unpolled (.of m.session.journal) fun e he =>
        Bool.not_eq_true _ ▸ List.countP_eq_zero.mp none e he
      rw [noted, polls_append, none, Ledger.of_append]
      omega
    · rw [journal] at reports ⊢
      obtain ⟨o, ho, c, hc, same⟩ := (Follows.at reports : Reports _ _) (h.unreported sound idle flying)
      rw [polls_append, Ledger.of_append]
      have struck : ((Ledger.of m.session.journal).note (.polled m'.waiting)).unreported.length <
          (Ledger.of m.session.journal).unreported.length := by
        refine List.length_filter_lt_length_iff_exists.mpr ⟨o, ho, fun every => ?_⟩
        exact of_decide_eq_true (List.all_eq_true.mp every c hc) same
      show polls m.session.journal + 1 + _ ≤ (Ledger.of m.session.journal).taken.length
      exact Nat.le_trans (by simp only [List.foldl_cons, List.foldl_nil]; omega) polled
  undropped :=
    (h.undropped.step sound step accepts).resolve_right
      (h.not_abandoned sound unlimited (step.follows reports))

end Tended

/-- A call is tended throughout, if the multiplexer takes every request and leaves none unreported. -/
theorem Reaches.tended (h : Reaches env connection options (opening world transfers) m)
    (fresh : ∀ t ∈ transfers, t.Fresh) (unlimited : options.maxPolls = none)
    (accepts : Follows Accepts (.of []) m.session.journal) (reports : Follows Reports (.of []) m.session.journal) :
    Tended m := by
  induction h with
  | refl => exact .opening fresh
  | tail reached step ih =>
    have tended := ih (step.follows accepts) (step.follows reports)
    exact tended.step (Reaches.sound reached (sound_of_fresh fresh)) step unlimited accepts reports

end ArrayTransfer.Session
