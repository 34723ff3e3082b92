import ArrayTransfer.Proofs.Session.Account
import ArrayTransfer.Proofs.Session.Sibling
import ArrayTransfer.Proofs.Session.Turn

/-! Waiting for a retry. While no transfer was dropped as it waited (`Undropped`), a wait ends when a transfer is due that
    really waits, and the next turn hands it over: there is at most one wait more than there are retries. A dropped
    transfer keeps the time at which it was due, and the loop goes on waiting for it. -/

namespace ArrayTransfer

/-! ### Books and accounts -/

/-- How many retries were taken. -/
def Ledger.retries (l : Ledger) : Nat := l.taken.countP (2 ≤ ·.attempt)

theorem Ledger.retries_submitted (l : Ledger) (i : Nat) (request : Request) (handle : Handle) :
    (l.note (.submitted i request (.ok handle))).retries = l.retries + if 1 ≤ l.tries i then 1 else 0 := by
  unfold retries note
  rw [List.countP_append, List.countP_singleton]
  simp

theorem Ledger.retries_le_note (l : Ledger) (e : Event) : l.retries ≤ (l.note e).retries := by
  cases e with
  | submitted i request result =>
    cases result with
    | ok handle => exact retries_submitted l i request handle ▸ Nat.le_add_right _ _
    | error => exact Nat.le_refl _
  | changed | polled | counted | clock | slept | unknownCompletion => exact Nat.le_refl _

theorem Ledger.retries_le_append (journal more : List Event) : (of journal).retries ≤ (of (journal ++ more)).retries := by
  rw [of_append]
  generalize of journal = l
  induction more generalizing l with
  | nil => exact Nat.le_refl _
  | cons e more ih => exact Nat.le_trans (l.retries_le_note e) (ih _)

/-- The books have as many requests for a transfer as its account. -/
theorem Ledger.tries_eq (i : Nat) (journal : List Event) : (of journal).tries i = (Account.of i journal).taken.length := by
  suffices same : ∀ (l : Ledger) (a : Account), l.tries i = a.taken.length →
      (journal.foldl note l).tries i = ((Session.entriesOf i journal).foldl Account.note a).taken.length from
    same _ _ rfl
  induction journal with
  | nil => exact fun _ _ h => h
  | cons e journal ih =>
    intro l a h
    have entries : Session.entriesOf i (e :: journal) = Session.entriesOf i [e] ++ Session.entriesOf i journal :=
      Session.entriesOf_append i [e] journal
    rw [entries, List.foldl_cons, List.foldl_append]
    refine ih _ _ ?_
    cases e with
    | submitted j request result =>
      cases result with
      | ok handle =>
        rw [tries_submitted]
        by_cases own : j = i <;> simp [Session.entriesOf, Event.subject?, Account.note, own, h]
      | error => by_cases own : j = i <;> simp [Session.entriesOf, Event.subject?, Account.note, own, ← h] <;> rfl
    | changed j change =>
      by_cases own : j = i <;> cases change <;>
        simp [Session.entriesOf, Event.subject?, Account.note, own, ← h] <;> rfl
    | clock | polled | counted | slept | unknownCompletion => exact h

/-- Whether a transfer failed while it waited for a retry. -/
def Event.isDrop : Event → Bool
  | .changed _ (.moved .retryPending .failed) => true
  | _ => false

namespace Session
open Transfer

/-- No transfer failed while it waited for a retry. -/
def Undropped (journal : List Event) : Prop := ∀ e ∈ journal, e.isDrop = false

instance (journal : List Event) : Decidable (Undropped journal) :=
  inferInstanceAs (Decidable (∀ e ∈ journal, e.isDrop = false))

variable {σ : Type} {env : Environment σ} {connection : Connection} {options : SessionOptions} {world : σ}
  {transfers : List Transfer} {s s' : Session σ} {m m' : Moment σ} {i : Nat} {t u : Transfer} {due now : Instant}

theorem Undropped.of_append {journal more : List Event} (h : Undropped (journal ++ more)) : Undropped journal :=
  fun e he => h e (List.mem_append_left _ he)

/-- What is not dropped is not so by its account. -/
theorem Undropped.account {journal : List Event} (h : Undropped journal) (i : Nat) :
    (Account.of i journal).dropped = false := by
  suffices kept : ∀ (events : List Event) (a : Account), (∀ e ∈ events, e.isDrop = false) → a.dropped = false →
      (events.foldl Account.note a).dropped = false from
    kept (entriesOf i journal) _ (fun e he => h e (List.mem_of_mem_filter he)) rfl
  intro events
  induction events with
  | nil => exact fun _ _ undropped => undropped
  | cons e events ih =>
    intro a none undropped
    obtain ⟨other, none⟩ := List.forall_mem_cons.mp none
    refine ih _ none ?_
    cases e with
    | submitted _ _ result => cases result <;> exact undropped
    | changed _ change =>
      cases change with
      | moved before after =>
        have different : ¬(before = .retryPending ∧ after = .failed) := by
          rintro ⟨rfl, rfl⟩
          cases other
        simp [Account.note, undropped, different]
      | retrying | failed => exact undropped
    | clock | polled | counted | slept | unknownCompletion => exact undropped

theorem Reaches.follows {rule : Ledger → Event → Prop} {l : Ledger} (h : Reaches env connection options m m')
    (follows : Follows rule l m'.session.journal) : Follows rule l m.session.journal := by
  obtain ⟨more, eq⟩ := h.noted
  rw [eq] at follows
  exact (follows_append.mp follows).1

theorem Reaches.undropped (h : Reaches env connection options m m') (undropped : Undropped m'.session.journal) :
    Undropped m.session.journal := by
  obtain ⟨more, eq⟩ := h.noted
  rw [eq] at undropped
  exact undropped.of_append

theorem Reaches.retries_le (h : Reaches env connection options m m') :
    (Ledger.of m.session.journal).retries ≤ (Ledger.of m'.session.journal).retries := by
  obtain ⟨more, eq⟩ := h.noted
  rw [eq]
  exact Ledger.retries_le_append _ _

/-- Every request that is taken is for a transfer of the call. -/
theorem Reaches.inside (h : Reaches env connection options (opening world transfers) m) :
    ∀ o ∈ (Ledger.of m.session.journal).taken, o.transfer < transfers.length := by
  induction h with
  | refl => exact List.forall_mem_nil _
  | tail reached step ih =>
    obtain same | ⟨o, inside, more⟩ := step.taken
    · rwa [same]
    · rw [more]
      exact List.forall_mem_append.mpr ⟨ih, List.forall_mem_singleton.mpr (Reaches.length reached ▸ inside)⟩

/-! ### What is waited for -/

/-- The first time at which a transfer that waits for a retry is due. -/
structure Awaited (s : Session σ) (due : Instant) : Prop where
  waits : ∃ (i : Nat) (u : Transfer), s.transfers[i]? = some u ∧ u.state = .retryPending ∧ u.retry.dueAt = some due
  first : ∀ u ∈ s.transfers, u.state = .retryPending → ∀ later, u.retry.dueAt = some later → due ≤ later

/-- In a turn that has nothing to poll for, some transfer waits for a retry. -/
theorem exists_waiting (launched : ∀ t ∈ s.transfers, t.Launched) (unfinished : s.isFinished = false)
    (grounded : ∀ t ∈ s.boarded.transfers, t.state ≠ .inFlight) :
    ∃ (i : Nat) (u : Transfer), s.boarded.transfers[i]? = some u ∧ u.state = .retryPending := by
  obtain ⟨t, ht, unfinished⟩ := List.all_eq_false.mp unfinished
  obtain ⟨i, hi⟩ := List.getElem?_of_mem ht
  obtain ⟨-, each⟩ := forEach_each (f := fun s i t => s.update i t.beginFlight) (Q := fun t u => u = t.beginFlight.1)
    (fun _ _ _ _ => ⟨_, rfl, rfl⟩) s
  obtain ⟨u, rfl, hu⟩ := each i t hi
  refine ⟨i, _, hu, ?_⟩
  obtain flying | pending | terminal := aloft_of_boarded launched _ (List.mem_of_getElem? hu)
  · exact absurd flying (grounded _ (List.mem_of_getElem? hu))
  · exact pending
  · unfold beginFlight at terminal
    split at terminal
    · cases terminal
    · exact absurd terminal unfinished

/-- If no transfer was dropped, the first time that is due is that of a transfer that waits. -/
theorem awaited (agree : ∀ (i : Nat) (u : Transfer), s.transfers[i]? = some u →
      Phase options.retryPolicy (.of i s.journal) u)
    (undropped : Undropped s.journal) (first : s.firstDue? = some due) : Awaited s due := by
  obtain ⟨⟨u, hu, own⟩, least⟩ := firstDue?_eq_some_iff.mp first
  obtain ⟨i, hi⟩ := List.getElem?_of_mem hu
  refine ⟨⟨i, u, hi, ?_, own⟩, fun v hv _ => least v hv⟩
  refine ((agree i u hi).dueAt_isSome_iff.mp (Option.isSome_of_eq_some own)).resolve_right fun dropped => ?_
  cases (undropped.account i).symm.trans dropped

theorem isRetryDue_of_le (pending : u.state = .retryPending) (own : u.retry.dueAt = some due) (come : due ≤ now) :
    u.isRetryDue now = true := by
  rw [isRetryDue, Retry.isDue, own]
  exact (Bool.and_eq_true _ _).mpr ⟨decide_eq_true pending, decide_eq_true come⟩

/-- A transfer whose wait is over is handed over, as it is, when the retries that are due are started. -/
theorem resubmits (connection : Connection) (options : SessionOptions) (hu : s.transfers[i]? = some u)
    (pending : u.state = .retryPending) (own : u.retry.dueAt = some due) (come : due ≤ (env.now s.world).1) :
    ∃ s₁, Reaches env connection options ⟨s, []⟩ ⟨s₁, []⟩ ∧
      s₁.transfers[i]? = some u ∧ Step env connection options ⟨s₁, []⟩ ⟨s₁.submit env i u, []⟩ ∧
      Reaches env connection options ⟨s₁.submit env i u, []⟩ ⟨s.withRetries env, []⟩ := by
  have isDue := isRetryDue_of_le pending own come
  have each : ∀ (s₁ : Session σ) (j : Nat) (t : Transfer), s₁.transfers[j]? = some t →
      Reaches env connection options ⟨s₁, []⟩
        ⟨if t.isRetryDue (env.now s.world).1 then s₁.submit env j t else s₁, []⟩ := by
    intro s₁ j t at_
    split
    · rename_i due
      exact Relation.ReflTransGen.single (.submit at_ (.inr ⟨_, due⟩))
    · exact Relation.ReflTransGen.refl
  have place : ∀ (s₁ : Session σ) (j : Nat) (t : Transfer), s₁.transfers[j]? = some t → ∃ u,
      (if t.isRetryDue (env.now s.world).1 then s₁.submit env j t else s₁).transfers = s₁.transfers.set j u := by
    intro s₁ j t at_
    split
    · obtain ⟨u, -, set⟩ := launched_of_submit env s₁ j t
      exact ⟨u, set⟩
    · exact ⟨t, (set_eq_self at_).symm⟩
  obtain ⟨s₁, reached, at_, onward⟩ := forEach_at
    (R := fun s s' => Reaches env connection options ⟨s, []⟩ ⟨s', []⟩) (fun _ => Relation.ReflTransGen.refl)
    (fun _ _ _ => Relation.ReflTransGen.trans) each place (s := (s.readClock env).2) hu
  rw [if_pos isDue] at onward
  exact ⟨s₁, .head (.readClock s) reached, at_, .submit at_ (.inr ⟨_, isDue⟩), onward⟩

/-- A transfer that waits for a retry holds its request, so that this is what is asked for. -/
theorem submit_asks (env : Environment σ) (sound : Sound ⟨s, []⟩) (hu : s.transfers[i]? = some u)
    (pending : u.state = .retryPending) :
    ∃ request more, (s.submit env i u).journal =
      s.journal ++ .submitted i request (env.add s.world request).1 :: more := by
  have held := (sound.coupled u (List.mem_of_getElem? hu)).request.mpr (.inr (.inr (.inr pending)))
  obtain ⟨none, -⟩ | ⟨request, _, -, -, eq⟩ | ⟨request, _, -, -, eq⟩ := submit_cases env s i u
  · rw [none] at held
    cases held
  · exact ⟨request, _, by rw [eq, asked_update_journal]⟩
  · exact ⟨request, _, by rw [eq, asked_update_journal]⟩

/-- A retry that is taken is counted; if it is refused, the transfer is dropped. -/
theorem retries_submit (reached : Reaches env connection options (opening world transfers) ⟨s, []⟩)
    (fresh : ∀ t ∈ transfers, t.Fresh) (hu : s.transfers[i]? = some u) (pending : u.state = .retryPending)
    (step : Step env connection options ⟨s, []⟩ ⟨s.submit env i u, []⟩)
    (undropped : Undropped (s.submit env i u).journal) :
    (Ledger.of (s.submit env i u).journal).retries = (Ledger.of s.journal).retries + 1 := by
  have sound := reached.sound (.opening fun t ht => (fresh t ht).idle)
  have agree := reached.agree fresh hu
  obtain ⟨due, own⟩ := agree.phase.dueAt_of_waiting pending
  have later : Reaches env connection options (opening world transfers) ⟨s.submit env i u, []⟩ := .tail reached step
  -- If it failed, it would keep the time at which it was due.
  have unfailed : ∀ e, (s.submit env i u).transfers ≠ s.transfers.set i (u.fail e).1 := by
    intro e failed
    have there : (s.submit env i u).transfers[i]? = some (u.fail e).1 := failed ▸ getElem?_set_self hu _
    obtain pending | dropped := (later.agree fresh there).phase.dueAt_isSome_iff.mp (Option.isSome_of_eq_some own)
    · cases pending
    · cases (undropped.account i).symm.trans dropped
  obtain ⟨-, eq⟩ | ⟨request, handle, -, added, eq⟩ | ⟨request, e, -, -, eq⟩ := submit_cases env s i u
  · exact absurd (congrArg Session.transfers eq) (unfailed _)
  · have tries : 1 ≤ (Ledger.of s.journal).tries i := by
      rw [Ledger.tries_eq]
      obtain ⟨taken, some⟩ := agree.phase.of_waiting pending
      exact taken ▸ some
    rw [eq, asked_update_journal, added, Ledger.of_append, List.foldl_cons, Ledger.foldl_note_changes,
      Ledger.retries_submitted, if_pos tries]
  · exact absurd (congrArg Session.transfers eq) (unfailed _)

/-- In a turn that has nothing to poll for, there is a time to wait for. -/
theorem firstDue?_of_grounded (reached : Reaches env connection options (opening world transfers) ⟨s.boarded, []⟩)
    (fresh : ∀ t ∈ transfers, t.Fresh) (launched : ∀ t ∈ s.transfers, t.Launched)
    (unfinished : s.isFinished = false) (grounded : ∀ t ∈ s.boarded.transfers, t.state ≠ .inFlight) :
    ∃ due, s.boarded.firstDue? = some due := by
  obtain ⟨i, u, hu, pending⟩ := exists_waiting launched unfinished grounded
  obtain ⟨due, own⟩ := (reached.agree fresh hu).phase.dueAt_of_waiting pending
  cases first : s.boarded.firstDue? with
  | some due => exact ⟨due, rfl⟩
  | none =>
    have none := List.filterMap_eq_nil_iff.mp (List.min?_eq_none_iff.mp first) u (List.mem_of_getElem? hu)
    cases own.symm.trans none

/-- If no transfer was dropped, a turn that has nothing to poll for sleeps until one that waits is due. -/
theorem Turn.waits (h : Turn env options s s' false)
    (reached : Reaches env connection options (opening world transfers) ⟨s, []⟩)
    (launched : ∀ t ∈ s.transfers, t.Launched) (fresh : ∀ t ∈ transfers, t.Fresh)
    (grounded : ∀ t ∈ (s.withRetries env).boarded.transfers, t.state ≠ .inFlight) (undropped : Undropped s'.journal) :
    ∃ due, Awaited (s.withRetries env).boarded due ∧ s' = (s.withRetries env).boarded.sleptUntil env due := by
  have retried : Runs env connection options ⟨s, []⟩ ⟨s.withRetries env, []⟩ := .withRetries s
  have there := reached.trans (retried.trans (.boarded _)).reaches
  have onward : Runs env connection options _ _ := h.onward launched
  cases h with
  | polled _ _ flying =>
    obtain ⟨t, ht, flying⟩ := flying
    exact absurd flying (grounded t ht)
  | waited unfinished =>
    obtain ⟨due, first⟩ := firstDue?_of_grounded there fresh (retried.launched launched) unfinished grounded
    exact ⟨due, awaited (fun i u hu => (there.agree fresh hu).phase) (onward.reaches.undropped undropped) first,
      waitForRetry_eq env first⟩

/-- If a turn sleeps until a retry is due, the clock has come to that time after it. -/
def Wakes (env : Environment σ) (options : SessionOptions) (s : Session σ) : Prop :=
  ∀ s' due, s.iterate env options = (s', false) → s' = (s.withRetries env).boarded.sleptUntil env due →
    due ≤ (env.now s'.world).1

/-- The waits of a call are as many as its retries at most, or one more when a transfer is due. -/
def Rested (env : Environment σ) (s : Session σ) : Prop :=
  sleeps s.journal ≤ (Ledger.of s.journal).retries ∨ sleeps s.journal ≤ (Ledger.of s.journal).retries + 1 ∧
    ∃ (i : Nat) (u : Transfer) (due : Instant), s.transfers[i]? = some u ∧ u.state = .retryPending ∧
      u.retry.dueAt = some due ∧ due ≤ (env.now s.world).1

/-- With the retries that are due, all waits have been followed by a retry. -/
theorem Rested.withRetries (h : Rested env s)
    (reached : Reaches env connection options (opening world transfers) ⟨s, []⟩) (fresh : ∀ t ∈ transfers, t.Fresh)
    (undropped : Undropped (s.withRetries env).journal) :
    sleeps s.journal ≤ (Ledger.of (s.withRetries env).journal).retries := by
  obtain rested | ⟨once, i, u, due, hu, pending, own, come⟩ := h
  · exact Nat.le_trans rested (Runs.withRetries s : Runs env connection options _ _).reaches.retries_le
  · obtain ⟨s₁, reached₁, hu₁, step, onward⟩ := resubmits connection options hu pending own come
    calc sleeps s.journal
      _ ≤ (Ledger.of s.journal).retries + 1 := once
      _ ≤ (Ledger.of s₁.journal).retries + 1 := Nat.succ_le_succ reached₁.retries_le
      _ = (Ledger.of (s₁.submit env i u).journal).retries :=
        (retries_submit (reached.trans reached₁) fresh hu₁ pending step (onward.undropped undropped)).symm
      _ ≤ _ := onward.retries_le

/-- If no transfer was dropped, each turn of a call is a poll or a wait, and it has rested no more than it is to. -/
theorem Head.rested (h : Head env connection options world transfers s) (fresh : ∀ t ∈ transfers, t.Fresh)
    (wakes : ∀ s, Head env connection options world transfers s → Wakes env options s)
    (undropped : Undropped s.journal) : s.iterations = polls s.journal + sleeps s.journal ∧ Rested env s := by
  induction h with
  | first =>
    have quiet : Quiet _ (Session.start env connection options world transfers) := .start world transfers
    exact ⟨by rw [quiet.iterations, quiet.polls, quiet.sleeps]; rfl, .inl (quiet.sleeps ▸ Nat.zero_le _)⟩
  | @next s s' head more ih =>
    obtain ⟨reached, launched⟩ := reaches_head head
    have retried : Reaches env connection options ⟨s, []⟩ ⟨s.withRetries env, []⟩ := (Runs.withRetries s).reaches
    have boarded : Reaches env connection options ⟨s.withRetries env, []⟩ ⟨(s.withRetries env).boarded, []⟩ :=
      (Runs.boarded _).reaches
    have onward : Reaches env connection options ⟨(s.withRetries env).boarded, []⟩ ⟨s', []⟩ :=
      ((turn more).onward launched).reaches
    have rest := Reaches.trans boarded onward
    have settled := rest.undropped undropped
    obtain ⟨counted, rested⟩ := ih (Reaches.undropped retried settled)
    have followed := rested.withRetries reached fresh settled
    have later := rest.retries_le
    obtain ⟨iterations, polled, slept⟩ := boarded_quiet env s
    rw [counted] at iterations
    cases turn more with
    | polled =>
      obtain ⟨iterations', polled', slept'⟩ :=
        polls_pollOnce env options (s.withRetries env).boarded
      refine ⟨by rw [iterations', iterations, polled', polled, slept', slept, Nat.add_right_comm], .inl ?_⟩
      rw [slept', slept]
      exact Nat.le_trans followed later
    | waited unfinished within grounded =>
      obtain ⟨due, ⟨⟨i, u, hu, pending, own⟩, -⟩, eq⟩ :=
        (turn more).waits reached launched fresh grounded undropped
      have come := wakes s head _ due more eq
      rw [eq] at later come ⊢
      unfold sleptUntil at later come ⊢
      refine ⟨?_, .inr ⟨?_, i, u, due, hu, pending, own, come⟩⟩
      · rw [polls_append, sleeps_append, polled, slept]
        exact iterations
      · rw [sleeps_append, slept]
        exact Nat.succ_le_succ (Nat.le_trans followed later)

/-- In a call of new transfers a transfer has a time for its next attempt just when it waits for one, or failed as it
    waited. As long as none failed so: a turn with nothing in flight sleeps until the first time at which a transfer that
    waits is due, and if the clock has come to that time, the next turn asks for at least one more request; and if the
    clock always has, each turn so far was a poll or a wait, with at most one wait more than retries. -/
theorem waits_end_in_retries (env : Environment σ) (connection : Connection) (options : SessionOptions) (world : σ)
    (fresh : ∀ t ∈ transfers, t.Fresh) :
    (∀ s, Head env connection options world transfers s →
      (∀ (i : Nat) (u : Transfer), s.transfers[i]? = some u →
        (u.retry.dueAt.isSome = true ↔ u.state = .retryPending ∨ (Account.of i s.journal).dropped = true) ∧
        ((Account.of i s.journal).dropped = true → u.state = .failed)) ∧
      ∀ s', s.iterate env options = (s', false) →
        (∀ u ∈ (s.withRetries env).boarded.transfers, u.state ≠ .inFlight) → Undropped s'.journal →
        ∃ due, Awaited s' due ∧ s' = (s.withRetries env).boarded.sleptUntil env due ∧
          (due ≤ (env.now s'.world).1 → ∃ more, (s'.withRetries env).journal = s'.journal ++ more ∧
            ∃ i request result, .submitted i request result ∈ more)) ∧
    ((∀ s, Head env connection options world transfers s → Wakes env options s) →
      ∀ s, Head env connection options world transfers s → Undropped s.journal →
      s.iterations = polls s.journal + sleeps s.journal ∧
        sleeps s.journal ≤ (Ledger.of s.journal).retries + 1) := by
  refine ⟨fun s head => ?_, fun wakes s head undropped => ?_⟩
  · obtain ⟨reached, launched⟩ := reaches_head head
    refine ⟨fun i u hu => ?_, fun s' more grounded undropped => ?_⟩
    · have phase := (reached.agree fresh hu).phase
      exact ⟨phase.dueAt_isSome_iff, phase.failed_of_dropped⟩
    · obtain ⟨due, ⟨⟨i, u, hu, pending, own⟩, first⟩, rfl⟩ :=
        (turn more).waits reached launched fresh grounded undropped
      refine ⟨due, ⟨⟨i, u, hu, pending, own⟩, first⟩, rfl, fun come => ?_⟩
      have waiting : ((s.withRetries env).boarded.sleptUntil env due).transfers[i]? = some u := hu
      obtain ⟨here, -⟩ := reaches_head (head.next more)
      obtain ⟨s₁, before, hu₁, -, after⟩ := resubmits connection options waiting pending own come
      obtain ⟨request, changes, asked⟩ :=
        submit_asks env ((here.trans before).sound (.opening fun t ht => (fresh t ht).idle)) hu₁ pending
      obtain ⟨earlier, eq⟩ := before.noted
      obtain ⟨later, eq'⟩ := after.noted
      dsimp only at eq eq'
      refine ⟨earlier ++ (.submitted i request (env.add s₁.world request).1 :: changes) ++ later, ?_, i, request,
        (env.add s₁.world request).1, ?_⟩
      · rw [eq', asked, eq]
        simp only [List.append_assoc]
      · exact List.mem_append_left _ (List.mem_append_right _ List.mem_cons_self)
  · obtain ⟨counted, rested | ⟨once, -⟩⟩ := head.rested fresh wakes undropped
    · exact ⟨counted, Nat.le_succ_of_le rested⟩
    · exact ⟨counted, once⟩

/-! ### A retry that is refused -/

/-- The session after some turns, none of them the last. -/
def headAfter? (env : Environment σ) (options : SessionOptions) : (turns : Nat) → Session σ → Option (Session σ)
  | 0, s => some s
  | turns + 1, s =>
    match s.iterate env options with
    | (_, true) => none
    | (s, false) => headAfter? env options turns s

theorem head_of_headAfter {turns : Nat} (h : headAfter? env options turns s = some s')
    (head : Head env connection options world transfers s) : Head env connection options world transfers s' := by
  induction turns generalizing s with
  | zero =>
    cases h
    exact head
  | succ turns ih =>
    rw [headAfter?] at h
    split at h
    · cases h
    · rename_i next more
      exact ih h (head.next more)

/-- A world that is busy twice for the array `a` and has a seven for it then, and that is busy for `b` and refuses its
    retry. -/
def refusing : Scripted :=
  ⟨⟨[(3, .invalidRequest "no")], [], 0, 0, false, false, false⟩,
    [("a", [.reply (.ok ⟨503, []⟩), .reply (.ok ⟨503, []⟩), .reply (.ok ⟨200, [7]⟩)]),
      ("b", [.reply (.ok ⟨503, []⟩)])], [], 0, 0, 0, 0, []⟩

/-- Its results for `a`. -/
def refusingResults (j : Nat) : Except TransportError Response := .ok (if j ≤ 2 then ⟨503, []⟩ else ⟨200, [7]⟩)

/-- Two retries, the first after a fifth of a second, and no more than forty polls. -/
def fortyPolls : SessionOptions :=
  ⟨100000000, ⟨2, 200000000, Duration.second, 30 * Duration.second⟩, true, some 40⟩

theorem fresh_byteRead (id : String) : (byteRead id).Fresh := ⟨rfl, rfl, rfl, rfl, rfl⟩

theorem wakes_scripted (s : Session Scripted) : Wakes Scripted.environment options s := by
  rintro _ due - rfl
  exact Nat.sub_le_iff_le_add'.mp (Nat.le_refl _)

/-- Alone, the read of `a` is waited for after its first answer, and handed over again when the wait is over. -/
theorem waits_end_in_retries_busyTwice : ∃ s s',
    Head Scripted.environment plainStore fortyPolls refusing [byteRead "a"] s ∧
      s.iterate Scripted.environment fortyPolls = (s', false) ∧
      (∃ due, Awaited s' due ∧ (due ≤ s'.world.time →
        ∃ more, (s'.withRetries Scripted.environment).journal = s'.journal ++ more ∧
          ∃ i request result, .submitted i request result ∈ more)) ∧
      s'.iterations = polls s'.journal + sleeps s'.journal ∧
      sleeps s'.journal ≤ (Ledger.of s'.journal).retries + 1 ∧ sleeps s'.journal = 1 := by
  have run : (headAfter? Scripted.environment fortyPolls 1
      (start Scripted.environment plainStore fortyPolls refusing [byteRead "a"])).map (fun s =>
        decide ((s.iterate Scripted.environment fortyPolls).2 = false ∧
          (∀ u ∈ (s.withRetries Scripted.environment).boarded.transfers, u.state ≠ .inFlight) ∧
          Undropped (s.iterate Scripted.environment fortyPolls).1.journal ∧
          sleeps (s.iterate Scripted.environment fortyPolls).1.journal = 1)) = some true := by decide +kernel
  obtain ⟨s, after, checked⟩ := Option.map_eq_some_iff.mp run
  obtain ⟨more, grounded, undropped, once⟩ := of_decide_eq_true checked
  have head := head_of_headAfter after .first
  have turned : s.iterate Scripted.environment fortyPolls = ((s.iterate Scripted.environment fortyPolls).1, false) :=
    Prod.ext rfl more
  obtain ⟨within, counted⟩ := waits_end_in_retries Scripted.environment plainStore fortyPolls refusing
    (List.forall_mem_singleton.mpr (fresh_byteRead "a"))
  obtain ⟨due, awaited, -, asked⟩ := (within s head).2 _ turned grounded undropped
  obtain ⟨iterations, few⟩ := counted (fun s _ => wakes_scripted s) _ (head.next turned) undropped
  exact ⟨s, _, head, turned, ⟨due, awaited, asked⟩, iterations, few, once⟩

/-- The refused retry of `b` leaves the time at which it was due to a transfer that has failed, and the loop waits for it
    over and over, without time passing, until its polls are used up: the read of `a` is given up as it waits for its
    second retry, with which it would succeed. -/
theorem refused_retry_is_awaited :
    (∃ s, Head Scripted.environment plainStore fortyPolls refusing [byteRead "a", byteRead "b"] s ∧
      ∃ u, s.transfers[1]? = some u ∧ u.state = .failed ∧ u.retry.dueAt.isSome = true) ∧
    ∃ s, execute Scripted.environment plainStore fortyPolls 41 refusing [byteRead "a", byteRead "b"] = some s ∧
      polls s.journal = 2 ∧ sleeps s.journal = 38 ∧ (Ledger.of s.journal).retries = 1 ∧
      (∃ u, s.transfers[0]? = some u ∧ u.error = some (.incomplete 40)) ∧
      ((byteRead "a").fates plainStore fortyPolls refusingResults 2).state = .retryPending ∧
      ((byteRead "a").fates plainStore fortyPolls refusingResults 3).state = .succeeded := by
  constructor
  · have run : (headAfter? Scripted.environment fortyPolls 3
        (start Scripted.environment plainStore fortyPolls refusing [byteRead "a", byteRead "b"])).map (fun s =>
          s.transfers.map fun u => (u.state, u.retry.dueAt.isSome)) =
            some [(.retryPending, true), (.failed, true)] := by decide +kernel
    obtain ⟨s, after, states⟩ := Option.map_eq_some_iff.mp run
    have there := congrArg (·[1]?) states
    obtain ⟨u, hu, own⟩ := Option.map_eq_some_iff.mp ((List.getElem?_map ..).symm.trans there)
    exact ⟨s, head_of_headAfter after .first, u, hu, (Prod.mk.inj own).1, (Prod.mk.inj own).2⟩
  · have run : (execute Scripted.environment plainStore fortyPolls 41 refusing [byteRead "a", byteRead "b"]).map
        (fun s => (polls s.journal, sleeps s.journal, (Ledger.of s.journal).retries, s.transfers.map givenUpAfter?)) =
          some (2, 38, 1, [some 40, none]) := by decide +kernel
    obtain ⟨s, done, counts⟩ := Option.map_eq_some_iff.mp run
    simp only [Prod.mk.injEq] at counts
    obtain ⟨polled, slept, retried, given⟩ := counts
    refine ⟨s, done, polled, slept, retried, ?_, by decide +kernel, by decide +kernel⟩
    have there := congrArg (·[0]?) given
    obtain ⟨u, hu, own⟩ := Option.map_eq_some_iff.mp ((List.getElem?_map ..).symm.trans there)
    exact ⟨u, hu, error_of_givenUpAfter own⟩

end Session

end ArrayTransfer
