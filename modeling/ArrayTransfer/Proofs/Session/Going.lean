import ArrayTransfer.Proofs.Session.Account
import ArrayTransfer.Proofs.Session.Buffers
import ArrayTransfer.Proofs.Transfer.Backoff

/-! Calls in which the program goes on. It stops over elements that cannot be measured, over waits that add up to no
    duration and over a retry that would be due at no moment, and over nothing else: if the elements of each transfer can
    be measured, the policy leaves room for one wait more and the clock is not too close to its end, it stops in no turn
    (`goes_on`). -/

namespace ArrayTransfer

namespace Transfer
variable {t u : Transfer} {policy : RetryPolicy}

theorem hasStopped_eq_false_iff : t.hasStopped = false ↔ (∀ e, t.error = some e → e.stops = false) ∧
    t.retry.isOverlong = false ∧ ∀ due, t.retry.dueAt = some due → due < Instant.limit := by
  unfold hasStopped Retry.isBeyondTime
  rw [Bool.or_eq_false_iff, Bool.or_eq_false_iff]
  refine and_congr ?_ (and_congr_right' ?_)
  · cases t.error <;> simp
  · cases t.retry.dueAt <;> simp

/-- The program has not stopped over the transfer, and will not over its elements or over one wait more. -/
structure Steady (policy : RetryPolicy) (t : Transfer) : Prop where
  measurable : t.Measurable
  going : t.hasStopped = false
  brief : t.retry.totalBackoff + policy.maxBackoff < Duration.limit

theorem Fresh.steady (h : t.Fresh) (measurable : t.Measurable) (brief : policy.maxBackoff < Duration.limit) :
    t.Steady policy where
  measurable := measurable
  going := by
    unfold hasStopped
    rw [h.error, h.retry]
    rfl
  brief := by
    rw [h.retry]
    exact (Nat.zero_add policy.maxBackoff).symm ▸ brief

theorem Measurable.of_task (h : t.Measurable) (task : t.SameTask u) : u.Measurable where
  counted := by
    rw [task.array, task.fileSpace]
    exact h.counted
  apart := by
    rw [task.direction, task.callerType, task.array]
    exact h.apart

/-- A transfer that fails goes on if its error is an answer. -/
theorem going_fail (going : t.hasStopped = false) {e : TransferError} (answered : e.stops = false) :
    (t.fail e).1.hasStopped = false := by
  refine hasStopped_eq_false_iff.mpr ⟨fun e' eq => ?_, (hasStopped_eq_false_iff.mp going).2⟩
  obtain rfl : e = e' := Option.some.inj eq
  exact answered

end Transfer

/-- The policy leaves room for one wait more: as long as it allows, and once more the longest, is a duration. -/
def RetryPolicy.Roomy (policy : RetryPolicy) : Prop := policy.window + policy.maxBackoff < Duration.limit

instance (policy : RetryPolicy) : Decidable policy.Roomy := inferInstanceAs (Decidable (_ < _))

/-- Whether the longest wait leads from a reading of the clock to a moment. -/
def Event.isInTime (policy : RetryPolicy) : Event → Bool
  | clock now => now + policy.maxBackoff < Instant.limit
  | _ => true

namespace Session
open Transfer

variable {σ : Type} {env : Environment σ} {connection : Connection} {options : SessionOptions} {world : σ}
  {transfers : List Transfer} {s : Session σ} {m m' : Moment σ} {i : Nat} {t u : Transfer} {entries : List Event}
  {Ready : Transfer → Prop}

/-- The clock is nowhere too close to its end for the longest wait. -/
def InTime (policy : RetryPolicy) (journal : List Event) : Prop := ∀ e ∈ journal, e.isInTime policy = true

instance (policy : RetryPolicy) (journal : List Event) : Decidable (InTime policy journal) :=
  inferInstanceAs (Decidable (∀ e ∈ journal, e.isInTime policy = true))

theorem Act.going (act : Act connection options Ready m i t u entries) (steady : t.Steady options.retryPolicy)
    (roomy : options.retryPolicy.Roomy) (inTime : InTime options.retryPolicy entries) :
    u.hasStopped = false ∧ u.retry.totalBackoff + options.retryPolicy.maxBackoff < Duration.limit := by
  obtain ⟨measurable, going, brief⟩ := steady
  obtain ⟨answered, counted, moment⟩ := hasStopped_eq_false_iff.mp going
  cases act with
  | kept => exact ⟨going, brief⟩
  | configured new ok =>
    obtain ⟨_, _, _, -, ⟨-, rfl⟩ | ⟨-, rfl⟩⟩ := configure_cases ok <;> exact ⟨going, brief⟩
  | refused new error => exact ⟨going_fail going ((raises_configure _ _ t _ error).stops_eq measurable), brief⟩
  | submitted => exact ⟨hasStopped_eq_false_iff.mpr ⟨answered, counted, fun _ => nofun⟩, brief⟩
  | rejected | unasked | abandoned => exact ⟨going_fail going rfl, brief⟩
  | began => exact ⟨going, brief⟩
  | @completed c rest now waiting held =>
    have longest := options.retryPolicy.backoff_le t.retry.attempts
    obtain ⟨buffer, -, eq⟩ | ⟨e, retry, -, scheduled, eq⟩ | ⟨e, retry, failed, scheduled, eq⟩ :=
      t.complete_cases options.retryPolicy now c.result <;> rw [eq]
    · exact ⟨going, brief⟩
    · obtain ⟨-, -, allowed, done⟩ | ⟨_, done, -⟩ := t.retry.schedule_cases options.retryPolicy e now
      · cases done.symm.trans scheduled
        have early : now + options.retryPolicy.backoff t.retry.attempts < Instant.limit :=
          Nat.lt_of_le_of_lt (Nat.add_le_add_left longest now) (of_decide_eq_true (inTime _ List.mem_cons_self))
        refine ⟨hasStopped_eq_false_iff.mpr ⟨answered, counted, ?_⟩, ?_⟩
        · rintro _ ⟨⟩
          exact early
        · exact Nat.lt_of_le_of_lt (Nat.add_le_add_right allowed _) roomy
      · cases done.symm.trans scheduled
    · obtain ⟨-, -, -, done⟩ | ⟨overlong, done, same⟩ := t.retry.schedule_cases options.retryPolicy e now
      · cases done.symm.trans scheduled
      · cases done.symm.trans scheduled
        have waits : t.retry.totalBackoff + options.retryPolicy.backoff t.retry.attempts < Duration.limit :=
          Nat.lt_of_le_of_lt (Nat.add_le_add_left longest _) brief
        obtain rfl := same.resolve_right (Nat.not_le.mpr waits)
        refine ⟨going_fail ?_ ((raises_outcome t _ e failed).stops_eq measurable), brief⟩
        exact hasStopped_eq_false_iff.mpr ⟨answered, counted, moment⟩

theorem Step.steady (step : Step env connection options m m') (roomy : options.retryPolicy.Roomy)
    (inTime : InTime options.retryPolicy m'.session.journal)
    (steady : ∀ t ∈ m.session.transfers, t.Steady options.retryPolicy) :
    ∀ u ∈ m'.session.transfers, u.Steady options.retryPolicy := by
  intro u hu
  obtain ⟨i, here⟩ := List.mem_iff_getElem?.mp hu
  obtain ⟨t, _, ht, deed⟩ := step.deed_back here
  obtain ⟨v, entries, act, hv, own⟩ := step.act i t ht
  cases here.symm.trans hv
  have before := steady t (List.mem_of_getElem? ht)
  have inTime : InTime options.retryPolicy entries := fun e noted =>
    inTime e (List.mem_of_mem_filter (own ▸ List.mem_append_right _ noted : e ∈ entriesOf i m'.session.journal))
  obtain ⟨going, brief⟩ := act.going before roomy inTime
  exact ⟨before.measurable.of_task deed.buffer.1, going, brief⟩

theorem InTime.of_reaches (h : Reaches env connection options m m') {policy : RetryPolicy}
    (inTime : InTime policy m'.session.journal) : InTime policy m.session.journal := by
  obtain ⟨more, eq⟩ := h.noted
  exact fun e noted => inTime e (eq ▸ List.mem_append_left _ noted)

/-- A call that ends in time was in time in each of its turns. -/
theorem InTime.of_turn {policy : RetryPolicy} {fuel : Nat} {s' : Session σ} (inTime : InTime policy s'.journal)
    (head : Head env connection options world transfers s)
    (done : execute env connection options fuel world transfers = some s') :
    InTime policy (s.iterate env options).1.journal := .of_reaches (reaches_of_turn head done) inTime

theorem Reaches.task (h : Reaches env connection options m m') (here : m.session.transfers[i]? = some t) :
    ∃ u, m'.session.transfers[i]? = some u ∧ t.SameTask u := by
  induction h with
  | refl => exact ⟨t, here, .refl t⟩
  | tail _ step ih =>
    obtain ⟨u, hu, task⟩ := ih
    obtain ⟨v, _, deed, hv, -⟩ := step.deed hu
    exact ⟨v, hv, task.trans deed.buffer.1⟩

theorem Reaches.steady (h : Reaches env connection options m m')
    (steady : ∀ t ∈ m.session.transfers, t.Steady options.retryPolicy) (roomy : options.retryPolicy.Roomy)
    (inTime : InTime options.retryPolicy m'.session.journal) :
    ∀ u ∈ m'.session.transfers, u.Steady options.retryPolicy := by
  induction h with
  | refl => exact steady
  | tail _ step ih => exact step.steady roomy inTime (ih (.of_reaches (.single step) inTime))

/-- The program goes on in a turn of a call, if it can measure the elements of each transfer, the policy leaves room for
    one wait more, and it is in time. -/
theorem goes_on (steady : ∀ t ∈ transfers, t.Steady options.retryPolicy) (roomy : options.retryPolicy.Roomy)
    (head : Head env connection options world transfers s)
    (inTime : InTime options.retryPolicy (s.iterate env options).1.journal) :
    (s.iterate env options).1.hasStopped = false := by
  obtain ⟨run, launched⟩ := runs_head head
  have reached := (run.trans (.iterate launched)).reaches
  exact List.any_eq_false.mpr fun u hu => ne_true_of_eq_false (reached.steady steady roomy inTime u hu).going

end Session

end ArrayTransfer
