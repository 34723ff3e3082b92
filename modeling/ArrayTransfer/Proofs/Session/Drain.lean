import ArrayTransfer.Proofs.Session.Busy
import ArrayTransfer.Proofs.Session.Going
import Mathlib.Algebra.BigOperators.Group.Finset.Piecewise
import Mathlib.Algebra.Order.BigOperators.Group.Finset

/-! Calls end. With a limit of polls any call does, within it. Without one it does if the multiplexer takes every request
    and leaves none unreported, and the clock goes on: the turns are counted by the requests that are taken, of which
    each transfer has no more than the policy allows. -/

namespace ArrayTransfer

/-! ### Counting the requests that were taken -/

namespace Ledger

/-- The requests that were taken for the first transfers are those of each of them. -/
theorem countP_eq_sum {taken : List Taken} {n : Nat} (inside : ∀ o ∈ taken, o.transfer < n) (p : Taken → Bool) :
    taken.countP p = ∑ i ∈ Finset.range n, taken.countP fun o => decide (o.transfer = i) && p o := by
  induction taken with
  | nil => simp
  | cons o taken ih =>
    obtain ⟨here, inside⟩ := List.forall_mem_cons.mp inside
    simp only [List.countP_cons, Finset.sum_add_distrib, ← ih inside]
    congr 1
    have own : ∀ i, (if (decide (o.transfer = i) && p o) = true then 1 else 0) =
        if o.transfer = i then (if p o = true then 1 else 0) else 0 := by
      intro i
      by_cases same : o.transfer = i <;> simp [same]
    simp only [own, Finset.sum_ite_eq, Finset.mem_range, here, if_true]

/-- All requests for a transfer but the first are retries. -/
theorem retries_of_tries (journal : List Event) (i : Nat) :
    ((of journal).taken.countP fun o => decide (o.transfer = i) && decide (2 ≤ o.attempt)) =
      (of journal).tries i - 1 := by
  suffices kept : ∀ l : Ledger,
      (l.taken.countP fun o => decide (o.transfer = i) && decide (2 ≤ o.attempt)) = l.tries i - 1 →
      ((journal.foldl note l).taken.countP fun o => decide (o.transfer = i) && decide (2 ≤ o.attempt)) =
        (journal.foldl note l).tries i - 1 from kept _ rfl
  induction journal with
  | nil => exact fun _ h => h
  | cons e journal ih =>
    intro l h
    refine ih (l.note e) ?_
    cases e with
    | submitted j request result =>
      cases result with
      | ok handle =>
        rw [tries_submitted]
        simp only [note, List.countP_append, List.countP_singleton, h]
        by_cases own : j = i
        · subst own
          simp only [decide_true, Bool.true_and, decide_eq_true_eq, if_true]
          split <;> omega
        · simp [own]
      | error => exact h
    | changed | polled | counted | clock | slept | unknownCompletion => exact h

end Ledger

namespace Session
open Transfer

variable {σ : Type} {env : Environment σ} {connection : Connection} {options : SessionOptions} {world : σ}
  {transfers : List Transfer} {s s' : Session σ} {m m' : Moment σ} {i : Nat} {t u : Transfer} {fuel : Nat}

/-- No transfer is tried more often than its attempts can be counted. -/
def Counted (policy : RetryPolicy) (l : Ledger) : Prop :=
  policy.maxRetries.toNat + 1 < UInt32.size ∨ ∀ i, l.tries i < UInt32.size

/-- A transfer of the call is tried once and as often as it may be again, and once less if it waits for a retry. -/
theorem tries_le (reached : Reaches env connection options (opening world transfers) m)
    (fresh : ∀ t ∈ transfers, t.Fresh) (counted : Counted options.retryPolicy (.of m.session.journal))
    (hu : m.session.transfers[i]? = some u) :
    (Ledger.of m.session.journal).tries i ≤ options.retryPolicy.maxRetries.toNat + 1 ∧
      (u.state = .retryPending → 0 < (Ledger.of m.session.journal).tries i ∧
        (Ledger.of m.session.journal).tries i ≤ options.retryPolicy.maxRetries.toNat) := by
  obtain ⟨t, ht, here⟩ := reached.origin hu
  have room := counted.imp_right fun few => Ledger.tries_eq i m.session.journal ▸ few i
  obtain ⟨v, hv, agree, numbered⟩ := reached.numbered (fun t ht => (fresh t ht).idle) here (fresh t ht) room
  cases hu.symm.trans hv
  rw [Ledger.tries_eq]
  refine ⟨Nat.le_trans agree.phase.taken_le (Nat.succ_le_succ numbered.budget), fun pending => ?_⟩
  obtain ⟨taken, some⟩ := agree.phase.of_waiting pending
  rw [taken]
  exact ⟨some, numbered.budget⟩

theorem tries_le_of_lt (reached : Reaches env connection options (opening world transfers) m)
    (fresh : ∀ t ∈ transfers, t.Fresh) (counted : Counted options.retryPolicy (.of m.session.journal))
    (h : i < transfers.length) :
    (Ledger.of m.session.journal).tries i ≤ options.retryPolicy.maxRetries.toNat + 1 :=
  (tries_le reached fresh counted (List.getElem?_eq_getElem (reached.length.symm ▸ h))).1

section counts
variable (reached : Reaches env connection options (opening world transfers) m) (fresh : ∀ t ∈ transfers, t.Fresh)
  (counted : Counted options.retryPolicy (.of m.session.journal))
include reached

/-- The requests that were taken are those for each transfer of the call. -/
theorem taken_eq_sum : (Ledger.of m.session.journal).taken.length =
    ∑ i ∈ Finset.range transfers.length, (Ledger.of m.session.journal).tries i := by
  calc (Ledger.of m.session.journal).taken.length
    _ = (Ledger.of m.session.journal).taken.countP fun _ => true := (congrFun List.countP_true _).symm
    _ = ∑ i ∈ Finset.range transfers.length, (Ledger.of m.session.journal).tries i := by
      rw [Ledger.countP_eq_sum reached.inside]
      simp only [Bool.and_true]
      rfl

theorem retries_eq_sum : (Ledger.of m.session.journal).retries =
    ∑ i ∈ Finset.range transfers.length, ((Ledger.of m.session.journal).tries i - 1) := by
  unfold Ledger.retries
  rw [Ledger.countP_eq_sum reached.inside]
  exact Finset.sum_congr rfl fun i _ => Ledger.retries_of_tries m.session.journal i

include fresh counted

theorem taken_le : (Ledger.of m.session.journal).taken.length ≤
    transfers.length * (options.retryPolicy.maxRetries.toNat + 1) := by
  rw [taken_eq_sum reached]
  simpa using Finset.sum_le_card_nsmul (Finset.range transfers.length) _ _ fun i hi =>
    tries_le_of_lt reached fresh counted (Finset.mem_range.mp hi)

theorem retries_le : (Ledger.of m.session.journal).retries ≤
    transfers.length * options.retryPolicy.maxRetries.toNat := by
  rw [retries_eq_sum reached]
  simpa using Finset.sum_le_card_nsmul (Finset.range transfers.length) _ _ fun i hi =>
    Nat.sub_le_of_le_add (tries_le_of_lt reached fresh counted (Finset.mem_range.mp hi))

/-- While a transfer waits for a retry, there is a retry left. -/
theorem retries_lt (hu : m.session.transfers[i]? = some u) (pending : u.state = .retryPending) :
    (Ledger.of m.session.journal).retries < transfers.length * options.retryPolicy.maxRetries.toNat := by
  rw [retries_eq_sum reached]
  obtain ⟨tried, left⟩ := (tries_le reached fresh counted hu).2 pending
  have inside : i ∈ Finset.range transfers.length :=
    Finset.mem_range.mpr (reached.length ▸ (List.getElem?_eq_some_iff.mp hu).1)
  calc ∑ i ∈ Finset.range transfers.length, ((Ledger.of m.session.journal).tries i - 1)
    _ < ∑ _i ∈ Finset.range transfers.length, options.retryPolicy.maxRetries.toNat := by
      refine Finset.sum_lt_sum (fun j hj => Nat.sub_le_of_le_add ?_) ⟨i, inside, by omega⟩
      exact tries_le_of_lt reached fresh counted (Finset.mem_range.mp hj)
    _ = transfers.length * options.retryPolicy.maxRetries.toNat := by simp

end counts

/-- At the head of each turn of a tended call, no more was polled than there are requests, and no more was waited for
    than there are retries. -/
theorem Head.bounded (head : Head env connection options world transfers s) (fresh : ∀ t ∈ transfers, t.Fresh)
    (unlimited : options.maxPolls = none)
    (wakes : ∀ s, Head env connection options world transfers s → Wakes env options s)
    (accepts : Follows Accepts (.of []) s.journal) (reports : Follows Reports (.of []) s.journal)
    (counted : Counted options.retryPolicy (.of s.journal)) :
    polls s.journal ≤ transfers.length * (options.retryPolicy.maxRetries.toNat + 1) ∧
      s.iterations ≤ transfers.length * (2 * options.retryPolicy.maxRetries.toNat + 1) := by
  obtain ⟨reached, -⟩ := reaches_head head
  have tended := reached.tended fresh unlimited accepts reports
  have polled : polls s.journal ≤ transfers.length * (options.retryPolicy.maxRetries.toNat + 1) :=
    Nat.le_trans (Nat.le_of_add_right_le tended.polled) (taken_le reached fresh counted)
  obtain ⟨iterations, rested⟩ := head.rested fresh wakes tended.undropped
  have slept : sleeps s.journal ≤ transfers.length * options.retryPolicy.maxRetries.toNat := by
    obtain rested | ⟨once, i, u, -, hu, pending, -⟩ := rested
    · exact Nat.le_trans rested (retries_le reached fresh counted)
    · exact Nat.le_trans once (retries_lt reached fresh counted hu pending)
  refine ⟨polled, ?_⟩
  calc s.iterations
    _ = polls s.journal + sleeps s.journal := iterations
    _ ≤ transfers.length * (options.retryPolicy.maxRetries.toNat + 1) +
        transfers.length * options.retryPolicy.maxRetries.toNat := Nat.add_le_add polled slept
    _ = transfers.length * (2 * options.retryPolicy.maxRetries.toNat + 1) := by
      rw [← Nat.mul_add]
      congr 1
      omega

/-- The last turn of a call polls no more, and is not counted. -/
theorem Turn.last_counts (h : Turn env options s s' true) :
    s'.iterations = s.iterations ∧ polls s'.journal = polls s.journal := by
  have retried := Quiet.withRetries env s
  cases h with
  | finished => exact ⟨retried.iterations, retried.polls⟩
  | exhausted =>
    have done := retried.trans (.failUnfinished _)
    exact ⟨done.iterations, done.polls⟩

/-- The transfers of a call are those that it was given, each in its place and final. -/
structure Ended (transfers : List Transfer) (s : Session σ) : Prop where
  length : s.transfers.length = transfers.length
  each : ∀ (i : Nat) (t : Transfer), transfers[i]? = some t →
    ∃ u, s.transfers[i]? = some u ∧ t.SameTask u ∧ u.state.isTerminal = true

theorem ended_of_execute (done : execute env connection options fuel world transfers = some s) : Ended transfers s where
  length := (reaches_execute done).length
  each i t ht := by
    obtain ⟨u, hu, task⟩ := (reaches_execute done).task ht
    exact ⟨u, hu, task, isTerminal_of_execute done u (List.mem_of_getElem? hu)⟩

/-- The program goes on in each turn of a call: the elements of the transfers can be measured, the waits that the policy
    allows and one more are a duration, and the clock is not too close to its end. -/
structure Going (env : Environment σ) (connection : Connection) (options : SessionOptions) (world : σ)
    (transfers : List Transfer) : Prop where
  steady : ∀ t ∈ transfers, t.Steady options.retryPolicy
  roomy : options.retryPolicy.Roomy
  inTime : ∀ s, Head env connection options world transfers s →
    InTime options.retryPolicy (s.iterate env options).1.journal

theorem Going.goes_on (going : Going env connection options world transfers)
    (head : Head env connection options world transfers s) : (s.iterate env options).1.hasStopped = false :=
  Session.goes_on going.steady going.roomy head (going.inTime s head)

/-- A world that is busy twice for the array `a` and has a seven for it then, and for `b` at once, and that reports one
    request at a time. -/
def slowly : Scripted :=
  ⟨⟨[], [], 0, 1, false, false, false⟩,
    [("a", [.reply (.ok ⟨503, []⟩), .reply (.ok ⟨503, []⟩), .reply (.ok ⟨200, [7]⟩)]),
      ("b", [.reply (.ok ⟨200, [7]⟩)])], [], 0, 0, 0, 0, []⟩

/-- Two retries, and any number of polls. -/
def anyPolls : SessionOptions := { fortyPolls with maxPolls := none }

theorem steady_byteRead (id : String) : (byteRead id).Steady fortyPolls.retryPolicy :=
  (fresh_byteRead id).steady ⟨show 1 < UInt64.size by decide, nofun⟩ (by decide)

theorem fresh_two : ∀ t ∈ [byteRead "a", byteRead "b"], t.Fresh :=
  List.forall_mem_cons.mpr ⟨fresh_byteRead "a", List.forall_mem_singleton.mpr (fresh_byteRead "b")⟩

theorem steady_two : ∀ t ∈ [byteRead "a", byteRead "b"], t.Steady fortyPolls.retryPolicy :=
  List.forall_mem_cons.mpr ⟨steady_byteRead "a", List.forall_mem_singleton.mpr (steady_byteRead "b")⟩

/-- Retries that would be due when no clock goes any more, and five polls. -/
def retryTooLate : SessionOptions := ⟨100000000, ⟨3, Instant.limit, Instant.limit, Duration.limit - 1⟩, true, some 5⟩

end Session

end ArrayTransfer
