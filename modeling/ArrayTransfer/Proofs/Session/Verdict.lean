import ArrayTransfer.Proofs.Session.Buffers
import ArrayTransfer.Proofs.Session.Drain

/-! How a call is judged. It is over when every transfer is final, and a transfer holds an error exactly if it failed, so
    that the verdict is read off the transfers. The attempts that it sums up are the requests that were taken: each
    transfer counts its own (`Posting.attempts`), and every request is for a transfer of the call. -/

namespace ArrayTransfer

/-- A posting counts the requests that were taken, as far as a word goes. -/
theorem Posting.attempts {policy : RetryPolicy} {a a' : Account} {t u : Transfer} (h : Posting policy a t a' u)
    (counted : t.retry.attempts = .ofNat a.taken.length) : u.retry.attempts = .ofNat a'.taken.length := by
  cases h with
  | kept => exact counted
  | configured _ _ same => rw [same, counted]
  | submitted ready handle =>
    show t.retry.attempts + 1 = _
    rw [counted, List.length_append, UInt32.ofNat_add]
    rfl
  | began => exact counted
  | retried _ _ _ _ _ next => rw [next, counted]
  | finished _ _ _ _ same => rw [same, counted]

namespace Session
open Transfer

variable {σ : Type} {env : Environment σ} {connection : Connection} {options : SessionOptions} {world : σ}
  {transfers : List Transfer} {s : Session σ} {m m' : Moment σ} {i : Nat} {t u : Transfer}

/-! ### Attempts -/

/-- The attempts of a new transfer are the requests that were taken for it. -/
theorem Reaches.attempts (h : Reaches env connection options (opening world transfers) m)
    (fresh : ∀ t ∈ transfers, t.Fresh) (hu : m.session.transfers[i]? = some u) :
    u.retry.attempts = .ofNat ((Ledger.of m.session.journal).tries i) := by
  rw [Ledger.tries_eq]
  induction h generalizing u with
  | refl =>
    rw [(fresh u (List.mem_of_getElem? hu)).retry]
    rfl
  | tail reached step ih =>
    obtain ⟨t, -, ht, -⟩ := step.deed_back hu
    obtain ⟨v, hv, posting⟩ := step.posting (Reaches.sound reached (sound_of_fresh fresh)) ht
    cases hu.symm.trans hv
    exact posting.attempts (ih ht)

/-- The attempts of transfers, added up in their order. -/
theorem foldl_attempts {ts : List Transfer} {tries : Nat → Nat}
    (each : ∀ (i : Nat) (t : Transfer), ts[i]? = some t → t.retry.attempts.toNat = tries i) :
    ts.foldl (fun sum t => sum + t.retry.attempts.toNat) 0 = ∑ i ∈ Finset.range ts.length, tries i := by
  induction ts using List.reverseRecOn with
  | nil => rfl
  | append_singleton ts t ih =>
    have before := ih fun i u hu => each i u (List.getElem?_append_left (List.getElem?_eq_some_iff.mp hu).1 ▸ hu)
    have last := each ts.length t List.getElem?_concat_length
    rw [List.foldl_append, before, List.length_append, List.length_singleton, Finset.sum_range_succ, ← last]
    rfl

/-- The attempts that a call of new transfers counts, each in 32 bits. -/
theorem Reaches.attempts_eq (h : Reaches env connection options (opening world transfers) m)
    (fresh : ∀ t ∈ transfers, t.Fresh) : m.session.attempts =
      ∑ i ∈ Finset.range transfers.length, (Ledger.of m.session.journal).tries i % UInt32.size := by
  rw [← show m.session.transfers.length = transfers.length from Reaches.length h]
  refine foldl_attempts fun i u hu => ?_
  rw [h.attempts fresh hu]
  rfl

/-- As long as no transfer is tried more often than can be counted, they are all requests that were taken. -/
theorem Reaches.attempts_eq_taken (h : Reaches env connection options (opening world transfers) m)
    (fresh : ∀ t ∈ transfers, t.Fresh) (counted : Counted options.retryPolicy (.of m.session.journal)) :
    m.session.attempts = (Ledger.of m.session.journal).taken.length := by
  calc m.session.attempts
    _ = ∑ i ∈ Finset.range transfers.length, (Ledger.of m.session.journal).tries i % UInt32.size :=
      h.attempts_eq fresh
    _ = ∑ i ∈ Finset.range transfers.length, (Ledger.of m.session.journal).tries i := by
      refine Finset.sum_congr rfl fun i hi => Nat.mod_eq_of_lt ?_
      obtain room | few := counted
      · have few := tries_le_of_lt h fresh (.inl room) (Finset.mem_range.mp hi)
        exact Nat.lt_of_le_of_lt few room
      · exact few i
    _ = (Ledger.of m.session.journal).taken.length := (taken_eq_sum h).symm

/-! ### Verdicts -/

/-- The verdict is good if no transfer has failed, and is otherwise about the first that has. -/
theorem verdict_cases (s : Session σ) :
    (∀ u ∈ s.transfers, u.state ≠ .failed) ∧ s.verdict = .ok ⟨s.transfers.length, s.attempts, s.iterations⟩ ∨
    ∃ (i : Nat) (u : Transfer), s.transfers[i]? = some u ∧ u.state = .failed ∧
      (∀ (j : Nat) (v : Transfer), j < i → s.transfers[j]? = some v → v.state ≠ .failed) ∧
      s.verdict = .error ⟨u.array.id, u.error.getD (.incomplete s.iterations),
        s.transfers.countP (·.state = .failed), s.transfers.length⟩ := by
  unfold verdict
  cases found : s.transfers.find? (·.state = .failed) with
  | none => exact .inl ⟨fun u hu => by simpa using List.find?_eq_none.mp found u hu, rfl⟩
  | some u =>
    obtain ⟨failed, i, inside, rfl, before⟩ := List.find?_eq_some_iff_getElem.mp found
    refine .inr ⟨i, _, List.getElem?_eq_getElem inside, of_decide_eq_true failed, fun j v hj hv => ?_, rfl⟩
    obtain ⟨_, rfl⟩ := List.getElem?_eq_some_iff.mp hv
    simpa using before j hj

theorem succeeded_of_final (terminal : t.state.isTerminal = true) (unfailed : t.state ≠ .failed) :
    t.state = .succeeded := by
  cases state : t.state with
  | succeeded => rfl
  | failed => exact absurd state unfailed
  | init | configured | enqueued | inFlight | retryPending =>
    rw [state] at terminal
    cases terminal

/-- However a call ends, in any environment, it is judged by its transfers. The verdict is good exactly if each has
    succeeded, and is otherwise about the first that has failed: it has the array and the error of that transfer, which
    does hold one, and the number of the failed and of all. The attempts of new transfers are the requests that were
    taken for each, counted in 32 bits, and all that were taken as long as that is enough to count them. -/
theorem verdict_of_execute (idle : ∀ t ∈ transfers, t.Idle) {fuel : Nat}
    (done : execute env connection options fuel world transfers = some s) :
    ((∃ summary, s.verdict = .ok summary) ↔ ∀ u ∈ s.transfers, u.state = .succeeded) ∧
    (∀ e, s.verdict = .error e → ∃ (i : Nat) (t u : Transfer) (first : TransferError),
      transfers[i]? = some t ∧ s.transfers[i]? = some u ∧ u.state = .failed ∧ u.error = some first ∧
      (∀ (j : Nat) (v : Transfer), j < i → s.transfers[j]? = some v → v.state = .succeeded) ∧
      e = ⟨t.array.id, first, s.transfers.countP (·.state = .failed), transfers.length⟩) ∧
    ∀ summary, s.verdict = .ok summary → summary.transfers = transfers.length ∧ summary.iterations = s.iterations ∧
      ((∀ t ∈ transfers, t.Fresh) →
        summary.attempts =
          ∑ i ∈ Finset.range transfers.length, (Ledger.of s.journal).tries i % UInt32.size ∧
        (Counted options.retryPolicy (.of s.journal) → summary.attempts = (Ledger.of s.journal).taken.length)) := by
  have reached := reaches_execute done
  have terminal := isTerminal_of_execute done
  have sound : Sound (opening world transfers) := .opening idle
  obtain ⟨unfailed, good⟩ | ⟨i, u, hu, failed, before, bad⟩ := s.verdict_cases
  · rw [good]
    refine ⟨iff_of_true ⟨_, rfl⟩ fun u hu => succeeded_of_final (terminal u hu) (unfailed u hu), nofun, ?_⟩
    rintro _ ⟨⟩
    refine ⟨reached.length, rfl, fun fresh => ⟨reached.attempts_eq fresh, fun counted => ?_⟩⟩
    exact reached.attempts_eq_taken fresh counted
  · rw [bad]
    have member := List.mem_of_getElem? hu
    refine ⟨iff_of_false nofun fun succeeded => ?_, ?_, nofun⟩
    · cases failed.symm.trans (succeeded u member)
    · rintro _ ⟨⟩
      obtain ⟨t, -, ht⟩ := reached.origin hu
      obtain ⟨v, hv, intact⟩ := reached.intact sound ht
      cases hu.symm.trans hv
      obtain ⟨first, held⟩ := Option.isSome_iff_exists.mp (((reached.sound sound).coupled u member).error.mpr failed)
      refine ⟨i, t, u, first, ht, hu, failed, held, fun j v hj hv => ?_, ?_⟩
      · exact succeeded_of_final (terminal v (List.mem_of_getElem? hv)) (before j v hj hv)
      · rw [intact.task.array, held, reached.length]
        rfl

theorem verdict_of_execute_mixed :
    (∃ s first, execute Scripted.environment plainStore oneRetry 9 halfAnswered [oneRead, oneRead] = some s ∧
      s.verdict = .error ⟨"d", first, 1, 2⟩) ∧
    ∃ s, execute Scripted.environment plainStore anyPolls 11 slowly [byteRead "a", byteRead "b"] = some s ∧
      s.verdict = .ok ⟨2, 4, s.iterations⟩ := by
  constructor
  · have run : (execute Scripted.environment plainStore oneRetry 9 halfAnswered [oneRead, oneRead]).map
        (fun s => (s.transfers.all (·.state = .succeeded), s.transfers.countP (·.state = .failed))) =
          some (false, 1) := by decide +kernel
    obtain ⟨s, done, states⟩ := Option.map_eq_some_iff.mp run
    obtain ⟨notAll, count⟩ := Prod.mk.inj states
    have idle : ∀ t ∈ [oneRead, oneRead], t.Idle :=
      List.forall_mem_cons.mpr ⟨idle_oneRead, List.forall_mem_singleton.mpr idle_oneRead⟩
    obtain ⟨good, bad, -⟩ := verdict_of_execute idle done
    cases judged : s.verdict with
    | ok summary =>
      have all := good.mp ⟨summary, judged⟩
      rw [List.all_eq_true.mpr fun u hu => decide_eq_true (all u hu)] at notAll
      cases notAll
    | error e =>
      obtain ⟨i, t, u, first, ht, -, -, -, -, rfl⟩ := bad e judged
      obtain rfl : t = oneRead := List.eq_of_mem_replicate (n := 2) (List.mem_of_getElem? ht)
      rw [count] at judged
      exact ⟨s, first, done, judged⟩
  · have run : (execute Scripted.environment plainStore anyPolls 11 slowly [byteRead "a", byteRead "b"]).map
        (fun s => (s.transfers.all (·.state = .succeeded), (Ledger.of s.journal).taken.length)) = some (true, 4) := by
      decide +kernel
    obtain ⟨s, done, states⟩ := Option.map_eq_some_iff.mp run
    obtain ⟨all, four⟩ := Prod.mk.inj states
    have fresh : ∀ t ∈ [byteRead "a", byteRead "b"], t.Fresh :=
      List.forall_mem_cons.mpr ⟨fresh_byteRead "a", List.forall_mem_singleton.mpr (fresh_byteRead "b")⟩
    obtain ⟨good, -, summed⟩ := verdict_of_execute (fun t ht => (fresh t ht).idle) done
    obtain ⟨⟨n, attempts, iterations⟩, judged⟩ :=
      good.mpr fun u hu => of_decide_eq_true (List.all_eq_true.mp all u hu)
    obtain ⟨rfl, rfl, counts⟩ := summed _ judged
    obtain ⟨-, taken⟩ := counts fresh
    cases (taken (.inl (by decide))).trans four
    exact ⟨s, done, judged⟩

/-- A write of a string without a byte into an array of strings of three. -/
def emptyWrite : Transfer :=
  ⟨⟨"d", [1], .string 3, .little⟩, ⟨[1], .all, rfl⟩, ⟨[1], .all, rfl⟩, .string 0, .write, [],
    .init, none, none, none, .fresh, none⟩

/-- What the verdict does not cover: the program stops over elements without a byte for strings with some, so that the
    call has no end. And after one request more than can be counted, one attempt is summed up. -/
theorem verdict_beyond_count :
    (∀ fuel, execute Scripted.environment plainStore fortyPolls fuel slowly [emptyWrite] = none) ∧
    ∃ s, execute busyStore plainStore tireless (UInt32.size + 2) (UInt32.size, 0) [byteRead "a"] = some s ∧
      Follows Accepts (.of []) s.journal ∧ (Ledger.of s.journal).taken.length = UInt32.size + 1 ∧
      s.verdict = .ok ⟨1, 1, UInt32.size + 1⟩ := by
  constructor
  · exact execute_eq_none (by decide +kernel)
  · obtain ⟨s, done, kept, -, verdict⟩ := execute_busy UInt32.size
    exact ⟨s, done, kept.accepts, kept.taken, verdict⟩

end Session

end ArrayTransfer
