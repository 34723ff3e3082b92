import ArrayTransfer.Proofs.Session.Reported
import ArrayTransfer.Proofs.Transfer.Backoff

/-! A store that is busy for a long time. Attempts are counted in 32 bits, and a policy may allow as many retries as can
    be counted; then the count never passes the limit, and goes through zero (`execute_busy`). -/

namespace ArrayTransfer.Session
open Transfer

/-- A store that is busy as often as the first number says, and then has a seven. The second number is how many requests
    it took. -/
def busyStore : Environment (Nat × Nat) where
  add := fun w _ => (.ok ⟨.ofNat w.2⟩, (w.1, w.2 + 1))
  poll := fun w _ =>
    ([⟨⟨.ofNat (w.2 - 1)⟩, .ok (if w.1 = 0 then ⟨200, [7]⟩ else ⟨503, []⟩)⟩], (w.1 - 1, w.2))
  pending := fun _ => 0
  now := fun w => (0, w)
  sleep := fun w _ => w

/-- As many retries as can be counted, each at once. -/
def tireless : SessionOptions := ⟨0, ⟨4294967295, 0, 0, 0⟩, true, none⟩

section turns
variable {request : Request} {last : Option TransferError} {k n : Nat} {journal : List Event}

/-- The read of `a` with its request handed over once more after `k` setbacks. -/
def again (request : Request) (k : Nat) (last : Option TransferError) : Transfer :=
  { byteRead "a" with
    state := .enqueued, mode := some .binary, request := some request, handle := some ⟨.ofNat k⟩,
    retry := ⟨.ofNat (k + 1), none, 0, last, false⟩ }

/-- The read of `a` after one more setback. -/
def setBack (request : Request) (k : Nat) : Transfer :=
  { byteRead "a" with
    state := .retryPending, mode := some .binary, request := some request,
    retry := ⟨.ofNat (k + 1), some 0, 0, some (.status 503 request.url), false⟩ }

theorem backoff_tireless (n : UInt32) : tireless.retryPolicy.backoff n = 0 :=
  Nat.le_zero.mp (RetryPolicy.backoff_le _ n)

theorem schedule_tireless (n : UInt32) (last : Option TransferError) (url : String) :
    Retry.schedule ⟨n, none, 0, last, false⟩ tireless.retryPolicy (.status 503 url) 0 =
      (true, ⟨n, some 0, 0, some (.status 503 url), false⟩) := by
  have counted : n ≤ tireless.retryPolicy.maxRetries := by
    show n.toNat ≤ 4294967295
    exact Nat.le_of_lt_succ n.toNat_lt
  unfold Retry.schedule
  simp only [backoff_tireless]
  rw [if_pos ⟨rfl, counted⟩]
  rfl

theorem complete_busy : ((again request k last).moveTo .inFlight).1.complete tireless.retryPolicy 0 (.ok ⟨503, []⟩) =
    (setBack request k, [.retrying (.ofNat (k + 1)) (.status 503 request.url), .moved .inFlight .retryPending]) := by
  have outcome : ((again request k last).moveTo .inFlight).1.outcome (.ok ⟨503, []⟩) =
      .error (.status 503 request.url) := rfl
  have scheduled : ((again request k last).moveTo .inFlight).1.retry.schedule tireless.retryPolicy
      (.status 503 request.url) 0 = (true, ⟨.ofNat (k + 1), some 0, 0, some (.status 503 request.url), false⟩) :=
    schedule_tireless _ _ _
  unfold complete
  simp only [outcome, scheduled]
  rfl

/-- The read of `a` when it has its seven. -/
def served (k : Nat) (last : Option TransferError) : Transfer :=
  { byteRead "a" with
    state := .succeeded, mode := some .binary, buffer := [7], retry := ⟨.ofNat (k + 1), none, 0, last, false⟩ }

theorem complete_served : ((again request k last).moveTo .inFlight).1.complete tireless.retryPolicy 0
    (.ok ⟨200, [7]⟩) = (served k last, [.moved .inFlight .succeeded]) := rfl

theorem deliver_again {result : Except TransportError Response} {completed : Changed}
    (eq : ((again request k last).moveTo .inFlight).1.complete tireless.retryPolicy 0 result = completed) :
    deliver busyStore tireless.retryPolicy
        ⟨(n, k + 1), [((again request k last).moveTo .inFlight).1], k + 1, journal⟩ ⟨⟨.ofNat k⟩, result⟩ =
      ⟨(n, k + 1), [completed.1], k + 1, journal ++ .clock 0 :: completed.2.map (.changed 0)⟩ := by
  have found : [((again request k last).moveTo .inFlight).1].findIdx? (·.handle = some ⟨.ofNat k⟩) = some 0 := by
    simp [again, moveTo]
  unfold deliver
  simp only [found]
  show update _ 0 (((again request k last).moveTo .inFlight).1.complete tireless.retryPolicy 0 result) = _
  rw [eq]
  show (⟨_, _, _, journal ++ [.clock 0] ++ _⟩ : Session (Nat × Nat)) = _
  rw [List.append_assoc]
  rfl

theorem withRetries_busy : withRetries busyStore ⟨(n, k + 1), [setBack request k], k + 1, journal⟩ =
    ⟨(n, k + 2), [again request (k + 1) (some (.status 503 request.url))], k + 1, journal ++
      [.clock 0, .submitted 0 request (.ok ⟨.ofNat (k + 1)⟩), .changed 0 (.moved .retryPending .enqueued)]⟩ := by
  have counted : UInt32.ofNat (k + 1) + 1 = .ofNat (k + 1 + 1) := (UInt32.ofNat_add (k + 1) 1).symm
  show (⟨_, [{ setBack request k with
    state := .enqueued, handle := some ⟨.ofNat (k + 1)⟩,
    retry := ⟨.ofNat (k + 1) + 1, none, 0, some (.status 503 request.url), false⟩ }], _,
      journal ++ [.clock 0] ++ [_] ++ _⟩ : Session (Nat × Nat)) = _
  rw [counted, List.append_assoc, List.append_assoc]
  rfl

/-- What is noted when a request is under way and the store reports the result. -/
def reported (k : Nat) (result : Except TransportError Response) : List Event :=
  [.changed 0 (.moved .enqueued .inFlight), .polled [⟨⟨.ofNat k⟩, result⟩], .clock 0]

/-- A turn ends with what the store reports of the request. -/
theorem iterate_again {s : Session (Nat × Nat)} {completed : Changed}
    (h : s.withRetries busyStore = ⟨(n, k + 1), [again request k last], k, journal⟩)
    (eq : ((again request k last).moveTo .inFlight).1.complete tireless.retryPolicy 0
      (.ok (if n = 0 then ⟨200, [7]⟩ else ⟨503, []⟩)) = completed) :
    s.iterate busyStore tireless = (⟨(n - 1, k + 1), [completed.1], k + 1, journal ++
      (reported k (.ok (if n = 0 then ⟨200, [7]⟩ else ⟨503, []⟩)) ++ completed.2.map (.changed 0))⟩, false) := by
  rw [iterate_eq, h]
  show (deliver busyStore tireless.retryPolicy ⟨(n - 1, k + 1), [((again request k last).moveTo .inFlight).1], k + 1,
      journal ++ [.changed 0 (.moved .enqueued .inFlight)] ++
        [.polled [⟨⟨.ofNat k⟩, .ok (if n = 0 then ⟨200, [7]⟩ else ⟨503, []⟩)⟩]]⟩
      ⟨⟨.ofNat k⟩, .ok (if n = 0 then ⟨200, [7]⟩ else ⟨503, []⟩)⟩, false) = _
  rw [deliver_again eq]
  simp [reported]

/-- The turn after the read of `a` has its seven is the last. -/
theorem iterate_served (w : Nat × Nat) (iterations : Nat) :
    (⟨w, [served k last], iterations, journal⟩ : Session (Nat × Nat)).iterate busyStore tireless =
      (⟨w, [served k last], iterations, journal ++ [.clock 0]⟩, true) := rfl

/-! ### The books -/

/-- The books after so many requests were taken, with these handles to be reported. No request was refused, each poll
    reported one, and nothing was waited for. -/
structure Kept (taken : Nat) (handles : List Handle) (journal : List Event) : Prop where
  taken : (Ledger.of journal).taken.length = taken
  unreported : (Ledger.of journal).unreported.map (·.handle) = handles
  accepts : Follows Accepts (.of []) journal
  reports : Follows Reports (.of []) journal
  slept : sleeps journal = 0

namespace Kept
variable {taken : Nat} {handles : List Handle} {handle : Handle}

theorem clock (h : Kept taken handles journal) (now : Instant) : Kept taken handles (journal ++ [.clock now]) where
  taken := by rw [Ledger.of_append]; exact h.taken
  unreported := by rw [Ledger.of_append]; exact h.unreported
  accepts := follows_append.mpr ⟨h.accepts, trivial, trivial⟩
  reports := follows_append.mpr ⟨h.reports, trivial, trivial⟩
  slept := by rw [sleeps_append]; exact h.slept

theorem changes (h : Kept taken handles journal) (i : Nat) (changes : List Change) :
    Kept taken handles (journal ++ changes.map (.changed i)) := by
  induction changes generalizing journal with
  | nil => rwa [List.map_nil, List.append_nil]
  | cons change changes ih =>
    rw [List.map_cons, List.append_cons]
    refine ih ⟨?_, ?_, follows_append.mpr ⟨h.accepts, trivial, trivial⟩,
      follows_append.mpr ⟨h.reports, trivial, trivial⟩, ?_⟩
    · rw [Ledger.of_append]
      exact h.taken
    · rw [Ledger.of_append]
      exact h.unreported
    · rw [sleeps_append]
      exact h.slept

theorem submitted (h : Kept taken [] journal) (i : Nat) (request : Request) (handle : Handle) :
    Kept (taken + 1) [handle] (journal ++ [.submitted i request (.ok handle)]) := by
  have none : (Ledger.of journal).unreported = [] := List.map_eq_nil_iff.mp h.unreported
  refine ⟨?_, ?_, follows_append.mpr ⟨h.accepts, ?_, trivial⟩, follows_append.mpr ⟨h.reports, trivial, trivial⟩, ?_⟩
  · rw [Ledger.of_append, ← h.taken]
    exact List.length_append
  · rw [Ledger.of_append]
    show ((Ledger.of journal).unreported ++ [_]).map Taken.handle = _
    rw [none]
    rfl
  · show ∀ o ∈ (Ledger.of journal).unreported, o.handle ≠ handle
    rw [none]
    exact List.forall_mem_nil _
  · rw [sleeps_append]
    exact h.slept

theorem polled (h : Kept taken [handle] journal) (result : Except TransportError Response) :
    Kept taken [] (journal ++ [.polled [⟨handle, result⟩]]) := by
  obtain ⟨o, only, same⟩ : ∃ o, (Ledger.of journal).unreported = [o] ∧ o.handle = handle := by
    obtain ⟨o, rest, eq, same, none⟩ := List.map_eq_cons_iff.mp h.unreported
    exact ⟨o, by rw [eq, List.map_eq_nil_iff.mp none], same⟩
  refine ⟨?_, ?_, follows_append.mpr ⟨h.accepts, trivial, trivial⟩, follows_append.mpr ⟨h.reports, ?_, trivial⟩, ?_⟩
  · rw [Ledger.of_append]
    exact h.taken
  · rw [Ledger.of_append]
    show ((Ledger.of journal).unreported.filter _).map Taken.handle = _
    simp [only, same]
  · exact fun _ => ⟨o, only ▸ List.mem_singleton_self o, _, List.mem_singleton_self _, same.symm⟩
  · rw [sleeps_append]
    exact h.slept

/-- By what is noted in a turn, the request that was under way is reported. -/
theorem reported (h : Kept taken [⟨.ofNat k⟩] journal) (result : Except TransportError Response)
    (changes : List Change) :
    Kept taken [] (journal ++ (reported k result ++ changes.map (.changed 0))) := by
  have noted := (((h.changes 0 [.moved .enqueued .inFlight]).polled result).clock 0).changes 0 changes
  simpa [Session.reported] using noted

end Kept

/-! ### Runs -/

/-- A call whose request is under way, with `n` more setbacks to come, takes one more request for each. -/
theorem drain_busy {s : Session (Nat × Nat)}
    (h : s.withRetries busyStore = ⟨(n, k + 1), [again request k last], k, journal⟩)
    (kept : Kept (k + 1) [⟨.ofNat k⟩] journal) :
    ∃ s', drain busyStore tireless (n + 2) s = some s' ∧ Kept (n + k + 1) [] s'.journal ∧
      s'.iterations = n + k + 1 ∧ s'.verdict = .ok ⟨1, (n + k + 1) % UInt32.size, n + k + 1⟩ := by
  induction n generalizing s k last journal with
  | zero =>
    have turned := iterate_again h complete_served
    rw [drain_succ turned rfl, if_neg Bool.false_ne_true]
    rw [Nat.zero_add]
    refine ⟨_, drain_succ (iterate_served _ _) rfl, ?_, rfl, ?_⟩
    · exact (kept.reported (.ok ⟨200, [7]⟩) [.moved .inFlight .succeeded]).clock 0
    · show Except.ok (⟨1, 0 + (k + 1) % UInt32.size, k + 1⟩ : Summary) = _
      rw [Nat.zero_add]
  | succ n ih =>
    have turned := iterate_again h complete_busy
    have waited := kept.reported (.ok ⟨503, []⟩)
      [.retrying (.ofNat (k + 1)) (.status 503 request.url), .moved .inFlight .retryPending]
    have noted := (waited.clock 0).submitted 0 request ⟨.ofNat (k + 1)⟩
    have next := noted.changes 0 [.moved .retryPending .enqueued]
    rw [List.append_assoc, List.append_assoc] at next
    rw [drain_succ turned rfl, if_neg Bool.false_ne_true, Nat.add_right_comm n 1 k]
    exact ih withRetries_busy next

end turns

/-- The request of the read of `a`. -/
def byteRequest : Request := ⟨.get, "http://h/datasets/a/value", [("Accept", "application/octet-stream")], []⟩

theorem withRetries_start (n : Nat) :
    (start busyStore plainStore tireless (n, 0) [byteRead "a"]).withRetries busyStore =
      ⟨(n, 1), [again byteRequest 0 none], 0, [.changed 0 (.moved .init .configured),
        .submitted 0 byteRequest (.ok ⟨.ofNat 0⟩), .changed 0 (.moved .configured .enqueued), .clock 0]⟩ := rfl

/-- However often the store is busy, the read of `a` is tried once more, and the attempts are counted in 32 bits. -/
theorem execute_busy (n : Nat) : ∃ s, execute busyStore plainStore tireless (n + 2) (n, 0) [byteRead "a"] = some s ∧
    Kept (n + 1) [] s.journal ∧ s.iterations = n + 1 ∧ s.verdict = .ok ⟨1, (n + 1) % UInt32.size, n + 1⟩ := by
  have none : Kept 0 [] [] := ⟨rfl, rfl, trivial, trivial, rfl⟩
  have configured := none.changes 0 [.moved .init .configured]
  have kept := ((configured.submitted 0 byteRequest ⟨.ofNat 0⟩).changes 0 [.moved .configured .enqueued]).clock 0
  exact drain_busy (withRetries_start n) kept


end ArrayTransfer.Session
