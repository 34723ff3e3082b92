import ArrayTransfer.Session.Basic
import Mathlib.Data.List.Basic

/-! The parts of a turn of the loop: what `Session.forEach` does at each place, and for each operation all that it can
    do (`prepare_cases`, `submit_cases`, `deliver_cases`, `waitForRetry_cases`). -/

namespace ArrayTransfer.Session

variable {σ : Type} {i j : Nat} {t u : Transfer}

/-! ### One place -/

@[simp] theorem update_transfers (s : Session σ) (i : Nat) (changed : Transfer.Changed) :
    (s.update i changed).transfers = s.transfers.set i changed.1 := rfl

@[simp] theorem update_journal (s : Session σ) (i : Nat) (changed : Transfer.Changed) :
    (s.update i changed).journal = s.journal ++ changed.2.map (Event.changed i) := rfl

@[simp] theorem readClock_transfers (env : Environment σ) (s : Session σ) :
    (s.readClock env).2.transfers = s.transfers := rfl

@[simp] theorem readClock_journal (env : Environment σ) (s : Session σ) :
    (s.readClock env).2.journal = s.journal ++ [.clock (env.now s.world).1] := rfl

theorem getElem?_set_self {ts : List Transfer} (h : ts[i]? = some t) (u : Transfer) : (ts.set i u)[i]? = some u := by
  obtain ⟨hi, -⟩ := List.getElem?_eq_some_iff.mp h
  rw [List.getElem?_set_self hi]

theorem set_eq_self {ts : List Transfer} (h : ts[i]? = some t) : ts.set i t = ts := by
  obtain ⟨hi, rfl⟩ := List.getElem?_eq_some_iff.mp h
  exact List.set_getElem_self hi

/-- What stands somewhere after one place is set: the new one there, or one that stood there before. -/
theorem getElem?_set_cases {ts : List Transfer} (h : (ts.set j u)[i]? = some t) :
    j = i ∧ t = u ∨ j ≠ i ∧ ts[i]? = some t := by
  by_cases hj : j = i
  · subst hj
    obtain ⟨hi, -⟩ := List.getElem?_eq_some_iff.mp h
    rw [List.getElem?_set_self (by rwa [List.length_set] at hi)] at h
    exact .inl ⟨rfl, (Option.some.inj h).symm⟩
  · rw [List.getElem?_set_ne hj] at h
    exact .inr ⟨hj, h⟩

/-! ### Each place in turn -/

/-- What a loop over the transfers does at one of them. -/
def visit (f : Session σ → Nat → Transfer → Session σ) (s : Session σ) (i : Nat) : Session σ :=
  match s.transfers[i]? with
  | some t => f s i t
  | none => s

theorem forEach_eq (f : Session σ → Nat → Transfer → Session σ) (s : Session σ) :
    s.forEach f = (List.range s.transfers.length).foldl (visit f) s := rfl

section forEach
variable {f : Session σ → Nat → Transfer → Session σ}

theorem visit_at {s : Session σ} (here : s.transfers[i]? = some t) : visit f s i = f s i t := by
  unfold visit
  rw [here]

/-- Visits to some places are in a relation that composes if each of them is. -/
theorem foldl_visit_rel {R : Session σ → Session σ → Prop} (refl : ∀ s, R s s) (trans : ∀ a b c, R a b → R b c → R a c)
    (each : ∀ s i t, s.transfers[i]? = some t → R s (f s i t)) (places : List Nat) (s : Session σ) :
    R s (places.foldl (visit f) s) := by
  induction places generalizing s with
  | nil => exact refl s
  | cons i places ih =>
    refine trans _ _ _ ?_ (ih _)
    unfold visit
    split
    · exact each _ _ _ ‹_›
    · exact refl _

/-- A loop is in a relation that composes if what it does at one transfer is. -/
theorem forEach_rel {R : Session σ → Session σ → Prop} (refl : ∀ s, R s s)
    (trans : ∀ a b c, R a b → R b c → R a c) (each : ∀ s i t, s.transfers[i]? = some t → R s (f s i t))
    (s : Session σ) : R s (s.forEach f) := foldl_visit_rel refl trans each _ s

/-- A loop comes to each place as it was before, and goes on from what it does there. -/
theorem forEach_at {R : Session σ → Session σ → Prop} (refl : ∀ s, R s s) (trans : ∀ a b c, R a b → R b c → R a c)
    (each : ∀ s i t, s.transfers[i]? = some t → R s (f s i t))
    (own : ∀ s j t, s.transfers[j]? = some t → ∃ u, (f s j t).transfers = s.transfers.set j u)
    {s : Session σ} (here : s.transfers[i]? = some t) :
    ∃ s₁, R s s₁ ∧ s₁.transfers[i]? = some t ∧ R (f s₁ i t) (s.forEach f) := by
  obtain ⟨inside, -⟩ := List.getElem?_eq_some_iff.mp here
  obtain ⟨before, after, split, unvisited⟩ := List.eq_append_cons_of_mem (List.mem_range.mpr inside)
  have kept : ∀ (places : List Nat) (s : Session σ), i ∉ places →
      (places.foldl (visit f) s).transfers[i]? = s.transfers[i]? := by
    intro places
    induction places with
    | nil => exact fun _ _ => rfl
    | cons j places ih =>
      intro s others
      obtain ⟨other, others⟩ := List.ne_and_not_mem_of_not_mem_cons others
      refine (ih _ others).trans ?_
      unfold visit
      split
      · obtain ⟨u, set⟩ := own s j _ ‹_›
        rw [set, List.getElem?_set_ne (Ne.symm other)]
      · rfl
  have reached : (before.foldl (visit f) s).transfers[i]? = some t := (kept before s unvisited).trans here
  refine ⟨before.foldl (visit f) s, foldl_visit_rel refl trans each before s, reached, ?_⟩
  rw [forEach_eq, split, List.foldl_append, List.foldl_cons, visit_at reached]
  exact foldl_visit_rel refl trans each after _

variable {Q : Transfer → Transfer → Prop}
  (each : ∀ (s : Session σ) (i : Nat) (t : Transfer), s.transfers[i]? = some t →
    ∃ u, Q t u ∧ (f s i t).transfers = s.transfers.set i u)
include each

/-- A loop that changes each transfer in its place has changed them all. -/
theorem forEach_each (s : Session σ) : (s.forEach f).transfers.length = s.transfers.length ∧
    ∀ (i : Nat) (t : Transfer), s.transfers[i]? = some t → ∃ u, Q t u ∧ (s.forEach f).transfers[i]? = some u := by
  -- After `k` of them, those are changed and the others are as they were.
  suffices after : ∀ k, ((List.range k).foldl (visit f) s).transfers.length = s.transfers.length ∧
      ∀ (i : Nat) (t : Transfer), s.transfers[i]? = some t →
        ∃ u, ((List.range k).foldl (visit f) s).transfers[i]? = some u ∧ (i < k → Q t u) ∧ (k ≤ i → u = t) by
    obtain ⟨length, every⟩ := after s.transfers.length
    refine ⟨length, fun i t ht => ?_⟩
    obtain ⟨u, hu, done, -⟩ := every i t ht
    exact ⟨u, done (List.getElem?_eq_some_iff.mp ht).1, hu⟩
  intro k
  induction k with
  | zero => exact ⟨rfl, fun i t ht => ⟨t, ht, fun h => absurd h (Nat.not_lt_zero i), fun _ => rfl⟩⟩
  | succ k ih =>
    obtain ⟨length, every⟩ := ih
    rw [List.range_succ, List.foldl_append, List.foldl_cons, List.foldl_nil]
    generalize (List.range k).foldl (visit f) s = now at *
    unfold visit
    split
    · rename_i here hhere
      obtain ⟨w, hw, set⟩ := each now k here hhere
      refine ⟨by rw [set, List.length_set, length], fun i t ht => ?_⟩
      obtain ⟨u, hu, done, same⟩ := every i t ht
      by_cases hi : i = k
      · subst hi
        obtain rfl := same (Nat.le_refl i)
        rw [hu] at hhere
        cases hhere
        exact ⟨w, by rw [set, getElem?_set_self hu], fun _ => hw, fun h => absurd h (Nat.not_succ_le_self i)⟩
      · refine ⟨u, by rw [set, List.getElem?_set_ne (Ne.symm hi), hu], fun h => done ?_, fun h => same ?_⟩
        · exact Nat.lt_of_le_of_ne (Nat.le_of_lt_succ h) hi
        · exact Nat.le_of_succ_le h
    · rename_i hnone
      refine ⟨length, fun i t ht => ?_⟩
      obtain ⟨u, hu, done, same⟩ := every i t ht
      have hi : i ≠ k := by
        rintro rfl
        rw [hu] at hnone
        cases hnone
      refine ⟨u, hu, fun h => done ?_, fun h => same (Nat.le_of_succ_le h)⟩
      exact Nat.lt_of_le_of_ne (Nat.le_of_lt_succ h) hi

theorem forEach_mem (s : Session σ) : ∀ u ∈ (s.forEach f).transfers, ∃ t ∈ s.transfers, Q t u := by
  obtain ⟨length, every⟩ := forEach_each each s
  intro u hu
  obtain ⟨i, hi, rfl⟩ := List.getElem_of_mem hu
  have inside : i < s.transfers.length := length ▸ hi
  obtain ⟨u, hu, found⟩ := every i s.transfers[i] (List.getElem?_eq_getElem inside)
  rw [List.getElem?_eq_getElem hi] at found
  cases found
  exact ⟨_, List.getElem_mem inside, hu⟩

end forEach

/-! ### Operations -/

theorem prepare_cases (connection : Connection) (base64 : Bool) (s : Session σ) (i : Nat) (t : Transfer) :
    (∃ done, t.state = .init ∧ t.configure connection base64 = .ok done ∧
      s.prepare connection base64 i t = s.update i done) ∨
    (∃ e, t.state = .init ∧ t.configure connection base64 = .error e ∧
      s.prepare connection base64 i t = s.update i (t.fail e)) ∨
    t.state ≠ .init ∧ s.prepare connection base64 i t = s := by
  unfold prepare
  split
  · rename_i new
    cases configured : t.configure connection base64 with
    | ok done => exact .inl ⟨done, new, rfl, rfl⟩
    | error e => exact .inr (.inl ⟨e, new, rfl, rfl⟩)
  · rename_i old
    exact .inr (.inr ⟨old, rfl⟩)

/-- The session in which a request for a transfer was handed over, and answered. -/
def asked (env : Environment σ) (s : Session σ) (i : Nat) (request : Request) : Session σ :=
  { s with
    world := (env.add s.world request).2
    journal := s.journal ++ [.submitted i request (env.add s.world request).1] }

@[simp] theorem asked_transfers (env : Environment σ) (s : Session σ) (i : Nat) (request : Request) :
    (s.asked env i request).transfers = s.transfers := rfl

@[simp] theorem asked_journal (env : Environment σ) (s : Session σ) (i : Nat) (request : Request) :
    (s.asked env i request).journal = s.journal ++ [.submitted i request (env.add s.world request).1] := rfl

/-- What is asked for a transfer is noted before what the answer changes. -/
theorem asked_update_journal (env : Environment σ) (s : Session σ) (i : Nat) (request : Request)
    (changed : Transfer.Changed) : ((s.asked env i request).update i changed).journal =
      s.journal ++ .submitted i request (env.add s.world request).1 :: changed.2.map (.changed i) := by
  rw [update_journal, asked_journal, List.append_assoc]
  rfl

theorem submit_cases (env : Environment σ) (s : Session σ) (i : Nat) (t : Transfer) :
    (t.request = none ∧
      s.submit env i t = s.update i (t.fail (.transport (.invalidRequest "transfer is not configured")))) ∨
    (∃ request handle, t.request = some request ∧ (env.add s.world request).1 = .ok handle ∧
      s.submit env i t = (s.asked env i request).update i (t.submitted handle)) ∨
    ∃ request e, t.request = some request ∧ (env.add s.world request).1 = .error e ∧
      s.submit env i t = (s.asked env i request).update i (t.fail (.transport e)) := by
  unfold submit
  cases held : t.request with
  | none => exact .inl ⟨rfl, rfl⟩
  | some request =>
    simp only
    cases added : (env.add s.world request).1 with
    | ok handle => exact .inr (.inl ⟨request, handle, rfl, added, by rw [asked, added]⟩)
    | error e => exact .inr (.inr ⟨request, e, rfl, added, by rw [asked, added]⟩)

theorem deliver_cases (env : Environment σ) (policy : RetryPolicy) (s : Session σ) (c : Completion) :
    ((∀ t ∈ s.transfers, t.handle ≠ some c.handle) ∧
      s.deliver env policy c = { s with journal := s.journal ++ [.unknownCompletion c.handle] }) ∨
    ∃ i t, s.transfers[i]? = some t ∧ t.handle = some c.handle ∧
      s.deliver env policy c = (s.readClock env).2.update i (t.complete policy (s.readClock env).1 c.result) := by
  unfold deliver
  cases found : s.transfers.findIdx? (·.handle = some c.handle) with
  | none =>
    refine .inl ⟨fun t ht => ?_, rfl⟩
    exact of_decide_eq_false (List.findIdx?_eq_none_iff.mp found t ht)
  | some i =>
    obtain ⟨there, holds, -⟩ := List.findIdx?_eq_some_iff_getElem.mp found
    refine .inr ⟨i, s.transfers[i], List.getElem?_eq_getElem there, of_decide_eq_true holds, ?_⟩
    simp only [List.getElem?_eq_getElem there]

theorem firstDue?_eq_some_iff {s : Session σ} {due : Instant} : s.firstDue? = some due ↔
    (∃ t ∈ s.transfers, t.retry.dueAt = some due) ∧
      ∀ t ∈ s.transfers, ∀ later, t.retry.dueAt = some later → due ≤ later := by
  unfold firstDue?
  rw [List.min?_eq_some_iff]
  simp only [List.mem_filterMap, forall_exists_index, and_imp]
  exact and_congr_right fun _ => ⟨fun h t ht later => h later t ht, fun h later t ht => h t ht later⟩

/-- The session after it has slept until a time. -/
def sleptUntil (env : Environment σ) (s : Session σ) (due : Instant) : Session σ :=
  { s with
    world := env.sleep (env.now s.world).2 (due - (env.now s.world).1)
    journal := s.journal ++ [.clock (env.now s.world).1, .slept (due - (env.now s.world).1)] }

theorem waitForRetry_eq (env : Environment σ) {s : Session σ} {due : Instant} (first : s.firstDue? = some due) :
    s.waitForRetry env = s.sleptUntil env due := by
  unfold waitForRetry sleptUntil
  simp [first, readClock]

theorem waitForRetry_cases (env : Environment σ) (s : Session σ) : s.waitForRetry env = s ∨
    ∃ duration, s.waitForRetry env = { s with
      world := env.sleep (env.now s.world).2 duration
      journal := s.journal ++ [.clock (env.now s.world).1, .slept duration] } := by
  cases first : s.firstDue? with
  | none => exact .inl (by rw [waitForRetry, first])
  | some due => exact .inr ⟨_, waitForRetry_eq env first⟩

theorem isTerminal_of_failUnfinished (s : Session σ) : ∀ t ∈ s.failUnfinished.transfers, t.state.isTerminal = true := by
  have each : ∀ (s : Session σ) (i : Nat) (t : Transfer), s.transfers[i]? = some t → ∃ u : Transfer,
      u.state.isTerminal = true ∧ (if t.state.isTerminal then s else
        s.update i (t.fail (.incomplete s.iterations))).transfers = s.transfers.set i u := by
    intro s i t at_
    split
    · rename_i terminal
      exact ⟨t, terminal, (set_eq_self at_).symm⟩
    · exact ⟨_, rfl, rfl⟩
  intro u hu
  obtain ⟨-, -, terminal⟩ := forEach_mem (Q := fun _ u => u.state.isTerminal = true) each s u hu
  exact terminal

end ArrayTransfer.Session
