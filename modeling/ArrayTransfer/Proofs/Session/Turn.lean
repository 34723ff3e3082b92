import ArrayTransfer.Proofs.Session.Run

/-! A turn of the loop as a whole: it is the last, or it polls, or it waits for a retry (`turn`). It is counted, and so is
    what it notes (`Quiet`), so that a call ends if its turns are bounded (`execute_of_bounded`). -/

namespace ArrayTransfer

def Event.isPoll : Event → Bool
  | .polled _ => true
  | _ => false

def Event.isSleep : Event → Bool
  | .slept _ => true
  | _ => false

namespace Session

variable {σ : Type} {env : Environment σ} {connection : Connection} {options : SessionOptions} {world : σ}
  {transfers : List Transfer} {s s' s'' : Session σ} {i : Nat} {t u : Transfer} {last : Bool}

/-- The polls that a journal notes. -/
def polls (journal : List Event) : Nat := journal.countP Event.isPoll

/-- The waits for a retry that a journal notes. -/
def sleeps (journal : List Event) : Nat := journal.countP Event.isSleep

@[simp] theorem polls_append (journal more : List Event) : polls (journal ++ more) = polls journal + polls more :=
  List.countP_append

@[simp] theorem sleeps_append (journal more : List Event) : sleeps (journal ++ more) = sleeps journal + sleeps more :=
  List.countP_append

/-! ### Turns -/

/-- What one turn of the loop comes to, and whether it is the last. -/
inductive Turn (env : Environment σ) (options : SessionOptions) (s : Session σ) : Session σ → Bool → Prop
  | finished (terminal : (s.withRetries env).isFinished = true) : Turn env options s (s.withRetries env) true
  | exhausted (unfinished : (s.withRetries env).isFinished = false)
    (exhausted : (s.withRetries env).isExhausted options = true) :
    Turn env options s (s.withRetries env).failUnfinished true
  | polled (unfinished : (s.withRetries env).isFinished = false)
    (within : (s.withRetries env).isExhausted options = false)
    (flying : ∃ t ∈ (s.withRetries env).boarded.transfers, t.state = .inFlight) :
    Turn env options s ((s.withRetries env).boarded.pollOnce env options) false
  | waited (unfinished : (s.withRetries env).isFinished = false)
    (within : (s.withRetries env).isExhausted options = false)
    (grounded : ∀ t ∈ (s.withRetries env).boarded.transfers, t.state ≠ .inFlight) :
    Turn env options s ((s.withRetries env).boarded.waitForRetry env) false

theorem turn (h : s.iterate env options = (s', last)) : Turn env options s s' last := by
  rw [iterate_eq] at h
  split at h
  · rename_i terminal
    cases h
    exact .finished terminal
  · rename_i unfinished
    rw [Bool.not_eq_true] at unfinished
    split at h
    · rename_i exhausted
      cases h
      exact .exhausted unfinished exhausted
    · rename_i within
      rw [Bool.not_eq_true] at within
      split at h
      · rename_i flying
        cases h
        obtain ⟨t, ht, flying⟩ := List.any_eq_true.mp flying
        exact .polled unfinished within ⟨t, ht, of_decide_eq_true flying⟩
      · rename_i grounded
        cases h
        refine .waited unfinished within fun t ht flying => grounded ?_
        exact List.any_eq_true.mpr ⟨t, ht, decide_eq_true flying⟩

/-- From where all are boarded, a turn that is not the last goes on in steps. -/
theorem Turn.onward (h : Turn env options s s' false) (launched : ∀ t ∈ s.transfers, t.Launched) :
    Runs env connection options ⟨(s.withRetries env).boarded, []⟩ ⟨s', []⟩ := by
  have retried : Runs env connection options ⟨s, []⟩ ⟨s.withRetries env, []⟩ := .withRetries s
  cases h with
  | polled _ _ flying => exact .pollOnce (aloft_of_boarded (retried.launched launched)) flying
  | waited => exact .single (.wait _)

/-! ### Counts -/

/-- From one session to another no turn is counted, and neither a poll nor a wait is noted. -/
structure Quiet (s s' : Session σ) : Prop where
  iterations : s'.iterations = s.iterations
  polls : polls s'.journal = polls s.journal
  sleeps : sleeps s'.journal = sleeps s.journal

namespace Quiet

theorem refl (s : Session σ) : Quiet s s := ⟨rfl, rfl, rfl⟩

theorem trans (h : Quiet s s') (h' : Quiet s' s'') : Quiet s s'' :=
  ⟨h'.iterations.trans h.iterations, h'.polls.trans h.polls, h'.sleeps.trans h.sleeps⟩

theorem of_noted {more : List Event} (iterations : s'.iterations = s.iterations) (noted : s'.journal = s.journal ++ more)
    (quiet : ∀ e ∈ more, e.isPoll = false ∧ e.isSleep = false) : Quiet s s' where
  iterations := iterations
  polls := by
    have none : Session.polls more = 0 := List.countP_eq_zero.mpr fun e he => Bool.not_eq_true _ ▸ (quiet e he).1
    rw [noted, polls_append, none]
    rfl
  sleeps := by
    have none : Session.sleeps more = 0 := List.countP_eq_zero.mpr fun e he => Bool.not_eq_true _ ▸ (quiet e he).2
    rw [noted, sleeps_append, none]
    rfl

theorem update (s : Session σ) (i : Nat) (changed : Transfer.Changed) : Quiet s (s.update i changed) :=
  of_noted rfl (update_journal s i changed) fun e he => by
    obtain ⟨_, -, rfl⟩ := List.mem_map.mp he
    exact ⟨rfl, rfl⟩

theorem readClock (env : Environment σ) (s : Session σ) : Quiet s (s.readClock env).2 :=
  of_noted rfl (readClock_journal env s) (List.forall_mem_singleton.mpr ⟨rfl, rfl⟩)

theorem submit (env : Environment σ) (s : Session σ) (i : Nat) (t : Transfer) : Quiet s (s.submit env i t) := by
  have asked : ∀ request, Quiet s (s.asked env i request) := fun request =>
    of_noted rfl (asked_journal env s i request) (List.forall_mem_singleton.mpr ⟨rfl, rfl⟩)
  obtain ⟨-, eq⟩ | ⟨request, _, -, -, eq⟩ | ⟨request, _, -, -, eq⟩ := submit_cases env s i t <;> rw [eq]
  · exact update s i _
  · exact (asked request).trans (update _ i _)
  · exact (asked request).trans (update _ i _)

theorem forEach {f : Session σ → Nat → Transfer → Session σ}
    (each : ∀ s i t, s.transfers[i]? = some t → Quiet s (f s i t)) (s : Session σ) : Quiet s (s.forEach f) :=
  forEach_rel refl (fun _ _ _ => trans) each s

theorem prepare (s : Session σ) (i : Nat) (t : Transfer) :
    Quiet s (s.prepare connection options.base64Writes i t) := by
  obtain ⟨_, -, -, eq⟩ | ⟨_, -, -, eq⟩ | ⟨-, eq⟩ := prepare_cases connection options.base64Writes s i t <;> rw [eq]
  · exact update s i _
  · exact update s i _
  · exact refl s

theorem launch (s : Session σ) (i : Nat) (t : Transfer) :
    Quiet s (s.launch env connection options.base64Writes i t) := by
  unfold Session.launch
  simp only
  split
  · split
    · exact (prepare s i t).trans (submit env _ i _)
    · exact prepare s i t
  · exact prepare s i t

theorem withRetries (env : Environment σ) (s : Session σ) : Quiet s (s.withRetries env) := by
  refine (readClock env s).trans (forEach (fun s i t _ => ?_) _)
  split
  · exact submit env s i t
  · exact refl s

theorem failUnfinished (s : Session σ) : Quiet s s.failUnfinished := by
  refine forEach (fun s i t _ => ?_) s
  split
  · exact refl s
  · exact update s i _

theorem deliver (env : Environment σ) (policy : RetryPolicy) (s : Session σ) (c : Completion) :
    Quiet s (s.deliver env policy c) := by
  obtain ⟨-, eq⟩ | ⟨i, _, -, -, eq⟩ := deliver_cases env policy s c <;> rw [eq]
  · exact of_noted rfl rfl (List.forall_mem_singleton.mpr ⟨rfl, rfl⟩)
  · exact (readClock env s).trans (update _ i _)

theorem countPending (env : Environment σ) (s : Session σ) : Quiet s (s.countPending env).2 :=
  of_noted rfl rfl (List.forall_mem_singleton.mpr ⟨rfl, rfl⟩)

end Quiet

theorem polls_pollOnce (env : Environment σ) (options : SessionOptions) (s : Session σ) :
    (s.pollOnce env options).iterations = s.iterations ∧
    polls (s.pollOnce env options).journal = polls s.journal + 1 ∧
    sleeps (s.pollOnce env options).journal = sleeps s.journal := by
  -- What is done with the report of the poll is quiet.
  have quiet : Quiet (s.poll env options).2 (s.pollOnce env options) := by
    have delivered : ∀ (completions : List Completion) (s : Session σ),
        Quiet s (completions.foldl (deliver env options.retryPolicy) s) := by
      intro completions
      induction completions with
      | nil => exact .refl
      | cons c rest ih => exact fun s => (Quiet.deliver env options.retryPolicy s c).trans (ih _)
    have reported := delivered (s.poll env options).1 (s.poll env options).2
    unfold pollOnce
    simp only
    split
    · refine reported.trans ((Quiet.countPending env _).trans ?_)
      split
      · exact .failUnfinished _
      · exact .refl _
    · exact reported
  have journal : (s.poll env options).2.journal = s.journal ++ [.polled (s.poll env options).1] := rfl
  refine ⟨quiet.iterations, ?_, ?_⟩
  · rw [quiet.polls, journal, polls_append]
    rfl
  · rw [quiet.sleeps, journal, sleeps_append]
    rfl

/-- What a turn does before it polls or waits. -/
theorem boarded_quiet (env : Environment σ) (s : Session σ) :
    (s.withRetries env).boarded.iterations = s.iterations + 1 ∧
    polls (s.withRetries env).boarded.journal = polls s.journal ∧
    sleeps (s.withRetries env).boarded.journal = sleeps s.journal := by
  have quiet := (Quiet.withRetries env s).trans
    (.forEach (f := fun s i t => s.update i t.beginFlight) (fun s i t _ => .update s i _) (s.withRetries env))
  exact ⟨congrArg (· + 1) quiet.iterations, quiet.polls, quiet.sleeps⟩

/-- A turn that is not the last is counted, and it is one poll, or a wait at most. -/
theorem Turn.counts (h : Turn env options s s' false) : s'.iterations = s.iterations + 1 ∧
    (polls s'.journal = polls s.journal + 1 ∧ sleeps s'.journal = sleeps s.journal ∨
      polls s'.journal = polls s.journal ∧ sleeps s'.journal ≤ sleeps s.journal + 1) := by
  obtain ⟨iterations, polled, slept⟩ := boarded_quiet env s
  cases h with
  | polled =>
    obtain ⟨iterations', polled', slept'⟩ := polls_pollOnce env options (s.withRetries env).boarded
    exact ⟨iterations'.trans iterations, .inl ⟨by rw [polled', polled], slept'.trans slept⟩⟩
  | waited =>
    obtain eq | ⟨duration, eq⟩ := waitForRetry_cases env (s.withRetries env).boarded
    · rw [eq]
      exact ⟨iterations, .inr ⟨polled, by rw [slept]; exact Nat.le_succ _⟩⟩
    · rw [eq]
      refine ⟨iterations, .inr ⟨?_, ?_⟩⟩
      · rw [polls_append, polled]
        rfl
      · rw [sleeps_append, slept]
        exact Nat.le_refl _

/-- A turn polls only before the limit of polls is reached. -/
theorem Turn.within {k : Nat} (h : Turn env options s s' false) (limited : options.maxPolls = some k) :
    s.iterations < k := by
  rw [← (Quiet.withRetries env s).iterations]
  cases h with
  | polled _ within | waited _ within =>
    rw [isExhausted, limited] at within
    exact Nat.lt_of_not_le (of_decide_eq_false within)

/-! ### Calls -/

theorem Quiet.start (world : σ) (transfers : List Transfer) :
    Quiet ⟨world, transfers, 0, []⟩ (start env connection options world transfers) :=
  forEach (fun s i t _ => launch s i t) _

theorem Head.polls_le (h : Head env connection options world transfers s) : polls s.journal ≤ s.iterations := by
  induction h with
  | first =>
    have quiet : Quiet _ (Session.start env connection options world transfers) := .start world transfers
    rw [quiet.polls, quiet.iterations]
    exact Nat.le_refl 0
  | next _ more ih =>
    obtain ⟨iterations, ⟨polled, -⟩ | ⟨polled, -⟩⟩ := (turn more).counts
    · rw [iterations, polled]
      exact Nat.succ_le_succ ih
    · rw [iterations, polled]
      exact Nat.le_succ_of_le ih

theorem Head.iterations_le {k : Nat} (h : Head env connection options world transfers s)
    (limited : options.maxPolls = some k) : s.iterations ≤ k := by
  cases h with
  | first =>
    have quiet : Quiet _ (Session.start env connection options world transfers) := .start world transfers
    rw [quiet.iterations]
    exact Nat.zero_le k
  | next _ more =>
    rw [(turn more).counts.1]
    exact (turn more).within limited

/-- A call ends if its turns are bounded and the program stops in none of them. -/
theorem execute_of_bounded {k fuel : Nat}
    (goes : ∀ s, Head env connection options world transfers s → (s.iterate env options).1.hasStopped = false)
    (bounded : ∀ s, Head env connection options world transfers s → s.iterations ≤ k) (enough : k < fuel) :
    ∃ s, execute env connection options fuel world transfers = some s := by
  suffices drained : ∀ fuel s, Head env connection options world transfers s → k < s.iterations + fuel →
      ∃ s', drain env options fuel s = some s' from
    drained fuel _ .first (Nat.lt_of_lt_of_le enough (Nat.le_add_left _ _))
  intro fuel
  induction fuel with
  | zero => exact fun s head room => absurd (bounded s head) (Nat.not_le_of_lt room)
  | succ fuel ih =>
    intro s head room
    rcases turned : s.iterate env options with ⟨s', last⟩
    have goes := goes s head
    rw [turned] at goes
    rw [drain_succ turned goes]
    cases last with
    | true => exact ⟨s', rfl⟩
    | false =>
      refine ih s' (.next head turned) ?_
      rw [(turn turned).counts.1]
      omega

end Session

end ArrayTransfer
