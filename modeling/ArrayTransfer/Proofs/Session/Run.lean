import ArrayTransfer.Proofs.Session.Deed
import ArrayTransfer.Proofs.Transfer.Lifecycle
import Mathlib.Logic.Relation

/-! A whole call as steps: `Reaches` is any number of them, and every session that a call passes through is reached, at
    the head of each turn of the loop (`reaches_head`) and at its end (`reaches_execute`). With an eye on the clock the
    same holds of `Runs`, whose steps start a retry only when it is due (`runs_head`, `runs_execute`). -/

namespace ArrayTransfer.Session

variable {σ : Type} {env : Environment σ} {connection : Connection} {options : SessionOptions} {world : σ}
  {transfers : List Transfer} {s s' : Session σ} {m m' : Moment σ} {i : Nat} {t u : Transfer}

/-- Any number of steps. -/
def Reaches (env : Environment σ) (connection : Connection) (options : SessionOptions) : Moment σ → Moment σ → Prop :=
  Relation.ReflTransGen (Step env connection options)

theorem Reaches.trans {m'' : Moment σ} (h : Reaches env connection options m m')
    (h' : Reaches env connection options m' m'') : Reaches env connection options m m'' :=
  Relation.ReflTransGen.trans h h'

theorem Reaches.noted (h : Reaches env connection options m m') :
    ∃ more, m'.session.journal = m.session.journal ++ more := by
  induction h with
  | refl => exact ⟨[], (List.append_nil _).symm⟩
  | tail _ step ih =>
    obtain ⟨more, eq⟩ := ih
    obtain ⟨last, eq'⟩ := step.noted
    exact ⟨more ++ last, by rw [eq', eq, List.append_assoc]⟩

/-- The moment at which a call begins. -/
def opening (world : σ) (transfers : List Transfer) : Moment σ := ⟨⟨world, transfers, 0, []⟩, []⟩

/-- Any number of steps on time. -/
def Runs (env : Environment σ) (connection : Connection) (options : SessionOptions) : Moment σ → Moment σ → Prop :=
  Relation.ReflTransGen (Timely env connection options)

theorem Runs.reaches (h : Runs env connection options m m') : Reaches env connection options m m' :=
  Relation.ReflTransGen.mono (fun _ _ => Timely.step) _ _ h

/-! ### Launched transfers -/

theorem Deed.launched {changes : List Change} (h : Deed env connection options m t u changes) (ht : t.Launched) :
    u.Launched := by
  cases h with
  | kept => exact ht
  | configured new => exact absurd new ht.1
  | refused | submitted | rejected | began | abandoned => exact ⟨nofun, nofun⟩
  | @completed c rest now =>
    obtain ⟨_, -, eq⟩ | ⟨_, _, -, -, eq⟩ | ⟨_, _, -, -, eq⟩ := t.complete_cases options.retryPolicy now c.result <;>
      rw [eq] <;> exact ⟨nofun, nofun⟩

theorem Step.launched (h : Step env connection options m m') (hm : ∀ t ∈ m.session.transfers, t.Launched) :
    ∀ t ∈ m'.session.transfers, t.Launched := by
  intro u hu
  obtain ⟨i, hi⟩ := List.getElem?_of_mem hu
  obtain ⟨t, _, ht, deed⟩ := h.deed_back hi
  exact deed.launched (hm t (List.mem_of_getElem? ht))

theorem launched_of_submit (env : Environment σ) (s : Session σ) (i : Nat) (t : Transfer) :
    ∃ u : Transfer, u.Launched ∧ (s.submit env i t).transfers = s.transfers.set i u := by
  obtain ⟨-, eq⟩ | ⟨_, _, -, -, eq⟩ | ⟨_, _, -, -, eq⟩ := submit_cases env s i t <;> rw [eq] <;>
    refine ⟨_, ?_, rfl⟩ <;> exact ⟨nofun, nofun⟩

theorem launched_of_launch (at_ : s.transfers[i]? = some t) : ∃ u : Transfer,
    u.Launched ∧ (s.launch env connection options.base64Writes i t).transfers = s.transfers.set i u := by
  have prepared : ∃ u : Transfer, u.state ≠ .init ∧
      (s.prepare connection options.base64Writes i t).transfers = s.transfers.set i u := by
    obtain ⟨done, -, ok, eq⟩ | ⟨e, -, -, eq⟩ | ⟨old, eq⟩ :=
      prepare_cases connection options.base64Writes s i t
    · rw [eq]
      refine ⟨_, ?_, rfl⟩
      obtain ⟨_, _, _, -, ⟨-, rfl⟩ | ⟨-, rfl⟩⟩ := Transfer.configure_cases ok <;> exact nofun
    · rw [eq]
      refine ⟨_, ?_, rfl⟩
      exact nofun
    · rw [eq]
      exact ⟨t, old, (set_eq_self at_).symm⟩
  obtain ⟨u, new, set⟩ := prepared
  unfold launch
  simp only [set, getElem?_set_self at_]
  split
  · obtain ⟨v, launched, set'⟩ := launched_of_submit env (s.prepare connection options.base64Writes i t) i u
    exact ⟨v, launched, by rw [set', set, List.set_set]⟩
  · rename_i other
    exact ⟨u, ⟨new, other⟩, set⟩

theorem launched_of_start (world : σ) (transfers : List Transfer) :
    ∀ t ∈ (start env connection options world transfers).transfers, t.Launched := by
  intro u hu
  obtain ⟨-, -, launched⟩ := forEach_mem (Q := fun _ u => u.Launched) (fun _ _ _ => launched_of_launch) _ u hu
  exact launched

/-! ### Turns of the loop -/

/-- The session after the retries that are due are started. -/
def withRetries (env : Environment σ) (s : Session σ) : Session σ :=
  (s.readClock env).2.startDue env (s.readClock env).1

/-- The session with all that was handed over under way, in its next turn. -/
def boarded (s : Session σ) : Session σ :=
  { s.forEach fun s i t => s.update i t.beginFlight with
    iterations := (s.forEach fun s i t => s.update i t.beginFlight).iterations + 1 }

theorem iterate_eq (env : Environment σ) (options : SessionOptions) (s : Session σ) : s.iterate env options =
    if (s.withRetries env).isFinished then (s.withRetries env, true)
    else if (s.withRetries env).isExhausted options then ((s.withRetries env).failUnfinished, true)
    else if (s.withRetries env).boarded.transfers.any (·.state = .inFlight) then
      ((s.withRetries env).boarded.pollOnce env options, false)
    else ((s.withRetries env).boarded.waitForRetry env, false) := rfl

theorem aloft_of_boarded (launched : ∀ t ∈ s.transfers, t.Launched) : ∀ t ∈ s.boarded.transfers, t.Aloft := by
  intro u hu
  obtain ⟨t, ht, rfl⟩ := forEach_mem (Q := fun t u => u = t.beginFlight.1) (fun _ _ _ _ => ⟨_, rfl, rfl⟩) s u hu
  obtain ⟨new, configured⟩ := launched t ht
  unfold Transfer.beginFlight
  split
  · exact .inl rfl
  · rename_i other
    unfold Transfer.Aloft
    cases state : t.state with
    | init => exact absurd state new
    | configured => exact absurd state configured
    | enqueued => exact absurd state other
    | inFlight => exact .inl rfl
    | retryPending => exact .inr (.inl rfl)
    | succeeded | failed => exact .inr (.inr rfl)

namespace Runs

theorem refl (m : Moment σ) : Runs env connection options m m := Relation.ReflTransGen.refl

theorem trans {m₁ m₂ m₃ : Moment σ} (h : Runs env connection options m₁ m₂) (h' : Runs env connection options m₂ m₃) :
    Runs env connection options m₁ m₃ :=
  Relation.ReflTransGen.trans h h'

theorem single (h : Timely env connection options m m') : Runs env connection options m m' :=
  Relation.ReflTransGen.single h

theorem launched (h : Runs env connection options m m') (hm : ∀ t ∈ m.session.transfers, t.Launched) :
    ∀ t ∈ m'.session.transfers, t.Launched := by
  induction h with
  | refl => exact hm
  | tail _ timely ih => exact timely.step.launched ih

theorem forEach {f : Session σ → Nat → Transfer → Session σ}
    (each : ∀ s i t, s.transfers[i]? = some t → Runs env connection options ⟨s, []⟩ ⟨f s i t, []⟩) (s : Session σ) :
    Runs env connection options ⟨s, []⟩ ⟨s.forEach f, []⟩ :=
  forEach_rel (R := fun s s' => Runs env connection options ⟨s, []⟩ ⟨s', []⟩) (fun _ => refl _)
    (fun _ _ _ => trans) each s

theorem launch (at_ : s.transfers[i]? = some t) :
    Runs env connection options ⟨s, []⟩ ⟨s.launch env connection options.base64Writes i t, []⟩ := by
  refine trans (single (.prepare at_)) ?_
  unfold Session.launch
  simp only
  split
  · rename_i u hu
    split
    · rename_i configured
      exact single (.first hu configured)
    · exact refl _
  · exact refl _

theorem start (world : σ) (transfers : List Transfer) :
    Runs env connection options (opening world transfers) ⟨start env connection options world transfers, []⟩ :=
  forEach (fun _ _ _ => launch) _

theorem lastReading_of_submit (env : Environment σ) (s : Session σ) (i : Nat) (t : Transfer) :
    lastReading (s.submit env i t).journal = lastReading s.journal := by
  obtain ⟨-, eq⟩ | ⟨_, handle, -, -, eq⟩ | ⟨_, e, -, -, eq⟩ := submit_cases env s i t <;>
    rw [eq] <;> simp [lastReading, Transfer.submitted, Transfer.moveTo, Transfer.fail]

/-- While the retries that are due are started, no other time is read. -/
theorem startDue {now : Instant} (read : lastReading s.journal = some now) :
    Runs env connection options ⟨s, []⟩ ⟨s.startDue env now, []⟩ := by
  refine (forEach_rel (R := fun s s' => lastReading s.journal = some now →
    Runs env connection options ⟨s, []⟩ ⟨s', []⟩ ∧ lastReading s'.journal = some now)
    (fun s read => ⟨refl _, read⟩) (fun a b c h h' read => ?_) (fun s i t at_ read => ?_) s read).1
  · obtain ⟨there, read⟩ := h read
    obtain ⟨onward, read⟩ := h' read
    exact ⟨there.trans onward, read⟩
  · split
    · rename_i due
      exact ⟨single (.retry at_ read due), (lastReading_of_submit env s i t).trans read⟩
    · exact ⟨refl _, read⟩

theorem withRetries (s : Session σ) : Runs env connection options ⟨s, []⟩ ⟨s.withRetries env, []⟩ :=
  trans (single (.readClock s)) (startDue (by simp [lastReading]; rfl))

theorem boarded (s : Session σ) : Runs env connection options ⟨s, []⟩ ⟨s.boarded, []⟩ :=
  trans (forEach (fun _ _ _ at_ => single (.beginFlight at_)) s) (single (.count _))

theorem deliverAll (completions : List Completion) (s : Session σ) :
    Runs env connection options ⟨s, completions⟩ ⟨completions.foldl (deliver env options.retryPolicy) s, []⟩ := by
  induction completions generalizing s with
  | nil => exact refl _
  | cons c rest ih => exact trans (single (.deliver s c rest)) (ih _)

theorem pollOnce (aloft : ∀ t ∈ s.transfers, t.Aloft) (flying : ∃ t ∈ s.transfers, t.state = .inFlight) :
    Runs env connection options ⟨s, []⟩ ⟨s.pollOnce env options, []⟩ := by
  have delivered := trans (single (.poll aloft flying))
    (deliverAll (s.poll env options).1 (s.poll env options).2 : Runs env connection options _ _)
  unfold Session.pollOnce
  simp only
  split
  · rename_i empty
    refine trans delivered (trans (single (.countPending _)) ?_)
    split
    · rename_i nothing
      -- Nothing was handed out, so that the transfers are those before the poll.
      rw [List.isEmpty_iff] at empty
      refine single (.abandon (.inr ?_))
      rw [empty] at nothing ⊢
      refine ⟨aloft, flying, s.journal, ?_⟩
      simp only [countPending, List.foldl_nil] at nothing ⊢
      rw [nothing]
      show s.journal ++ [.polled (s.poll env options).1] ++ [.counted 0] = _
      rw [empty, List.append_assoc]
      rfl
    · exact refl _
  · exact delivered

theorem iterate (hs : ∀ t ∈ s.transfers, t.Launched) :
    Runs env connection options ⟨s, []⟩ ⟨(s.iterate env options).1, []⟩ := by
  have retried : Runs env connection options _ _ := withRetries s
  refine trans retried ?_
  rw [iterate_eq]
  split
  · exact refl _
  · split
    · rename_i exhausted
      exact single (.abandon (.inl exhausted))
    · refine trans (boarded _) ?_
      split
      · rename_i flying
        obtain ⟨t, ht, flying⟩ := List.any_eq_true.mp flying
        exact pollOnce (aloft_of_boarded (retried.launched hs)) ⟨t, ht, of_decide_eq_true flying⟩
      · exact single (.wait _)

end Runs

/-! ### Whole calls -/

/-- The sessions at the head of the loop of a call, one for each turn. -/
inductive Head (env : Environment σ) (connection : Connection) (options : SessionOptions) (world : σ)
    (transfers : List Transfer) : Session σ → Prop
  | first : Head env connection options world transfers (start env connection options world transfers)
  | next {s s' : Session σ} (h : Head env connection options world transfers s)
    (more : s.iterate env options = (s', false)) : Head env connection options world transfers s'

theorem runs_head (h : Head env connection options world transfers s) :
    Runs env connection options (opening world transfers) ⟨s, []⟩ ∧ ∀ t ∈ s.transfers, t.Launched := by
  induction h with
  | first => exact ⟨.start world transfers, launched_of_start world transfers⟩
  | @next s s' _ more ih =>
    obtain ⟨run, launched⟩ := ih
    have turn : Runs env connection options _ _ := .iterate launched
    rw [more] at turn
    exact ⟨run.trans turn, turn.launched launched⟩

theorem reaches_head (h : Head env connection options world transfers s) :
    Reaches env connection options (opening world transfers) ⟨s, []⟩ ∧ ∀ t ∈ s.transfers, t.Launched :=
  (runs_head h).imp_left Runs.reaches

theorem drain_succ {fuel : Nat} {last : Bool} (turned : s.iterate env options = (s', last))
    (goes : s'.hasStopped = false) :
    drain env options (fuel + 1) s = if last then some s' else drain env options fuel s' := by
  simp [drain, turned, goes]

/-- A call does not end if the program stops in the first turn. -/
theorem execute_eq_none
    (stopped : ((start env connection options world transfers).iterate env options).1.hasStopped = true) (fuel : Nat) :
    execute env connection options fuel world transfers = none := by
  cases fuel with
  | zero => rfl
  | succ fuel => exact if_pos stopped

/-- Turns that come to an end are one turn in which the program does not stop, and, unless it is the last, further turns
    that come to an end. -/
theorem drain_succ_eq_some {fuel : Nat} (h : drain env options (fuel + 1) s = some s') :
    ∃ u last, s.iterate env options = (u, last) ∧ u.hasStopped = false ∧
      (last = true ∧ u = s' ∨ last = false ∧ drain env options fuel u = some s') := by
  rcases turned : s.iterate env options with ⟨u, last⟩
  simp only [drain, turned] at h
  split at h
  · cases h
  · rename_i goes
    refine ⟨u, last, rfl, eq_false_of_ne_true goes, ?_⟩
    split at h
    · rename_i ended
      exact .inl ⟨ended, Option.some.inj h⟩
    · rename_i more
      exact .inr ⟨eq_false_of_ne_true more, h⟩

/-- A call ends with the turn that is the last. -/
theorem head_of_execute {fuel : Nat} (h : execute env connection options fuel world transfers = some s) :
    ∃ u, Head env connection options world transfers u ∧ u.iterate env options = (s, true) := by
  suffices loop : ∀ u, Head env connection options world transfers u → drain env options fuel u = some s →
      ∃ u, Head env connection options world transfers u ∧ u.iterate env options = (s, true) from loop _ .first h
  clear h
  intro u hu
  induction fuel generalizing u with
  | zero => exact nofun
  | succ fuel ih =>
    intro h
    obtain ⟨v, _, turned, -, ⟨rfl, rfl⟩ | ⟨rfl, left⟩⟩ := drain_succ_eq_some h
    · exact ⟨u, hu, turned⟩
    · exact ih v (.next hu turned) left

theorem runs_execute {fuel : Nat} (h : execute env connection options fuel world transfers = some s) :
    Runs env connection options (opening world transfers) ⟨s, []⟩ := by
  obtain ⟨u, hu, last⟩ := head_of_execute h
  obtain ⟨run, launched⟩ := runs_head hu
  have turn : Runs env connection options _ _ := .iterate launched
  rw [last] at turn
  exact run.trans turn

theorem reaches_execute {fuel : Nat} (h : execute env connection options fuel world transfers = some s) :
    Reaches env connection options (opening world transfers) ⟨s, []⟩ := (runs_execute h).reaches

/-- A call that ends has turns left at the head of each of its turns. -/
theorem drain_of_head {s' : Session σ} {fuel : Nat} (head : Head env connection options world transfers s)
    (done : execute env connection options fuel world transfers = some s') :
    ∃ fuel, drain env options (fuel + 1) s = some s' := by
  have left {u : Session σ} {fuel : Nat} (drained : drain env options fuel u = some s') :
      ∃ fuel, drain env options (fuel + 1) u = some s' := by
    cases fuel with
    | zero => cases drained
    | succ fuel => exact ⟨fuel, drained⟩
  induction head with
  | first => exact left done
  | next _ more ih =>
    obtain ⟨fuel, drained⟩ := ih
    obtain ⟨_, _, turned, -, ⟨rfl, -⟩ | ⟨rfl, drained⟩⟩ := drain_succ_eq_some drained
    · cases more.symm.trans turned
    · cases more.symm.trans turned
      exact left drained

/-- A call that ends goes on to its end from each of its turns. -/
theorem reaches_of_turn {s' : Session σ} {fuel : Nat} (head : Head env connection options world transfers s)
    (done : execute env connection options fuel world transfers = some s') :
    Reaches env connection options ⟨(s.iterate env options).1, []⟩ ⟨s', []⟩ := by
  obtain ⟨fuel, drained⟩ := drain_of_head head done
  clear done
  induction fuel generalizing s with
  | zero =>
    obtain ⟨_, _, turned, -, ⟨-, rfl⟩ | ⟨-, none⟩⟩ := drain_succ_eq_some drained
    · rw [turned]
      exact .refl
    · cases none
  | succ fuel ih =>
    obtain ⟨v, _, turned, -, ⟨-, rfl⟩ | ⟨rfl, drained⟩⟩ := drain_succ_eq_some drained
    · rw [turned]
      exact .refl
    · have next : Head env connection options world transfers v := .next head turned
      rw [turned]
      exact (Runs.iterate (runs_head next).2).reaches.trans (ih next drained)

/-- A call that ends goes on to its end from the head of each of its turns. -/
theorem reaches_of_head {s' : Session σ} {fuel : Nat} (head : Head env connection options world transfers s)
    (done : execute env connection options fuel world transfers = some s') :
    Reaches env connection options ⟨s, []⟩ ⟨s', []⟩ :=
  (Runs.iterate (runs_head head).2).reaches.trans (reaches_of_turn head done)

/-- When a call ends, every transfer is final. -/
theorem isTerminal_of_execute {fuel : Nat} (h : execute env connection options fuel world transfers = some s) :
    ∀ t ∈ s.transfers, t.state.isTerminal = true := by
  obtain ⟨u, -, last⟩ := head_of_execute h
  rw [iterate_eq] at last
  split at last
  · rename_i finished
    cases last
    exact List.all_eq_true.mp finished
  · split at last
    · cases last
      exact isTerminal_of_failUnfinished _
    · split at last <;> cases last

end ArrayTransfer.Session
