import ArrayTransfer.Proofs.Session.Safety

/-! The books of a multiplexer, kept from what a call asked it and what it answered: which requests it took, as which
    attempt at which transfer, and which of them it has not reported. What a multiplexer is to do is said of each entry
    of the journal, by the books up to it. -/

namespace ArrayTransfer

/-- A request that was taken: its handle, and which attempt at which transfer it is. -/
structure Taken where
  handle : Handle
  transfer : Nat
  attempt : Nat
  deriving DecidableEq

/-- Requests that were taken, and those of them that are not yet reported. -/
structure Ledger where
  taken : List Taken
  unreported : List Taken

namespace Ledger

/-- How many requests were taken for a transfer. -/
def tries (l : Ledger) (i : Nat) : Nat := l.taken.countP (·.transfer = i)

/-- A request is noted when it is taken, and struck out when its handle is reported. -/
def note (l : Ledger) : Event → Ledger
  | .submitted i _ (.ok handle) =>
    ⟨l.taken ++ [⟨handle, i, l.tries i + 1⟩], l.unreported ++ [⟨handle, i, l.tries i + 1⟩]⟩
  | .polled completions => { l with unreported := l.unreported.filter fun o => completions.all (·.handle ≠ o.handle) }
  | _ => l

/-- The books after a journal. -/
def of (journal : List Event) : Ledger := journal.foldl note ⟨[], []⟩

theorem of_append (journal more : List Event) : of (journal ++ more) = more.foldl note (of journal) := List.foldl_append

@[simp] theorem foldl_note_changes (l : Ledger) (i : Nat) (changes : List Change) :
    (changes.map (Event.changed i)).foldl note l = l := by
  induction changes with
  | nil => rfl
  | cons change changes ih => exact ih

@[simp] theorem foldl_note_noted (l : Ledger) (noted : List (Nat × Change)) :
    (noted.map fun n => Event.changed n.1 n.2).foldl note l = l := by
  induction noted with
  | nil => rfl
  | cons n noted ih => exact ih

@[simp] theorem tries_submitted (l : Ledger) (i j : Nat) (request : Request) (handle : Handle) :
    (l.note (.submitted j request (.ok handle))).tries i = if j = i then l.tries i + 1 else l.tries i := by
  unfold tries note
  rw [List.countP_append, List.countP_singleton]
  split <;> simp_all

theorem mem_submitted {l : Ledger} {j : Nat} {request : Request} {handle : Handle} {o : Taken} :
    o ∈ (l.note (.submitted j request (.ok handle))).unreported ↔
      o ∈ l.unreported ∨ o = ⟨handle, j, l.tries j + 1⟩ := by
  simp [note]

theorem mem_polled {l : Ledger} {completions : List Completion} {o : Taken} :
    o ∈ (l.note (.polled completions)).unreported ↔ o ∈ l.unreported ∧ ∀ c ∈ completions, c.handle ≠ o.handle := by
  simp [note]

end Ledger

/-! ### Rules -/

/-- Each entry of a journal is as the rule has it, given the books up to it. -/
def Follows (rule : Ledger → Event → Prop) : Ledger → List Event → Prop
  | _, [] => True
  | l, e :: rest => rule l e ∧ Follows rule (l.note e) rest

/-- Requests are taken, under handles that are not in use. -/
def Accepts (l : Ledger) : Event → Prop
  | .submitted _ _ (.ok handle) => ∀ o ∈ l.unreported, o.handle ≠ handle
  | .submitted _ _ (.error _) => False
  | _ => True

/-- What is reported of a request is the result of its attempt. -/
def Answers (results : Nat → Nat → Except TransportError Response) (l : Ledger) : Event → Prop
  | .polled completions =>
    ∀ c ∈ completions, ∀ o ∈ l.unreported, o.handle = c.handle → c.result = results o.transfer o.attempt
  | _ => True

/-- No request that was taken and not reported is left out of the count. -/
def Counts (l : Ledger) : Event → Prop
  | .counted pending => l.unreported.length ≤ pending
  | _ => True

/-- Of the requests that were taken and not reported, at least one is reported. -/
def Reports (l : Ledger) : Event → Prop
  | .polled completions => l.unreported ≠ [] → ∃ o ∈ l.unreported, ∃ c ∈ completions, c.handle = o.handle
  | _ => True

section rules
variable {rule : Ledger → Event → Prop} {l : Ledger} {journal more : List Event}

instance decidableFollows (rule : Ledger → Event → Prop) [∀ l e, Decidable (rule l e)] :
    (l : Ledger) → (journal : List Event) → Decidable (Follows rule l journal)
  | _, [] => .isTrue trivial
  | l, e :: rest => @instDecidableAnd _ _ _ (decidableFollows rule (l.note e) rest)

instance (l : Ledger) : (e : Event) → Decidable (Accepts l e)
  | .submitted _ _ (.ok handle) => inferInstanceAs (Decidable (∀ o ∈ l.unreported, o.handle ≠ handle))
  | .submitted _ _ (.error _) => .isFalse id
  | .polled _ | .counted _ | .changed .. | .clock _ | .slept _ | .unknownCompletion _ => .isTrue trivial

instance (results : Nat → Nat → Except TransportError Response) (l : Ledger) :
    (e : Event) → Decidable (Answers results l e)
  | .polled completions => inferInstanceAs (Decidable (∀ c ∈ completions, ∀ o ∈ l.unreported, o.handle = c.handle →
      c.result = results o.transfer o.attempt))
  | .submitted .. | .counted _ | .changed .. | .clock _ | .slept _ | .unknownCompletion _ => .isTrue trivial

instance (l : Ledger) : (e : Event) → Decidable (Counts l e)
  | .counted pending => inferInstanceAs (Decidable (l.unreported.length ≤ pending))
  | .submitted .. | .polled _ | .changed .. | .clock _ | .slept _ | .unknownCompletion _ => .isTrue trivial

instance (l : Ledger) : (e : Event) → Decidable (Reports l e)
  | .polled completions => inferInstanceAs (Decidable (l.unreported ≠ [] →
      ∃ o ∈ l.unreported, ∃ c ∈ completions, c.handle = o.handle))
  | .submitted .. | .counted _ | .changed .. | .clock _ | .slept _ | .unknownCompletion _ => .isTrue trivial

theorem follows_append :
    Follows rule l (journal ++ more) ↔ Follows rule l journal ∧ Follows rule (journal.foldl Ledger.note l) more := by
  induction journal generalizing l with
  | nil => exact iff_of_eq (true_and _).symm
  | cons e journal ih => exact (and_congr_right fun _ => ih).trans and_assoc.symm

theorem Session.Step.follows {σ : Type} {env : Environment σ} {connection : Connection} {options : SessionOptions}
    {m m' : Moment σ} (step : Session.Step env connection options m m') (h : Follows rule l m'.session.journal) :
    Follows rule l m.session.journal := by
  obtain ⟨more, noted⟩ := step.noted
  rw [noted] at h
  exact (follows_append.mp h).1

theorem Follows.at {e : Event} (h : Follows rule (.of []) (journal ++ e :: more)) : rule (.of journal) e :=
  (follows_append.mp h).2.1

end rules

/-! ### Steps -/

namespace Session

/-- A step has no request taken, or one for a transfer of the call. -/
theorem Step.taken {σ : Type} {env : Environment σ} {connection : Connection} {options : SessionOptions}
    {m m' : Moment σ} (h : Step env connection options m m') :
    (Ledger.of m'.session.journal).taken = (Ledger.of m.session.journal).taken ∨
      ∃ o : Taken, o.transfer < m.session.transfers.length ∧
        (Ledger.of m'.session.journal).taken = (Ledger.of m.session.journal).taken ++ [o] := by
  cases h with
  | @prepare s i t at_ =>
    left
    obtain ⟨_, -, -, eq⟩ | ⟨_, -, -, eq⟩ | ⟨-, eq⟩ := prepare_cases connection options.base64Writes s i t
    all_goals rw [eq]
    all_goals rw [update_journal, Ledger.of_append, Ledger.foldl_note_changes]
  | @submit s i t at_ ready =>
    obtain ⟨-, eq⟩ | ⟨_, handle, -, added, eq⟩ | ⟨_, _, -, added, eq⟩ := submit_cases env s i t
    · left
      rw [eq, update_journal, Ledger.of_append, Ledger.foldl_note_changes]
    · obtain ⟨inside, -⟩ := List.getElem?_eq_some_iff.mp at_
      refine .inr ⟨⟨handle, i, (Ledger.of s.journal).tries i + 1⟩, inside, ?_⟩
      rw [eq, asked_update_journal, added, Ledger.of_append, List.foldl_cons, Ledger.foldl_note_changes]
      rfl
    · left
      rw [eq, asked_update_journal, added, Ledger.of_append, List.foldl_cons, Ledger.foldl_note_changes]
      rfl
  | readClock s => exact .inl (by rw [readClock_journal, Ledger.of_append]; rfl)
  | beginFlight at_ => exact .inl (by rw [update_journal, Ledger.of_append, Ledger.foldl_note_changes])
  | count s => exact .inl rfl
  | @poll s =>
    have journal : (s.poll env options).2.journal = s.journal ++ [.polled (s.poll env options).1] := rfl
    exact .inl (by rw [journal, Ledger.of_append]; rfl)
  | deliver s c rest =>
    left
    obtain ⟨-, eq⟩ | ⟨_, _, -, -, eq⟩ := deliver_cases env options.retryPolicy s c
    · rw [eq, Ledger.of_append]
      rfl
    · rw [eq, update_journal, readClock_journal, Ledger.of_append, Ledger.of_append, Ledger.foldl_note_changes]
      rfl
  | countPending s =>
    have journal : (s.countPending env).2.journal = s.journal ++ [.counted (s.countPending env).1] := rfl
    exact .inl (by rw [journal, Ledger.of_append]; rfl)
  | @abandon s =>
    obtain ⟨-, -, _, eq⟩ := failUnfinished_spec s
    exact .inl (by rw [eq, Ledger.of_append, Ledger.foldl_note_noted])
  | wait s =>
    left
    obtain eq | ⟨_, eq⟩ := waitForRetry_cases env s <;> rw [eq]
    rw [Ledger.of_append]
    rfl

end Session

end ArrayTransfer
