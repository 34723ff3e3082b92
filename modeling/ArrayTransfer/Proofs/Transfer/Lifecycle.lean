import ArrayTransfer.Transfer.Basic

/-! The life of one transfer: what each operation makes of its state, and of the handle, request and error that it holds
    (`Transfer.Coupled`). Each operation is given by all that it can do (`configure_cases`, `complete_cases`). -/

namespace ArrayTransfer

/-- The changes lead from the one state to the other by allowed moves, each from where the one before it ended. -/
inductive Leads : TransferState → List Change → TransferState → Prop
  | refl (a : TransferState) : Leads a [] a
  | moved {a b c : TransferState} {rest : List Change} (may : a.canMoveTo b = true) (h : Leads b rest c) :
    Leads a (.moved a b :: rest) c
  | retrying {a b : TransferState} {rest : List Change} (attempt : UInt32) (e : TransferError) (h : Leads a rest b) :
    Leads a (.retrying attempt e :: rest) b
  | failed {a b : TransferState} {rest : List Change} (attempts : UInt32) (e : TransferError) (h : Leads a rest b) :
    Leads a (.failed attempts e :: rest) b

theorem Leads.single {a b : TransferState} (may : a.canMoveTo b = true) : Leads a [.moved a b] b := .moved may (.refl b)

theorem Leads.trans {a b c : TransferState} {changes more : List Change} (h : Leads a changes b) (h' : Leads b more c) :
    Leads a (changes ++ more) c := by
  induction h with
  | refl => exact h'
  | moved may _ ih => exact .moved may (ih h')
  | retrying attempt e _ ih => exact .retrying attempt e (ih h')
  | failed attempts e _ ih => exact .failed attempts e (ih h')

theorem TransferState.canMoveTo_failed {a : TransferState} (h : a.isTerminal = false) : a.canMoveTo .failed = true := by
  cases a <;> first | rfl | cases h

namespace Transfer

/-- A handle, a request and an error are held exactly in the states that need them. -/
structure Coupled (t : Transfer) : Prop where
  handle : t.handle.isSome ↔ t.state = .enqueued ∨ t.state = .inFlight
  request : t.request.isSome ↔
    t.state = .configured ∨ t.state = .enqueued ∨ t.state = .inFlight ∨ t.state = .retryPending
  error : t.error.isSome ↔ t.state = .failed

/-- A transfer that no call is busy with: it is new, or a call has ended it. -/
structure Idle (t : Transfer) : Prop extends t.Coupled where
  state : t.state = .init ∨ t.state.isTerminal = true

variable {t : Transfer} {connection : Connection} {base64 : Bool} {policy : RetryPolicy} {now : Instant}
  {result : Except TransportError Response}

theorem Idle.of_make {direction : Direction} {array : RemoteArray} {selection : Selection} {memory : Option Dataspace}
    {callerType : DataType} {buffer : Bytes} (h : make direction array selection memory callerType buffer = .ok t) :
    t.Idle := by
  unfold make at h
  split at h
  · cases h
  · split at h
    · cases h
    · simp only at h
      split at h
      · cases h
      · cases h
        exact ⟨⟨by simp, by simp, by simp⟩, .inl rfl⟩

theorem Coupled.error_eq_none (h : t.Coupled) (unfailed : t.state ≠ .failed) : t.error = none :=
  Option.not_isSome_iff_eq_none.mp fun held => unfailed (h.error.mp held)

theorem retryPending_of_isRetryDue (h : t.isRetryDue now = true) : t.state = .retryPending := by
  obtain ⟨state, -⟩ := (Bool.and_eq_true _ _).mp h
  exact of_decide_eq_true state

/-! ### Operations -/

/-- Configuring notes the mode, and builds the request if there are elements. -/
theorem configure_cases {done : Changed} (h : t.configure connection base64 = .ok done) :
    ∃ mode count request, plan connection base64 t = .ok (mode, count, request) ∧
      (count = 0 ∧ done = ({ t with mode := some mode, state := .succeeded },
          [.moved t.state .configured, .moved .configured .succeeded]) ∨
        count ≠ 0 ∧ done = ({ t with mode := some mode, state := .configured, request := some request },
          [.moved t.state .configured])) := by
  unfold configure at h
  cases planned : plan connection base64 t with
  | error e =>
    rw [planned] at h
    cases h
  | ok p =>
    obtain ⟨mode, count, request⟩ := p
    simp only [planned, moveTo] at h
    refine ⟨mode, count, request, rfl, ?_⟩
    split at h
    · rename_i none
      cases h
      exact .inl ⟨none, rfl⟩
    · rename_i some
      cases h
      exact .inr ⟨some, rfl⟩

/-- An attempt ends well, or with an error that is worth another attempt, or with one that is not. -/
theorem complete_cases (t : Transfer) (policy : RetryPolicy) (now : Instant) (result : Except TransportError Response) :
    (∃ buffer, t.outcome result = .ok buffer ∧
      t.complete policy now result = ({ t with handle := none, buffer := buffer, request := none, state := .succeeded },
        [.moved t.state .succeeded])) ∨
    (∃ e retry, t.outcome result = .error e ∧ t.retry.schedule policy e now = (true, retry) ∧
      t.complete policy now result = ({ t with handle := none, retry := retry, state := .retryPending },
        [.retrying retry.attempts e, .moved t.state .retryPending])) ∨
    ∃ e retry, t.outcome result = .error e ∧ t.retry.schedule policy e now = (false, retry) ∧
      t.complete policy now result = fail { t with handle := none, retry := { retry with lastError := none } } e := by
  unfold complete
  cases t.outcome result with
  | ok buffer => exact .inl ⟨buffer, rfl, rfl⟩
  | error e =>
    simp only
    cases scheduled : t.retry.schedule policy e now with
    | mk again retry =>
      cases again with
      | true => exact .inr (.inl ⟨e, retry, rfl, scheduled, rfl⟩)
      | false => exact .inr (.inr ⟨e, retry, rfl, scheduled, rfl⟩)

theorem coupled_fail (t : Transfer) (e : TransferError) : (t.fail e).1.Coupled := by
  refine ⟨?_, ?_, ?_⟩ <;> simp [fail]

theorem leads_fail (unfinished : t.state.isTerminal = false) (e : TransferError) :
    Leads t.state (t.fail e).2 (t.fail e).1.state :=
  .failed _ _ (.single (TransferState.canMoveTo_failed unfinished))

theorem coupled_configure {done : Changed} (h : t.Coupled) (new : t.state = .init)
    (ok : t.configure connection base64 = .ok done) : done.1.Coupled ∧ Leads t.state done.2 done.1.state := by
  have handle : t.handle = none := Option.not_isSome_iff_eq_none.mp (by simp [h.handle, new])
  have request : t.request = none := Option.not_isSome_iff_eq_none.mp (by simp [h.request, new])
  have error := h.error_eq_none (by rw [new]; exact nofun)
  obtain ⟨mode, count, request, -, ⟨-, rfl⟩ | ⟨-, rfl⟩⟩ := configure_cases ok
  · rw [new]
    exact ⟨⟨by simp [handle], by simp_all, by simp [error]⟩, .moved rfl (.single rfl)⟩
  · rw [new]
    exact ⟨⟨by simp [handle], by simp, by simp [error]⟩, .single rfl⟩

theorem coupled_submitted {request : Request} (h : t.Coupled) (ready : t.state = .configured ∨ t.state = .retryPending)
    (held : t.request = some request) (handle : Handle) :
    (t.submitted handle).1.Coupled ∧ Leads t.state (t.submitted handle).2 (t.submitted handle).1.state := by
  have error := h.error_eq_none (by obtain state | state := ready <;> rw [state] <;> exact nofun)
  refine ⟨⟨by simp [submitted, moveTo], by simp [submitted, moveTo, held], by simp [submitted, moveTo, error]⟩, ?_⟩
  refine .single ?_
  obtain state | state := ready
  · exact congrArg (·.canMoveTo .enqueued) state
  · exact congrArg (·.canMoveTo .enqueued) state

theorem coupled_began (h : t.Coupled) (enqueued : t.state = .enqueued) :
    (t.moveTo .inFlight).1.Coupled ∧ Leads t.state (t.moveTo .inFlight).2 .inFlight := by
  have handle := h.handle.mpr (.inl enqueued)
  have request := h.request.mpr (.inr (.inl enqueued))
  have error := h.error_eq_none (by rw [enqueued]; exact nofun)
  refine ⟨⟨by simp [moveTo, handle], by simp [moveTo, request], by simp [moveTo, error]⟩, ?_⟩
  exact .single (congrArg (·.canMoveTo .inFlight) enqueued)

theorem coupled_complete (h : t.Coupled) (flying : t.state = .inFlight) : (t.complete policy now result).1.Coupled ∧
    Leads t.state (t.complete policy now result).2 (t.complete policy now result).1.state := by
  have request := h.request.mpr (.inr (.inr (.inl flying)))
  have error := h.error_eq_none (by rw [flying]; exact nofun)
  obtain ⟨buffer, -, eq⟩ | ⟨e, retry, -, -, eq⟩ | ⟨e, retry, -, -, eq⟩ := complete_cases t policy now result
  · rw [eq, flying]
    exact ⟨⟨by simp, by simp, by simp [error]⟩, .single rfl⟩
  · rw [eq, flying]
    exact ⟨⟨by simp, by simp [request], by simp [error]⟩, .retrying _ _ (.single rfl)⟩
  · rw [eq]
    refine ⟨coupled_fail _ _, ?_⟩
    exact leads_fail (t := { t with handle := none, retry := { retry with lastError := none } })
      (congrArg (·.isTerminal) flying) e

end Transfer

end ArrayTransfer
