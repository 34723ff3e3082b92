import ArrayTransfer.Proofs.Session.Safety
import ArrayTransfer.Proofs.Transfer.Fate
import ArrayTransfer.Proofs.Transfer.Sendable

/-! What goes out for a transfer, whatever the environment does. A transfer holds one request, that it was configured
    with, as long as it is attempted at all (`Faithful`), so that each attempt makes the same request; without such a
    request, for one that has no elements or cannot be configured, none is made. -/

namespace ArrayTransfer

namespace Transfer

variable {connection : Connection} {options : SessionOptions} {t u : Transfer} {request : Request}

/-! ### Requests that are built -/

/-- The request is the one that the transfer is configured with. -/
def Builds (t : Transfer) (connection : Connection) (base64 : Bool) (request : Request) : Prop :=
  ∃ done, t.configure connection base64 = .ok done ∧ done.1.request = some request

theorem buffer_prepared (t : Transfer) (connection : Connection) (options : SessionOptions) :
    (t.prepared connection options).buffer = t.buffer := by
  unfold prepared
  cases configured : t.configure connection options.base64Writes with
  | error e => rfl
  | ok done => obtain ⟨_, _, _, -, ⟨-, rfl⟩ | ⟨-, rfl⟩⟩ := configure_cases configured <;> rfl

/-- A transfer that is prepared for attempts has the request that it was configured with, and it can be sent. -/
theorem built_of_prepared (configured : (t.prepared connection options).state = .configured) :
    ∃ request, (t.prepared connection options).request = some request ∧
      t.Builds connection options.base64Writes request ∧ t.Sendable request := by
  unfold prepared at configured ⊢
  cases ok : t.configure connection options.base64Writes with
  | error e =>
    rw [ok] at configured
    cases configured
  | ok done =>
    rw [ok] at configured
    obtain ⟨mode, count, request, planned, ⟨-, rfl⟩ | ⟨some, rfl⟩⟩ := configure_cases ok
    · cases configured
    · exact ⟨request, rfl, ⟨_, ok, rfl⟩, sendable_of_plan planned some⟩

/-- What a call can have made of the new transfer `t`: nothing yet, or an attempt of what was prepared, or it has ended,
    with its buffer as it was if it has no elements. -/
inductive Faithful (connection : Connection) (options : SessionOptions) (t : Transfer) : Transfer → Prop
  | new : Faithful connection options t t
  | attempting {u : Transfer} (attempts : (t.prepared connection options).Attempts u) : Faithful connection options t u
  | ended {u : Transfer} (terminal : u.state.isTerminal = true)
    (unread : t.fileSpace.elementCount = 0 → u.buffer = t.buffer) : Faithful connection options t u

namespace Faithful

theorem buffer_eq (h : Faithful connection options t u) (none : t.fileSpace.elementCount = 0) :
    u.buffer = t.buffer := by
  cases h with
  | new => rfl
  | attempting attempts => exact attempts.same.buffer.trans (buffer_prepared t connection options)
  | ended _ unread => exact unread none

theorem fail (h : Faithful connection options t u) (e : TransferError) : Faithful connection options t (u.fail e).1 :=
  .ended rfl h.buffer_eq

/-- What is not prepared yet is as it was. -/
theorem eq_of_init (h : Faithful connection options t u) (coupled : u.Coupled) (new : u.state = .init) : u = t := by
  cases h with
  | new => rfl
  | attempting attempts =>
    obtain ⟨request, held, -⟩ := built_of_prepared attempts.configured
    have held : u.request.isSome = true := Option.isSome_of_eq_some (attempts.request.trans held)
    have state := coupled.request.mp held
    rw [new] at state
    obtain state | state | state | state := state <;> cases state
  | ended terminal =>
    rw [new] at terminal
    cases terminal

/-- What is under way is an attempt of what was prepared. -/
theorem attempts (h : Faithful connection options t u) (fresh : t.Fresh) (begun : u.state ≠ .init)
    (unfinished : u.state.isTerminal = false) : (t.prepared connection options).Attempts u := by
  cases h with
  | new => exact absurd fresh.state begun
  | attempting attempts => exact attempts
  | ended terminal =>
    rw [unfinished] at terminal
    cases terminal

theorem attempts_of_ready (h : Faithful connection options t u) (fresh : t.Fresh)
    (ready : u.state = .configured ∨ u.state = .retryPending) : (t.prepared connection options).Attempts u := by
  obtain state | state := ready
  · exact h.attempts fresh (by rw [state]; exact nofun) (by rw [state]; rfl)
  · exact h.attempts fresh (by rw [state]; exact nofun) (by rw [state]; rfl)

/-- A transfer that holds a request holds the one that it was configured with. -/
theorem built (attempts : (t.prepared connection options).Attempts u) (held : u.request = some request) :
    t.Builds connection options.base64Writes request ∧ t.Sendable request := by
  obtain ⟨own, prepared, built, sendable⟩ := built_of_prepared attempts.configured
  cases (attempts.request.trans prepared).symm.trans held
  exact ⟨built, sendable⟩

theorem configured {done : Changed} (fresh : t.Fresh) (ok : t.configure connection options.base64Writes = .ok done) :
    Faithful connection options t done.1 := by
  have prepared : t.prepared connection options = done.1 := by
    unfold Transfer.prepared
    rw [ok]
  rw [← prepared]
  obtain ⟨-, ⟨state, -, error⟩ | terminal⟩ := fresh.prepared connection options
  · exact .attempting ⟨state, ⟨rfl, rfl, rfl, rfl, rfl, rfl, rfl⟩, rfl, error⟩
  · exact .ended terminal fun _ => buffer_prepared t connection options

theorem complete (attempts : (t.prepared connection options).Attempts u) (policy : RetryPolicy) (now : Instant)
    (result : Except TransportError Response) : Faithful connection options t (u.complete policy now result).1 := by
  obtain ⟨request, -, -, sendable⟩ := built_of_prepared attempts.configured
  obtain ⟨buffer, -, eq⟩ | ⟨e, retry, -, -, eq⟩ | ⟨e, retry, -, -, eq⟩ := u.complete_cases policy now result <;> rw [eq]
  · exact .ended rfl fun none => absurd none sendable.elements
  · exact .attempting (attempts.goOn ⟨rfl, rfl, rfl, rfl, rfl, rfl, rfl⟩ rfl rfl)
  · exact .ended rfl fun none => absurd none sendable.elements

end Faithful

end Transfer

namespace Session
open Transfer

variable {σ : Type} {env : Environment σ} {connection : Connection} {options : SessionOptions} {world : σ}
  {transfers : List Transfer} {m : Moment σ} {i : Nat} {t u v : Transfer} {entries : List Event} {request : Request}
  {result : Except TransportError Handle} {Ready : Transfer → Prop}

/-! ### Runs -/

/-- Each act is faithful to the transfer that there was. -/
theorem Act.faithful (act : Act connection options Ready m i u v entries) (sound : Sound m)
    (hu : u ∈ m.session.transfers) (ready : Ready u → u.state = .configured ∨ u.state = .retryPending)
    (fresh : t.Fresh) (h : Faithful connection options t u) : Faithful connection options t v := by
  cases act with
  | kept => exact h
  | configured new ok =>
    obtain rfl := h.eq_of_init (sound.coupled u hu) new
    exact .configured fresh ok
  | refused | rejected | unasked | abandoned => exact h.fail _
  | submitted _ this =>
    have attempts := h.attempts_of_ready fresh (ready this)
    exact .attempting (attempts.goOn ⟨rfl, rfl, rfl, rfl, rfl, rfl, rfl⟩ rfl rfl)
  | began enqueued =>
    have attempts := h.attempts fresh (by rw [enqueued]; exact nofun) (by rw [enqueued]; rfl)
    exact .attempting (attempts.goOn ⟨rfl, rfl, rfl, rfl, rfl, rfl, rfl⟩ rfl rfl)
  | completed waiting held =>
    have flying := sound.inFlight waiting hu (Option.isSome_of_eq_some held)
    exact .complete (h.attempts fresh (by rw [flying]; exact nofun) (by rw [flying]; rfl)) _ _ _

/-- What an act asks for is the request that the transfer was configured with. -/
theorem Act.built (act : Act connection options Ready m i u v entries)
    (ready : Ready u → u.state = .configured ∨ u.state = .retryPending) (fresh : t.Fresh)
    (h : Faithful connection options t u) (asked : .submitted i request result ∈ entries) :
    t.Builds connection options.base64Writes request ∧ t.Sendable request := by
  obtain ⟨before, rest, eq⟩ := List.append_of_mem asked
  obtain ⟨-, -, this, held⟩ := act.asked eq
  exact Faithful.built (h.attempts_of_ready fresh (ready this)) held

/-- The requests that were made for one transfer, in order, whether or not they were taken. -/
def requestsOf (i : Nat) (journal : List Event) : List Request :=
  journal.filterMap fun
    | .submitted j request _ => if j = i then some request else none
    | _ => none

theorem mem_requestsOf {journal : List Event} :
    request ∈ requestsOf i journal ↔ ∃ result, .submitted i request result ∈ journal := by
  refine List.mem_filterMap.trans ⟨fun ⟨e, noted, own⟩ => ?_, fun ⟨result, noted⟩ => ⟨_, noted, if_pos rfl⟩⟩
  cases e with
  | submitted j asked result =>
    obtain ⟨rfl, same⟩ := Option.ite_none_right_eq_some.mp own
    cases same
    exact ⟨result, noted⟩
  | changed | polled | counted | clock | slept | unknownCompletion => cases own

theorem mem_entriesOf_submitted {journal : List Event} (h : .submitted i request result ∈ journal) :
    .submitted i request result ∈ entriesOf i journal := by
  simp [entriesOf, Event.subject?, h]

/-- At each moment of a call, a new transfer is held to what it was configured as, and so was all that was asked for
    it. -/
theorem Reaches.faithful (h : Reaches env connection options (opening world transfers) m)
    (idle : ∀ t ∈ transfers, t.Idle) (here : transfers[i]? = some t) (fresh : t.Fresh) :
    ∃ u, m.session.transfers[i]? = some u ∧ Faithful connection options t u ∧
      ∀ request result, .submitted i request result ∈ entriesOf i m.session.journal →
        t.Builds connection options.base64Writes request ∧ t.Sendable request := by
  induction h with
  | refl => exact ⟨t, here, .new, fun _ _ asked => nomatch asked⟩
  | tail reached step ih =>
    obtain ⟨u, hu, faithful, built⟩ := ih
    obtain ⟨v, entries, act, hv, own⟩ := step.act i u hu
    have sound := Reaches.sound reached (.opening idle)
    have faithful' := act.faithful sound (List.mem_of_getElem? hu) ready_state fresh faithful
    refine ⟨v, hv, faithful', fun request result asked => ?_⟩
    rw [own] at asked
    obtain old | new := List.mem_append.mp asked
    · exact built request result old
    · exact act.built ready_state fresh faithful new

/-- In any environment, whatever is asked for a new transfer is the one request that it was configured with, in each
    attempt, and that can be sent: the transfer has elements, of types that convert, with ranges and a URL that requests
    can have. So nothing is asked for one that selects nothing, or that cannot be configured. And if there are no
    elements, the buffer of the caller stays as it was. -/
theorem only_faithful_requests (env : Environment σ) (connection : Connection) (options : SessionOptions) (world : σ)
    (idle : ∀ t ∈ transfers, t.Idle) :
    (∀ s, Head env connection options world transfers s →
      Reaches env connection options (opening world transfers) ⟨s, []⟩) ∧
    (∀ fuel s, execute env connection options fuel world transfers = some s →
      Reaches env connection options (opening world transfers) ⟨s, []⟩) ∧
    ∀ m, Reaches env connection options (opening world transfers) m →
      ∀ (i : Nat) (t : Transfer), transfers[i]? = some t → t.Fresh → ∃ u, m.session.transfers[i]? = some u ∧
        (t.fileSpace.elementCount = 0 → u.buffer = t.buffer) ∧
        ∀ request ∈ requestsOf i m.session.journal, t.Builds connection options.base64Writes request ∧
          t.Sendable request ∧ t.fileSpace.count ≠ 0 ∧ t.fileSpace.selection ≠ .none ∧
            ∀ points, t.fileSpace.selection = .points points → points.points ≠ [] := by
  refine ⟨fun s head => (reaches_head head).1, fun fuel s done => reaches_execute done,
    fun m reached i t here fresh => ?_⟩
  obtain ⟨u, hu, faithful, built⟩ := reached.faithful idle here fresh
  refine ⟨u, hu, faithful.buffer_eq, fun request asked => ?_⟩
  obtain ⟨result, noted⟩ := mem_requestsOf.mp asked
  obtain ⟨builds, sendable⟩ := built request result (mem_entriesOf_submitted noted)
  exact ⟨builds, sendable, sendable.count_ne_zero, sendable.selection_ne_none, fun _ => sendable.points_ne_nil⟩

/-- The read of no element. -/
def noRead : Transfer :=
  ⟨oneByte, ⟨[1], .none, rfl⟩, ⟨[1], .none, rfl⟩, oneByte.type, .read, [5], .init, none, none, none, .fresh, none⟩

/-- The request is made again after the first response, and nothing is asked for the read of no element. -/
theorem only_faithful_requests_noisy : ∃ s u,
    execute Scripted.environment plainStore oneRetry 9 noisy [oneRead, noRead] = some s ∧
      (requestsOf 0 s.journal).length = 2 ∧
      (∀ request ∈ requestsOf 0 s.journal, oneRead.Builds plainStore false request ∧ oneRead.Sendable request) ∧
      requestsOf 1 s.journal = [] ∧ s.transfers[1]? = some u ∧ u.buffer = [5] := by
  have one : oneRead.Fresh := .of_make (show make .read oneByte onePoint none oneByte.type [0] = _ from rfl)
  have none : noRead.Fresh := .of_make (show make .read oneByte .none none oneByte.type [5] = _ from rfl)
  have idle : ∀ t ∈ [oneRead, noRead], t.Idle :=
    List.forall_mem_cons.mpr ⟨one.idle, List.forall_mem_singleton.mpr none.idle⟩
  have run : (execute Scripted.environment plainStore oneRetry 9 noisy [oneRead, noRead]).map (fun s =>
      (requestsOf 0 s.journal).length) = some 2 := by
    decide +kernel
  obtain ⟨s, done, twice⟩ := Option.map_eq_some_iff.mp run
  obtain ⟨-, ends, faithful⟩ := only_faithful_requests Scripted.environment plainStore oneRetry noisy idle
  obtain ⟨-, -, -, asked⟩ := faithful _ (ends 9 s done) 0 oneRead rfl one
  obtain ⟨u, hu, kept, unasked⟩ := faithful _ (ends 9 s done) 1 noRead rfl none
  refine ⟨s, u, done, twice, fun request made => ?_,
    List.eq_nil_iff_forall_not_mem.mpr fun request made => ?_, hu, kept rfl⟩
  · obtain ⟨builds, sendable, -⟩ := asked request made
    exact ⟨builds, sendable⟩
  · obtain ⟨-, -, -, selects, -⟩ := unasked request made
    exact selects rfl

end Session

end ArrayTransfer
