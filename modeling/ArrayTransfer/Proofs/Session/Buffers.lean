import ArrayTransfer.Proofs.Session.Safety
import ArrayTransfer.Proofs.Transfer.Receive

/-! The callers' memory during a call. Whatever the environment does, the buffer of a transfer is as it was until the
    step in which it succeeds, and that step writes selected elements only. -/

namespace ArrayTransfer

namespace Transfer
variable {t u v : Transfer} {buffer : Bytes} {result : Except TransportError Response}

/-- What a transfer is to do, which no operation changes. -/
structure SameTask (t u : Transfer) : Prop where
  array : u.array = t.array
  fileSpace : u.fileSpace = t.fileSpace
  memorySpace : u.memorySpace = t.memorySpace
  callerType : u.callerType = t.callerType
  direction : u.direction = t.direction

theorem SameTask.refl (t : Transfer) : t.SameTask t := ⟨rfl, rfl, rfl, rfl, rfl⟩

theorem SameTask.trans (h : SameTask t u) (h' : SameTask u v) : SameTask t v where
  array := h'.array.trans h.array
  fileSpace := h'.fileSpace.trans h.fileSpace
  memorySpace := h'.memorySpace.trans h.memorySpace
  callerType := h'.callerType.trans h.callerType
  direction := h'.direction.trans h.direction

/-- An attempt that ends well has received a response into the buffer of a read, or has left the buffer. -/
theorem outcome_eq_ok (h : t.outcome result = .ok buffer) :
    buffer = t.buffer ∨ t.direction = .read ∧ ∃ response, result = .ok response ∧ t.receive response = .ok buffer := by
  unfold outcome at h
  split at h
  · cases h
  · rename_i response
    split at h
    · split at h
      · rename_i read
        exact .inr ⟨read, response, rfl, h⟩
      · cases h
        exact .inl rfl
    · cases h

/-- What holds of a transfer `u` in a call that began with it as `t`. -/
structure Intact (t u : Transfer) : Prop where
  task : t.SameTask u
  unread : u.state ≠ .succeeded → u.buffer = t.buffer
  framed : t.array.type.WellFormed → t.callerType.WellFormed → t.memorySpace.Exact → t.Framed u.buffer

theorem Intact.refl (t : Transfer) : t.Intact t :=
  ⟨.refl t, fun _ => rfl, fun _ _ _ => ⟨rfl, fun _ _ => rfl⟩⟩

theorem Intact.of_buffer (h : t.Intact u) (task : u.SameTask v) (same : v.buffer = u.buffer)
    (unread : u.buffer = t.buffer) : t.Intact v where
  task := h.task.trans task
  unread := fun _ => same.trans unread
  framed := fun hwire hcaller hexact => by
    rw [same]
    exact h.framed hwire hcaller hexact

theorem Intact.of_receive {response : Response} (h : t.Intact u) (task : u.SameTask v) (unread : u.buffer = t.buffer)
    (received : u.receive response = .ok v.buffer) (state : v.state = .succeeded) : t.Intact v where
  task := h.task.trans task
  unread := fun other => absurd state other
  framed := fun hwire hcaller hexact => by
    obtain ⟨array, -, memory, caller, -⟩ := h.task
    obtain ⟨length, others⟩ := receive_frame (by rwa [array]) (by rwa [caller]) (by rwa [memory]) received
    rw [unread] at length others
    rw [memory, caller] at others
    exact ⟨length, others⟩

end Transfer

namespace Session
open Transfer

variable {σ : Type} {env : Environment σ} {connection : Connection} {options : SessionOptions} {world : σ}
  {transfers : List Transfer} {s : Session σ} {m m' : Moment σ} {i : Nat} {t u : Transfer} {changes : List Change}

/-- A deed leaves the buffer, or it is that of a read in flight which succeeds with the response it receives. -/
theorem Deed.buffer (h : Deed env connection options m t u changes) : t.SameTask u ∧
    (u.buffer = t.buffer ∨ (t.direction = .read ∧ u.state = .succeeded) ∧
      (∃ c rest, m.waiting = c :: rest ∧ t.handle = some c.handle) ∧
      ∃ response, t.receive response = .ok u.buffer) := by
  cases h with
  | kept => exact ⟨.refl _, .inl rfl⟩
  | configured new ok =>
    obtain ⟨_, _, _, -, ⟨-, rfl⟩ | ⟨-, rfl⟩⟩ := configure_cases ok
    · exact ⟨⟨rfl, rfl, rfl, rfl, rfl⟩, .inl rfl⟩
    · exact ⟨⟨rfl, rfl, rfl, rfl, rfl⟩, .inl rfl⟩
  | refused | submitted | rejected | began | abandoned => exact ⟨⟨rfl, rfl, rfl, rfl, rfl⟩, .inl rfl⟩
  | @completed c rest now waiting held =>
    obtain ⟨buffer, ok, eq⟩ | ⟨_, _, -, -, eq⟩ | ⟨_, _, -, -, eq⟩ :=
      t.complete_cases options.retryPolicy now c.result
    · rw [eq]
      refine ⟨⟨rfl, rfl, rfl, rfl, rfl⟩, ?_⟩
      obtain same | ⟨read, response, -, received⟩ := outcome_eq_ok ok
      · exact .inl same
      · exact .inr ⟨⟨read, rfl⟩, ⟨c, rest, waiting, held⟩, response, received⟩
    · rw [eq]
      exact ⟨⟨rfl, rfl, rfl, rfl, rfl⟩, .inl rfl⟩
    · rw [eq]
      exact ⟨⟨rfl, rfl, rfl, rfl, rfl⟩, .inl rfl⟩

theorem Deed.intact {t₀ : Transfer} (h : Deed env connection options m t u changes) (sound : Sound m)
    (ht : t ∈ m.session.transfers) (intact : t₀.Intact t) : t₀.Intact u := by
  by_cases done : t.state = .succeeded
  · obtain ⟨rfl, -⟩ := sound.kept ht h (by rw [done]; rfl)
    exact intact
  · have unread := intact.unread done
    obtain ⟨task, same | ⟨⟨-, state⟩, -, response, received⟩⟩ := h.buffer
    · exact intact.of_buffer task same unread
    · exact intact.of_receive task unread received state

theorem Reaches.intact (h : Reaches env connection options m m') (hm : Sound m)
    (here : m.session.transfers[i]? = some t) : ∃ u, m'.session.transfers[i]? = some u ∧ t.Intact u := by
  induction h with
  | refl => exact ⟨t, here, .refl t⟩
  | tail reached step ih =>
    obtain ⟨u, hu, intact⟩ := ih
    obtain ⟨v, _, deed, hv, -⟩ := step.deed hu
    exact ⟨v, hv, deed.intact (Reaches.sound reached hm) (List.mem_of_getElem? hu) intact⟩

/-- In any environment, at each moment of a call a buffer is as it was at the beginning unless its transfer has
    succeeded. A step changes it only if it is that of a read in flight which succeeds by it, and after that it stays;
    so it changes at most once, and only at bytes of elements that the memory space selects, if this has no more elements
    than words count and selects no more (`Dataspace.Exact`), as is so if a memory holds them. Receiving in place, with an
    error the memory is untouched. -/
theorem buffers_intact (env : Environment σ) (connection : Connection) (options : SessionOptions) (world : σ)
    (idle : ∀ t ∈ transfers, t.Idle) :
    ∀ (i : Nat) (t : Transfer), transfers[i]? = some t →
      (∀ m, Reaches env connection options (opening world transfers) m → ∃ u, m.session.transfers[i]? = some u ∧
        (u.state ≠ .succeeded → u.buffer = t.buffer) ∧
        (t.array.type.WellFormed → t.callerType.WellFormed → t.memorySpace.Exact → t.Framed u.buffer) ∧
        (∀ m', Step env connection options m m' → ∃ v, m'.session.transfers[i]? = some v ∧ (v.buffer = u.buffer ∨
          t.direction = .read ∧ u.state = .inFlight ∧ v.state = .succeeded ∧ u.buffer = t.buffer ∧
            ∃ response, u.receive response = .ok v.buffer)) ∧
        (u.state = .succeeded → ∀ m', Reaches env connection options m m' → m'.session.transfers[i]? = some u) ∧
        ∀ response, InPlace.Leaves (u.receiveInPlace response) u.buffer (u.receive response)) ∧
      ∀ fuel s, execute env connection options fuel world transfers = some s → ∃ u, s.transfers[i]? = some u ∧
        (u.state ≠ .succeeded → u.buffer = t.buffer) ∧
        (t.array.type.WellFormed → t.callerType.WellFormed → t.memorySpace.Exact → t.Framed u.buffer) := by
  intro i t ht
  have sound : Sound (opening world transfers) := .opening idle
  refine ⟨fun m reached => ?_, fun fuel s done => ?_⟩
  · obtain ⟨u, hu, intact⟩ := reached.intact sound ht
    have now := reached.sound sound
    refine ⟨u, hu, intact.unread, intact.framed, fun m' step => ?_, fun succeeded m' later => ?_,
      u.receiveInPlace_leaves⟩
    · obtain ⟨v, _, deed, hv, -⟩ := step.deed hu
      refine ⟨v, hv, ?_⟩
      obtain ⟨-, same | ⟨⟨read, state⟩, ⟨c, rest, waiting, held⟩, response, received⟩⟩ := deed.buffer
      · exact .inl same
      · have flying := now.inFlight waiting (List.mem_of_getElem? hu) (Option.isSome_of_eq_some held)
        rw [intact.task.direction] at read
        exact .inr ⟨read, flying, state, intact.unread (by rw [flying]; exact nofun), response, received⟩
    · exact later.kept now hu (by rw [succeeded]; rfl)
  · obtain ⟨u, hu, intact⟩ := (reaches_execute done).intact sound ht
    exact ⟨u, hu, intact.unread, intact.framed⟩

/-- A world that answers one request with nothing and another with a seven. -/
def halfAnswered : Scripted :=
  ⟨⟨[], [], 0, 0, false, false, false⟩, [("d", [.reply (.ok ⟨200, []⟩), .reply (.ok seven)])], [], 0, 0, 0, 0, []⟩

theorem buffers_intact_halfAnswered : ∃ s,
    execute Scripted.environment plainStore oneRetry 9 halfAnswered [oneRead, oneRead] = some s ∧
      s.transfers.map (·.buffer) = [[0], [7]] ∧ ∃ u, s.transfers[1]? = some u ∧ oneRead.Framed u.buffer := by
  have idle : ∀ t ∈ [oneRead, oneRead], t.Idle :=
    List.forall_mem_cons.mpr ⟨idle_oneRead, List.forall_mem_singleton.mpr idle_oneRead⟩
  have run : (execute Scripted.environment plainStore oneRetry 9 halfAnswered [oneRead, oneRead]).map
      (fun s => s.transfers.map (·.buffer)) = some [[0], [7]] := by decide +kernel
  obtain ⟨s, done, buffers⟩ := Option.map_eq_some_iff.mp run
  have intact := buffers_intact Scripted.environment plainStore oneRetry halfAnswered idle 1 oneRead rfl
  obtain ⟨u, hu, -, framed⟩ := intact.2 9 s done
  exact ⟨s, done, buffers, u, hu, framed (.numeric _) (.numeric _) ⟨by decide, by decide⟩⟩

end Session

end ArrayTransfer
