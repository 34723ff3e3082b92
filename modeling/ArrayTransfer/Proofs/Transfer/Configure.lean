import ArrayTransfer.Proofs.Conversion.Reuse
import ArrayTransfer.Transfer.Basic

/-! New and configured transfers: `Made` is what `Transfer.make` checks, `Planned` what `Transfer.configure` finds out
    before it builds the request, and `Ready` all of it. -/

namespace ArrayTransfer.Transfer

/-- A transfer that can be configured: its file space is the array's, the spaces select as many elements, and the buffer
    holds the memory space. -/
structure Made (t : Transfer) : Prop where
  shape : t.fileSpace.shape = t.array.shape
  counts : t.fileSpace.elementCount = t.memorySpace.elementCount
  fixed : t.callerType.isVariable = false
  room : t.buffer.length = t.memorySpace.extent.toNat * t.callerType.size

variable {direction : Direction} {array : RemoteArray} {selection : Selection} {memory : Option Dataspace}
  {callerType : DataType} {buffer : Bytes} {t : Transfer} {connection : Connection} {base64 : Bool} {done : Changed}

theorem ofSelection?_eq_ok {shape : List UInt64} {s : Selection} {d : Dataspace}
    (h : Dataspace.ofSelection? shape s = .ok d) : d.shape = shape ∧ d.selection = s := by
  unfold Dataspace.ofSelection? Dataspace.select? at h
  split at h
  · cases h
  · split at h
    · cases h
      exact ⟨rfl, rfl⟩
    · cases h

theorem resolveSpaces_eq_ok {shape : List UInt64} {file memory' : Dataspace}
    (h : resolveSpaces shape selection memory = .ok (file, memory')) :
    file.shape = shape ∧ file.selection = selection ∧ memory' = memory.getD file ∧
      file.elementCount = memory'.elementCount := by
  unfold resolveSpaces at h
  cases memory with
  | none =>
    cases hs : Dataspace.ofSelection? shape selection with
    | error e => simp [hs, bind, Except.bind] at h
    | ok d =>
      simp only [hs, bind, Except.bind, Dataspace.matchCounts, if_true, pure, Except.pure] at h
      cases h
      exact ⟨(ofSelection?_eq_ok hs).1, (ofSelection?_eq_ok hs).2, rfl, rfl⟩
  | some m =>
    cases hs : Dataspace.ofSelection? shape selection with
    | error e => simp [hs, bind, Except.bind, pure, Except.pure] at h
    | ok d =>
      simp only [hs, bind, Except.bind, Dataspace.matchCounts, pure, Except.pure] at h
      split at h
      · cases h
      · rename_i hm
        cases h
        split at hm
        · rename_i he
          exact ⟨(ofSelection?_eq_ok hs).1, (ofSelection?_eq_ok hs).2, rfl, he⟩
        · cases hm

theorem Made.of_make (h : make direction array selection memory callerType buffer = .ok t) : t.Made ∧
    ∃ file, file.selection = selection ∧
      t = ⟨array, file, memory.getD file, callerType, direction, buffer, .init, none, none, none, .fresh, none⟩ := by
  unfold make at h
  split at h
  · cases h
  · rename_i file memory' hspaces
    obtain ⟨shape, kept, rfl, counts⟩ := resolveSpaces_eq_ok hspaces
    split at h
    · cases h
    · rename_i size hsize
      have hs : callerType.size = size := by rw [DataType.size, hsize, Option.getD_some]
      simp only at h
      split at h
      · cases h
      · rename_i hlength
        cases h
        refine ⟨⟨shape, counts, by simp [DataType.isVariable, hsize], ?_⟩, file, kept, rfl⟩
        rw [hs]
        exact Decidable.not_not.mp hlength

/-! ### Configuring -/

/-- What a configured transfer knows: its mode, and that its elements can be counted and have a size. -/
structure Planned (t : Transfer) (count : Nat) (mode : TransferMode) : Prop where
  fixed : t.array.type.isVariable = false
  count : t.fileSpace.addressableCount = .ok count
  mode : mode = TransferMode.chooseFor t.array.type t.fileSpace.selection.kind

theorem addressableCount_eq_ok {d : Dataspace} {count : Nat} (h : d.addressableCount = .ok count) :
    count = d.elementCount.toNat := by
  unfold Dataspace.addressableCount at h
  split at h
  · exact (Except.ok.inj h).symm
  · cases h

theorem Planned.count_eq {count : Nat} {mode : TransferMode} (h : t.Planned count mode) :
    count = t.fileSpace.elementCount.toNat := addressableCount_eq_ok h.count

theorem mapError_eq_ok {ε ε' α : Type} {f : ε → ε'} {r : Except ε α} {a : α} (h : r.mapError f = .ok a) :
    r = .ok a := by
  cases r with
  | error e => cases h
  | ok b => exact congrArg Except.ok (Except.ok.inj h)

theorem map_eq_ok {ε α β : Type} {r : Except ε α} {f : α → β} {b : β} (h : r.map f = .ok b) :
    ∃ a, r = .ok a ∧ f a = b := by
  cases r with
  | error e => cases h
  | ok a => exact ⟨a, rfl, Except.ok.inj h⟩

theorem bind_eq_ok {ε α β : Type} {r : Except ε α} {f : α → Except ε β} {b : β} (h : r >>= f = .ok b) :
    ∃ a, r = .ok a ∧ f a = .ok b := by
  cases r with
  | error e => cases h
  | ok a => exact ⟨a, rfl, h⟩

/-- A plan chooses the mode, counts the elements, and builds the request of the direction. -/
theorem plan_eq_ok {mode : TransferMode} {count : Nat} {request : Request}
    (h : plan connection base64 t = .ok (mode, count, request)) : t.Planned count mode ∧
      match t.direction with
      | .read => (∃ p, Plan.make t.array.type t.callerType count false = .ok p) ∧
          readRequest connection t.array.id t.fileSpace.selection mode = .ok request
      | .write => writeRequest connection base64 t mode count = .ok request := by
  unfold plan at h
  cases hfixed : t.array.type.isVariable with
  | true =>
    simp only [hfixed, if_true] at h
    cases h
  | false =>
    simp only [hfixed, Bool.false_eq_true, if_false] at h
    obtain ⟨n, hcount, h⟩ := bind_eq_ok h
    have hcount := mapError_eq_ok hcount
    cases hd : t.direction with
    | read =>
      simp only [hd] at h
      obtain ⟨p, hplan, h⟩ := bind_eq_ok h
      obtain ⟨r, hrequest, h⟩ := bind_eq_ok h
      cases h
      exact ⟨⟨hfixed, hcount, rfl⟩, ⟨p, mapError_eq_ok hplan⟩, hrequest⟩
    | write =>
      simp only [hd] at h
      obtain ⟨r, hrequest, h⟩ := bind_eq_ok h
      cases h
      exact ⟨⟨hfixed, hcount, rfl⟩, hrequest⟩

/-- A transfer of some elements is configured with the planned request, and else it stays as it was. -/
theorem configure_eq_ok (h : t.configure connection base64 = .ok done) (hn : t.fileSpace.elementCount ≠ 0) :
    ∃ mode count request, plan connection base64 t = .ok (mode, count, request) ∧
      done.1 = { t with mode := some mode, state := .configured, request := some request } := by
  unfold configure at h
  split at h
  · cases h
  · rename_i mode count request hplan
    have hcount : count ≠ 0 := by
      rw [(plan_eq_ok hplan).1.count_eq]
      exact fun h0 => hn (UInt64.toNat_inj.mp h0)
    refine ⟨mode, count, request, hplan, ?_⟩
    simp only [moveTo, hcount, if_false] at h
    cases h
    rfl

/-- What holds of a configured transfer of `count` elements. -/
structure Ready (t : Transfer) (count : Nat) (mode : TransferMode) : Prop where
  made : t.Made
  planned : t.Planned count mode
  exact : t.memorySpace.Exact
  wire : t.array.type.WellFormed
  caller : t.callerType.WellFormed

section ready
variable {count : Nat} {mode : TransferMode} (h : t.Ready count mode)
include h

theorem Ready.count_eq : t.memorySpace.count = count := by
  rw [h.planned.count_eq, h.made.counts, Dataspace.toNat_elementCount h.exact.count_lt]

theorem Ready.room : t.buffer.length = volume t.memorySpace.shape * t.callerType.size := by
  rw [h.made.room, Dataspace.toNat_extent h.exact.volume_lt]

end ready

theorem Ready.of_configure (hmake : make direction array selection memory callerType buffer = .ok t)
    (hconf : t.configure connection base64 = .ok done) (hn : t.fileSpace.elementCount ≠ 0)
    (hwire : array.type.WellFormed) (hcaller : callerType.WellFormed) (hexact : t.memorySpace.Exact) :
    ∃ mode request, mode = TransferMode.chooseFor array.type selection.kind ∧
      t.Ready t.fileSpace.elementCount.toNat mode ∧
      plan connection base64 t = .ok (mode, t.fileSpace.elementCount.toNat, request) ∧
      done.1 = { t with mode := some mode, state := .configured, request := some request } := by
  obtain ⟨made, file, rfl, rfl⟩ := Made.of_make hmake
  obtain ⟨mode, count, request, hplan, hdone⟩ := configure_eq_ok hconf hn
  obtain ⟨planned, -⟩ := plan_eq_ok hplan
  obtain rfl := planned.count_eq
  exact ⟨mode, request, planned.mode, ⟨made, planned, hexact, hwire, hcaller⟩, hplan, hdone⟩

theorem exists_ok {ε α : Type} {r : Except ε α} (h : r.toOption.isSome = true) : ∃ a, r = .ok a := by
  cases r with
  | error e => cases h
  | ok a => exact ⟨a, rfl⟩

theorem toOption_eq_some {ε α : Type} {r : Except ε α} {a : α} (h : r.toOption = some a) : r = .ok a := by
  cases r with
  | error e => cases h
  | ok b => exact congrArg Except.ok (Option.some.inj h)

/-- A store at a plain URL. -/
def plainStore : Connection := ⟨⟨"http".toList, [], some "h".toList, none, ['/'], none, none⟩, []⟩

end ArrayTransfer.Transfer
