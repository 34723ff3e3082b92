import ArrayTransfer.Proofs.Transfer.Configure
import ArrayTransfer.Proofs.Wire.Body

/-! Reading, from the configured transfer to the buffer. No attempt before the last one touches what the last one works
    on (`Attempted.same`), both modes decode to the packed elements, and with or without a conversion the buffer ends
    as the plain loop over the elements leaves it. -/

namespace ArrayTransfer

/-! ### Attempts -/

namespace Transfer
variable {t u : Transfer}

/-- `u` is `t` after any attempts that left it to be tried again, and possibly the start of another. -/
inductive Attempted (t : Transfer) : Transfer → Prop where
  | refl : Attempted t t
  | submitted {u : Transfer} (h : Attempted t u) (handle : Handle) : Attempted t (u.submitted handle).1
  | beginFlight {u : Transfer} (h : Attempted t u) : Attempted t u.beginFlight.1
  | complete {u : Transfer} (h : Attempted t u) (policy : RetryPolicy) (now : Instant)
    (result : Except TransportError Response) (again : (u.complete policy now result).1.state = .retryPending) :
    Attempted t (u.complete policy now result).1

/-- What attempts leave as it is. -/
structure Same (t u : Transfer) : Prop where
  array : u.array = t.array
  fileSpace : u.fileSpace = t.fileSpace
  memorySpace : u.memorySpace = t.memorySpace
  callerType : u.callerType = t.callerType
  direction : u.direction = t.direction
  buffer : u.buffer = t.buffer
  mode : u.mode = t.mode

theorem Same.trans {v : Transfer} (h : Same t u) (h' : Same u v) : Same t v where
  array := h'.array.trans h.array
  fileSpace := h'.fileSpace.trans h.fileSpace
  memorySpace := h'.memorySpace.trans h.memorySpace
  callerType := h'.callerType.trans h.callerType
  direction := h'.direction.trans h.direction
  buffer := h'.buffer.trans h.buffer
  mode := h'.mode.trans h.mode

theorem Same.receive_eq (h : Same t u) (response : Response) : u.receive response = t.receive response := by
  obtain ⟨array, file, memory, caller, -, buffer, mode⟩ := h
  unfold receive
  rw [array, file, memory, caller, buffer, mode]

theorem same_beginFlight (u : Transfer) : Same u u.beginFlight.1 := by
  unfold beginFlight
  split <;> exact ⟨rfl, rfl, rfl, rfl, rfl, rfl, rfl⟩

theorem same_complete {policy : RetryPolicy} {now : Instant} {result : Except TransportError Response}
    (again : (u.complete policy now result).1.state = .retryPending) : Same u (u.complete policy now result).1 := by
  unfold complete at again ⊢
  split
  · rename_i buffer hb
    simp only [hb] at again
    cases again
  · split <;> exact ⟨rfl, rfl, rfl, rfl, rfl, rfl, rfl⟩

theorem Attempted.same (h : Attempted t u) : Same t u := by
  induction h with
  | refl => exact ⟨rfl, rfl, rfl, rfl, rfl, rfl, rfl⟩
  | submitted _ _ ih => exact ih.trans ⟨rfl, rfl, rfl, rfl, rfl, rfl, rfl⟩
  | beginFlight _ ih => exact ih.trans (same_beginFlight _)
  | complete _ _ _ _ again ih => exact ih.trans (same_complete again)

end Transfer

/-! ### Bodies -/

namespace Body
variable {t : DataType} {order : ByteOrder} {es : List Bytes} {body : Bytes}

/-- The body carries the elements in the mode: packed in the byte order of the store, or in the field `value` of a JSON
    object, as the array of their values nested in any way. A text that the reader takes for such an object does, and
    the plain text of it does if it nests no deeper than the reader goes. -/
inductive Carries (t : DataType) (order : ByteOrder) (es : List Bytes) : TransferMode → Bytes → Prop where
  | binary (sizes : ∀ e ∈ es, e.length = t.size) : Carries t order es .binary (es.map (t.toNative order)).flatten
  | json {body : Bytes} {document v : Json} {items : List Json} (canonical : ∀ e ∈ es, WireValue.Canonical t e)
    (encoded : Elements.encode es.flatten t es.length = .ok (.array items)) (nests : Elements.Nests items [v])
    (reads : Json.ofBytes? body = some document) (value : document.field? "value" = some v) :
    Carries t order es .json body
  | text {v : Json} {items : List Json} (canonical : ∀ e ∈ es, WireValue.Canonical t e)
    (encoded : Elements.encode es.flatten t es.length = .ok (.array items)) (nests : Elements.Nests items [v])
    (shallow : (Json.object [("value", v)]).depth ≤ Json.nestingLimit) :
    Carries t order es .json (Utf8.encode (Json.object [("value", v)]).render)

theorem Carries.sizes {mode : TransferMode} (h : Carries t order es mode body) : ∀ e ∈ es, e.length = t.size := by
  cases h with
  | binary sizes => exact sizes
  | json canonical => exact fun e he => (canonical e he).length_eq
  | text canonical => exact fun e he => (canonical e he).length_eq

/-- The elements in a response body of the mode. -/
def decode (mode : TransferMode) (body : Bytes) (t : DataType) (order : ByteOrder) (count : Nat) :
    Except WireError Bytes :=
  match mode with
  | .binary => decodeBinary body t order count
  | .json => decodeJson body t count

theorem ofBytes?_text {v : Json} {items : List Json} (encoded : Elements.encode es.flatten t es.length = .ok (.array items))
    (nests : Elements.Nests items [v]) (shallow : (Json.object [("value", v)]).depth ≤ Json.nestingLimit) :
    Json.ofBytes? (Utf8.encode (Json.object [("value", v)]).render) = some (.object [("value", v)]) := by
  obtain ⟨_, array, valid_items⟩ := Elements.encode_eq_ok encoded
  obtain rfl := Json.array.inj array
  have valid := nests.valid valid_items v List.mem_cons_self
  exact (Json.Valid.object (by simp) (by simpa using valid)).ofBytes?_render.trans (if_pos shallow)

theorem decodeBinary_carries (hw : t.WellFormed) (hf : t.isVariable = false) (h : Carries t order es .binary body) :
    decodeBinary body t order es.length = .ok es.flatten := by
  cases h with
  | binary sizes => exact decodeBinary_map hw hf order sizes

theorem decodeJson_carries (hw : t.WellFormed) (hf : t.isVariable = false) (h : Carries t order es .json body) :
    decodeJson body t es.length = .ok es.flatten := by
  have decoded : ∀ {v : Json} {items : List Json}, (∀ e ∈ es, WireValue.Canonical t e) →
      Elements.encode es.flatten t es.length = .ok (.array items) → Elements.Nests items [v] →
        Elements.decode v t es.length = .ok es.flatten := by
    intro v items canonical encoded nests
    obtain ⟨items, encoded', -, -, decode⟩ := Elements.decode_of_nests hw hf canonical
    rw [encoded] at encoded'
    cases encoded'
    exact decode v nests
  unfold decodeJson
  cases h with
  | json canonical encoded nests reads value =>
    simp only [reads, value]
    exact decoded canonical encoded nests
  | text canonical encoded nests shallow =>
    simp only [ofBytes?_text encoded nests shallow]
    exact decoded canonical encoded nests

theorem decode_carries {mode : TransferMode} (hw : t.WellFormed) (hf : t.isVariable = false)
    (h : Carries t order es mode body) : decode mode body t order es.length = .ok es.flatten := by
  cases mode with
  | binary => exact decodeBinary_carries hw hf h
  | json => exact decodeJson_carries hw hf h

end Body

/-! ### The buffer -/

namespace Transfer
open Conversion
variable {t u : Transfer} {es : List Bytes} {response : Response} {mode : TransferMode} {count : Nat}

/-- The buffer with some elements of the array in it, converted if the caller has them in another type. -/
def takeIn (t : Transfer) (count : Nat) (elements : Bytes) : Except TransferError Bytes :=
  if t.array.type = t.callerType then
    (Memory.scatter elements t.buffer t.memorySpace t.callerType.size).mapError fun e => .wire (.bufferLength e)
  else do
    let plan ← (Plan.make t.array.type t.callerType count t.memorySpace.region?.isSome).mapError .conversion
    (convertInto plan t.array.type t.callerType elements t.buffer t.memorySpace).mapError .conversion

/-- All that is taken from a response are its elements, decoded by the mode that was noted. -/
theorem receive_by_mode (planned : t.Planned count mode) (noted : t.mode = some mode) (response : Response) :
    t.receive response =
      (Body.decode mode response.body t.array.type t.array.order count).mapError .wire >>= t.takeIn count := by
  unfold receive
  rw [planned.count, noted]
  cases mode <;> rfl

/-- What holds of a configured read of `count` elements, and of all its attempts. -/
structure Reads (t : Transfer) (count : Nat) (mode : TransferMode) : Prop extends t.Ready count mode where
  mode : t.mode = some mode
  direction : t.direction = .read
  plan : ∃ p, Plan.make t.array.type t.callerType count false = .ok p

section reads
variable (h : t.Reads count mode)
include h

theorem Reads.plan_reusable (reusable : Bool) : ∃ p, Plan.make t.array.type t.callerType count reusable = .ok p := by
  obtain ⟨p, hp⟩ := h.plan
  obtain ⟨convertible, -⟩ := plan_spec hp
  unfold Plan.make
  simp only [DataType.size?_eq_some h.planned.fixed, DataType.size?_eq_some h.made.fixed, convertible, if_true]
  exact ⟨_, rfl⟩

/-- The decoded elements go to their places, converted if the types differ. -/
theorem Reads.deliver (hs : ∀ e ∈ es, e.length = t.array.type.size) (hn : es.length = count) :
    t.takeIn count es.flatten =
      .ok (convertEach t.array.type t.callerType (t.memorySpace.places.zip es) t.buffer) := by
  have assigned : assigned t.memorySpace t.array.type.size es.flatten = t.memorySpace.places.zip es := by
    rw [Conversion.assigned, h.count_eq, ← hn, Bytes.split_flatten hs]
  have length : es.flatten.length = t.array.type.size * t.memorySpace.count := by
    rw [Bytes.length_flatten_of_size hs, hn, h.count_eq, Nat.mul_comm]
  unfold takeIn
  split
  · rename_i same
    have copied := scatter_eq_convertEach t.array.type h.exact length (by rw [h.room, ← same])
    rw [assigned] at copied
    rw [← same, copied]
    rfl
  · obtain ⟨p, hp⟩ := h.plan_reusable t.memorySpace.region?.isSome
    have counted := hp
    rw [← h.count_eq] at counted
    have done := convertInto_eq h.caller h.wire (plan_spec hp).1 h.exact length h.room counted
      (usable_of_plan counted)
    rw [assigned] at done
    rw [hp]
    exact congrArg (Except.mapError TransferError.conversion) done

/-- A read whose response decodes goes well. -/
theorem Reads.receive_of_decode (sizes : ∀ e ∈ es, e.length = t.array.type.size) (many : es.length = count)
    (decoded : Body.decode mode response.body t.array.type t.array.order count = .ok es.flatten) :
    t.receive response = .ok (convertEach t.array.type t.callerType (t.memorySpace.places.zip es) t.buffer) := by
  rw [receive_by_mode h.planned h.mode, decoded]
  exact h.deliver sizes many

theorem Reads.receive_eq (hb : Body.Carries t.array.type t.array.order es mode response.body) (hn : es.length = count) :
    t.receive response = .ok (convertEach t.array.type t.callerType (t.memorySpace.places.zip es) t.buffer) :=
  h.receive_of_decode hb.sizes hn (hn ▸ Body.decode_carries h.wire h.planned.fixed hb)

theorem Reads.placed (hs : ∀ e ∈ es, e.length = t.array.type.size) :
    Memory.Placed t.array.type.size (volume t.memorySpace.shape) (t.memorySpace.places.zip es) :=
  Memory.placed_zip (fun _ hk => h.exact.place_lt hk) hs

theorem Reads.frame (hs : ∀ e ∈ es, e.length = t.array.type.size) {i : Nat}
    (hi : ∀ k ∈ t.memorySpace.places, i < k * t.callerType.size ∨ k * t.callerType.size + t.callerType.size ≤ i) :
    (convertEach t.array.type t.callerType (t.memorySpace.places.zip es) t.buffer)[i]? = t.buffer[i]? := by
  have room := Nat.le_of_eq h.room.symm
  refine Memory.getElem?_place (placed_converted h.caller h.wire (h.placed hs) room) room ?_
  rw [List.forall_mem_map]
  exact fun item hitem => hi item.1 (List.of_mem_zip hitem).1

end reads

theorem Reads.of_configure {array : RemoteArray} {selection : Selection} {memory : Option Dataspace}
    {callerType : DataType} {buffer : Bytes} {connection : Connection} {base64 : Bool} {done : Changed}
    (hmake : make .read array selection memory callerType buffer = .ok t)
    (hconf : t.configure connection base64 = .ok done) (hn : t.fileSpace.elementCount ≠ 0)
    (hwire : array.type.WellFormed) (hcaller : callerType.WellFormed) (hexact : t.memorySpace.Exact) :
    done.1.Reads t.fileSpace.elementCount.toNat (TransferMode.chooseFor array.type selection.kind) := by
  obtain ⟨mode, request, rfl, ready, hplan, hdone⟩ := Ready.of_configure hmake hconf hn hwire hcaller hexact
  obtain ⟨-, file, -, rfl⟩ := Made.of_make hmake
  obtain ⟨-, plan, -⟩ := plan_eq_ok hplan
  rw [hdone]
  obtain ⟨made, planned, exact, wire, caller⟩ := ready
  exact { made := ⟨made.shape, made.counts, made.fixed, made.room⟩
          planned := ⟨planned.fixed, planned.count, planned.mode⟩
          exact := exact, wire := wire, caller := caller, mode := rfl, direction := rfl, plan := plan }

/-- What holds of a configured read holds of each attempt at it. -/
theorem Reads.of_same (h : t.Reads count mode) (hu : Same t u) : u.Reads count mode := by
  obtain ⟨array, file, memory, caller, direction, buffer, moded⟩ := hu
  refine ⟨⟨⟨?_, ?_, ?_, ?_⟩, ⟨?_, ?_, ?_⟩, ?_, ?_, ?_⟩, moded.trans h.mode, direction.trans h.direction, ?_⟩
  · rw [file, array, h.made.shape]
  · rw [file, memory, h.made.counts]
  · rw [caller, h.made.fixed]
  · rw [buffer, memory, caller, h.made.room]
  · rw [array, h.planned.fixed]
  · rw [file, h.planned.count]
  · rw [array, file, h.planned.mode]
  · rw [memory]
    exact h.exact
  · rw [array]
    exact h.wire
  · rw [caller]
    exact h.caller
  · rw [array, caller]
    exact h.plan

/-- Three big endian numbers. -/
def threeWords : RemoteArray := ⟨"d", [3], .numeric (.signed .w16), .big⟩

/-- The second of them, and the first. -/
def secondAndFirst : Selection :=
  .points ⟨1, [[1], [0]], Nat.one_pos, List.forall_mem_cons.mpr ⟨rfl, List.forall_mem_singleton.mpr rfl⟩⟩

/-- The read of the two into memory of wider numbers. -/
def widerRead : Transfer :=
  ⟨threeWords, ⟨[3], secondAndFirst, by decide⟩, ⟨[3], secondAndFirst, by decide⟩, .numeric (.signed .w32), .read,
    [9, 9, 9, 9, 9, 9, 9, 9, 9, 9, 9, 9], .init, none, none, none, .fresh, none⟩

/-- A response with the two numbers, each in an array of its own. -/
def nestedPair : Response :=
  ⟨200, Utf8.encode (Json.object [("value", .array [.array [.number (.unsigned 7)],
    .array [.number (.negative (-1))]])]).render⟩

/-- A response that is no JSON is an error if values are to be read from it. -/
theorem outcome_unread {body : Bytes} (direction : t.direction = .read) (mode : t.mode = some .json)
    (counted : t.fileSpace.addressableCount = .ok count) (unread : Json.ofBytes? body = none) :
    t.outcome (.ok ⟨200, body⟩) = .error (.wire (.malformed .notJson)) := by
  have success : Status.classify 200 = .success := rfl
  unfold outcome receive
  simp only [success, direction, mode, counted, mapError_ok, bind, Except.bind, Body.decodeJson, unread]
  rfl

/-- A value in arrays around it. -/
def wrapped : Nat → Json → Json
  | 0, v => v
  | n + 1, v => .array [wrapped n v]

theorem nests_wrapped (n : Nat) (v : Json) : Elements.Nests [v] [wrapped n v] := by
  induction n with
  | zero => exact .refl _
  | succ n ih => exact .array ih .nil

theorem valid_wrapped {v : Json} (hv : Json.Valid v) (n : Nat) : Json.Valid (wrapped n v) := by
  induction n with
  | zero => exact hv
  | succ n ih => exact .array (List.forall_mem_singleton.mpr ih)

theorem depth_wrapped (n : Nat) (v : Json) : (wrapped n v).depth = v.depth + n := by
  induction n with
  | zero => rfl
  | succ n ih => rw [wrapped, Json.depth, Json.depthItems, Json.depthItems, Nat.max_zero, ih, Nat.add_assoc]

/-- An array of one byte, of which the only element is selected as a point. -/
def oneByte : RemoteArray := ⟨"d", [1], .numeric (.signed .w8), .little⟩

/-- Its only element. -/
def onePoint : Selection := .points ⟨1, [[0]], Nat.one_pos, List.forall_mem_singleton.mpr rfl⟩

/-- The read of that element. -/
def oneRead : Transfer :=
  ⟨oneByte, ⟨[1], onePoint, by decide⟩, ⟨[1], onePoint, by decide⟩, oneByte.type, .read, [0], .init, none, none, none,
    .fresh, none⟩

end Transfer

end ArrayTransfer
