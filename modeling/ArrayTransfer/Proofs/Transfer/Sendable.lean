import ArrayTransfer.Proofs.Selection.Encoding
import ArrayTransfer.Proofs.Transfer.Write

/-! What a request is never built without: the transfer has elements to send or to ask for, of types that convert, and a
    selection and a URL that requests can have (`Sendable`, `sendable_of_plan`). -/

namespace ArrayTransfer.Transfer

variable {connection : Connection} {base64 : Bool} {t : Transfer} {mode : TransferMode} {count : Nat}
  {request : Request} {id url : String} {selection : Selection} {select : Option String}

/-- Elements go over from the one type to the other: those of a read over what the caller has, and those of a write with
    every byte of them. -/
def Converts (t : Transfer) : Prop :=
  match t.direction with
  | .read => DataType.convertibleFrom t.array.type t.callerType = true
  | .write => t.callerType = t.array.type ∨ DataType.convertibleFrom t.callerType t.array.type = true ∧
      Background.of t.callerType t.array.type ≠ .filled

/-- A transfer that the request can be sent for. -/
structure Sendable (t : Transfer) (request : Request) : Prop where
  elements : t.fileSpace.elementCount ≠ 0
  fixed : t.array.type.isVariable = false
  converts : t.Converts
  addressable : ∀ h, t.fileSpace.selection = .hyperslab h → ∀ k, ¬h.Unaddressable k
  url : (Utf8.encode request.url).length ≤ 2048

theorem Sendable.count_ne_zero (h : t.Sendable request) : t.fileSpace.count ≠ 0 := by
  intro zero
  refine h.elements (UInt64.toNat_inj.mp ?_)
  rw [Dataspace.toNat_elementCount (zero ▸ by decide), zero]
  rfl

theorem Sendable.selection_ne_none (h : t.Sendable request) : t.fileSpace.selection ≠ .none := by
  intro none
  refine h.count_ne_zero ?_
  rw [Dataspace.count, none]

theorem Sendable.points_ne_nil (h : t.Sendable request) {points : Points}
    (kind : t.fileSpace.selection = .points points) : points.points ≠ [] := by
  intro empty
  refine h.count_ne_zero ?_
  rw [Dataspace.count, kind]
  exact congrArg List.length empty

theorem length_valueUrl (h : connection.valueUrl id select = .ok url) : (Utf8.encode url).length ≤ 2048 := by
  have checked : ∀ text e, (if Connection.urlLimit < (Utf8.encode text).length then .error e else .ok text) =
      (.ok url : Except TransportError String) → (Utf8.encode url).length ≤ 2048 := by
    intro text e h
    split at h
    · cases h
    · rename_i short
      exact Except.ok.inj h ▸ Nat.le_of_not_lt short
  exact checked _ _ h

theorem not_unaddressable {h : Hyperslab} (ranges : Selection.checkRanges h = .ok ()) (k : Nat) :
    ¬h.Unaddressable k := by
  rw [Hyperslab.unaddressable_iff]
  rintro ⟨a, ha, refused⟩
  rw [Selection.isRange_of_checkRanges ranges a (List.mem_of_getElem? ha)] at refused
  cases refused

/-- The body that is given to a request to read: the points, if points are selected. -/
def readBody (selection : Selection) : Except TransferError RequestBody :=
  match selection.kind with
  | .points => (selection.bodyFields.mapError .selection).map fun fields => .json (.object fields)
  | _ => .ok .empty

/-- The header that a body asks for. -/
def bodyHeaders (body : RequestBody) : List Header := (body.contentType?.map fun type => ("Content-Type", type)).toList

/-- The parts of a request that reads; it asks for no hyperslab without ranges. -/
theorem readRequest_eq_ok (h : readRequest connection id selection mode = .ok request) :
    ∃ body select, readBody selection = .ok body ∧ connection.valueUrl id select = .ok request.url ∧
      request.headers = connection.headers ++ (bodyHeaders body ++ [("Accept", mode.contentType)]) ∧
      request.body = body.toBytes ∧ ∀ slab, selection = .hyperslab slab → Selection.checkRanges slab = .ok () := by
  unfold readRequest at h
  unfold readBody
  simp only at h
  split at h
  · rename_i kind
    obtain ⟨url, hurl, h⟩ := bind_eq_ok h
    obtain ⟨fields, hfields, h⟩ := bind_eq_ok h
    cases h
    refine ⟨.json (.object fields), none, ?_, mapError_eq_ok hurl, List.append_assoc .., rfl, fun slab is => ?_⟩
    · simp only [kind, hfields]
      rfl
    · rw [is] at kind
      cases kind
  · rename_i kind
    obtain ⟨query, hquery, h⟩ := bind_eq_ok h
    obtain ⟨url, hurl, h⟩ := bind_eq_ok h
    cases h
    refine ⟨.empty, some query, by rw [kind], mapError_eq_ok hurl, rfl, rfl, fun slab is => ?_⟩
    rw [is] at hquery
    exact Selection.checkRanges_of_queryText (mapError_eq_ok hquery)
  · rename_i unplaced unranged
    obtain ⟨url, hurl, h⟩ := bind_eq_ok h
    cases h
    refine ⟨.empty, none, ?_, mapError_eq_ok hurl, rfl, rfl, fun slab is => absurd (congrArg Selection.kind is) unranged⟩
    cases kind : selection.kind with
    | points => exact absurd kind unplaced
    | _ => rfl

/-- Elements that are sent are of types that convert, with every byte of them. -/
theorem converts_of_outgoing {sent : Bytes} (h : t.outgoing count = .ok sent) :
    t.callerType = t.array.type ∨ DataType.convertibleFrom t.callerType t.array.type = true ∧
      Background.of t.callerType t.array.type ≠ .filled := by
  unfold Transfer.outgoing at h
  obtain ⟨packed, -, h⟩ := bind_eq_ok h
  split at h
  · rename_i same
    exact .inl same
  · obtain ⟨p, plan, -⟩ := bind_eq_ok h
    obtain ⟨made, background⟩ := Conversion.makeWrite_eq_ok (mapError_eq_ok plan)
    exact .inr ⟨(Conversion.plan_spec made).1, background⟩

/-- A request to write has the ranges of its hyperslab in the URL or in the body. -/
theorem checkRanges_of_write {slab : Hyperslab} {type : DataType} {order : ByteOrder} {elements : Bytes}
    {body : RequestBody} (some : count ≠ 0)
    (encoded : Body.encodeWrite mode (.hyperslab slab) type order elements count base64 = .ok body)
    (query : writeQuery (.hyperslab slab) mode = .ok select) : Selection.checkRanges slab = .ok () := by
  obtain ⟨-, ⟨rfl, -⟩ | ⟨-, fields, _, made, -⟩⟩ := Body.encodeWrite_eq_ok encoded some
  · obtain ⟨-, -, text, query, -⟩ | ⟨other, -⟩ := writeQuery_eq_ok query
    · exact Selection.checkRanges_of_queryText query
    · exact absurd ⟨rfl, rfl⟩ other
  · exact Selection.checkRanges_of_bodyFields made

/-- What is planned with some elements can be sent. -/
theorem sendable_of_plan (h : plan connection base64 t = .ok (mode, count, request)) (some : count ≠ 0) :
    t.Sendable request := by
  obtain ⟨planned, built⟩ := plan_eq_ok h
  have elements : t.fileSpace.elementCount ≠ 0 := by
    rintro zero
    exact some (planned.count_eq.trans (by rw [zero]; rfl))
  cases direction : t.direction with
  | read =>
    simp only [direction] at built
    obtain ⟨⟨p, plan⟩, built⟩ := built
    obtain ⟨-, select, -, url, -, -, ranges⟩ := readRequest_eq_ok built
    refine ⟨elements, planned.fixed, ?_, fun slab kind => not_unaddressable (ranges slab kind), length_valueUrl url⟩
    rw [Converts, direction]
    exact (Conversion.plan_spec plan).1
  | write =>
    simp only [direction] at built
    obtain ⟨sent, body, select, outgoing, encoded, query, url, -⟩ := writeRequest_eq_ok built some
    refine ⟨elements, planned.fixed, ?_, fun slab kind => not_unaddressable ?_, length_valueUrl url⟩
    · rw [Converts, direction]
      exact converts_of_outgoing outgoing
    · rw [kind] at encoded query
      exact checkRanges_of_write some encoded query

end ArrayTransfer.Transfer
