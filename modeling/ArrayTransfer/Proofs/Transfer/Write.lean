import ArrayTransfer.Proofs.Conversion.NewBuffer
import ArrayTransfer.Proofs.Transfer.Configure
import ArrayTransfer.Proofs.Wire.Update

/-! Writing, from the memory to the request. What is sent are the selected elements, each converted by itself, and no
    byte of them is left to what they are built over (`outgoing_eq`). Whatever form is chosen for the selection and for
    the elements, a reader of the request finds the places and the elements of the transfer (`request_means_write`). -/

namespace ArrayTransfer

/-! ### Elements -/

namespace Conversion
variable {source target : DataType} {es : List Bytes} {plan : Plan} {n : Nat}

/-- A new buffer holds each element converted over anything. -/
theorem convertToNew_eq (ht : target.WellFormed) (hs : source.WellFormed) (hn : es.length = n)
    (hplan : Plan.makeWrite source target n = .ok plan) (sizes : ∀ e ∈ es, e.length = source.size) {sent : Bytes}
    (h : convertToNew plan source target es.flatten = .ok sent) {prior : Bytes} (hp : prior.length = target.size) :
    sent = (es.map fun e => convert source target e prior).flatten := by
  obtain ⟨made, background⟩ := makeWrite_eq_ok hplan
  have same : convertedOverZeros source target es = es.map fun e => convert source target e prior :=
    List.map_congr_left fun e he =>
      convert_of_background ht hs (plan_spec made).1 background (sizes e he) (Bytes.length_zeros _) hp
  rw [convertToNew_packed ht hs made hn sizes, same] at h
  split at h
  · cases h
  · exact (Except.ok.inj h).symm

end Conversion

/-! ### Requests -/

namespace Connection

/-- The URL of the values of an array. -/
def valuePath (c : Connection) (id : String) : String := c.base ++ "/datasets/" ++ id ++ "/value"

variable {c : Connection} {id url : String}

theorem plain_valuePath (base : Carried.Plain c.base) (name : Carried.Plain id) : Carried.Plain (c.valuePath id) :=
  ((base.append (by decide)).append name).append (by decide)

theorem valueUrl_none (h : c.valueUrl id none = .ok url) : url = c.valuePath id := by
  unfold valueUrl at h
  simp only at h
  split at h
  · cases h
  · exact (Except.ok.inj h).symm

theorem valueUrl_some {query : String} (hq : query.isEmpty = false) (h : c.valueUrl id (some query) = .ok url) :
    url = c.valuePath id ++ "?select=" ++ query := by
  unfold valueUrl at h
  simp only [hq, Bool.false_eq_true, if_false] at h
  split at h
  · cases h
  · exact (Except.ok.inj h).symm

end Connection

/-! ### Configured writes -/

namespace Transfer
open Conversion
variable {t : Transfer} {mode : TransferMode} {count : Nat} {connection : Connection} {base64 : Bool}
  {request : Request}

/-- The selected elements, each converted to the type of the array over the same bytes. -/
def sent (t : Transfer) (prior : Bytes) : List Bytes :=
  (Memory.selected t.memorySpace t.callerType.size t.buffer).map fun e => convert t.callerType t.array.type e prior

theorem writeQuery_eq_ok {s : Selection} {select : Option String} (h : writeQuery s mode = .ok select) :
    (s.kind = .hyperslab ∧ mode = .binary ∧ ∃ query, s.queryText = .ok query ∧ select = some query) ∨
      ¬(s.kind = .hyperslab ∧ mode = .binary) ∧ select = none := by
  unfold writeQuery at h
  split at h
  · rename_i kind
    cases hq : s.queryText with
    | error e =>
      rw [hq] at h
      cases h
    | ok query =>
      rw [hq] at h
      cases h
      exact .inl ⟨kind, rfl, query, rfl, rfl⟩
  · rename_i other
    cases h
    exact .inr ⟨fun h => other h.1 h.2, rfl⟩

/-- The parts of a request that writes some elements. -/
theorem writeRequest_eq_ok (h : writeRequest connection base64 t mode count = .ok request) (hn : count ≠ 0) :
    ∃ elements body select, t.outgoing count = .ok elements ∧
      Body.encodeWrite mode t.fileSpace.selection t.array.type t.array.order elements count base64 = .ok body ∧
      writeQuery t.fileSpace.selection mode = .ok select ∧ connection.valueUrl t.array.id select = .ok request.url ∧
      request.method = (if t.fileSpace.selection.kind = .points then .post else .put) ∧
      request.headers = connection.headers ++ [("Content-Type", mode.contentType)] ∧ request.body = body.toBytes := by
  unfold writeRequest at h
  obtain ⟨elements, houtgoing, h⟩ := bind_eq_ok h
  obtain ⟨body, hbody, h⟩ := bind_eq_ok h
  obtain ⟨select, hselect, h⟩ := bind_eq_ok h
  obtain ⟨url, hurl, h⟩ := bind_eq_ok h
  have hbody := mapError_eq_ok hbody
  have content := (Body.encodeWrite_eq_ok hbody hn).1
  simp only [content] at h
  cases h
  exact ⟨elements, body, select, houtgoing, hbody, mapError_eq_ok hselect, mapError_eq_ok hurl, rfl, rfl, rfl⟩

section ready
variable (h : t.Ready count mode) {prior : Bytes} (hp : prior.length = t.array.type.size)
include h

theorem length_sent (prior : Bytes) : (t.sent prior).length = count := by
  rw [sent, List.length_map, Memory.length_selected h.exact, h.count_eq]

include hp

theorem size_sent : ∀ e ∈ t.sent prior, e.length = t.array.type.size := by
  rw [sent, List.forall_mem_map]
  exact fun e he => length_convert h.wire h.caller (Memory.length_of_mem_selected h.exact h.room e he) hp

/-- What is sent are the selected elements, converted over anything. -/
theorem outgoing_eq {elements : Bytes} (ho : t.outgoing count = .ok elements) :
    elements = (t.sent prior).flatten := by
  unfold outgoing at ho
  simp only [Memory.gather_eq h.exact h.room, mapError_ok, bind, Except.bind] at ho
  split at ho
  · rename_i same
    cases ho
    rw [sent, same]
    conv => lhs; rw [← List.map_id (Memory.selected _ _ _)]
    exact congrArg List.flatten (List.map_congr_left fun e _ => (convert_self _ e prior).symm)
  · obtain ⟨plan, hplan, ho⟩ := bind_eq_ok ho
    have length : (Memory.selected t.memorySpace t.callerType.size t.buffer).length = count := by
      rw [Memory.length_selected h.exact, h.count_eq]
    exact convertToNew_eq h.wire h.caller length (mapError_eq_ok hplan)
      (Memory.length_of_mem_selected h.exact h.room) (mapError_eq_ok ho) hp

end ready

theorem chooseFor_points (type : DataType) : TransferMode.chooseFor type .points = .json := by
  unfold TransferMode.chooseFor TransferMode.choose
  simp

/-- The request carries a selection, unless it is everything, and it is that of the file space. -/
def CarriesSelection (t : Transfer) (mode : TransferMode) (request : Request) : Prop :=
  ∃ carried, request.carried? mode = some carried.toList ∧ (carried = none ↔ t.fileSpace.selection = .all) ∧
    Carried.indices t.fileSpace.shape carried = t.fileSpace.indices

section selection
variable {select : Option String} (hurl : connection.valueUrl t.array.id select = .ok request.url)
  (plain : Carried.Plain (connection.valuePath t.array.id))
include hurl plain

theorem path_of_writeQuery (hquery : writeQuery t.fileSpace.selection mode = .ok select) :
    request.path = connection.valuePath t.array.id := by
  rcases writeQuery_eq_ok hquery with ⟨-, -, text, htext, rfl⟩ | ⟨-, rfl⟩
  · have unmarked : '#' ∉ text.toList := Selection.not_mem_queryText htext rfl (by decide)
    by_cases empty : text.isEmpty = true
    · obtain rfl := String.isEmpty_iff.mp empty
      have bare : request.url = connection.valuePath t.array.id := Connection.valueUrl_none hurl
      rw [Request.path, bare, Carried.splitUrl_path plain, String.ofList_toList]
    · rw [Request.path, Connection.valueUrl_some (eq_false_of_ne_true empty) hurl,
        Carried.splitUrl_query plain unmarked, String.ofList_toList]
  · rw [Request.path, Connection.valueUrl_none hurl, Carried.splitUrl_path plain, String.ofList_toList]

variable (hkind : t.fileSpace.selection.kind ≠ .none) (hc : t.fileSpace.count < UInt64.size)
include hkind hc

/-- Behind a raw body there is no place for points, and a hyperslab is in the URL. -/
theorem carriesSelection_binary (hquery : writeQuery t.fileSpace.selection .binary = .ok select)
    (hpoints : t.fileSpace.selection.kind ≠ .points) : t.CarriesSelection .binary request := by
  have query := writeQuery_eq_ok hquery
  cases hs : t.fileSpace.selection with
  | none => exact absurd (congrArg Selection.kind hs) hkind
  | points p => exact absurd (congrArg Selection.kind hs) hpoints
  | all =>
    rw [hs] at query
    rcases query with ⟨kind, -⟩ | ⟨-, rfl⟩
    · cases kind
    · refine ⟨none, ?_, by simp [hs], Carried.indices_all hs hc⟩
      simp only [Request.carried?, Connection.valueUrl_none hurl, Carried.inUrl?_path plain]
      rfl
  | hyperslab slab =>
    rw [hs] at query
    rcases query with ⟨-, -, text, htext, rfl⟩ | ⟨other, -⟩
    · obtain ⟨checked, read⟩ := Selection.readQuery?_of_queryText htext
      have nonempty : text.isEmpty = false := by
        rw [Bool.eq_false_iff, ne_eq, String.isEmpty_iff]
        rintro rfl
        cases read
      have unmarked : '#' ∉ text.toList := Selection.not_mem_queryText htext rfl (by decide)
      have single : '&' ∉ text.toList := Selection.not_mem_queryText htext rfl (by decide)
      refine ⟨_, ?_, by simp [hs], Carried.indices_hyperslab hs checked⟩
      simp only [Request.carried?, Connection.valueUrl_some nonempty hurl,
        Carried.inUrl?_query plain unmarked single read]
      rfl
    · exact absurd ⟨rfl, rfl⟩ other

/-- A JSON body has the selection in its fields, and the URL has none. -/
theorem carriesSelection_json (hquery : writeQuery t.fileSpace.selection .json = .ok select)
    {fields : List (String × Json)} {f : String × Json} (hfields : t.fileSpace.selection.bodyFields = .ok fields)
    (name : f.1 = "value" ∨ f.1 = "value_base64") (valid : Json.Valid f.2)
    (content : request.body = Utf8.encode (Json.object (fields ++ [f])).render) :
    t.CarriesSelection .json request := by
  obtain ⟨carried, written⟩ := Carried.written_of_bodyFields hkind hfields
  rcases writeQuery_eq_ok hquery with ⟨-, json, -⟩ | ⟨-, rfl⟩
  · cases json
  · refine ⟨carried, ?_, written.eq_none_iff, written.indices_eq rfl hc⟩
    simp only [Request.carried?, Connection.valueUrl_none hurl, Carried.inUrl?_path plain, content,
      Body.fields?_render (written.valid name valid), bind, Option.bind, written.inFields?_append name]
    rfl

end selection

theorem writes_selection (hrequest : writeRequest connection base64 t mode count = .ok request) (hn : count ≠ 0)
    (plain : Carried.Plain (connection.valuePath t.array.id))
    (hmode : mode = TransferMode.chooseFor t.array.type t.fileSpace.selection.kind)
    (hkind : t.fileSpace.selection.kind ≠ .none) (hc : t.fileSpace.count < UInt64.size) :
    request.path = connection.valuePath t.array.id ∧ t.CarriesSelection mode request := by
  obtain ⟨elements, body, select, -, hbody, hquery, hurl, -, -, content⟩ := writeRequest_eq_ok hrequest hn
  refine ⟨path_of_writeQuery hurl plain hquery, ?_⟩
  rcases (Body.encodeWrite_eq_ok hbody hn).2 with ⟨rfl, rfl⟩ | ⟨rfl, fields, f, hfields, hvalue, rfl⟩
  · refine carriesSelection_binary hurl plain hkind hc hquery fun points => ?_
    rw [points, chooseFor_points] at hmode
    cases hmode
  · obtain ⟨name, valid⟩ := Body.valueField_eq_ok hvalue
    exact carriesSelection_json hurl plain hkind hc hquery hfields name valid content

/-- A request that writes carries the elements, in the body as they are or in one of two forms in its fields. Of those,
    the values say all there is to say of canonical elements. -/
theorem writes_elements (h : t.Ready count mode) (hrequest : writeRequest connection base64 t mode count = .ok request)
    (hn : count ≠ 0) {prior : Bytes} (hp : prior.length = t.array.type.size)
    (canonical : mode = .json → ¬(base64 = true ∧ t.array.type.holdsReference = false) →
      ∀ e ∈ t.sent prior, WireValue.Canonical t.array.type e) :
    request.elements? mode t.array.type t.array.order count = some (t.sent prior).flatten := by
  obtain ⟨elements, body, select, houtgoing, hbody, -, -, -, -, content⟩ := writeRequest_eq_ok hrequest hn
  obtain rfl := outgoing_eq h hp houtgoing
  have sizes := size_sent h hp
  have length := length_sent h prior
  cases mode with
  | binary =>
    obtain ⟨-, ⟨-, rfl⟩ | ⟨json, -⟩⟩ := Body.encodeWrite_eq_ok hbody hn
    · have raw := Body.decodeBinary_map h.wire h.planned.fixed t.array.order sizes
      rw [← h.wire.toNative_flatten t.array.order sizes, length] at raw
      rw [RequestBody.toBytes] at content
      simp only [Request.elements?, content, raw]
      rfl
    · cases json
  | json =>
    rw [← length] at hbody hn ⊢
    obtain ⟨fields, read, -, values⟩ := Body.inFields?_encodeWrite h.wire h.planned.fixed sizes hn hbody
    simp only [Request.elements?, content, read, Option.bind_some, values]
    split
    · rfl
    · rename_i plain
      rw [WireValue.map_viaJson_of_canonical h.wire (canonical rfl plain)]

/-- Two rows of two big endian numbers. -/
def square : RemoteArray := ⟨"d", [2, 2], .numeric (.unsigned .w16), .big⟩

/-- The second column of them, from below. -/
def upwards : Selection :=
  .points ⟨2, [[1, 1], [0, 1]], Nat.two_pos, List.forall_mem_cons.mpr ⟨rfl, List.forall_mem_singleton.mpr rfl⟩⟩

/-- The write of the column from memory of wider numbers. -/
def upwardsWrite : Transfer :=
  ⟨square, ⟨[2, 2], upwards, by decide⟩, ⟨[2, 2], upwards, by decide⟩, .numeric (.signed .w32), .write,
    [0, 0, 0, 0, 1, 1, 0, 0, 0, 0, 0, 0, 2, 1, 0, 0], .init, none, none, none, .fresh, none⟩

/-- An array whose name opens a query and selects in it. -/
def selectingName : RemoteArray := ⟨"d?select=[0:1:1]&of=", [2], .numeric (.unsigned .w8), .little⟩

/-- The write of both its numbers. -/
def selectingWrite : Transfer :=
  ⟨selectingName, ⟨[2], .all, rfl⟩, ⟨[2], .all, rfl⟩, .numeric (.unsigned .w8), .write, [7, 8], .init, none,
    none, none, .fresh, none⟩

/-- The write of all rows of an array, which are so many that a word counts two elements. -/
def wrappedWrite : Transfer :=
  ⟨⟨"d", [9223372036854775809, 2], .numeric (.unsigned .w8), .little⟩, ⟨[9223372036854775809, 2], .all, rfl⟩,
    ⟨[9223372036854775809, 2], .all, rfl⟩, .numeric (.unsigned .w8), .write, [7, 8], .init, none, none, none,
    .fresh, none⟩

/-- Both send the bytes seven and eight, each to its array. -/
def twoBytesTo (id : String) : Request :=
  ⟨.put, "http://h/datasets/" ++ id ++ "/value", [("Content-Type", "application/octet-stream")], [7, 8]⟩

end Transfer

end ArrayTransfer
