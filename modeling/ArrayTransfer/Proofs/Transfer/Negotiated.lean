import ArrayTransfer.Proofs.Http.Headers
import ArrayTransfer.Proofs.Transfer.Decoded
import ArrayTransfer.Proofs.Transfer.Fate
import ArrayTransfer.Proofs.Transfer.Sendable

/-! What a request says of its body and of the response it asks for. Behind the headers of the connection it has the
    type of the body that it was given, and a read has the type that the response is decoded by
    (`Transfer.headers_of_plan`). The first header of a name counts, so that a header of the connection is read in their
    place. -/

namespace ArrayTransfer.Transfer

variable {t u : Transfer} {mode : TransferMode} {count : Nat} {connection : Connection} {base64 : Bool}
  {request : Request} {done : Changed}

/-! ### Requests -/

/-- The body that is given to a request to write: the elements, with or without the selection. -/
def writeBody (t : Transfer) (base64 : Bool) (mode : TransferMode) (count : Nat) :
    Except TransferError RequestBody := do
  let elements ← t.outgoing count
  (Body.encodeWrite mode t.fileSpace.selection t.array.type t.array.order elements count base64).mapError .wire

/-- The body that is given to the request of a transfer. -/
def attachment (t : Transfer) (base64 : Bool) (mode : TransferMode) (count : Nat) : Except TransferError RequestBody :=
  match t.direction with
  | .read => readBody t.fileSpace.selection
  | .write => t.writeBody base64 mode count

/-- The headers that a transfer adds to those of the connection. -/
def negotiated (t : Transfer) (mode : TransferMode) (body : RequestBody) : List Header :=
  match t.direction with
  | .read => bodyHeaders body ++ [("Accept", mode.contentType)]
  | .write => bodyHeaders body

theorem headers_of_writeRequest (h : writeRequest connection base64 t mode count = .ok request) (any : count ≠ 0) :
    ∃ body, t.writeBody base64 mode count = .ok body ∧ request.body = body.toBytes ∧
      request.headers = connection.headers ++ bodyHeaders body := by
  obtain ⟨elements, body, _, outgoing, encoded, -, -, -, headers, content⟩ := writeRequest_eq_ok h any
  refine ⟨body, ?_, content, ?_⟩
  · rw [writeBody, outgoing]
    simp only [bind, Except.bind, encoded]
    rfl
  · rw [headers, bodyHeaders, (Body.encodeWrite_eq_ok encoded any).1]
    rfl

/-- A planned request has the headers of the connection, and behind them those that the transfer adds for its body and
    its mode. -/
theorem headers_of_plan (h : plan connection base64 t = .ok (mode, count, request)) (any : count ≠ 0) :
    ∃ body, t.attachment base64 mode count = .ok body ∧ request.body = body.toBytes ∧
      request.headers = connection.headers ++ t.negotiated mode body := by
  obtain ⟨-, built⟩ := plan_eq_ok h
  unfold attachment negotiated
  cases direction : t.direction with
  | read =>
    simp only [direction] at built
    obtain ⟨body, _, made, -, headers, content, -⟩ := readRequest_eq_ok built.2
    exact ⟨body, made, content, headers⟩
  | write =>
    simp only [direction] at built
    exact headers_of_writeRequest built any

/-! ### Lookups -/

theorem contentType_ne_accept : Header.sameName "Content-Type" "Accept" = false := by decide +kernel

theorem named_accept_bodyHeaders (body : RequestBody) : Header.named "Accept" (bodyHeaders body) = [] := by
  unfold bodyHeaders
  cases body.contentType? with
  | none => rfl
  | some type => exact (Header.named_singleton ..).trans (if_neg (by simp [contentType_ne_accept]))

theorem named_contentType_bodyHeaders (body : RequestBody) :
    Header.named "Content-Type" (bodyHeaders body) = bodyHeaders body := by
  unfold bodyHeaders
  cases body.contentType? with
  | none => rfl
  | some type => exact (Header.named_singleton ..).trans (if_pos (Header.sameName_refl _))

/-- A read adds the header of its mode. -/
theorem named_accept_negotiated (read : t.direction = .read) (mode : TransferMode) (body : RequestBody) :
    Header.named "Accept" (t.negotiated mode body) = [("Accept", mode.contentType)] := by
  unfold negotiated
  rw [read, Header.named_append, named_accept_bodyHeaders, Header.named_singleton, if_pos (Header.sameName_refl _)]
  rfl

/-- Any transfer adds the header of its body. -/
theorem named_contentType_negotiated (t : Transfer) (mode : TransferMode) (body : RequestBody) :
    Header.named "Content-Type" (t.negotiated mode body) = bodyHeaders body := by
  have other : ¬Header.sameName "Accept" "Content-Type" = true := by
    rw [Header.sameName_comm, contentType_ne_accept]
    exact Bool.false_ne_true
  unfold negotiated
  cases t.direction with
  | read =>
    simp only [Header.named_append, named_contentType_bodyHeaders, Header.named_singleton, if_neg other]
    exact List.append_nil _
  | write => exact named_contentType_bodyHeaders body

/-- A write of some elements has a body of a type, and so has a read of points. -/
theorem contentType_of_attachment {body : RequestBody} (any : count ≠ 0)
    (attached : t.attachment base64 mode count = .ok body)
    (kind : t.direction = .write ∨ t.fileSpace.selection.kind = .points) : ∃ type, body.contentType? = some type := by
  unfold attachment at attached
  cases direction : t.direction with
  | write =>
    simp only [direction] at attached
    obtain ⟨elements, -, encoded⟩ := bind_eq_ok attached
    exact ⟨_, (Body.encodeWrite_eq_ok (mapError_eq_ok encoded) any).1⟩
  | read =>
    rw [direction] at kind
    have points := kind.resolve_left (by decide)
    simp only [direction, readBody, points] at attached
    obtain ⟨fields, -, rfl⟩ := map_eq_ok attached
    exact ⟨_, rfl⟩

/-! ### Configured requests -/

/-- What a request is looked up for, if its headers are those of a connection with settings, and more. -/
theorem header?_of_headers {store : Connection} {more : List Header} (bare : store.headers = [])
    (settings : List Setting) (headers : request.headers = (store.set settings).headers ++ more) (name : String) :
    Header.named name request.headers = (Setting.last? name settings).toList ++ Header.named name more ∧
      request.header? name = (Setting.value? name settings).or ((Header.named name more).head?.map (·.2)) := by
  have named : Header.named name request.headers =
      (Setting.last? name settings).toList ++ Header.named name more := by
    rw [headers, Header.named_append, Connection.named_set bare]
  refine ⟨named, ?_⟩
  rw [Request.header?, Header.find?_eq_head?, named, Setting.value?]
  cases Setting.last? name settings <;> rfl

/-- The connection of a request has each header that was set for it once, with what was set last, and the request has
    those and, behind them, what the transfer adds. So a read asks for what its response is decoded by, in all attempts,
    unless the connection asks for something else; and a body is of the type that it is said to be, unless the connection
    says something else. -/
theorem negotiated_unless_set {baseUrl : String} {store : Connection} (opened : Connection.make baseUrl = .ok store)
    (settings : List Setting) (fresh : t.Fresh) (configured : t.configure (store.set settings) base64 = .ok done)
    (held : done.1.request = some request) :
    (∀ name, Header.named name (store.set settings).headers = (Setting.last? name settings).toList) ∧
    ∃ mode body, done.1.mode = some mode ∧
      t.attachment base64 mode t.fileSpace.elementCount.toNat = .ok body ∧ request.body = body.toBytes ∧
      (∀ name, Header.named name request.headers =
        (Setting.last? name settings).toList ++ Header.named name (t.negotiated mode body)) ∧
      (t.direction = .read →
        request.header? "Accept" = some ((Setting.value? "Accept" settings).getD mode.contentType) ∧
        ∀ u, Attempted done.1 u → ∀ response, u.receive response =
          (Body.decode mode response.body t.array.type t.array.order t.fileSpace.elementCount.toNat).mapError .wire >>=
            t.takeIn t.fileSpace.elementCount.toNat) ∧
      (t.direction = .write ∨ t.fileSpace.selection.kind = .points → ∃ type, body.contentType? = some type ∧
        request.header? "Content-Type" = some ((Setting.value? "Content-Type" settings).getD type)) := by
  have bare := Connection.headers_make opened
  obtain ⟨mode, count, built, planned, ⟨-, rfl⟩ | ⟨any, rfl⟩⟩ := configure_cases configured
  · cases fresh.request.symm.trans held
  cases held
  have noted := (plan_eq_ok planned).1
  obtain ⟨body, attached, content, headers⟩ := headers_of_plan planned any
  obtain rfl := noted.count_eq
  have look := header?_of_headers bare settings headers
  refine ⟨Connection.named_set bare settings, mode, body, rfl, attached, content, fun name => (look name).1,
    fun read => ⟨?_, fun u attempted response => ?_⟩, fun kind => ?_⟩
  · rw [(look "Accept").2, named_accept_negotiated read]
    cases Setting.value? "Accept" settings <;> rfl
  · rw [attempted.same.receive_eq]
    exact receive_by_mode (t := { t with mode := some mode, state := .configured, request := some request })
      ⟨noted.fixed, noted.count, noted.mode⟩ rfl response
  · obtain ⟨type, typed⟩ := contentType_of_attachment any attached kind
    refine ⟨type, typed, ?_⟩
    rw [(look "Content-Type").2, named_contentType_negotiated, bodyHeaders, typed]
    cases Setting.value? "Content-Type" settings <;> rfl

/-- What a new transfer is configured as for a store with settings, with its request. -/
def built? (baseUrl : String) (settings : List Setting) (t : Transfer) : Option (Changed × Request) := do
  let store ← (Connection.make baseUrl).toOption
  let done ← (t.configure (store.set settings) false).toOption
  return (done, ← done.1.request)

theorem built?_eq_some {baseUrl : String} {settings : List Setting} (h : built? baseUrl settings t = some (done, request)) :
    ∃ store, Connection.make baseUrl = .ok store ∧ t.configure (store.set settings) false = .ok done ∧
      done.1.request = some request := by
  obtain ⟨store, opened, h⟩ := Option.bind_eq_some_iff.mp h
  obtain ⟨done', configured, h⟩ := Option.bind_eq_some_iff.mp h
  obtain ⟨request', held, h⟩ := Option.bind_eq_some_iff.mp h
  cases h
  exact ⟨store, toOption_eq_some opened, toOption_eq_some configured, held⟩

/-- Credentials that were renewed, and a domain. -/
def renewed : List Setting := [.header "authorization" "old", .domain "/home/a", .header "Authorization" "new"]

/-- The request for two points has the new credentials only, and says what its points are and what it asks for. -/
theorem negotiated_unless_set_renewed : ∃ store done request, Connection.make "http://h" = .ok store ∧
    widerRead.configure (store.set renewed) false = .ok done ∧ done.1.request = some request ∧
    Header.named "authorization" (store.set renewed).headers = [("Authorization", "new")] ∧
    request.header? "Accept" = some "application/json" ∧ request.header? "Content-Type" = some "application/json" := by
  have made : make .read threeWords secondAndFirst none (.numeric (.signed .w32)) [9, 9, 9, 9, 9, 9, 9, 9, 9, 9, 9, 9] =
      .ok widerRead := rfl
  have run : (built? "http://h" renewed widerRead).map (·.1.1.mode) = some (some .json) := by decide +kernel
  obtain ⟨⟨done, request⟩, built, json⟩ := Option.map_eq_some_iff.mp run
  obtain ⟨store, opened, configured, held⟩ := built?_eq_some built
  obtain ⟨context, mode, body, noted, attached, -, -, reads, typed⟩ :=
    negotiated_unless_set opened renewed (.of_make made) configured held
  obtain rfl := Option.some.inj (json.symm.trans noted)
  have points : (widerRead.attachment false .json widerRead.fileSpace.elementCount.toNat).toOption.bind (·.contentType?) =
      some "application/json" := by
    decide +kernel
  rw [attached] at points
  obtain ⟨type, known, stated⟩ := typed (.inr rfl)
  obtain rfl := Option.some.inj (points.symm.trans known)
  refine ⟨store, done, request, opened, configured, held, (context _).trans (by decide +kernel), ?_, ?_⟩
  · exact (reads rfl).1.trans (by decide +kernel)
  · exact stated.trans (by decide +kernel)

/-- A store that is to answer in JSON. -/
def jsonOnly : List Setting := [.header "accept" "application/json"]

/-- A raw response is asked for behind what the connection asks for. -/
theorem setting_comes_first : ∃ store done request, Connection.make "http://h" = .ok store ∧
    wholeRead.configure (store.set jsonOnly) false = .ok done ∧ done.1.request = some request ∧
    done.1.mode = some .binary ∧ request.header? "Accept" = some "application/json" ∧
    Header.named "Accept" request.headers =
      [("accept", "application/json"), ("Accept", "application/octet-stream")] := by
  have run : (built? "http://h" jsonOnly wholeRead).map (fun b =>
      (b.1.1.mode, b.2.header? "Accept", Header.named "Accept" b.2.headers)) =
        some (some .binary, some "application/json",
          [("accept", "application/json"), ("Accept", "application/octet-stream")]) := by
    decide +kernel
  obtain ⟨⟨done, request⟩, built, eq⟩ := Option.map_eq_some_iff.mp run
  obtain ⟨store, opened, configured, held⟩ := built?_eq_some built
  simp only [Prod.mk.injEq] at eq
  obtain ⟨mode, first, both⟩ := eq
  exact ⟨store, done, request, opened, configured, held, mode, first, both⟩

end ArrayTransfer.Transfer
