import ArrayTransfer.Conversion.Buffer
import ArrayTransfer.Http.Connection
import ArrayTransfer.RemoteArray
import ArrayTransfer.Transfer.Retry
import ArrayTransfer.Transfer.State
import ArrayTransfer.Wire.Body

/-!
One transfer: selected elements of an array of the store, read into or written from selected places of a caller's
memory. `Transfer.configure` builds its request, `Transfer.complete` takes the response, and every operation says
what changed.
-/

namespace ArrayTransfer

/-- A transfer. The buffer is the caller's memory, of the shape of the memory space. -/
structure Transfer where
  array : RemoteArray
  fileSpace : Dataspace
  memorySpace : Dataspace
  callerType : DataType
  direction : Direction
  buffer : Bytes
  state : TransferState
  mode : Option TransferMode
  request : Option Request
  handle : Option Handle
  retry : Retry
  error : Option TransferError

/-- What happened to a transfer: it moved to another state, it will be tried again, or it failed. -/
inductive Change where
  | moved (before after : TransferState)
  | retrying (attempt : UInt32) (error : TransferError)
  | failed (attempts : UInt32) (error : TransferError)

namespace Transfer

abbrev Changed := Transfer × List Change

/-- The dataspaces in the store and in memory; left out, the one in memory is that in the store. -/
def resolveSpaces (shape : List UInt64) (selection : Selection) (memory : Option Dataspace) :
    Except SelectionError (Dataspace × Dataspace) := do
  let memory ← match memory with
    | some memory => pure memory
    | none => Dataspace.ofSelection? shape selection
  let file ← Dataspace.ofSelection? shape selection
  let _ ← Dataspace.matchCounts file memory
  return (file, memory)

/-- A new transfer. Both selections have to select as many elements, and the buffer has to hold the memory space, whose
    bytes are counted by a number and no word. -/
def make (direction : Direction) (array : RemoteArray) (selection : Selection) (memory : Option Dataspace)
    (callerType : DataType) (buffer : Bytes) : Except TransferError Transfer :=
  match resolveSpaces array.shape selection memory with
  | .error e => .error (.selection e)
  | .ok (file, memory) =>
    match callerType.size? with
    | none => .error (.variableCallerType callerType)
    | some size =>
      let expected := memory.extent.toNat * size
      if buffer.length ≠ expected then .error (.bufferLength buffer.length expected)
      else .ok ⟨array, file, memory, callerType, direction, buffer, .init, none, none, none, .fresh, none⟩

def moveTo (t : Transfer) (state : TransferState) : Changed := ({ t with state := state }, [.moved t.state state])

def fail (t : Transfer) (error : TransferError) : Changed :=
  ({ t with state := .failed, error := some error, request := none, handle := none },
    [.failed t.retry.attempts error, .moved t.state .failed])

/-! ### Requests -/

/-- The request that reads a selection; points are posted in a body, and other selections are in the URL. -/
def readRequest (connection : Connection) (id : String) (selection : Selection) (mode : TransferMode) :
    Except TransferError Request := do
  let request ← match selection.kind with
    | .points =>
      let url ← (connection.valueUrl id none).mapError .transport
      let fields ← selection.bodyFields.mapError .selection
      pure { ((Request.make .post url).withHeaders connection.headers).withHeader "Content-Type"
              TransferMode.json.contentType with body := Utf8.encode (Json.object fields).render }
    | .hyperslab =>
      let query ← selection.queryText.mapError .selection
      let url ← (connection.valueUrl id (some query)).mapError .transport
      pure ((Request.make .get url).withHeaders connection.headers)
    | _ =>
      let url ← (connection.valueUrl id none).mapError .transport
      pure ((Request.make .get url).withHeaders connection.headers)
  return request.withHeader "Accept" mode.contentType

/-- The elements that a write sends: those selected in memory, converted to the type of the array. -/
def outgoing (t : Transfer) (count : Nat) : Except TransferError Bytes := do
  let packed ← (Memory.gather t.buffer t.memorySpace t.callerType.size).mapError fun e => .wire (.bufferLength e)
  if t.callerType = t.array.type then return packed.bytes
  let plan ← (Plan.makeWrite t.callerType t.array.type count).mapError .conversion
  (Conversion.convertToNew plan t.callerType t.array.type packed.bytes).mapError .conversion

/-- The query of a request that writes to a selection: a hyperslab goes into it if the body is raw. -/
def writeQuery (s : Selection) (mode : TransferMode) : Except SelectionError (Option String) :=
  match s.kind, mode with
  | .hyperslab, .binary => s.queryText.map some
  | _, _ => .ok none

/-- The request that writes elements to a selection; points are posted. -/
def writeRequest (connection : Connection) (base64 : Bool) (t : Transfer) (mode : TransferMode) (count : Nat) :
    Except TransferError Request := do
  let selection := t.fileSpace.selection
  let elements ← t.outgoing count
  let body ← (Body.encodeWrite mode selection t.array.type t.array.order elements count base64).mapError .wire
  let select ← (writeQuery selection mode).mapError .selection
  let url ← (connection.valueUrl t.array.id select).mapError .transport
  let method := if selection.kind = .points then Method.post else .put
  let request := (Request.make method url).withHeaders connection.headers
  let request := match body.contentType? with
    | some contentType => request.withHeader "Content-Type" contentType
    | none => request
  return { request with body := body.toBytes }

/-- The mode of the transfer, the number of its elements, and its request. -/
def plan (connection : Connection) (base64 : Bool) (t : Transfer) :
    Except TransferError (TransferMode × Nat × Request) := do
  if t.array.type.isVariable then throw (.wire (.unsupportedType t.array.type))
  let count ← t.fileSpace.addressableCount.mapError .selection
  let mode := TransferMode.chooseFor t.array.type t.fileSpace.selection.kind
  match t.direction with
  | .read =>
    let _ ← (Plan.make t.array.type t.callerType count false).mapError .conversion
    return (mode, count, ← readRequest connection t.array.id t.fileSpace.selection mode)
  | .write => return (mode, count, ← writeRequest connection base64 t mode count)

/-- The transfer with its request. A transfer of no elements needs none and has succeeded. -/
def configure (connection : Connection) (base64 : Bool) (t : Transfer) : Except TransferError Changed :=
  match plan connection base64 t with
  | .error e => .error e
  | .ok (mode, count, request) =>
    let (t, changes) := moveTo { t with mode := some mode } .configured
    if count = 0 then
      let (t, more) := t.moveTo .succeeded
      .ok (t, changes ++ more)
    else .ok ({ t with request := some request }, changes)

/-! ### Attempts -/

def submitted (t : Transfer) (handle : Handle) : Changed :=
  moveTo { t with handle := some handle, retry := t.retry.start } .enqueued

def beginFlight (t : Transfer) : Changed := if t.state = .enqueued then t.moveTo .inFlight else (t, [])

def isRetryDue (t : Transfer) (now : Instant) : Bool := t.state = .retryPending && t.retry.isDue now

/-- Whether the program has stopped over the transfer. -/
def hasStopped (t : Transfer) : Bool := t.error.any TransferError.stops || t.retry.isBeyondTime

/-- The buffer of a read with the elements of a response in it. -/
def receive (t : Transfer) (response : Response) : Except TransferError Bytes := do
  let wireType := t.array.type
  let count ← t.fileSpace.addressableCount.mapError .selection
  let elements ← (match t.mode with
    | some .binary => Body.decodeBinary response.body wireType t.array.order count
    | _ => Body.decodeJson response.body wireType count).mapError .wire
  if wireType = t.callerType then
    (Memory.scatter elements t.buffer t.memorySpace t.callerType.size).mapError fun e => .wire (.bufferLength e)
  else
    let plan ← (Plan.make wireType t.callerType count t.memorySpace.region?.isSome).mapError .conversion
    (Conversion.convertInto plan wireType t.callerType elements t.buffer t.memorySpace).mapError .conversion

/-- The buffer after an attempt, or why the attempt went wrong. -/
def outcome (t : Transfer) (result : Except TransportError Response) : Except TransferError Bytes :=
  match result with
  | .error e => .error (.transport e)
  | .ok response =>
    match Status.classify response.status with
    | .success =>
      match t.direction with
      | .read => t.receive response
      | .write => .ok t.buffer
    | _ => .error (.status response.status ((t.request.map (·.url)).getD ""))

/-- The transfer after an attempt: it has succeeded, or it waits for a retry, or it has failed. -/
def complete (t : Transfer) (policy : RetryPolicy) (now : Instant) (result : Except TransportError Response) :
    Changed :=
  match t.outcome result with
  | .ok buffer => moveTo { t with handle := none, buffer := buffer, request := none } .succeeded
  | .error error =>
    match t.retry.schedule policy error now with
    | (true, retry) =>
      let (t, changes) := moveTo { t with handle := none, retry := retry } .retryPending
      (t, .retrying retry.attempts error :: changes)
    | (false, retry) => fail { t with handle := none, retry := { retry with lastError := none } } error

end Transfer

end ArrayTransfer
