import ArrayTransfer.Session.Basic

/-!
Reading and writing arrays of a store. Each call makes its transfers and drives them to their end; it gives
`none` if `fuel` turns of the loop are not enough, or if the program stops.
-/

namespace ArrayTransfer

/-- A client of a store, with the state of its environment. -/
structure Client (σ : Type) where
  env : Environment σ
  world : σ
  connection : Connection
  options : SessionOptions

/-- Why a call of a client fails. -/
inductive ClientError where
  | transfer (error : TransferError)
  | bulk (error : BulkError)
  | elementSize (size : Nat) (type : DataType)

def ClientError.message : ClientError → String
  | transfer error => error.message
  | bulk error => error.message
  | elementSize size t => s!"element size {size} does not match the size of data type " ++ t.name

/-- What a call leaves: the client, the transfers, the log lines, and how it ended. -/
structure Outcome (σ : Type) (α : Type) where
  client : Client σ
  transfers : List Transfer
  warnings : List String
  result : α

namespace Outcome

variable {σ α β : Type}

def map (f : α → β) (o : Outcome σ α) : Outcome σ β := ⟨o.client, o.transfers, o.warnings, f o.result⟩

def buffer (o : Outcome σ α) : Bytes := (o.transfers.head?.map (·.buffer)).getD []

end Outcome

namespace Client

variable {σ : Type}

def execute (c : Client σ) (fuel : Nat) (transfers : List Transfer) : Option (Outcome σ (Except BulkError Summary)) :=
  (Session.execute c.env c.connection c.options fuel c.world transfers).map fun s =>
    ⟨{ c with world := s.world }, s.transfers, s.warnings, s.verdict⟩

def reject {α : Type} (c : Client σ) (error : ClientError) : Outcome σ (Except ClientError α) :=
  ⟨c, [], [], .error error⟩

def transfer (c : Client σ) (fuel : Nat) (direction : Direction) (array : RemoteArray) (selection : Selection)
    (memory : Option Dataspace) (callerType : DataType) (buffer : Bytes) :
    Option (Outcome σ (Except ClientError Summary)) :=
  match Transfer.make direction array selection memory callerType buffer with
  | .error e => some (c.reject (.transfer e))
  | .ok t => (c.execute fuel [t]).map (Outcome.map (Except.mapError .bulk))

/-- Reads selected elements into selected places of the buffer. -/
def read (c : Client σ) (fuel : Nat) (array : RemoteArray) (selection : Selection) (memory : Option Dataspace)
    (callerType : DataType) (buffer : Bytes) : Option (Outcome σ (Except ClientError Summary)) :=
  c.transfer fuel .read array selection memory callerType buffer

/-- Writes selected elements from selected places of the buffer. -/
def write (c : Client σ) (fuel : Nat) (array : RemoteArray) (selection : Selection) (memory : Option Dataspace)
    (callerType : DataType) (buffer : Bytes) : Option (Outcome σ (Except ClientError Summary)) :=
  c.transfer fuel .write array selection memory callerType buffer

/-- The number of elements that a selection of an array selects. -/
def selectedCount (array : RemoteArray) (selection : Selection) : Except SelectionError Nat := do
  (← Dataspace.ofSelection? array.shape selection).addressableCount

/-- Reads selected elements as packed elements of `size` bytes. -/
def readElements (c : Client σ) (fuel size : Nat) (array : RemoteArray) (selection : Selection)
    (callerType : DataType) : Option (Outcome σ (Except ClientError Bytes)) :=
  if callerType.size? ≠ some size then some (c.reject (.elementSize size callerType))
  else match selectedCount array selection with
    | .error e => some (c.reject (.transfer (.selection e)))
    | .ok count =>
      let memory := Dataspace.ofShape [UInt64.ofNat count]
      (c.read fuel array selection (some memory) callerType (Bytes.zeros (count * size))).map fun o =>
        o.map fun result => result.map fun _ => o.buffer

/-- Writes packed elements of `size` bytes to a selection. -/
def writeElements (c : Client σ) (fuel size : Nat) (array : RemoteArray) (selection : Selection)
    (callerType : DataType) (elements : Bytes) : Option (Outcome σ (Except ClientError Summary)) :=
  if callerType.size? ≠ some size then some (c.reject (.elementSize size callerType))
  else
    let memory := Dataspace.ofShape [UInt64.ofNat (elements.length / size)]
    c.write fuel array selection (some memory) callerType elements

def readNumbers (c : Client σ) (fuel : Nat) (kind : Numeric) (array : RemoteArray) (selection : Selection) :
    Option (Outcome σ (Except ClientError Bytes)) :=
  c.readElements fuel kind.size array selection (.numeric kind)

def writeNumbers (c : Client σ) (fuel : Nat) (kind : Numeric) (array : RemoteArray) (selection : Selection)
    (elements : Bytes) : Option (Outcome σ (Except ClientError Summary)) :=
  c.writeElements fuel kind.size array selection (.numeric kind) elements

end Client

end ArrayTransfer
