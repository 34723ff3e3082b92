import ArrayTransfer.DataType.ByteOrder
import ArrayTransfer.Json.Parser
import ArrayTransfer.Selection.Encoding
import ArrayTransfer.Text.Base64
import ArrayTransfer.TransferMode
import ArrayTransfer.Wire.Elements

/-!
Bodies of requests and responses. Raw bodies hold packed elements in the byte order of the store. A JSON
response holds its elements in `value`; a JSON request holds the selection and the elements, as base64 of the raw body
or as values.
-/

namespace ArrayTransfer

/-- The body of a request. -/
inductive RequestBody where
  | empty
  | binary (bytes : Bytes)
  | json (document : Json)

namespace RequestBody

def isEmpty : RequestBody → Bool
  | empty => true
  | binary bytes => bytes.isEmpty
  | json _ => false

def contentType? : RequestBody → Option String
  | empty => none
  | binary _ => some TransferMode.binary.contentType
  | json _ => some TransferMode.json.contentType

def toBytes : RequestBody → Bytes
  | empty => []
  | binary bytes => bytes
  | json document => Utf8.encode document.render

end RequestBody

namespace Body

/-- Why `got` bytes are not those of `count` elements of the type. A length that is no word stops the program, as it does
    where products of words are checked. -/
def mismatch (t : DataType) (size count got : Nat) : WireError :=
  if UInt64.size ≤ size * count then .uncountable t count else .bufferLength ⟨got, size * count⟩

/-- The elements in a raw response body. -/
def decodeBinary (body : Bytes) (t : DataType) (order : ByteOrder) (count : Nat) : Except WireError Bytes :=
  match t.size? with
  | none => .error (.unsupportedType t)
  | some size =>
    if body.length ≠ size * count then .error (mismatch t size count body.length)
    else .ok (t.toNative order body)

/-- The elements in a JSON response body. -/
def decodeJson (body : Bytes) (t : DataType) (count : Nat) : Except WireError Bytes :=
  match Json.ofBytes? body with
  | none => .error (.malformed .notJson)
  | some document =>
    match document.field? "value" with
    | none => .error (.malformed .noValue)
    | some v => Elements.decode v t count

def valueField (t : DataType) (order : ByteOrder) (elements : Bytes) (count : Nat) (base64 : Bool) :
    Except WireError (String × Json) :=
  if base64 ∧ ¬t.holdsReference then .ok ("value_base64", .string (Base64.encode (t.toNative order elements)))
  else (Elements.encode elements t count).map fun v => ("value", v)

/-- The body of a request that writes the elements to the selection. -/
def encodeWrite (mode : TransferMode) (s : Selection) (t : DataType) (order : ByteOrder) (elements : Bytes)
    (count : Nat) (base64 : Bool) : Except WireError RequestBody :=
  match t.size? with
  | none => .error (.unsupportedType t)
  | some size =>
    if elements.length ≠ size * count then .error (mismatch t size count elements.length)
    else if count = 0 then .ok .empty
    else match mode with
      | .binary => .ok (.binary (t.toNative order elements))
      | .json =>
        match s.bodyFields with
        | .error e => .error (.selection e)
        | .ok fields => (valueField t order elements count base64).map fun value => .json (.object (fields ++ [value]))

end Body

end ArrayTransfer
