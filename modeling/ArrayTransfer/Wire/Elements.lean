import ArrayTransfer.Wire.Value

/-!
Packed elements as a JSON array. When reading, the array may be nested, one level per dimension, or be a single
element; an array is taken for a compound element if its shape is that of one.
-/

namespace ArrayTransfer.Elements

mutual
def flatten (t : DataType) : Json → List Json
  | .array items => if WireValue.isElement t (.array items) then [.array items] else flattenAll t items
  | .null => [.null]
  | .bool b => [.bool b]
  | .number n => [.number n]
  | .string s => [.string s]
  | .object fields => [.object fields]
termination_by structural v => v
def flattenAll (t : DataType) : List Json → List Json
  | [] => []
  | v :: rest => flatten t v ++ flattenAll t rest
termination_by structural items => items
end

/-- One element of `size` bytes from its JSON. -/
def elementBytes (t : DataType) (size : Nat) (v : Json) : Except WireError Bytes :=
  match WireValue.ofJson t v with
  | .error e => .error e
  | .ok value =>
    let written := WireValue.write t value (Bytes.zeros size)
    match written.error? with
    | some e => .error e
    | none => .ok written.bytes

def packAll (t : DataType) (size : Nat) : List Json → Except WireError Bytes
  | [] => .ok []
  | v :: rest =>
    match elementBytes t size v with
    | .error e => .error e
    | .ok b =>
      match packAll t size rest with
      | .error e => .error e
      | .ok bs => .ok (b ++ bs)

/-- The `count` packed elements that a JSON value holds. Elements of no size are counted and not looked at. -/
def decode (v : Json) (t : DataType) (count : Nat) : Except WireError Bytes :=
  match t.size? with
  | none => .error (.unsupportedType t)
  | some size =>
    let elements := flatten t v
    if elements.length ≠ count then .error (.countMismatch elements.length count)
    else if size = 0 then .ok []
    else packAll t size elements

def readAll (t : DataType) : List Bytes → Except WireError (List Json)
  | [] => .ok []
  | b :: rest =>
    match WireValue.read t b with
    | .error e => .error e
    | .ok v =>
      match readAll t rest with
      | .error e => .error e
      | .ok vs => .ok (v.toJson :: vs)

/-- The flat JSON array of `count` packed elements. -/
def encode (b : Bytes) (t : DataType) (count : Nat) : Except WireError Json :=
  match t.size? with
  | none => .error (.unsupportedType t)
  | some size =>
    if b.length ≠ size * count then .error (.bufferLength ⟨b.length, size * count⟩)
    else (readAll t (Bytes.split size count b)).map .array

end ArrayTransfer.Elements
