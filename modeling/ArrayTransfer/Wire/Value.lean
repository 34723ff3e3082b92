import ArrayTransfer.Number.Value
import ArrayTransfer.Wire.Reference

/-!
Single elements as trees of values, between JSON and memory. A compound is a JSON array of its members in
declaration order; the floating point values without a JSON number are the strings `NaN`, `Infinity` and
`-Infinity`; a null reference is an empty string.
-/

namespace ArrayTransfer

/-- The value of an element. -/
inductive WireValue where
  | number (v : NumericValue)
  | string (s : String)
  | reference (r : Option Reference)
  | compound (members : List (String × WireValue))

namespace WireValue

def ofNumber : JsonNumber → NumericValue
  | .unsigned n => .unsigned n
  | .negative n => .signed n
  | .double x => .float x

def ofWord? : String → Option Double
  | "NaN" => some .nan
  | "Infinity" => some (.infinity false)
  | "-Infinity" => some (.infinity true)
  | _ => none

def numberOfJson (kind : Numeric) (v : Json) : Except WireError WireValue :=
  match v with
  | .number n => .ok (.number (ofNumber n))
  | .string s =>
    match kind.isInteger, ofWord? s with
    | false, some x => .ok (.number (.float x))
    | _, _ => .error (.unsupportedElement v (.numeric kind))
  | _ => .error (.unsupportedElement v (.numeric kind))

def referenceOfJson (v : Json) : Except WireError WireValue :=
  match v with
  | .null => .ok (.reference none)
  | .string s => if s.toList = [] then .ok (.reference none) else (Reference.parse s).map fun r => .reference (some r)
  | _ => .error (.unsupportedElement v .reference)

mutual
def ofJson : DataType → Json → Except WireError WireValue
  | .numeric kind, v => numberOfJson kind v
  | .string size, v =>
    match v with
    | .string s => .ok (.string s)
    | _ => .error (.unsupportedElement v (.string size))
  | .varString, _ => .error (.unsupportedType .varString)
  | .sequence base, _ => .error (.unsupportedType (.sequence base))
  | .reference, v => referenceOfJson v
  | .compound members size, v =>
    match v with
    | .array items =>
      if items.length = members.length then (membersOfJson members items).map .compound
      else .error (.unsupportedElement v (.compound members size))
    | _ => .error (.unsupportedElement v (.compound members size))
termination_by structural t => t
/-- The items of an array as members of a compound, as far as both go. -/
def membersOfJson : List (Member DataType) → List Json → Except WireError (List (String × WireValue))
  | ⟨name, _, t⟩ :: members, v :: items =>
    match ofJson t v with
    | .error e => .error e
    | .ok value =>
      match membersOfJson members items with
      | .error e => .error e
      | .ok rest => .ok ((name, value) :: rest)
  | _, _ => .ok []
termination_by structural members => members
end

mutual
/-- Whether a JSON value is one element of the type by its arrays, rather than an array of elements. -/
def isElement : DataType → Json → Bool
  | .compound members _, v =>
    match v with
    | .array items => items.length == members.length && areElements members items
    | _ => false
  | .numeric _, v => !v.isArray
  | .string _, v => !v.isArray
  | .varString, v => !v.isArray
  | .sequence _, v => !v.isArray
  | .reference, v => !v.isArray
termination_by structural t => t
/-- Whether the items are elements of the members' types, as far as both go. -/
def areElements : List (Member DataType) → List Json → Bool
  | ⟨_, _, t⟩ :: members, v :: items => isElement t v && areElements members items
  | _, _ => true
termination_by structural members => members
end

/-- The JSON of a number; what no JSON number is, is a string. -/
def numberToJson : NumericValue → Json
  | .signed n => .ofInt64 n
  | .unsigned n => .ofUInt64 n
  | .float x =>
    match x.datum with
    | .nan => .string "NaN"
    | .infinite negative => .string (if negative then "-Infinity" else "Infinity")
    | .finite .. => .number (.double x)

mutual
def toJson : WireValue → Json
  | number v => numberToJson v
  | string s => .string s
  | reference none => .string ""
  | reference (some r) => .string r.text
  | compound members => .array (membersToJson members)
termination_by structural v => v
def membersToJson : List (String × WireValue) → List Json
  | [] => []
  | (_, v) :: rest => v.toJson :: membersToJson rest
termination_by structural members => members
end

mutual
def read : DataType → Bytes → Except WireError WireValue
  | .numeric kind, b =>
    match NumericValue.read kind b with
    | some v => .ok (.number v)
    | none => .error (.unsupportedType (.numeric kind))
  | .string _, b => .ok (.string (Utf8.decodeLossy (Bytes.beforeZero b)))
  | .reference, b => (Reference.ofSlot b).map .reference
  | .compound members size, b => (readMembers (.compound members size) members b).map .compound
  | .varString, _ => .error (.unsupportedType .varString)
  | .sequence base, _ => .error (.unsupportedType (.sequence base))
termination_by structural t => t
/-- The members of an element of the compound `whole`, each in its bytes. -/
def readMembers (whole : DataType) : List (Member DataType) → Bytes → Except WireError (List (String × WireValue))
  | [], _ => .ok []
  | ⟨name, offset, t⟩ :: members, b =>
    if b.length < offset + t.size then .error (.unsupportedType whole)
    else match read t (Bytes.slice b offset t.size) with
      | .error e => .error e
      | .ok v =>
        match readMembers whole members b with
        | .error e => .error e
        | .ok rest => .ok ((name, v) :: rest)
termination_by structural members => members
end

/-- The bytes of an element after writing, and why writing stopped if it did. -/
structure Written where
  bytes : Bytes
  error? : Option WireError

mutual
/-- Writes the value as an element of the type in place of the bytes. What was written before a failure stays. -/
def write : (t : DataType) → WireValue → Bytes → Written
  | .numeric kind, v, b =>
    if b.length ≠ kind.size then ⟨b, some (.unsupportedType (.numeric kind))⟩
    else match v with
      | number n => ⟨n.encode kind, none⟩
      | v => ⟨b, some (.unsupportedElement v.toJson (.numeric kind))⟩
  | .string size, v, b =>
    if b.length ≠ size then ⟨b, some (.unsupportedType (.string size))⟩
    else match v with
      | string s => ⟨Bytes.fit (Utf8.encode s) size, none⟩
      | v => ⟨b, some (.unsupportedElement v.toJson (.string size))⟩
  | .reference, v, b =>
    if b.length ≠ DataType.referenceSize then ⟨b, some (.unsupportedType .reference)⟩
    else match v with
      | reference r => ⟨Reference.fillSlot r b.length, none⟩
      | v => ⟨b, some (.unsupportedElement v.toJson .reference)⟩
  | .compound members size, v, b =>
    if b.length ≠ size then ⟨b, some (.unsupportedType (.compound members size))⟩
    else match v with
      | compound values =>
        if values.length = members.length then writeMembers members values b
        else ⟨b, some (.unsupportedElement v.toJson (.compound members size))⟩
      | v => ⟨b, some (.unsupportedElement v.toJson (.compound members size))⟩
  | .varString, _, b => ⟨b, some (.unsupportedType .varString)⟩
  | .sequence base, _, b => ⟨b, some (.unsupportedType (.sequence base))⟩
termination_by structural t => t
/-- Writes the members of a compound in order, up to the first failure. -/
def writeMembers : List (Member DataType) → List (String × WireValue) → Bytes → Written
  | ⟨_, offset, t⟩ :: members, (_, v) :: values, b =>
    let written := write t v (Bytes.slice b offset t.size)
    let b := Bytes.patch b offset written.bytes
    match written.error? with
    | some e => ⟨b, some e⟩
    | none => writeMembers members values b
  | _, _, b => ⟨b, none⟩
termination_by structural members => members
end

end WireValue

end ArrayTransfer
