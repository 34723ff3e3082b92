import ArrayTransfer.Number.Value

/-!
Converting one element. A number is read and written, a string is cut or padded, and a compound is built
over the bytes that were in its place: each member that has a source member of its name is converted from
it, and every other byte stays.
-/

namespace ArrayTransfer.Conversion

/-- The numeric element `prior` replaced by the value of another element. -/
def convertNumber (source target : Numeric) (element prior : Bytes) : Bytes :=
  match NumericValue.read source element with
  | some v => (v.write target prior).getD prior
  | none => prior

/-- A string cut or padded with zeros to the length of the one before. -/
def convertString (element prior : Bytes) : Bytes := Bytes.fit element prior.length

mutual
/-- The element `prior` of the target type replaced by the converted `element` of the source type. Elements of one type
    are copied. -/
def convert (source : DataType) : (target : DataType) → (element prior : Bytes) → Bytes
  | .numeric kind, element, prior =>
    match source with
    | .numeric sourceKind => if sourceKind = kind then element else convertNumber sourceKind kind element prior
    | _ => prior
  | .string size, element, prior =>
    match source with
    | .string sourceSize => if sourceSize = size then element else convertString element prior
    | _ => prior
  | .compound members size, element, prior =>
    if source = .compound members size then element else convertMembers source.members members element prior
  | .varString, element, prior => if source = .varString then element else prior
  | .sequence base, element, prior => if source = .sequence base then element else prior
  | .reference, element, prior => if source = .reference then element else prior
termination_by structural t => t
/-- The compound element `prior` with the members that have a source member converted from it. -/
def convertMembers (sources : List (Member DataType)) :
    (members : List (Member DataType)) → (element prior : Bytes) → Bytes
  | [], _, prior => prior
  | ⟨name, offset, t⟩ :: rest, element, prior =>
    match Member.find? name sources with
    | some m =>
      let part := convert m.type t (Bytes.slice element m.offset m.size) (Bytes.slice prior offset t.size)
      convertMembers sources rest element (Bytes.patch prior offset part)
    | none => convertMembers sources rest element prior
termination_by structural ms => ms
end

end ArrayTransfer.Conversion
