import ArrayTransfer.DataType.ByteOrder
import ArrayTransfer.DataType.Layout
import ArrayTransfer.Json.Printer

/-!
Type and shape descriptors, the JSON in which an array store describes its arrays. `Descriptor.ofJson?` reads
the grammar: the name of a predefined type, or an object tagged by its `class`, or an array of the tag and
the fields in order. `Descriptor.toJson` writes the normal form, and `Descriptor.resolve` gives the element type with
the byte order of its numbers.
-/

namespace ArrayTransfer

/-- The length of a string type: a number of bytes, or a word. -/
inductive StringLength where
  | fixed (bytes : UInt64)
  | word (text : String)
  deriving DecidableEq

/-- A type descriptor. -/
inductive Descriptor where
  | predefined (name : String)
  | integer (base : String)
  | float (base : String)
  | compound (fields : List (String × Descriptor))
  | string (length : StringLength)
  | sequence (base : Descriptor)
  | reference (base : String)

/-- The class tags of described types. -/
inductive DescriptorTag where
  | integer
  | float
  | compound
  | string
  | sequence
  | reference
  deriving DecidableEq

namespace DescriptorTag

def all : List DescriptorTag := [integer, float, compound, string, sequence, reference]

def name : DescriptorTag → String
  | integer => "H5T_INTEGER"
  | float => "H5T_FLOAT"
  | compound => "H5T_COMPOUND"
  | string => "H5T_STRING"
  | sequence => "H5T_VLEN"
  | reference => "H5T_REFERENCE"

def ofJson? : Json → Option DescriptorTag
  | .string s => all.find? (·.name = s)
  | .number (.unsigned n) => all[n.toNat]?
  | _ => none

end DescriptorTag

namespace Json

def text? : Json → Option String
  | .string s => some s
  | _ => none

def textField? (key : String) (fields : List (String × Json)) : Option String := (lookup key fields).bind text?

def unsigned? : Json → Option UInt64
  | .number (.unsigned n) => some n
  | _ => none

end Json

namespace StringLength

def ofJson? : Json → Option StringLength
  | .number (.unsigned n) => some (.fixed n)
  | .string s => some (.word s)
  | _ => none

def toJson : StringLength → Json
  | fixed n => .ofUInt64 n
  | word s => .string s

end StringLength

namespace Descriptor

mutual
def ofJson? : Json → Option Descriptor
  | .string name => some (.predefined name)
  | .object fields =>
    match (Json.lookup "class" fields).bind DescriptorTag.ofJson? with
    | some .integer => (Json.textField? "base" fields).map .integer
    | some .float => (Json.textField? "base" fields).map .float
    | some .compound => (fieldsNamed? fields).map .compound
    | some .string => ((Json.lookup "length" fields).bind StringLength.ofJson?).map .string
    | some .sequence => (descriptorNamed? "base" fields).map .sequence
    | some .reference => (Json.textField? "base" fields).map .reference
    | none => none
  | .array [tag, value] =>
    match DescriptorTag.ofJson? tag with
    | some .integer => value.text?.map .integer
    | some .float => value.text?.map .float
    | some .compound => (fieldsOf? value).map .compound
    | some .string => (StringLength.ofJson? value).map .string
    | some .sequence => (ofJson? value).map .sequence
    | some .reference => value.text?.map .reference
    | none => none
  | _ => none
termination_by structural v => v
/-- Reads the descriptor in the field named `key`. -/
def descriptorNamed? (key : String) : List (String × Json) → Option Descriptor
  | [] => none
  | (k, v) :: rest => if k = key then ofJson? v else descriptorNamed? key rest
termination_by structural fields => fields
/-- Reads the compound fields in the field named `fields`. -/
def fieldsNamed? : List (String × Json) → Option (List (String × Descriptor))
  | [] => none
  | (k, v) :: rest => if k = "fields" then fieldsOf? v else fieldsNamed? rest
termination_by structural fields => fields
def fieldsOf? : Json → Option (List (String × Descriptor))
  | .array items => fieldList? items
  | _ => none
termination_by structural v => v
/-- Reads compound fields: objects with a name and a type, or arrays of the two. -/
def fieldList? : List Json → Option (List (String × Descriptor))
  | [] => some []
  | .object fields :: rest =>
    match Json.textField? "name" fields, descriptorNamed? "type" fields, fieldList? rest with
    | some name, some t, some list => some ((name, t) :: list)
    | _, _, _ => none
  | .array [.string name, t] :: rest =>
    match ofJson? t, fieldList? rest with
    | some t, some list => some ((name, t) :: list)
    | _, _ => none
  | _ :: _ => none
termination_by structural items => items
end

def tagged (tag : DescriptorTag) (fields : List (String × Json)) : Json :=
  .object (("class", .string tag.name) :: fields)

mutual
/-- The normal form: the class first, then the fields that belong to it. -/
def toJson : Descriptor → Json
  | predefined name => .string name
  | integer base => tagged .integer [("base", .string base)]
  | float base => tagged .float [("base", .string base)]
  | compound fields => tagged .compound [("fields", .array (fieldsToJson fields))]
  | string length => tagged .string [("length", length.toJson)]
  | sequence base => tagged .sequence [("base", base.toJson)]
  | reference base => tagged .reference [("base", .string base)]
termination_by structural d => d
def fieldsToJson : List (String × Descriptor) → List Json
  | [] => []
  | (name, t) :: rest => .object [("name", .string name), ("type", t.toJson)] :: fieldsToJson rest
termination_by structural fields => fields
end

end Descriptor

/-- Why a descriptor gives no element type or shape. -/
inductive DescriptorError where
  | invalidDescriptor (descriptor : Json)
  | unknownPredefinedType (name : String)
  | invalidBase (tag : DescriptorTag) (base : String)
  | invalidStringLength (text : String)
  | mixedByteOrder
  | layout (error : LayoutError)

def DescriptorError.message : DescriptorError → String
  | invalidDescriptor descriptor => "invalid descriptor " ++ descriptor.render
  | unknownPredefinedType name => s!"unknown predefined type {name}"
  | invalidBase tag base => "base type " ++ base ++ " is not valid for class " ++ tag.name
  | invalidStringLength text => s!"invalid string length {text}"
  | mixedByteOrder => "compound members have differing byte order"
  | layout error => error.message

namespace Descriptor

/-- The predefined numbers, without the suffix that gives their byte order. -/
def predefinedNumeric? (stem : String) : Option Numeric :=
  match stem with
  | "H5T_STD_I8" => some (.signed .w8)
  | "H5T_STD_I16" => some (.signed .w16)
  | "H5T_STD_I32" => some (.signed .w32)
  | "H5T_STD_I64" => some (.signed .w64)
  | "H5T_STD_U8" => some (.unsigned .w8)
  | "H5T_STD_U16" => some (.unsigned .w16)
  | "H5T_STD_U32" => some (.unsigned .w32)
  | "H5T_STD_U64" => some (.unsigned .w64)
  | "H5T_IEEE_F32" => some .float32
  | "H5T_IEEE_F64" => some .float64
  | _ => none

/-- The stem of a predefined number and the byte order that its last two letters give. -/
def splitOrder? (name : String) : Option (String × ByteOrder) :=
  match name.toList.reverse with
  | 'E' :: 'L' :: stem => some (String.ofList stem.reverse, .little)
  | 'E' :: 'B' :: stem => some (String.ofList stem.reverse, .big)
  | _ => none

def resolvePredefined (name : String) : Except DescriptorError (DataType × Option ByteOrder) :=
  if name = "H5T_STD_REF_OBJ" then .ok (.reference, none)
  else match splitOrder? name with
    | none => .error (.unknownPredefinedType name)
    | some (stem, order) =>
      match predefinedNumeric? stem with
      | some kind => .ok (.numeric kind, some order)
      | none => .error (.unknownPredefinedType name)

/-- The predefined type of a name, which has to be of the tag's class. -/
def resolveBase (tag : DescriptorTag) (cls : DataClass) (base : String) :
    Except DescriptorError (DataType × Option ByteOrder) :=
  match resolvePredefined base with
  | .error e => .error e
  | .ok (t, order) => if t.dataClass = cls then .ok (t, order) else .error (.invalidBase tag base)

/-- The byte order of numbers before and numbers after; `none` if they differ. -/
def joinOrder? : (before after : Option ByteOrder) → Option (Option ByteOrder)
  | none, after => some after
  | before, none => some before
  | some a, some b => if a = b then some (some a) else none

mutual
/-- The element type of a descriptor and the byte order of the numbers in it, if it has any. -/
def resolve : Descriptor → Except DescriptorError (DataType × Option ByteOrder)
  | predefined name => resolvePredefined name
  | integer base => resolveBase .integer .integer base
  | float base => resolveBase .float .float base
  | reference base => resolveBase .reference .reference base
  | string (.fixed n) => .ok (.string n.toNat, none)
  | string (.word text) => if text = "H5T_VARIABLE" then .ok (.varString, none) else .error (.invalidStringLength text)
  | sequence base =>
    match base.resolve with
    | .error e => .error e
    | .ok (t, order) => .ok (.sequence t, order)
  | compound fields =>
    match resolveFields none fields with
    | .error e => .error e
    | .ok (members, order) =>
      match DataType.packed? members with
      | .error e => .error (.layout e)
      | .ok t => .ok (t, order)
termination_by structural d => d
/-- The named types of compound fields, after numbers of byte order `order`. -/
def resolveFields : (order : Option ByteOrder) → List (String × Descriptor) →
    Except DescriptorError (List (String × DataType) × Option ByteOrder)
  | order, [] => .ok ([], order)
  | order, (name, d) :: rest =>
    match d.resolve with
    | .error e => .error e
    | .ok (t, own) =>
      match joinOrder? order own with
      | none => .error .mixedByteOrder
      | some order =>
        match resolveFields order rest with
        | .error e => .error e
        | .ok (members, order) => .ok ((name, t) :: members, order)
termination_by structural _ fields => fields
end

/-- Reads a type descriptor and resolves it; a type without numbers counts as little endian. -/
def parseType (v : Json) : Except DescriptorError (DataType × ByteOrder) :=
  match ofJson? v with
  | none => .error (.invalidDescriptor v)
  | some d =>
    match d.resolve with
    | .error e => .error e
    | .ok (t, order) => .ok (t, order.getD .little)

end Descriptor

/-- A shape descriptor. -/
inductive ShapeDescriptor where
  | simple (dims : List UInt64)
  | scalar
  | null
  deriving DecidableEq

namespace ShapeDescriptor

def dims? : Json → Option (List UInt64)
  | .array items => items.mapM Json.unsigned?
  | _ => none

/-- Reads a shape descriptor: an object or an array of the tag and the fields. -/
def ofJson? : Json → Option ShapeDescriptor
  | .object fields =>
    match Json.textField? "class" fields with
    | some "H5S_SIMPLE" => ((Json.lookup "dims" fields).bind dims?).map .simple
    | some "H5S_SCALAR" => some .scalar
    | some "H5S_NULL" => some .null
    | _ => none
  | .array [.string "H5S_SIMPLE", dims] => (dims? dims).map .simple
  | .array [.string "H5S_SCALAR"] => some .scalar
  | .array [.string "H5S_NULL"] => some .null
  | _ => none

def toJson : ShapeDescriptor → Json
  | simple dims => .object [("class", .string "H5S_SIMPLE"), ("dims", .array (dims.map .ofUInt64))]
  | scalar => .object [("class", .string "H5S_SCALAR")]
  | null => .object [("class", .string "H5S_NULL")]

/-- The shape: a scalar has no dimension, and a null shape has one of extent zero. -/
def shape : ShapeDescriptor → List UInt64
  | simple dims => dims
  | scalar => []
  | null => [0]

def parseShape (v : Json) : Except DescriptorError (List UInt64) :=
  match ofJson? v with
  | none => .error (.invalidDescriptor v)
  | some d => .ok d.shape

end ShapeDescriptor

end ArrayTransfer
