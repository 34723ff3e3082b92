import ArrayTransfer.Text.Utf8
import ArrayTransfer.Wire.Error

/-!
References to objects of the store, written `collection/id`. A reference fits its slot of 48 bytes, where it is
padded with zeros; a slot that begins with a zero is a null reference.
-/

namespace ArrayTransfer

/-- The collections of the store. -/
inductive Collection where
  | groups
  | datatypes
  | datasets
  deriving DecidableEq

namespace Collection

def all : List Collection := [groups, datatypes, datasets]

def name : Collection → String
  | groups => "groups"
  | datatypes => "datatypes"
  | datasets => "datasets"

end Collection

namespace Reference

def textOf (collection : Collection) (id : String) : String := collection.name ++ "/" ++ id

/-- An id is not empty, holds no zero character, and leaves the text within the slot. -/
def Admissible (collection : Collection) (id : String) : Prop :=
  id.toList ≠ [] ∧ '\x00' ∉ id.toList ∧ (Utf8.encode (textOf collection id)).length ≤ DataType.referenceSize

instance (collection : Collection) (id : String) : Decidable (Admissible collection id) :=
  inferInstanceAs (Decidable (_ ∧ _))

end Reference

/-- A reference to an object. -/
structure Reference where
  collection : Collection
  id : String
  admissible : Reference.Admissible collection id
  deriving DecidableEq

namespace Reference

def make (collection : Collection) (id : String) : Except WireError Reference :=
  if h : Admissible collection id then .ok ⟨collection, id, h⟩
  else .error (.invalidReference (textOf collection id))

def text (r : Reference) : String := textOf r.collection r.id

/-- The reference that a text writes: the collection is what stands before the first slash. -/
def parse? (s : String) : Option Reference :=
  match s.toList.dropWhile (· ≠ '/') with
  | [] => none
  | _ :: id =>
    match Collection.all.find? (·.name.toList = s.toList.takeWhile (· ≠ '/')) with
    | none => none
    | some collection => (make collection (String.ofList id)).toOption

def parse (s : String) : Except WireError Reference :=
  match parse? s with
  | some r => .ok r
  | none => .error (.invalidReference s)

/-- The reference in a slot, `none` if it is null. -/
def ofSlot (slot : Bytes) : Except WireError (Option Reference) :=
  match Utf8.decode? (Bytes.beforeZero slot) with
  | none => .error (.invalidReference (Text.bracketed (slot.map (toString ·.toNat))))
  | some s => if s.toList = [] then .ok none else (parse s).map some

/-- A reference, or a null one, in a slot of `size` bytes. -/
def fillSlot (r : Option Reference) (size : Nat) : Bytes :=
  match r with
  | some r => Bytes.fit (Utf8.encode r.text) size
  | none => Bytes.zeros size

def toSlot (r : Reference) : Bytes := fillSlot (some r) DataType.referenceSize

end Reference

end ArrayTransfer
