import ArrayTransfer.DataType.Descriptor
import ArrayTransfer.Selection.Basic

/-!
Arrays of the store.
-/

namespace ArrayTransfer

/-- An array of the store: its id, its shape, and the type and byte order of its elements. -/
structure RemoteArray where
  id : String
  shape : List UInt64
  type : DataType
  order : ByteOrder

namespace RemoteArray

/-- The array that a type descriptor and a shape descriptor describe. -/
def ofDescriptors (id : String) (type shape : Json) : Except DescriptorError RemoteArray :=
  match Descriptor.parseType type with
  | .error e => .error e
  | .ok (t, order) =>
    match ShapeDescriptor.parseShape shape with
    | .error e => .error e
    | .ok s => .ok ⟨id, s, t, order⟩

def rank (a : RemoteArray) : Nat := a.shape.length

def elementCount (a : RemoteArray) : UInt64 := Dataspace.extentOf a.shape

end RemoteArray

end ArrayTransfer
