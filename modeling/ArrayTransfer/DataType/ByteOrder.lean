import ArrayTransfer.Bytes
import ArrayTransfer.DataType.Basic

/-!
Byte order. Elements in memory are little endian; `DataType.reverse` turns packed elements from one byte
order to the other by reversing each number in them where it stands.
-/

namespace ArrayTransfer

/-- The order of the bytes of a number. -/
inductive ByteOrder where
  | little
  | big
  deriving DecidableEq

namespace ByteOrder

def name : ByteOrder → String
  | little => "little"
  | big => "big"

/-- The byte order of elements in memory. -/
def native : ByteOrder := little

/-- Whether elements of this order need no change in memory. -/
def isNative (o : ByteOrder) : Bool := o = native

end ByteOrder

namespace DataType

mutual
/-- The packed elements with the bytes of each number in reverse; other bytes stay. -/
def reverse : DataType → Bytes → Bytes
  | numeric kind, b => Bytes.mapChunks kind.size List.reverse b
  | compound members size, b => Bytes.mapChunks size (reverseMembers members) b
  | string _, b => b
  | varString, b => b
  | sequence _, b => b
  | reference, b => b
termination_by structural t => t
/-- One compound element with the numbers of each member reversed in place. -/
def reverseMembers : List (Member DataType) → Bytes → Bytes
  | [], b => b
  | ⟨_, offset, t⟩ :: rest, b =>
    reverseMembers rest (Bytes.patch b offset (t.reverse (Bytes.slice b offset t.size)))
termination_by structural ms => ms
end

/-- Elements of byte order `o` in the native order, and back. -/
def toNative (t : DataType) (o : ByteOrder) (b : Bytes) : Bytes := if o.isNative then b else t.reverse b

end DataType

end ArrayTransfer
