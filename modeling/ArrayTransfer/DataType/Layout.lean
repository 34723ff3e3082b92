import ArrayTransfer.DataType.Basic

/-!
Building compounds. `DataType.laidOut?` takes members at given offsets and refuses what could not be read
back member by member: no members, a name used twice, a member of variable size, one that ends behind the
compound, and two that share a byte. `DataType.packed?` puts the members one behind the other.
-/

namespace ArrayTransfer

/-- Why members do not make a compound. -/
inductive LayoutError where
  | emptyCompound
  | duplicateMember (name : String)
  | variableSizeMember (name : String)
  | memberOutOfBounds (name : String) (offset size : Nat)
  | overlappingMembers (first second : String)
  deriving DecidableEq

def LayoutError.message : LayoutError → String
  | emptyCompound => "compound types must have at least one member"
  | duplicateMember name => s!"compound member name {name} is not unique"
  | variableSizeMember name => s!"compound member {name} has a variable size data type"
  | memberOutOfBounds name offset size =>
    s!"compound member {name} at offset {offset} does not fit in a compound of size {size}"
  | overlappingMembers first second => s!"compound members {first} and {second} overlap"

namespace Member

/-- The first fault among the members taken one by one; `seen` are the names before them. -/
def fault? (size : Nat) : (seen : List String) → List (Member DataType) → Option LayoutError
  | _, [] => none
  | seen, m :: rest =>
    if m.name ∈ seen then some (.duplicateMember m.name)
    else if m.type.isVariable then some (.variableSizeMember m.name)
    else if size < m.stop then some (.memberOutOfBounds m.name m.offset size)
    else fault? size (m.name :: seen) rest

/-- Puts a member before the first that does not start before it. -/
def insertByOffset (m : Member DataType) : List (Member DataType) → List (Member DataType)
  | [] => [m]
  | n :: rest => if m.offset ≤ n.offset then m :: n :: rest else n :: insertByOffset m rest

/-- The members by offset; members of one offset stay in their order. -/
def sortByOffset : List (Member DataType) → List (Member DataType)
  | [] => []
  | m :: rest => insertByOffset m (sortByOffset rest)

/-- The first two neighbours of which the second starts before the first ends. -/
def overlap? : List (Member DataType) → Option LayoutError
  | [] => none
  | [_] => none
  | m :: n :: rest => if n.offset < m.stop then some (.overlappingMembers m.name n.name) else overlap? (n :: rest)

/-- Named types one behind the other from `offset` on, and the end of the last. -/
def pack : (offset : Nat) → List (String × DataType) → Except LayoutError (List (Member DataType) × Nat)
  | offset, [] => .ok ([], offset)
  | offset, (name, t) :: rest =>
    match t.size? with
    | none => .error (.variableSizeMember name)
    | some size =>
      match pack (offset + size) rest with
      | .error e => .error e
      | .ok (members, stop) => .ok (⟨name, offset, t⟩ :: members, stop)

end Member

namespace DataType

/-- The compound of `size` bytes with the given members. -/
def laidOut? (members : List (Member DataType)) (size : Nat) : Except LayoutError DataType :=
  if members.isEmpty then .error .emptyCompound
  else match Member.fault? size [] members with
    | some e => .error e
    | none =>
      match Member.overlap? (Member.sortByOffset members) with
      | some e => .error e
      | none => .ok (.compound members size)

/-- The compound whose members lie one behind the other, without padding. -/
def packed? (members : List (String × DataType)) : Except LayoutError DataType :=
  match Member.pack 0 members with
  | .error e => .error e
  | .ok (members, size) => laidOut? members size

end DataType

end ArrayTransfer
