/-!
Element types: numbers, compounds of named members at byte offsets, fixed strings, references, and the two
types of variable length. A compound holds its members in declaration order. Types are compared
structurally, by `DataType.decEq`.
-/

namespace ArrayTransfer

/-- The width of an integer. -/
inductive Width where
  | w8
  | w16
  | w32
  | w64
  deriving DecidableEq

namespace Width

def bytes : Width → Nat
  | w8 => 1
  | w16 => 2
  | w32 => 4
  | w64 => 8

def bits (w : Width) : Nat := 8 * w.bytes

end Width

/-- The numeric types. -/
inductive Numeric where
  | signed (w : Width)
  | unsigned (w : Width)
  | float32
  | float64
  deriving DecidableEq

namespace Numeric

def size : Numeric → Nat
  | signed w => w.bytes
  | unsigned w => w.bytes
  | float32 => 4
  | float64 => 8

def isInteger : Numeric → Bool
  | signed _ => true
  | unsigned _ => true
  | float32 => false
  | float64 => false

def name : Numeric → String
  | signed w => "int" ++ toString w.bits
  | unsigned w => "uint" ++ toString w.bits
  | float32 => "float32"
  | float64 => "float64"

end Numeric

/-- A member of a compound of types `τ`. -/
structure Member (τ : Type) where
  name : String
  offset : Nat
  type : τ

/-- An element type. -/
inductive DataType where
  | numeric (kind : Numeric)
  | compound (members : List (Member DataType)) (size : Nat)
  | string (size : Nat)
  | varString
  | sequence (base : DataType)
  | reference

/-- The classes of element types. -/
inductive DataClass where
  | integer
  | float
  | compound
  | string
  | variableLength
  | reference
  deriving DecidableEq

def DataClass.name : DataClass → String
  | integer => "integer"
  | float => "float"
  | compound => "compound"
  | string => "string"
  | variableLength => "variable length"
  | reference => "reference"

namespace DataType

def referenceSize : Nat := 48

/-- The class of a type; both kinds of string are strings. -/
def dataClass : DataType → DataClass
  | numeric kind => if kind.isInteger then .integer else .float
  | compound .. => .compound
  | string _ => .string
  | varString => .string
  | sequence _ => .variableLength
  | reference => .reference

/-- The size in bytes, unless it varies. -/
def size? : DataType → Option Nat
  | numeric kind => some kind.size
  | compound _ size => some size
  | string size => some size
  | varString => none
  | sequence _ => none
  | reference => some referenceSize

def size (t : DataType) : Nat := t.size?.getD 0

def isVariable (t : DataType) : Bool := t.size?.isNone

def isNumeric : DataType → Bool
  | numeric _ => true
  | _ => false

/-- The members of a compound; other types have none. -/
def members : DataType → List (Member DataType)
  | compound members _ => members
  | _ => []

mutual
/-- The name of a type. It shows everything that makes the type but the padding at the end of a compound. -/
def name : DataType → String
  | numeric kind => kind.name
  | compound members _ => "compound\x7b" ++ ", ".intercalate (memberNames members) ++ "\x7d"
  | string size => "string" ++ toString size
  | varString => "vlen_string"
  | sequence base => "vlen<" ++ base.name ++ ">"
  | reference => "reference"
termination_by structural t => t
def memberNames : List (Member DataType) → List String
  | [] => []
  | ⟨n, offset, t⟩ :: rest => (n ++ "@" ++ toString offset ++ ": " ++ t.name) :: memberNames rest
termination_by structural ms => ms
end

mutual
def holdsReference : DataType → Bool
  | numeric _ => false
  | compound members _ => memberHoldsReference members
  | string _ => false
  | varString => false
  | sequence base => base.holdsReference
  | reference => true
termination_by structural t => t
def memberHoldsReference : List (Member DataType) → Bool
  | [] => false
  | ⟨_, _, t⟩ :: rest => t.holdsReference || memberHoldsReference rest
termination_by structural ms => ms
end

mutual
def decEq : (a b : DataType) → Decidable (a = b)
  | numeric j, numeric k => if h : j = k then isTrue (h ▸ rfl) else isFalse fun e => h (numeric.inj e)
  | string m, string n => if h : m = n then isTrue (h ▸ rfl) else isFalse fun e => h (string.inj e)
  | varString, varString => isTrue rfl
  | reference, reference => isTrue rfl
  | sequence a, sequence b =>
    match decEq a b with
    | isTrue h => isTrue (h ▸ rfl)
    | isFalse h => isFalse fun e => h (sequence.inj e)
  | compound ms m, compound ns n =>
    match decEqMembers ms ns with
    | isTrue h => if h' : m = n then isTrue (h ▸ h' ▸ rfl) else isFalse fun e => h' (compound.inj e).2
    | isFalse h => isFalse fun e => h (compound.inj e).1
  | numeric _, compound .. => isFalse nofun
  | numeric _, string _ => isFalse nofun
  | numeric _, varString => isFalse nofun
  | numeric _, sequence _ => isFalse nofun
  | numeric _, reference => isFalse nofun
  | compound .., numeric _ => isFalse nofun
  | compound .., string _ => isFalse nofun
  | compound .., varString => isFalse nofun
  | compound .., sequence _ => isFalse nofun
  | compound .., reference => isFalse nofun
  | string _, numeric _ => isFalse nofun
  | string _, compound .. => isFalse nofun
  | string _, varString => isFalse nofun
  | string _, sequence _ => isFalse nofun
  | string _, reference => isFalse nofun
  | varString, numeric _ => isFalse nofun
  | varString, compound .. => isFalse nofun
  | varString, string _ => isFalse nofun
  | varString, sequence _ => isFalse nofun
  | varString, reference => isFalse nofun
  | sequence _, numeric _ => isFalse nofun
  | sequence _, compound .. => isFalse nofun
  | sequence _, string _ => isFalse nofun
  | sequence _, varString => isFalse nofun
  | sequence _, reference => isFalse nofun
  | reference, numeric _ => isFalse nofun
  | reference, compound .. => isFalse nofun
  | reference, string _ => isFalse nofun
  | reference, varString => isFalse nofun
  | reference, sequence _ => isFalse nofun
termination_by structural a => a
def decEqMembers : (a b : List (Member DataType)) → Decidable (a = b)
  | [], [] => isTrue rfl
  | [], _ :: _ => isFalse nofun
  | _ :: _, [] => isFalse nofun
  | ⟨n, o, t⟩ :: ms, ⟨n', o', t'⟩ :: ns =>
    if h : n = n' ∧ o = o' then
      match decEq t t', decEqMembers ms ns with
      | isTrue ht, isTrue hs => isTrue (by obtain ⟨rfl, rfl⟩ := h; rw [ht, hs])
      | isFalse ht, _ => isFalse (by intro e; simp at e; exact ht e.1.2.2)
      | _, isFalse hs => isFalse (by intro e; simp at e; exact hs e.2)
    else isFalse (by intro e; simp at e; exact h ⟨e.1.1, e.1.2.1⟩)
termination_by structural a => a
end

instance : DecidableEq DataType := decEq

/-- Induction over types: a compound is reached from its members' types. -/
theorem induct {P : DataType → Prop} (numeric : ∀ kind, P (numeric kind))
    (compound : ∀ ms size, (∀ m ∈ ms, P m.type) → P (compound ms size)) (string : ∀ size, P (string size))
    (varString : P varString) (sequence : ∀ base, P base → P (sequence base)) (reference : P reference) :
    ∀ t, P t :=
  DataType.rec (motive_1 := P) (motive_2 := fun ms => ∀ m ∈ ms, P m.type) (motive_3 := fun m => P m.type)
    numeric compound string varString sequence reference (by simp)
    (fun _ _ hm hms => by simpa using ⟨hm, hms⟩) (fun _ _ _ ht => ht)

end DataType

namespace Member

def size (m : Member DataType) : Nat := m.type.size

def stop (m : Member DataType) : Nat := m.offset + m.size

/-- The first member named `name`. -/
def find? (name : String) : List (Member DataType) → Option (Member DataType)
  | [] => none
  | m :: rest => if m.name = name then some m else find? name rest

def sizeUsed : List (Member DataType) → Nat
  | [] => 0
  | m :: rest => m.size + sizeUsed rest

end Member

end ArrayTransfer
