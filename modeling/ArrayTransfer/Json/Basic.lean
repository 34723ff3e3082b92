import ArrayTransfer.Number.Ieee

/-!
JSON values. An object is the list of its fields in order. A number keeps the kind that its text has: an
unsigned or negative whole number of 64 bits, or a double.
-/

namespace ArrayTransfer

/-- A JSON number. A negative one is below zero and a double is finite. -/
inductive JsonNumber where
  | unsigned (n : UInt64)
  | negative (n : Int64)
  | double (x : Double)
  deriving DecidableEq

/-- A JSON value. -/
inductive Json where
  | null
  | bool (b : Bool)
  | number (n : JsonNumber)
  | string (s : String)
  | array (items : List Json)
  | object (fields : List (String × Json))

instance : Inhabited Json := ⟨.null⟩

namespace Json

/-- The value of the first field named `key`. -/
def lookup (key : String) : List (String × Json) → Option Json
  | [] => none
  | (k, v) :: rest => if k = key then some v else lookup key rest

/-- The fields with `key` set to `value`: a field of that name keeps its place, a new one goes last. -/
def setField (key : String) (value : Json) : List (String × Json) → List (String × Json)
  | [] => [(key, value)]
  | (k, v) :: rest => if k = key then (k, value) :: rest else (k, v) :: setField key value rest

/-- The value of an object's field; other values have none. -/
def field? (key : String) : Json → Option Json
  | .object fields => lookup key fields
  | _ => none

def ofUInt64 (n : UInt64) : Json := .number (.unsigned n)

def ofNat (n : Nat) : Json := .ofUInt64 (UInt64.ofNat n)

/-- A signed whole number; from zero on it is an unsigned one. -/
def ofInt64 (n : Int64) : Json := .number (if n < 0 then .negative n else .unsigned n.toUInt64)

def isArray : Json → Bool
  | .array _ => true
  | _ => false

end Json

end ArrayTransfer
