import ArrayTransfer.Bytes
import ArrayTransfer.DataType.Basic
import ArrayTransfer.Number.Ieee

/-!
Numeric values, read from elements of any numeric type and written to elements of any other. A value out of
the range of an integer type goes to the nearer bound, a NaN goes to zero, and a value becomes a floating point
number by one rounding.
-/

namespace ArrayTransfer

namespace Numeric

def bounds? : Numeric → Option (Int × Int)
  | signed w => some (-(Nat.pow 2 (w.bits - 1) : Nat), (Nat.pow 2 (w.bits - 1) : Nat) - 1)
  | unsigned w => some (0, (Nat.pow 2 w.bits : Nat) - 1)
  | float32 => none
  | float64 => none

end Numeric

/-- A number in the widest type of its kind. -/
inductive NumericValue where
  | signed (n : Int64)
  | unsigned (n : UInt64)
  | float (x : Double)
  deriving DecidableEq

namespace NumericValue

/-- The signed number of `bits` bits with the pattern `n`. -/
def signExtend (bits n : Nat) : Int := if n < Nat.pow 2 (bits - 1) then n else (n : Int) - Nat.pow 2 bits

/-- The value of an element; `none` unless there are as many bytes as the type has. -/
def read (kind : Numeric) (b : Bytes) : Option NumericValue :=
  if b.length ≠ kind.size then none
  else match kind with
    | .signed w => some (.signed (Int64.ofInt (signExtend w.bits (Bytes.toNat b))))
    | .unsigned _ => some (.unsigned (UInt64.ofNat (Bytes.toNat b)))
    | .float32 => some (.float ⟨UInt64.ofNat (Format.single.cast .double (Bytes.toNat b))⟩)
    | .float64 => some (.float ⟨UInt64.ofNat (Bytes.toNat b)⟩)

/-- The value without its fraction; infinities and NaNs have none. -/
def whole? : NumericValue → Option Int
  | signed n => some n.toInt
  | unsigned n => some n.toNat
  | float x => Format.double.truncate? x.bits.toNat

def isNegative : NumericValue → Bool
  | signed n => n < 0
  | unsigned _ => false
  | float x =>
    match x.datum with
    | .nan => false
    | .infinite negative => negative
    | .finite negative m _ => negative && m != 0

def isNaN : NumericValue → Bool
  | float x => x.isNaN
  | _ => false

/-- The integer between the bounds that the value has without its fraction. -/
def toInt? (low high : Int) (v : NumericValue) : Option Int :=
  match v.whole? with
  | some n => if low ≤ n ∧ n ≤ high then some n else none
  | none => none

/-- The integer between the bounds that is nearest to the value without its fraction; zero for a NaN. -/
def saturate (low high : Int) (v : NumericValue) : Int :=
  match v.toInt? low high with
  | some n => n
  | none => if v.isNaN then 0 else if v.isNegative then low else high

/-- The bits of the value in a floating point format, rounded to nearest. -/
def toFormat (f : Format) : NumericValue → Nat
  | signed n => f.ofInt n.toInt
  | unsigned n => f.ofInt n.toNat
  | float x => Format.double.cast f x.bits.toNat

/-- The bits of an integer in `bits` bits. -/
def wrap (bits : Nat) (n : Int) : Nat := (n % Nat.pow 2 bits).toNat

def toBits (kind : Numeric) (v : NumericValue) : Nat :=
  match kind, kind.bounds? with
  | _, some (low, high) => wrap (8 * kind.size) (v.saturate low high)
  | .float32, none => v.toFormat .single
  | _, none => v.toFormat .double

def encode (kind : Numeric) (v : NumericValue) : Bytes := Bytes.ofNat kind.size (v.toBits kind)

/-- The value as an element in place of the bytes `b`; `none` unless there are as many of them as the type has. -/
def write (kind : Numeric) (v : NumericValue) (b : Bytes) : Option Bytes :=
  if b.length ≠ kind.size then none else some (v.encode kind)

end NumericValue

end ArrayTransfer
