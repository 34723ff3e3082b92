/-!
Binary interchange formats of floating point numbers, in exact natural number arithmetic. A pattern of bits
denotes a NaN, an infinity or a signed dyadic number; `Format.round` gives the pattern nearest to a
quotient, with ties to the even one.
-/

namespace ArrayTransfer

/-- A binary floating point format: the significant bits, the leading one included, and the exponent bits. -/
structure Format where
  precision : Nat
  exponentBits : Nat
  deriving DecidableEq

def Format.single : Format := ⟨24, 8⟩

def Format.double : Format := ⟨53, 11⟩

/-- What a bit pattern denotes; a finite number is `mantissa * 2 ^ exponent` with its sign. -/
inductive Datum where
  | nan
  | infinite (negative : Bool)
  | finite (negative : Bool) (mantissa : Nat) (exponent : Int)

namespace Format

def fractions (f : Format) : Nat := Nat.pow 2 (f.precision - 1)

/-- The pattern of positive infinity: all exponent bits set and no fraction bit. -/
def infinity (f : Format) : Nat := (Nat.pow 2 f.exponentBits - 1) * f.fractions

def signWeight (f : Format) : Nat := Nat.pow 2 (f.exponentBits + f.precision - 1)

/-- The smallest positive number is `2 ^ -scale`. -/
def scale (f : Format) : Nat := Nat.pow 2 (f.exponentBits - 1) + f.precision - 3

/-- The quotient `num / den`, rounded to a whole number with ties to the even one. -/
def roundHalfEven (num den : Nat) : Nat :=
  let quotient := num / den
  let twice := 2 * (num % den)
  if twice < den ∨ (twice = den ∧ quotient % 2 = 0) then quotient else quotient + 1

/-- The pattern, without a sign, of the number nearest to `num / den`. Measured in units of the smallest number, the
    quotient is divided by the power of two that leaves `precision` bits, and that power is the exponent field: a
    carry out of the fraction is then the next exponent, and subnormal numbers need no case of their own. -/
def round (f : Format) (num den : Nat) : Nat :=
  let units := num * Nat.pow 2 f.scale
  let exponent := (units / den).log2 + 1 - f.precision
  min f.infinity (exponent * f.fractions + roundHalfEven units (den * Nat.pow 2 exponent))

def withSign (f : Format) (negative : Bool) (magnitude : Nat) : Nat :=
  if negative then f.signWeight + magnitude else magnitude

def magnitude (f : Format) (bits : Nat) : Nat := bits % f.signWeight

def isNegative (f : Format) (bits : Nat) : Bool := bits / f.signWeight % 2 == 1

/-- What the pattern `bits` denotes. -/
def decode (f : Format) (bits : Nat) : Datum :=
  let negative := f.isNegative bits
  let exponent := f.magnitude bits / f.fractions
  let fraction := f.magnitude bits % f.fractions
  if f.infinity < f.magnitude bits then .nan
  else if f.magnitude bits = f.infinity then .infinite negative
  else if exponent = 0 then .finite negative fraction (-(f.scale : Int))
  else .finite negative (f.fractions + fraction) (exponent - 1 - (f.scale : Int))

/-- The bit that tells a quiet NaN. -/
def quietBit (f : Format) : Nat := f.fractions / 2

/-- The NaN of `target` with the sign and the leading payload bits of the NaN `bits`, made quiet. -/
def moveNaN (f target : Format) (bits : Nat) : Nat :=
  let payload := f.magnitude bits % f.quietBit
  let moved := payload * Nat.pow 2 (target.precision - f.precision) / Nat.pow 2 (f.precision - target.precision)
  target.withSign (f.isNegative bits) (target.infinity + target.quietBit + moved)

/-- The pattern of `target` for the number that `bits` denotes in `f`, rounded to nearest; beyond the range of the
    target it is an infinity. -/
def cast (f target : Format) (bits : Nat) : Nat :=
  if f = target then bits
  else match f.decode bits with
  | .nan => f.moveNaN target bits
  | .infinite negative => target.withSign negative target.infinity
  | .finite negative m e => target.withSign negative (target.round (m * Nat.pow 2 e.toNat) (Nat.pow 2 (-e).toNat))

def ofInt (f : Format) (n : Int) : Nat := f.withSign (n < 0) (f.round n.natAbs 1)

def truncate? (f : Format) (bits : Nat) : Option Int :=
  match f.decode bits with
  | .finite negative m e =>
    let whole : Nat := m * Nat.pow 2 e.toNat / Nat.pow 2 (-e).toNat
    some (if negative then -(whole : Int) else whole)
  | _ => none

end Format

/-- A double precision number, given by its bits. -/
structure Double where
  bits : UInt64
  deriving DecidableEq

namespace Double

def nan : Double := ⟨0x7FF8000000000000⟩

def infinity (negative : Bool) : Double := ⟨UInt64.ofNat (Format.double.withSign negative Format.double.infinity)⟩

def zero (negative : Bool) : Double := ⟨UInt64.ofNat (Format.double.withSign negative 0)⟩

def datum (x : Double) : Datum := Format.double.decode x.bits.toNat

/-- Whether `x` is a NaN. -/
def isNaN (x : Double) : Bool := match x.datum with | .nan => true | _ => false

/-- Whether the sign bit of `x` is set. -/
def isNegative (x : Double) : Bool := Format.double.isNegative x.bits.toNat

def ofInt (n : Int) : Double := ⟨UInt64.ofNat (Format.double.ofInt n)⟩

end Double

end ArrayTransfer
