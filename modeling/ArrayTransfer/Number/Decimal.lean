import ArrayTransfer.Number.Ieee

/-!
Decimal text of double precision numbers. `Decimal.toDouble?` reads a decimal as the nearest double,
`Double.shortest` finds the decimal with the fewest digits that reads back, and `DecimalStyle` says how its
digits are set out.
-/

namespace ArrayTransfer

/-- The number `digits * 10 ^ exponent`. -/
structure Decimal where
  digits : Nat
  exponent : Int
  deriving DecidableEq

namespace Decimal

/-- The pattern, without a sign, of the double nearest to the decimal. -/
def magnitude (d : Decimal) : Nat :=
  Format.double.round (d.digits * Nat.pow 10 d.exponent.toNat) (Nat.pow 10 (-d.exponent).toNat)

/-- The number of decimal digits of `n`. -/
def digitCount (n : Nat) : Nat := (Nat.toDigits 10 n).length

/-- The double nearest to a signed decimal; `none` if it is beyond the largest double. Decimals far outside the range
    are told by their order of magnitude, so that no huge power is computed. -/
def toDouble? (negative : Bool) (d : Decimal) : Option Double :=
  let order := d.exponent + digitCount d.digits
  if d.digits = 0 ∨ order < -400 then some (Double.zero negative)
  else if 400 < order then none
  else if d.magnitude = Format.double.infinity then none
  else some ⟨UInt64.ofNat (Format.double.withSign negative d.magnitude)⟩

/-- The decimal without trailing zero digits; `fuel` bounds their number. -/
def stripZeros : (fuel : Nat) → Decimal → Decimal
  | 0, d => d
  | fuel + 1, d =>
    if d.digits ≠ 0 ∧ d.digits % 10 = 0 then stripZeros fuel ⟨d.digits / 10, d.exponent + 1⟩ else d

end Decimal

/-- How a decimal is set out: positionally, with at least one digit after the point, if its leading digit stands for a
    power of ten between the bounds, and scientifically, with a signed exponent otherwise. -/
structure DecimalStyle where
  positionalFrom : Int
  positionalTo : Int

namespace DecimalStyle

def render (s : DecimalStyle) (d : Decimal) : String :=
  let digits := Nat.toDigits 10 d.digits
  let leading : Int := digits.length + d.exponent - 1
  if s.positionalFrom ≤ leading ∧ leading ≤ s.positionalTo then
    if 0 ≤ d.exponent then String.ofList (digits ++ List.replicate d.exponent.toNat '0' ++ ['.', '0'])
    else if 0 ≤ leading then
      String.ofList (digits.take (leading.toNat + 1) ++ '.' :: digits.drop (leading.toNat + 1))
    else String.ofList ('0' :: '.' :: List.replicate (-leading - 1).toNat '0' ++ digits)
  else
    let fraction := if digits.length ≤ 1 then [] else '.' :: digits.drop 1
    let sign := if leading < 0 then '-' else '+'
    String.ofList (digits.take 1 ++ fraction ++ 'e' :: sign :: Nat.toDigits 10 leading.natAbs)

end DecimalStyle

namespace Double

/-- The neighbour of `num / den` on the grid of multiples of `10 ^ exponent` that reads back as `magnitude`; of two,
    the nearer one, and the even one if both are as near. -/
def onGrid? (magnitude num den : Nat) (exponent : Int) : Option Decimal :=
  let cellNum := num * Nat.pow 10 (-exponent).toNat
  let cellDen := den * Nat.pow 10 exponent.toNat
  let below : Decimal := ⟨cellNum / cellDen, exponent⟩
  let above : Decimal := ⟨cellNum / cellDen + 1, exponent⟩
  let twice := 2 * (cellNum % cellDen)
  let nearerAbove := cellDen < twice ∨ (cellDen = twice ∧ below.digits % 2 = 1)
  if below.magnitude = magnitude then
    if nearerAbove ∧ above.magnitude = magnitude then some above else some below
  else if above.magnitude = magnitude then some above
  else none

/-- The first hit on the grids from `10 ^ exponent` down, `fuel` of them. -/
def coarsest? (magnitude num den : Nat) : (fuel : Nat) → (exponent : Int) → Option Decimal
  | 0, _ => none
  | fuel + 1, exponent =>
    (onGrid? magnitude num den exponent).orElse fun _ => coarsest? magnitude num den fuel (exponent - 1)

/-- The decimal with the fewest digits that reads back as the finite number `x`, without its sign; of several, the
    nearest. Coarser grids have fewer digits, so they are tried first, from one above the order of magnitude on;
    seventeen digits always suffice. -/
def shortest (x : Double) : Decimal :=
  match x.datum with
  | .finite _ m e =>
    if m = 0 then ⟨0, 0⟩ else
      let num := m * Nat.pow 2 e.toNat
      let den := Nat.pow 2 (-e).toNat
      let order : Int := Decimal.digitCount (num / den) - Decimal.digitCount (den / num)
      let magnitude := Format.double.magnitude x.bits.toNat
      ((coarsest? magnitude num den 24 (order + 2)).getD ⟨num, 0⟩).stripZeros 400
  | _ => ⟨0, 0⟩

/-- The text of a finite double: its sign and its shortest decimal. -/
def render (s : DecimalStyle) (x : Double) : String := (if x.isNegative then "-" else "") ++ s.render x.shortest

end Double

end ArrayTransfer
