/-!
Digits and the whole numbers that they write, in a base of up to sixteen.
-/

namespace ArrayTransfer.Text

/-- The value of a digit in a base of up to sixteen; the letters stand in either case. -/
def digit? (base : Nat) (c : Char) : Option Nat :=
  let value :=
    if '0' ≤ c ∧ c ≤ '9' then c.toNat - 48
    else if 'a' ≤ c ∧ c ≤ 'f' then c.toNat - 87
    else if 'A' ≤ c ∧ c ≤ 'F' then c.toNat - 55
    else 16
  if value < base then some value else none

/-- The number that digits of the base write; no digits write zero. -/
def number? (base : Nat) (cs : List Char) : Option Nat :=
  cs.foldl (fun n c => do return (← n) * base + (← digit? base c)) (some 0)

end ArrayTransfer.Text
