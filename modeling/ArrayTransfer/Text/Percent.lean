import ArrayTransfer.Bytes
import ArrayTransfer.Text.Digits

/-!
Percent encoding: a byte as a percent sign and two hexadecimal digits.
-/

namespace ArrayTransfer.Text

/-- Two upper case hexadecimal digits after a percent sign. -/
def percent (b : UInt8) : List Char :=
  ['%', (Nat.digitChar (b.toNat / 16)).toUpper, (Nat.digitChar (b.toNat % 16)).toUpper]

/-- Percent-encodes controls, characters outside of ASCII, and those in `set`. -/
def percentEncode (set : List Char) (cs : List Char) : List Char :=
  cs.flatMap fun c =>
    if c.toNat ≤ 0x1F ∨ 0x7F ≤ c.toNat ∨ c ∈ set then (String.utf8EncodeChar c).flatMap percent else [c]

/-- The bytes of a text in which percent signs with two digits stand for bytes. -/
def percentDecode : List Char → Bytes
  | '%' :: a :: b :: rest =>
    match digit? 16 a, digit? 16 b with
    | some x, some y => UInt8.ofNat (x * 16 + y) :: percentDecode rest
    | _, _ => 0x25 :: percentDecode (a :: b :: rest)
  | c :: rest => String.utf8EncodeChar c ++ percentDecode rest
  | [] => []

end ArrayTransfer.Text
