import ArrayTransfer.Text.Base64

/-! Reading base64. The reader knows the alphabet by its order and takes four digits at a time; it gives back the bytes
    of every text that `Base64.encode` writes. -/

namespace ArrayTransfer.Base64

/-- The value of a six bit digit. -/
def value? (c : Char) : Option Nat :=
  if 'A' ≤ c ∧ c ≤ 'Z' then some (c.toNat - 65)
  else if 'a' ≤ c ∧ c ≤ 'z' then some (c.toNat - 97 + 26)
  else if '0' ≤ c ∧ c ≤ '9' then some (c.toNat - 48 + 52)
  else if c = '+' then some 62
  else if c = '/' then some 63
  else none

/-- The bytes that groups of four digits write; the last group may end with one or two equals signs. -/
def decodeChars? : List Char → Option Bytes
  | [] => some []
  | [a, b, '=', '='] => do
    let a ← value? a
    let b ← value? b
    return [UInt8.ofNat (a * 4 + b / 16)]
  | [a, b, c, '='] => do
    let a ← value? a
    let b ← value? b
    let c ← value? c
    return [UInt8.ofNat (a * 4 + b / 16), UInt8.ofNat (b % 16 * 16 + c / 4)]
  | a :: b :: c :: d :: rest => do
    let a ← value? a
    let b ← value? b
    let c ← value? c
    let d ← value? d
    let bytes ← decodeChars? rest
    return UInt8.ofNat (a * 4 + b / 16) :: UInt8.ofNat (b % 16 * 16 + c / 4) :: UInt8.ofNat (c % 4 * 64 + d) :: bytes
  | _ => none

/-- The bytes that a base64 text writes. -/
def decode? (s : String) : Option Bytes := decodeChars? s.toList

theorem value?_digit : ∀ n < 64, value? (digit n) = some n := by decide

theorem digit_ne_equals : ∀ n < 64, digit n ≠ '=' := by decide

theorem ofNat_eq {x : UInt8} {n : Nat} (h : n = x.toNat) : UInt8.ofNat n = x := by rw [h, UInt8.ofNat_toNat]

theorem decodeChars?_encodeChars (b : Bytes) : decodeChars? (encodeChars b) = some b := by
  induction b using encodeChars.induct with
  | case1 => rfl
  | case2 a =>
    have ha := a.toNat_lt
    rw [encodeChars, decodeChars?, value?_digit _ (by omega), value?_digit _ (by omega)]
    have first := ofNat_eq (x := a) (show a.toNat / 4 * 4 + a.toNat % 4 * 16 / 16 = a.toNat by omega)
    simp only [Option.bind_eq_bind, Option.bind_some, first, Option.pure_def]
  | case3 a b =>
    have ha := a.toNat_lt
    have hb := b.toNat_lt
    have third := digit_ne_equals (b.toNat % 16 * 4) (by omega)
    rw [encodeChars, decodeChars?, value?_digit _ (by omega), value?_digit _ (by omega), value?_digit _ (by omega)]
    · have first := ofNat_eq (x := a)
        (show a.toNat / 4 * 4 + (a.toNat % 4 * 16 + b.toNat / 16) / 16 = a.toNat by omega)
      have second := ofNat_eq (x := b)
        (show (a.toNat % 4 * 16 + b.toNat / 16) % 16 * 16 + b.toNat % 16 * 4 / 4 = b.toNat by omega)
      simp only [Option.bind_eq_bind, Option.bind_some, first, second, Option.pure_def]
    · exact third
  | case4 a b c rest ih =>
    have ha := a.toNat_lt
    have hb := b.toNat_lt
    have hc := c.toNat_lt
    have last := digit_ne_equals (c.toNat % 64) (by omega)
    rw [encodeChars, decodeChars?, value?_digit _ (by omega), value?_digit _ (by omega), value?_digit _ (by omega),
      value?_digit _ (by omega), ih]
    · have first := ofNat_eq (x := a)
        (show a.toNat / 4 * 4 + (a.toNat % 4 * 16 + b.toNat / 16) / 16 = a.toNat by omega)
      have second := ofNat_eq (x := b) (show (a.toNat % 4 * 16 + b.toNat / 16) % 16 * 16 +
        (b.toNat % 16 * 4 + c.toNat / 64) / 4 = b.toNat by omega)
      have third := ofNat_eq (x := c)
        (show (b.toNat % 16 * 4 + c.toNat / 64) % 4 * 64 + c.toNat % 64 = c.toNat by omega)
      simp only [Option.bind_eq_bind, Option.bind_some, first, second, third, Option.pure_def]
    · exact fun _ h _ => last h
    · exact fun h _ => last h

/-- Base64 reads back. -/
theorem decode?_encode (b : Bytes) : decode? (encode b) = some b := by
  rw [decode?, encode, String.toList_ofList, decodeChars?_encodeChars]

end ArrayTransfer.Base64
