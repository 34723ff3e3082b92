/-!
Punycode: a text as letters, digits and hyphens of ASCII. The ASCII characters of the text come first, with a hyphen
behind them; then the others are put in one after the other, in the order of their code points, each by the number of
places that it lies behind the one before. These numbers stand in a notation of base 36 whose digits have thresholds:
a digit below the threshold of its position ends the number. The thresholds follow a bias that adapts to the sizes of
the numbers before.
-/

namespace ArrayTransfer.Punycode

/-- The value of a digit: letters come before figures. -/
def digit? (c : Char) : Option Nat :=
  if 'a' ≤ c ∧ c ≤ 'z' then some (c.toNat - 97)
  else if '0' ≤ c ∧ c ≤ '9' then some (c.toNat - 48 + 26)
  else none

def digit (n : Nat) : Char := if n < 26 then Char.ofNat (97 + n) else Char.ofNat (22 + n)

/-- The threshold of the digit at a position; the first position is 1. -/
def threshold (bias position : Nat) : Nat := max 1 (min 26 (36 * position - bias))

theorem one_le_threshold (bias position : Nat) : 1 ≤ threshold bias position := by unfold threshold; omega

/-- Divides by 35 down to 455 at most, and adds 36 for each division. -/
def scale (delta sum : Nat) : Nat × Nat := if 455 < delta then scale (delta / 35) (sum + 36) else (delta, sum)
termination_by delta
decreasing_by omega

/-- The bias after the number `delta` has put the `count`-th character in. -/
def adapt (delta count : Nat) (first : Bool) : Nat :=
  let delta := if first then delta / 700 else delta / 2
  let (delta, sum) := scale (delta + delta / count) 0
  sum + 36 * delta / (delta + 38)

def firstBias : Nat := 72

def firstCode : Nat := 0x80

/-! ### Decoding -/

/-- Where a decoder stands: the text so far, the code point and the place to count on from, the bias; and of the number
    that it reads the part so far, the weight of the next digit and its position. -/
structure Decoder where
  text : List Char
  code : Nat
  place : Nat
  bias : Nat
  number : Nat
  weight : Nat
  position : Nat

namespace Decoder

def start (ascii : List Char) : Decoder := ⟨ascii, firstCode, 0, firstBias, 0, 1, 1⟩

/-- Puts a character in where the number that was read says, if there is such a character. The place is 0 only before
    the first one. -/
def insert? (d : Decoder) : Option Decoder :=
  let count := d.text.length + 1
  let total := d.place + d.number
  let code := d.code + total / count
  let place := total % count
  if code.isValidChar then
    let text := d.text.take place ++ Char.ofNat code :: d.text.drop place
    some ⟨text, code, place + 1, adapt d.number count (d.place = 0), 0, 1, 1⟩
  else none

def read? (d : Decoder) (c : Char) : Option Decoder := do
  let value ← digit? c
  let d := { d with number := d.number + value * d.weight }
  let limit := threshold d.bias d.position
  if value < limit then d.insert?
  else some { d with weight := d.weight * (36 - limit), position := d.position + 1 }

end Decoder

/-- The text that `cs` encodes, if it is well formed. A hyphen in front of everything separates nothing. -/
def decode? (cs : List Char) : Option (List Char) := do
  let digits := (cs.reverse.takeWhile (· ≠ '-')).reverse
  let ascii := cs.take (cs.length - digits.length - 1)
  let d ← (if ascii = [] then cs else digits).foldlM Decoder.read? (Decoder.start ascii)
  if d.position = 1 then some d.text else none

/-! ### Encoding -/

def number (bias position n : Nat) : List Char :=
  let limit := threshold bias position
  if n < limit then [digit n]
  else digit (limit + (n - limit) % (36 - limit)) :: number bias (position + 1) ((n - limit) / (36 - limit))
termination_by n
decreasing_by
  have := one_le_threshold bias position
  exact Nat.lt_of_le_of_lt (Nat.div_le_self _ _) (by omega)

/-- Where an encoder stands: the digits so far, the least code point that is not yet written, the number of places
    passed since the last one, the bias, and how many characters are written. -/
structure Encoder where
  digits : List Char
  code : Nat
  passed : Nat
  bias : Nat
  count : Nat

namespace Encoder

/-- Passes a character of the text while those with code point `code` are written; `ascii` characters were written
    before any digit. -/
def pass (ascii code : Nat) (e : Encoder) (c : Char) : Encoder :=
  if c.toNat < code then { e with passed := e.passed + 1 }
  else if c.toNat = code then
    { e with
      digits := e.digits ++ number e.bias 1 e.passed
      passed := 0
      bias := adapt e.passed (e.count + 1) (e.count = ascii)
      count := e.count + 1 }
  else e

/-- Writes the characters of the text with code point `code`. -/
def write (text : List Char) (ascii : Nat) (e : Encoder) (code : Nat) : Encoder :=
  let skipped := { e with passed := e.passed + (code - e.code) * (e.count + 1) }
  let e := text.foldl (pass ascii code) skipped
  { e with code := code + 1, passed := e.passed + 1 }

end Encoder

def encode (text : List Char) : List Char :=
  let ascii := text.filter (·.toNat < firstCode)
  let codes := ((text.filter (firstCode ≤ ·.toNat)).map Char.toNat).eraseDups.mergeSort
  let encoder := codes.foldl (Encoder.write text ascii.length) ⟨[], firstCode, 0, firstBias, ascii.length⟩
  (if ascii = [] then [] else ascii ++ ['-']) ++ encoder.digits

end ArrayTransfer.Punycode
