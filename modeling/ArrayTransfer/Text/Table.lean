import ArrayTransfer.Text.Digits
import ArrayTransfer.Text.Split

/-!
Tables of code points in a written form. A line of a table holds words with a blank between them. A word is a code
point in hexadecimal, or the two ends of a closed range with a hyphen between them; behind a `>` stand the numbers
that the table gives for it, with plus signs between them.
-/

namespace ArrayTransfer.Text

/-- A closed range of code points, and what the table gives for them. -/
structure Row where
  low : Nat
  high : Nat
  values : List Nat

namespace Row

/-- A number of a table; the tables of this library hold none that is malformed. -/
def number (cs : List Char) : Nat := (number? 16 cs).getD 0

def ofWord (word : List Char) : Row :=
  let (range, values) := cut (· = '>') word
  let (low, high) := cut (· = '-') range
  ⟨number low, number (if high = [] then low else high.drop 1),
    if values = [] then [] else (splitAt (· = '+') (values.drop 1)).map number⟩

def contains (r : Row) (n : Nat) : Bool := r.low ≤ n && n ≤ r.high

end Row

/-- The rows of a table. -/
structure Table where
  rows : List Row

namespace Table

def ofLines (lines : List String) : Table := ⟨lines.flatMap fun line => (splitAt (· = ' ') line.toList).map Row.ofWord⟩

def row? (t : Table) (c : Char) : Option Row := t.rows.find? (·.contains c.toNat)

def contains (t : Table) (c : Char) : Bool := (t.row? c).isSome

end Table

end ArrayTransfer.Text
