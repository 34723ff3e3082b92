import ArrayTransfer.Json.Basic
import ArrayTransfer.Number.Decimal

/-!
The compact text of a JSON value: no blanks, a short or numeric escape for quotation marks, backslashes
and control characters only, and the shortest decimal for each double.
-/

namespace ArrayTransfer.Json

/-- Doubles are positional from five places after the point to sixteen digits before it. -/
def doubleStyle : DecimalStyle := ⟨-5, 15⟩

def escapeChar (c : Char) : List Char :=
  if c = '\"' then ['\\', '\"']
  else if c = '\\' then ['\\', '\\']
  else if c = '\x08' then ['\\', 'b']
  else if c = '\t' then ['\\', 't']
  else if c = '\n' then ['\\', 'n']
  else if c = '\x0c' then ['\\', 'f']
  else if c = '\r' then ['\\', 'r']
  else if c.toNat < 0x20 then ['\\', 'u', '0', '0', Nat.digitChar (c.toNat / 16), Nat.digitChar (c.toNat % 16)]
  else [c]

def stringChars (s : String) : List Char := '\"' :: s.toList.flatMap escapeChar ++ ['\"']

end Json

def JsonNumber.render : JsonNumber → String
  | .unsigned n => toString n.toNat
  | .negative n => toString n.toInt
  | .double x => x.render Json.doubleStyle

namespace Json

mutual
/-- The characters of a value. -/
def chars : Json → List Char
  | .null => "null".toList
  | .bool b => (if b then "true" else "false").toList
  | .number n => n.render.toList
  | .string s => stringChars s
  | .array items => '[' :: itemChars items ++ [']']
  | .object fields => '\x7b' :: fieldChars fields ++ ['\x7d']
termination_by structural v => v
def itemChars : List Json → List Char
  | [] => []
  | [v] => chars v
  | v :: rest => chars v ++ ',' :: itemChars rest
termination_by structural items => items
def fieldChars : List (String × Json) → List Char
  | [] => []
  | [(k, v)] => stringChars k ++ ':' :: chars v
  | (k, v) :: rest => stringChars k ++ ':' :: chars v ++ ',' :: fieldChars rest
termination_by structural fields => fields
end

def render (v : Json) : String := String.ofList v.chars

end ArrayTransfer.Json
