import ArrayTransfer.Json.Basic
import ArrayTransfer.Number.Decimal
import ArrayTransfer.Text.Digits
import ArrayTransfer.Text.Utf8

/-!
Reading JSON text, by its strict grammar: no comments, no trailing commas, no leading zeros, no raw control
characters, no half of a surrogate pair. Values nest less than 128 deep, a number beyond the doubles is an
error, and of fields with one name the last value stands.
-/

namespace ArrayTransfer.Json

def isBlank (c : Char) : Bool := c == ' ' || c == '\n' || c == '\t' || c == '\r'

def skipBlanks (cs : List Char) : List Char := cs.dropWhile isBlank

/-- Where in a string the reader stands: between characters, after a backslash, inside the four digits of a numeric
    escape (after `high`, the first half of a surrogate pair, if there was one), or between the escapes of a pair. -/
inductive StringState where
  | plain
  | escape
  | digits (high : Option Nat) (left : Nat) (code : Nat)
  | pairBackslash (high : Nat)
  | pairLetter (high : Nat)

def shortEscape? (c : Char) : Option Char :=
  match c with
  | '\"' => some '\"'
  | '\\' => some '\\'
  | '/' => some '/'
  | 'b' => some '\x08'
  | 'f' => some '\x0c'
  | 'n' => some '\n'
  | 'r' => some '\r'
  | 't' => some '\t'
  | _ => none

/-- What a complete numeric escape gives: a character, or the first half of a pair. -/
def closeEscape? (high : Option Nat) (code : Nat) : Option (Char ⊕ Nat) :=
  match high with
  | some h =>
    if 0xDC00 ≤ code ∧ code ≤ 0xDFFF then
      some (.inl (Char.ofNat (0x10000 + (h - 0xD800) * 0x400 + (code - 0xDC00))))
    else none
  | none =>
    if 0xD800 ≤ code ∧ code ≤ 0xDBFF then some (.inr code)
    else if 0xDC00 ≤ code ∧ code ≤ 0xDFFF then none
    else some (.inl (Char.ofNat code))

/-- Reads the rest of a string up to its closing quotation mark; gives its characters and what follows. -/
def readString : StringState → List Char → Option (List Char × List Char)
  | _, [] => none
  | .plain, c :: rest =>
    if c = '\"' then some ([], rest)
    else if c = '\\' then readString .escape rest
    else if c.toNat < 0x20 then none
    else (readString .plain rest).map fun (s, rest) => (c :: s, rest)
  | .escape, c :: rest =>
    if c = 'u' then readString (.digits none 4 0) rest
    else match shortEscape? c with
      | some e => (readString .plain rest).map fun (s, rest) => (e :: s, rest)
      | none => none
  | .digits high left code, c :: rest =>
    match Text.digit? 16 c with
    | none => none
    | some d =>
      if 1 < left then readString (.digits high (left - 1) (code * 16 + d)) rest
      else match closeEscape? high (code * 16 + d) with
        | some (.inl e) => (readString .plain rest).map fun (s, rest) => (e :: s, rest)
        | some (.inr h) => readString (.pairBackslash h) rest
        | none => none
  | .pairBackslash h, c :: rest => if c = '\\' then readString (.pairLetter h) rest else none
  | .pairLetter h, c :: rest => if c = 'u' then readString (.digits (some h) 4 0) rest else none

def isDigit (c : Char) : Bool := '0' ≤ c && c ≤ '9'

def digitsValue (ds : List Char) : Nat := ds.foldl (fun n c => n * 10 + (c.toNat - 48)) 0

def readDigits (cs : List Char) : Option (List Char × List Char) :=
  match cs.takeWhile isDigit with
  | [] => none
  | ds => some (ds, cs.dropWhile isDigit)

/-- The integer part of a number: a zero alone, or digits that do not start with one. -/
def readWhole (cs : List Char) : Option (List Char × List Char) :=
  match readDigits cs with
  | some (ds, rest) => if ds.head? = some '0' ∧ ds.length ≠ 1 then none else some (ds, rest)
  | none => none

def readFraction : List Char → Option (Option (List Char) × List Char)
  | '.' :: cs => (readDigits cs).map fun (ds, rest) => (some ds, rest)
  | cs => some (none, cs)

def readExponent : List Char → Option (Option Int × List Char)
  | 'e' :: cs | 'E' :: cs =>
    match cs with
    | '+' :: cs => (readDigits cs).map fun (ds, rest) => (some (digitsValue ds : Int), rest)
    | '-' :: cs => (readDigits cs).map fun (ds, rest) => (some (-(digitsValue ds : Int)), rest)
    | cs => (readDigits cs).map fun (ds, rest) => (some (digitsValue ds : Int), rest)
  | cs => some (none, cs)

/-- A whole number keeps its kind if it fits one; minus zero and what is too large are doubles. -/
def wholeNumber? (negative : Bool) (n : Nat) : Option JsonNumber :=
  if ¬negative ∧ n < UInt64.size then some (.unsigned (UInt64.ofNat n))
  else if negative ∧ 0 < n ∧ n ≤ Nat.pow 2 63 then some (.negative (Int64.ofInt (-(n : Int))))
  else (Decimal.toDouble? negative ⟨n, 0⟩).map .double

def readMagnitude (negative : Bool) (cs : List Char) : Option (JsonNumber × List Char) := do
  let (whole, cs) ← readWhole cs
  let (fraction, cs) ← readFraction cs
  let (exponent, cs) ← readExponent cs
  match fraction, exponent with
  | none, none => (wholeNumber? negative (digitsValue whole)).map (·, cs)
  | _, _ =>
    let after := fraction.getD []
    let decimal : Decimal := ⟨digitsValue (whole ++ after), exponent.getD 0 - after.length⟩
    (Decimal.toDouble? negative decimal).map fun x => (.double x, cs)

def readNumber : List Char → Option (JsonNumber × List Char)
  | '-' :: cs => readMagnitude true cs
  | cs => readMagnitude false cs

def nestingLimit : Nat := 127

mutual
/-- Reads a value that may nest `depth` deep. Each call hands on less text, so `fuel` beyond its length is never used
    up; the same holds of the other readers. -/
def readValue : (fuel depth : Nat) → List Char → Option (Json × List Char)
  | 0, _, _ => none
  | fuel + 1, depth, cs =>
    match skipBlanks cs with
    | 'n' :: 'u' :: 'l' :: 'l' :: rest => some (.null, rest)
    | 't' :: 'r' :: 'u' :: 'e' :: rest => some (.bool true, rest)
    | 'f' :: 'a' :: 'l' :: 's' :: 'e' :: rest => some (.bool false, rest)
    | '\"' :: rest => (readString .plain rest).map fun (s, rest) => (.string (String.ofList s), rest)
    | '[' :: rest =>
      match depth with
      | 0 => none
      | depth + 1 =>
        match skipBlanks rest with
        | ']' :: rest => some (.array [], rest)
        | rest => (readItems fuel depth rest).map fun (items, rest) => (.array items, rest)
    | '\x7b' :: rest =>
      match depth with
      | 0 => none
      | depth + 1 =>
        match skipBlanks rest with
        | '\x7d' :: rest => some (.object [], rest)
        | rest => (readFields fuel depth [] rest).map fun (fields, rest) => (.object fields, rest)
    | cs => (readNumber cs).map fun (n, rest) => (.number n, rest)
def readItems : (fuel depth : Nat) → List Char → Option (List Json × List Char)
  | 0, _, _ => none
  | fuel + 1, depth, cs =>
    match readValue fuel depth cs with
    | none => none
    | some (v, rest) =>
      match skipBlanks rest with
      | ',' :: rest => (readItems fuel depth rest).map fun (items, rest) => (v :: items, rest)
      | ']' :: rest => some ([v], rest)
      | _ => none
/-- Reads the fields of an object up to its closing brace, after the fields `before`. -/
def readFields :
    (fuel depth : Nat) → List (String × Json) → List Char → Option (List (String × Json) × List Char)
  | 0, _, _, _ => none
  | fuel + 1, depth, before, cs =>
    match skipBlanks cs with
    | '\"' :: rest =>
      match readString .plain rest with
      | none => none
      | some (key, rest) =>
        match skipBlanks rest with
        | ':' :: rest =>
          match readValue fuel depth rest with
          | none => none
          | some (v, rest) =>
            let fields := setField (String.ofList key) v before
            match skipBlanks rest with
            | ',' :: rest => readFields fuel depth fields rest
            | '\x7d' :: rest => some (fields, rest)
            | _ => none
        | _ => none
    | _ => none
end

def parseChars? (cs : List Char) : Option Json :=
  match readValue (2 * cs.length + 1) nestingLimit cs with
  | some (v, rest) => if skipBlanks rest = [] then some v else none
  | none => none

def parse? (s : String) : Option Json := parseChars? s.toList

def ofBytes? (b : Bytes) : Option Json := (Utf8.decode? b).bind parse?

end ArrayTransfer.Json
