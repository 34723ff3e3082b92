import ArrayTransfer.Text.CodePoint

/-!
Texts and lists as they appear inside error messages. A quoted text shows each character that a reader
could not see or could not tell apart as an escape; a bracketed list puts a comma and a blank between
its items.
-/

namespace ArrayTransfer.Text

/-- `n` in lower case hexadecimal, without leading zeros. -/
def hexadecimal (n : Nat) : String := String.ofList (Nat.toDigits 16 n)

/-- A character inside quotes. Quotation mark, backslash and the common controls have short escapes; what is
    unprintable or would merge with the character before it is shown by its code point. -/
def quoteChar (c : Char) : String :=
  if c = '\x00' then "\\0"
  else if c = '\t' then "\\t"
  else if c = '\r' then "\\r"
  else if c = '\n' then "\\n"
  else if c = '\"' then "\\\""
  else if c = '\\' then "\\\\"
  else if CodePoint.within c.toNat CodePoint.graphemeExtend || CodePoint.within c.toNat CodePoint.unprintable then
    "\\u\x7b" ++ hexadecimal c.toNat ++ "\x7d"
  else String.singleton c

def quote (s : String) : String := "\"" ++ String.join (s.toList.map quoteChar) ++ "\""

/-- The items in square brackets, a comma and a blank between them. -/
def bracketed (items : List String) : String := "[" ++ ", ".intercalate items ++ "]"

def numbers (ns : List UInt64) : String := bracketed (ns.map toString)

end ArrayTransfer.Text
