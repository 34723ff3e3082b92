import ArrayTransfer.HostName.Basic
import ArrayTransfer.Http.Url.Error
import ArrayTransfer.Text.Percent
import ArrayTransfer.Text.Utf8

/-!
Hosts of URLs: names, and addresses of either internet protocol in their shortest notation.
-/

namespace ArrayTransfer.Url

open Text

/-- A part of an address of four bytes: decimal, octal after a zero, hexadecimal after `0x`. -/
def ipv4Part? : List Char → Option Nat
  | [] => none
  | '0' :: 'x' :: rest => Text.number? 16 rest
  | '0' :: 'X' :: rest => Text.number? 16 rest
  | '0' :: c :: rest => Text.number? 8 (c :: rest)
  | cs => Text.number? 10 cs

/-- The parts of a name between its dots; a dot at the end does not count. -/
def nameParts (host : List Char) : List (List Char) :=
  let parts := splitAt (· = '.') host
  if parts.getLast? = some [] ∧ 1 < parts.length then parts.dropLast else parts

/-- Whether the last part of a name is a number, so that the name has to be an address. -/
def endsInNumber (host : List Char) : Bool :=
  match (nameParts host).getLast? with
  | some part => !part.isEmpty && (part.all Char.isDigit || (part.length ≠ 1 && (ipv4Part? part).isSome))
  | none => false

/-- The address that one to four parts write; the last part fills the bytes that are left. -/
def ipv4? (host : List Char) : Option (List Char) := do
  let parts ← (nameParts host).mapM ipv4Part?
  let count := parts.length
  let last ← parts.getLast?
  let firsts := parts.dropLast
  if count ≤ 4 ∧ firsts.all (· < 256) ∧ last < Nat.pow 256 (5 - count) then
    let address := firsts.zipIdx.foldl (fun sum (n, i) => sum + n * Nat.pow 256 (3 - i)) last
    let bytes := (Bytes.ofNat 4 address).reverse
    return joinWith '.' (bytes.map fun b => Nat.toDigits 10 b.toNat)
  else none

def ipv6Group? (cs : List Char) : Option Nat := if 1 ≤ cs.length ∧ cs.length ≤ 4 then Text.number? 16 cs else none

def ipv6Dotted? (cs : List Char) : Option (List Nat) :=
  let parts := splitAt (· = '.') cs
  let plain := fun (p : List Char) =>
    1 ≤ p.length ∧ p.length ≤ 3 ∧ p.all Char.isDigit ∧ (p.head? ≠ some '0' ∨ p.length = 1)
  if parts.length = 4 ∧ parts.all (fun p => plain p) then
    match parts.mapM (Text.number? 10) with
    | some [a, b, c, d] => if a < 256 ∧ b < 256 ∧ c < 256 ∧ d < 256 then some [a * 256 + b, c * 256 + d] else none
    | _ => none
  else none

/-- Groups between colons; only at the end of the address may the last be in dotted notation. -/
def ipv6Groups? (atEnd : Bool) (cs : List Char) : Option (List Nat) :=
  if cs = [] then some []
  else
    let pieces := splitAt (· = ':') cs
    match pieces.getLast? with
    | none => some []
    | some last =>
      if atEnd ∧ '.' ∈ last then do return (← pieces.dropLast.mapM ipv6Group?) ++ (← ipv6Dotted? last)
      else pieces.mapM ipv6Group?

def cutAtGap : List Char → Option (List Char × List Char)
  | ':' :: ':' :: rest => some ([], rest)
  | c :: rest => (cutAtGap rest).map fun (before, after) => (c :: before, after)
  | [] => none

/-- The eight groups of an address; two colons stand for one or more zero groups. -/
def ipv6? (cs : List Char) : Option (List Nat) :=
  match cutAtGap cs with
  | none => do
    let groups ← ipv6Groups? true cs
    if groups.length = 8 then return groups else none
  | some (before, after) => do
    let front ← ipv6Groups? false before
    let back ← ipv6Groups? true after
    if front.length + back.length ≤ 7 then
      return front ++ List.replicate (8 - front.length - back.length) 0 ++ back
    else none

/-- The start and the length of the first longest run of zeros from `place` on, if it is longer than `best`; `run`
    zeros stand just before. -/
def longestZeros : (place run : Nat) → (best : Nat × Nat) → List Nat → Nat × Nat
  | _, _, best, [] => best
  | place, run, best, g :: rest =>
    if g = 0 then
      let best := if best.2 < run + 1 then (place - run, run + 1) else best
      longestZeros (place + 1) (run + 1) best rest
    else longestZeros (place + 1) 0 best rest

/-- The text of an address in brackets, its first longest run of two or more zero groups left out. -/
def ipv6Text (groups : List Nat) : List Char :=
  let text := fun (gs : List Nat) => joinWith ':' (gs.map (Nat.toDigits 16))
  let (start, length) := longestZeros 0 0 (0, 1) groups
  let inner :=
    if length < 2 then text groups
    else text (groups.take start) ++ ':' :: ':' :: text (groups.drop (start + length))
  '[' :: inner ++ [']']

/-- An address of eight groups behind the bracket that opens it. -/
def readIPv6 (cs : List Char) : Except UrlError (List Char) :=
  if cs.getLast? = some ']' then
    match ipv6? cs.dropLast with
    | some groups => .ok (ipv6Text groups)
    | none => .error .invalidIPv6
  else .error .invalidIPv6

/-- The host of a URL that is not special: an address in brackets, or a name of any sort. -/
def readOpaqueHost (cs : List Char) : Except UrlError (List Char) :=
  match cs with
  | '[' :: rest => readIPv6 rest
  | cs =>
    if cs.any ("\x00\t\n\r #/:<>?@[\\]^|".toList.contains ·) then .error .invalidCharacter
    else .ok (percentEncode [] cs)

/-- The host of a special URL: an address in brackets, or the name of a host, which may write an address of four
    bytes. -/
def readHost (cs : List Char) : Except UrlError (List Char) :=
  match cs with
  | [] => .error .emptyHost
  | '[' :: rest => readIPv6 rest
  | cs =>
    match Utf8.decode? (percentDecode cs) with
    | none => .error .invalidName
    | some name =>
      match HostName.toAscii? name.toList with
      | none => .error .invalidName
      | some [] => .error .emptyHost
      | some name =>
        if endsInNumber name then
          match ipv4? name with
          | some address => .ok address
          | none => .error .invalidIPv4
        else .ok name

end ArrayTransfer.Url
