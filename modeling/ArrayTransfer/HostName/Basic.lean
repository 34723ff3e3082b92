import ArrayTransfer.HostName.Direction
import ArrayTransfer.HostName.Joining
import ArrayTransfer.HostName.Mapping
import ArrayTransfer.Text.Composition
import ArrayTransfer.Text.Punycode

/-!
International host names and their form in ASCII. A name is brought to its normal form, in which upper and lower case
and the ways to write a letter make no difference, and cut into labels at its dots. A label with other characters than
those of ASCII is sent as Punycode behind a mark; a label that was written so from the start has to be the one form of
a label.
-/

namespace ArrayTransfer.HostName

open Text

/-- Whether a character may not stand in a host name, in whichever way it is written. -/
def isForbidden (c : Char) : Bool := c.toNat ≤ 0x20 || c.toNat = 0x7F || "#/:<>?@[\\]^|%".toList.contains c

/-- The normal form of a name: the characters that its own stand for, composed. -/
def normalForm? (name : List Char) : Option (List Char) := do
  let normal := Composition.compose (← name.mapM image?).flatten
  if normal.any isForbidden then none else some normal

def codeMark : List Char := "xn--".toList

def codeLimit : Nat := 2000

/-- How many characters a label may have that is sent as Punycode. -/
def labelLimit : Nat := 1000

/-- The label that a label of a name in normal form writes. Punycode has to write a label in normal form that is not
    ASCII. -/
def readLabel? (label : List Char) : Option (List Char) :=
  if codeMark.isPrefixOf label then
    let code := label.drop codeMark.length
    if code.all isAscii ∧ code.length ≤ codeLimit ∧ label.getLast? ≠ some '-' then
      (Punycode.decode? code).filter fun decoded => normalForm? decoded = some decoded
    else none
  else some label

/-- Whether a label can be read: it does not begin with a mark, and all of its joiners can be seen. -/
def isReadable (label : List Char) : Bool :=
  label.all isAscii || (!label.head?.any Mark.isMark && areJoinersSeen [] label && label.length ≤ labelLimit)

def asciiLabel (label : List Char) : List Char :=
  if label.all isAscii then label else codeMark ++ Punycode.encode label

def toAscii? (name : List Char) : Option (List Char) := do
  let labels ← (splitAt (· = '.') (← normalForm? name)).mapM readLabel?
  if labels.all isReadable && (!labels.any (·.any turnsRight) || labels.all hasOneDirection) then
    some (joinWith '.' (labels.map asciiLabel))
  else none

end ArrayTransfer.HostName
