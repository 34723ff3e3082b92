import ArrayTransfer.Text.Percent
import ArrayTransfer.Text.Split

/-!
Paths of URLs in normal form. A path is a list of segments between slashes; a dot stands for the directory itself and
two dots for the one above. No path climbs out of a drive: a segment that is a letter and a colon, or a bar in older
spelling. In the path of a file a drive at the front has its colon, and slashes at the front count once.
-/

namespace ArrayTransfer.Url

open Text

def pathSet : List Char := [' ', '\"', '<', '>', '\x60', '#', '?', '\x7b', '\x7d']

def isSlash (special : Bool) (c : Char) : Bool := c = '/' || (special && c = '\\')

def isSingleDot (segment : List Char) : Bool := segment.map Char.toLower ∈ [".".toList, "%2e".toList]

def isDoubleDot (segment : List Char) : Bool :=
  segment.map Char.toLower ∈ ["..".toList, ".%2e".toList, "%2e.".toList, "%2e%2e".toList]

/-- Whether a text is a drive. -/
def isDrive (cs : List Char) : Bool :=
  match cs with
  | [letter, mark] => letter.isAlpha && (mark = ':' || mark = '|')
  | _ => false

/-- Whether a segment is a drive, or is one up to its first backslash. -/
def isInDrive (segment : List Char) : Bool :=
  isDrive segment || (isDrive (segment.take 2) && (segment.drop 2).head? = some '\\')

def normalDrive (drive : List Char) : List Char := drive.take 1 ++ [':']

/-- The segments of the directory above, the last first. -/
def climb : List (List Char) → List (List Char)
  | [] => []
  | segment :: before => if isInDrive segment then segment :: before else before

/-- A segment that names something, after `before`. -/
def readSegment (ofFile : Bool) (before : List (List Char)) (segment : List Char) : List Char :=
  if ofFile && before.isEmpty && isDrive segment then normalDrive segment else percentEncode pathSet segment

/-- The segments of a path with dot segments carried out; `before` are those before it, the last first. -/
def resolveSegments (ofFile : Bool) : (before : List (List Char)) → List (List Char) → List (List Char)
  | before, [] => before.reverse
  | before, [segment] =>
    if isDoubleDot segment then ([] :: climb before).reverse
    else if isSingleDot segment then ([] :: before).reverse
    else (readSegment ofFile before segment :: before).reverse
  | before, segment :: rest =>
    if isDoubleDot segment then resolveSegments ofFile (climb before) rest
    else if isSingleDot segment then resolveSegments ofFile before rest
    else resolveSegments ofFile (readSegment ofFile before segment :: before) rest

def dropSlash (special : Bool) (cs : List Char) : List Char :=
  match cs with
  | [] => []
  | c :: rest => if isSlash special c then rest else c :: rest

def readPath (special : Bool) (cs : List Char) : List Char :=
  if cs = [] ∧ !special then []
  else '/' :: joinWith '/' (resolveSegments false [] (splitAt (isSlash special) (dropSlash special cs)))

def fileSegments (cs : List Char) : List (List Char) := resolveSegments true [] (splitAt (isSlash true) cs)

def filePath (segments : List (List Char)) : List Char := '/' :: joinWith '/' (segments.dropWhile (·.isEmpty))

end ArrayTransfer.Url
