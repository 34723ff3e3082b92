import ArrayTransfer.Http.Url.Host
import ArrayTransfer.Http.Url.Path

/-!
Absolute URLs in their normal form: scheme and host in lower case, the default port left out, the path of a
web URL never empty and free of dot segments, and other characters percent-encoded where they stand.
-/

namespace ArrayTransfer

open Text

/-- An absolute URL in normal form. The user information holds its at sign; a URL without an authority has no host. -/
structure Url where
  scheme : List Char
  userInfo : List Char
  host : Option (List Char)
  port : Option Nat
  path : List Char
  query : Option (List Char)
  fragment : Option (List Char)

namespace Url

/-- The default port of the schemes that have one; these, and files, are the special schemes. -/
def defaultPort? (scheme : List Char) : Option Nat :=
  match String.ofList scheme with
  | "http" => some 80
  | "https" => some 443
  | "ws" => some 80
  | "wss" => some 443
  | "ftp" => some 21
  | _ => none

def isFile (scheme : List Char) : Bool := scheme = "file".toList

/-- Whether the scheme is special, so that backslashes are slashes and the path is never empty. -/
def isSpecial (scheme : List Char) : Bool := (defaultPort? scheme).isSome || isFile scheme

def fragmentSet : List Char := [' ', '\"', '<', '>', '\x60']

def querySet (special : Bool) : List Char := [' ', '\"', '#', '<', '>'] ++ if special then ['\x27'] else []

def userInfoSet : List Char := pathSet ++ ['/', ':', ';', '=', '@', '[', '\\', ']', '^', '|']

/-- A port; the default port is left out. -/
def readPort (scheme cs : List Char) : Except UrlError (Option Nat) :=
  if cs.all Char.isDigit then
    match Text.number? 10 cs with
    | some n =>
      if 65535 < n then .error .invalidPort
      else if cs = [] ∨ defaultPort? scheme = some n then .ok none
      else .ok (some n)
    | none => .error .invalidPort
  else .error .invalidPort

/-- User name and password with the at sign behind them; an empty password leaves no colon. -/
def userInfoText (cs : List Char) : List Char :=
  let (name, rest) := cut (· = ':') cs
  let password := rest.drop 1
  let encoded := percentEncode userInfoSet name ++
    if password = [] then [] else ':' :: percentEncode userInfoSet password
  if encoded = [] then [] else encoded ++ ['@']

def readTail (special : Bool) (cs : List Char) : Option (List Char) × Option (List Char) :=
  let (front, back) := cut (· = '#') cs
  let query := match front with
    | '?' :: q => some (percentEncode (querySet special) q)
    | _ => none
  let fragment := match back with
    | '#' :: f => some (percentEncode fragmentSet f)
    | _ => none
  (query, fragment)

def cutScheme? (cs : List Char) : Option (List Char × List Char) :=
  let (scheme, rest) := cut (fun c => !(c.isAlphanum || c = '+' || c = '-' || c = '.')) cs
  match scheme, rest with
  | c :: _, ':' :: rest => if c.isAlpha then some (scheme.map Char.toLower, rest) else none
  | _, _ => none

/-- User information and the rest of an authority, cut at the last at sign. -/
def cutUserInfo (authority : List Char) : List Char × List Char :=
  let host := (authority.reverse.takeWhile (· ≠ '@')).reverse
  let userInfo := authority.take (authority.length - host.length)
  (userInfoText userInfo.dropLast, host)

/-- Cuts a host before the colon of its port; colons in brackets do not count. -/
def cutPort : (inBrackets : Bool) → List Char → List Char × List Char
  | _, [] => ([], [])
  | inBrackets, c :: rest =>
    if c = ':' ∧ ¬inBrackets then ([], c :: rest)
    else
      let inBrackets := if c = '[' then true else if c = ']' then false else inBrackets
      let (host, port) := cutPort inBrackets rest
      (c :: host, port)

/-- A URL with an authority; `cs` begins with it. The port also ends at a backslash, which then begins the path. An
    empty host may not follow user information, and no port may follow an empty host. -/
def readAuthority (scheme cs : List Char) : Except UrlError Url := do
  let special := isSpecial scheme
  let (authority, rest) := cut (fun c => isSlash special c || c = '?' || c = '#') cs
  let (userInfo, hostPort) := cutUserInfo authority
  let (hostText, portPart) := cutPort false hostPort
  let (portText, more) := cut (· = '\\') (portPart.drop 1)
  if authority = ['@'] ∧ rest ≠ [] then throw .emptyHost
  let host ← if special then readHost hostText else readOpaqueHost hostText
  if host = [] ∧ (portPart ≠ [] ∨ userInfo ≠ []) then throw .emptyHost
  let port ← readPort scheme portText
  let (path, tail) := cut (fun c => c = '?' || c = '#') (more ++ rest)
  let (query, fragment) := readTail special tail
  return ⟨scheme, userInfo, some host, port, readPath special path, query, fragment⟩

/-- The URL of a file; `cs` is what follows the scheme. A host stands behind two slashes, if no drive does. The local
    host is no host, a host before a drive does not count, and there are no users and ports. Without a host the slash
    behind its place is a segment of its own. -/
def readFile (scheme cs : List Char) : Except UrlError Url := do
  let (front, tail) := cut (fun c => c = '?' || c = '#') cs
  let (query, fragment) := readTail true tail
  let withPath := fun (host : List Char) (segments : List (List Char)) =>
    let host := if segments.head?.any isDrive then [] else host
    Url.mk scheme [] (some host) none (filePath segments) query fragment
  if (front.takeWhile (isSlash true)).length < 2 then return withPath [] (fileSegments (dropSlash true front))
  let (hostText, path) := cut (isSlash true) (front.drop 2)
  if isDrive hostText then return withPath [] (fileSegments (front.drop 2))
  let host ← if hostText = [] then pure [] else readHost hostText
  if host = [] ∨ host = "localhost".toList then return withPath [] (fileSegments path)
  return withPath host (fileSegments (dropSlash true path))

def readPlain (scheme cs : List Char) : Url :=
  let (path, tail) := cut (fun c => c = '?' || c = '#') cs
  let (query, fragment) := readTail false tail
  let path := match path with
    | '/' :: _ => readPath false path
    | _ => percentEncode [] path
  ⟨scheme, [], none, none, path, query, fragment⟩

/-- Blanks and controls at either end, and tabs and line breaks anywhere, do not count. -/
def clean (s : String) : List Char :=
  let isEdge := fun (c : Char) => c.toNat ≤ 0x20
  let trimmed := ((s.toList.dropWhile isEdge).reverse.dropWhile isEdge).reverse
  trimmed.filter fun c => !(c = '\t' || c = '\n' || c = '\r')

def parse (s : String) : Except UrlError Url :=
  match cutScheme? (clean s) with
  | none => .error .relative
  | some (scheme, rest) =>
    if (defaultPort? scheme).isSome then readAuthority scheme (rest.dropWhile (isSlash true))
    else if isFile scheme then readFile scheme rest
    else match rest with
      | '/' :: '/' :: rest => readAuthority scheme rest
      | rest => .ok (readPlain scheme rest)

/-- The text of a URL. Without an authority, a path that begins with two slashes has a dot before them. -/
def render (u : Url) : String :=
  let authority := match u.host with
    | none => []
    | some host =>
      let port := match u.port with
        | none => []
        | some n => ':' :: Nat.toDigits 10 n
      '/' :: '/' :: u.userInfo ++ host ++ port
  let query := match u.query with
    | none => []
    | some q => '?' :: q
  let fragment := match u.fragment with
    | none => []
    | some f => '#' :: f
  let path := match u.host, u.path with
    | none, '/' :: '/' :: _ => '/' :: '.' :: u.path
    | _, path => path
  String.ofList (u.scheme ++ ':' :: authority ++ path ++ query ++ fragment)

end Url

end ArrayTransfer
