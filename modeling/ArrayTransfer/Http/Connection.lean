import ArrayTransfer.Http.Error
import ArrayTransfer.Http.Request
import ArrayTransfer.Http.Url

/-!
The store that requests go to: its base URL, and the headers that every request carries. Setting a header
replaces any of its name, and it goes last.
-/

namespace ArrayTransfer

/-- A store and the headers of every request to it. -/
structure Connection where
  baseUrl : Url
  headers : List Header

namespace Connection

def urlLimit : Nat := 2048

def make (baseUrl : String) : Except TransportError Connection :=
  match Url.parse baseUrl with
  | .ok url => .ok ⟨url, []⟩
  | .error e => .error (.invalidUrl (baseUrl ++ ": " ++ e.message))

def withHeader (c : Connection) (name value : String) : Connection :=
  { c with headers := c.headers.filter (fun h => !Header.sameName h.1 name) ++ [(name, value)] }

def withDomain (c : Connection) (domain : String) : Connection := c.withHeader "Host" domain

/-- The base URL without the slashes at its end. -/
def base (c : Connection) : String := String.ofList (c.baseUrl.render.toList.reverse.dropWhile (· = '/')).reverse

/-- The URL of the values of an array, with the query that selects some of them. -/
def valueUrl (c : Connection) (id : String) (select : Option String) : Except TransportError String :=
  let path := c.base ++ "/datasets/" ++ id ++ "/value"
  let url := match select with
    | some query => if query.isEmpty then path else path ++ "?select=" ++ query
    | none => path
  let length := (Utf8.encode url).length
  if urlLimit < length then .error (.urlTooLong length urlLimit) else .ok url

end Connection

end ArrayTransfer
