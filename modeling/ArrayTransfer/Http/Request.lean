import ArrayTransfer.Bytes

/-!
Requests and responses, with headers in order. Header names are compared without regard to the case of
ASCII letters, and the first of several headers of one name counts.
-/

namespace ArrayTransfer

/-- The methods of requests. -/
inductive Method where
  | get
  | put
  | post
  deriving DecidableEq

def Method.name : Method → String
  | get => "GET"
  | put => "PUT"
  | post => "POST"

/-- A header: its name and its value. -/
abbrev Header := String × String

namespace Header

/-- Whether two names are the same but for the case of ASCII letters. -/
def sameName (a b : String) : Bool := a.toList.map Char.toLower = b.toList.map Char.toLower

def find? (name : String) : List Header → Option String
  | [] => none
  | (n, value) :: rest => if sameName n name then some value else find? name rest

end Header

/-- A request. -/
structure Request where
  method : Method
  url : String
  headers : List Header
  body : Bytes
  deriving DecidableEq

namespace Request

def make (method : Method) (url : String) : Request := ⟨method, url, [], []⟩

def withHeaders (r : Request) (headers : List Header) : Request := { r with headers := r.headers ++ headers }

def withHeader (r : Request) (name value : String) : Request := r.withHeaders [(name, value)]

def header? (r : Request) (name : String) : Option String := Header.find? name r.headers

end Request

/-- A response. -/
structure Response where
  status : UInt16
  body : Bytes
  deriving DecidableEq

end ArrayTransfer
