import ArrayTransfer.DataType.Basic
import ArrayTransfer.Selection.Basic

/-!
Choosing how elements travel: as raw bytes, or as JSON. Raw bytes need a fixed size, no references, and a
selection that fits into the query of a request.
-/

namespace ArrayTransfer

/-- How elements travel. -/
inductive TransferMode where
  | binary
  | json
  deriving DecidableEq

namespace TransferMode

def name : TransferMode → String
  | binary => "binary"
  | json => "JSON"

def contentType : TransferMode → String
  | binary => "application/octet-stream"
  | json => "application/json"

/-- The mode for elements of a class; selected points travel as JSON, and their values with them. -/
def choose (cls : DataClass) (isVariable : Bool) (kind : SelectionKind) : TransferMode :=
  if isVariable ∨ cls = .reference ∨ cls = .variableLength ∨ kind = .points then json else binary

/-- The mode for elements of a type; a reference anywhere in it asks for JSON. -/
def chooseFor (t : DataType) (kind : SelectionKind) : TransferMode :=
  if t.holdsReference then json else choose t.dataClass t.isVariable kind

end TransferMode

end ArrayTransfer
