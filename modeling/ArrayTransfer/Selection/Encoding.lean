import ArrayTransfer.Json.Printer
import ArrayTransfer.Selection.Basic

/-!
Selections as requests carry them. A hyperslab is one range `start:stop:step` per dimension, in a query
parameter or as three arrays in a JSON body; points go into a JSON body only; a selection of everything or
nothing is not written. A hyperslab that no ranges select is refused in both forms.
-/

namespace ArrayTransfer.Selection

/-- The first dimension of the hyperslab that is no range is an error. -/
def checkRanges (h : Hyperslab) : Except SelectionError Unit :=
  match h.firstNonRange? with
  | .some dimension => .error (.unrepresentable h.render dimension)
  | .none => .ok ()

def rangeText (a : Axis) : String := toString a.start ++ ":" ++ toString a.stop ++ ":" ++ toString a.step

/-- The value of the query parameter that carries the selection; empty if none has to. -/
def queryText (s : Selection) : Except SelectionError String :=
  match s with
  | .all => .ok ""
  | .none => .ok ""
  | .points _ => .error .pointsInQuery
  | .hyperslab h => (checkRanges h).map fun _ => "[" ++ ",".intercalate (h.axes.map rangeText) ++ "]"

def numbersJson (ns : List UInt64) : Json := .array (ns.map .ofUInt64)

/-- A point in a body: its coordinates, or in one dimension its index alone. -/
def pointJson : List UInt64 → Json
  | [i] => .ofUInt64 i
  | point => numbersJson point

def bodyFields (s : Selection) : Except SelectionError (List (String × Json)) :=
  match s with
  | .all => .ok []
  | .none => .ok []
  | .points p => .ok [("points", .array (p.points.map pointJson))]
  | .hyperslab h =>
    (checkRanges h).map fun _ =>
      [("start", numbersJson (h.axes.map (·.start))), ("stop", numbersJson h.stop), ("step", numbersJson h.step)]

def encode (s : Selection) (inQuery : Bool) : Except SelectionError String :=
  if inQuery then s.queryText
  else s.bodyFields.map fun fields => if fields.isEmpty then "" else (Json.object fields).render

end ArrayTransfer.Selection
