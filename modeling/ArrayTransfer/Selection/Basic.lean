import ArrayTransfer.Selection.Hyperslab

/-!
Selections of elements of an array, and dataspaces: a shape with a selection that lies within it.
`Dataspace.select?` is the only way to change the selection, so a dataspace never selects an element that
its shape does not have.
-/

namespace ArrayTransfer

/-- A list of elements by their coordinates, of one rank. Repeats are allowed and the order counts. -/
structure Points where
  rank : Nat
  points : List (List UInt64)
  rank_pos : 0 < rank
  length_eq : ∀ p ∈ points, p.length = rank

namespace Points

/-- The points, or the first rule that they break: the rank is not zero, and each point has as many coordinates. -/
def ofLists? (rank : Nat) (points : List (List UInt64)) : Except SelectionError Points :=
  if hr : rank = 0 then .error .zeroDimensional
  else match h : points.find? (·.length ≠ rank) with
    | some p => .error (.incompatibleRank p.length rank)
    | none => .ok {
        rank := rank
        points := points
        rank_pos := Nat.pos_of_ne_zero hr
        length_eq := by simpa using h }

def elementCount (p : Points) : UInt64 := UInt64.ofNat p.points.length

/-- Whether each point lies within the shape, which has to be of their rank. -/
def inBounds (p : Points) (shape : List UInt64) : Bool :=
  p.rank == shape.length && p.points.all fun point => (point.zip shape).all fun (i, extent) => i < extent

def render (p : Points) : String := Text.bracketed (p.points.map Text.numbers)

end Points

/-- A selection of elements. -/
inductive Selection where
  | all
  | none
  | points (points : Points)
  | hyperslab (hyperslab : Hyperslab)

/-- The kinds of selections. -/
inductive SelectionKind where
  | all
  | none
  | points
  | hyperslab
  deriving DecidableEq

def SelectionKind.name : SelectionKind → String
  | all => "all"
  | none => "none"
  | points => "points"
  | hyperslab => "hyperslab"

namespace Selection

def kind : Selection → SelectionKind
  | all => .all
  | none => .none
  | points _ => .points
  | hyperslab _ => .hyperslab

def rank? : Selection → Option Nat
  | all => .none
  | none => .none
  | points p => some p.rank
  | hyperslab h => some h.rank

def inBounds : Selection → List UInt64 → Bool
  | all, _ => true
  | none, _ => true
  | points p, shape => p.inBounds shape
  | hyperslab h, shape => h.inBounds shape

def render : Selection → String
  | all => "all"
  | none => "none"
  | points p => "points " ++ p.render
  | hyperslab h => "hyperslab " ++ h.render

end Selection

/-- The shape of an array with a selection of its elements. -/
structure Dataspace where
  shape : List UInt64
  selection : Selection
  within : selection.inBounds shape = true

namespace Dataspace

/-- The dataspace in which every element of the shape is selected. -/
def ofShape (shape : List UInt64) : Dataspace := ⟨shape, .all, rfl⟩

/-- The dataspace with another selection, which has to be of its rank and within its shape. -/
def select? (d : Dataspace) (s : Selection) : Except SelectionError Dataspace :=
  if s.rank?.any (· ≠ d.shape.length) then .error (.incompatibleRank (s.rank?.getD 0) d.shape.length)
  else if h : s.inBounds d.shape = true then .ok ⟨d.shape, s, h⟩
  else .error (.outOfBounds s.render d.shape)

def ofSelection? (shape : List UInt64) (s : Selection) : Except SelectionError Dataspace := (ofShape shape).select? s

def rank (d : Dataspace) : Nat := d.shape.length

def extentOf (shape : List UInt64) : UInt64 := shape.foldl (· * ·) 1

def extent (d : Dataspace) : UInt64 := extentOf d.shape

def elementCount (d : Dataspace) : UInt64 :=
  match d.selection with
  | .all => d.extent
  | .none => 0
  | .points p => p.elementCount
  | .hyperslab h => h.elementCount

/-- Memory holds fewer elements than this. -/
def addressLimit : Nat := UInt64.size

def addressableCount (d : Dataspace) : Except SelectionError Nat :=
  if d.elementCount.toNat < addressLimit then .ok d.elementCount.toNat else .error (.tooLarge d.elementCount)

def render (d : Dataspace) : String := d.selection.render ++ " of shape " ++ Text.numbers d.shape

def matchCounts (source destination : Dataspace) : Except SelectionError UInt64 :=
  if source.elementCount = destination.elementCount then .ok source.elementCount
  else .error (.countMismatch source.elementCount destination.elementCount)

end Dataspace

end ArrayTransfer
