import ArrayTransfer.Text.Quoted

/-!
What can be wrong with a selection.
-/

namespace ArrayTransfer

/-- Why a selection cannot be made, placed in a shape, encoded, or matched with another. -/
inductive SelectionError where
  | zeroDimensional
  | incompatibleRank (rank expected : Nat)
  | zeroExtent (dimension : Nat)
  | overlappingBlocks (dimension : Nat) (stride block : UInt64)
  | overflow (dimension : Nat)
  | unrepresentable (hyperslab : String) (dimension : Nat)
  | outOfBounds (selection : String) (shape : List UInt64)
  | pointsInQuery
  | countMismatch (source destination : UInt64)
  | tooLarge (count : UInt64)
  deriving DecidableEq

def SelectionError.message : SelectionError → String
  | zeroDimensional => "selections must have at least one dimension"
  | incompatibleRank rank expected => s!"incompatible dimensionality {rank}, expected {expected}"
  | zeroExtent dimension => s!"hyperslab has a zero extent in dimension {dimension}"
  | overlappingBlocks dimension stride block =>
    s!"hyperslab stride {stride} is less than its block {block} in dimension {dimension}"
  | overflow dimension => s!"hyperslab extent overflows in dimension {dimension}"
  | unrepresentable hyperslab dimension =>
    s!"hyperslab {hyperslab} cannot be expressed as start:stop:step in dimension {dimension}"
  | outOfBounds selection shape => "selection " ++ selection ++ " is out of bounds of shape " ++ Text.numbers shape
  | pointsInQuery => "point selections cannot be encoded as a query parameter"
  | countMismatch source destination => s!"source selects {source} elements, destination selects {destination} elements"
  | tooLarge count => s!"selection of {count} elements is too large"

end ArrayTransfer
