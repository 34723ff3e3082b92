import ArrayTransfer.Bytes
import ArrayTransfer.Selection.Runs

/-!
Packed elements and memory. `gather` takes the selected elements out of a memory in their order, and `scatter`
puts packed elements to their places; both first check every length against the dataspace.
-/

namespace ArrayTransfer.Memory

/-- The memory has to hold all elements of the shape, and the packed elements are the selected ones. Their bytes are
    numbers and no words, so that lengths which are no words fit no buffer. -/
def checkLengths (packed memory : Nat) (space : Dataspace) (size : Nat) : Except LengthMismatch Unit :=
  match LengthMismatch.check memory (space.extent.toNat * size) with
  | .error e => .error e
  | .ok () => LengthMismatch.check packed (space.elementCount.toNat * size)

def runBytes (memory : Bytes) (size : Nat) (r : Run) : Bytes :=
  Bytes.slice memory (r.start.toNat * size) (r.length.toNat * size)

def scatterRuns (size : Nat) : List Run → (packed memory : Bytes) → Bytes
  | [], _, memory => memory
  | r :: rest, packed, memory =>
    let length := r.length.toNat * size
    scatterRuns size rest (packed.drop length) (Bytes.patch memory (r.start.toNat * size) (packed.take length))

/-- The memory with the packed elements at the selected places. -/
def scatter (packed memory : Bytes) (space : Dataspace) (size : Nat) : Except LengthMismatch Bytes :=
  match checkLengths packed.length memory.length space size with
  | .error e => .error e
  | .ok () => .ok (scatterRuns size space.runs packed memory)

/-- Selected elements, and whether they stand in memory as one window, so that no copy has to be made. -/
structure Gathered where
  bytes : Bytes
  isWindow : Bool

/-- The selected elements of the memory. -/
def gather (memory : Bytes) (space : Dataspace) (size : Nat) : Except LengthMismatch Gathered :=
  let count := space.elementCount.toNat * size
  match checkLengths count memory.length space size with
  | .error e => .error e
  | .ok () =>
    match space.region? with
    | some r => .ok ⟨Bytes.slice memory (r.start.toNat * size) count, true⟩
    | none => .ok ⟨space.runs.flatMap (runBytes memory size), false⟩

end ArrayTransfer.Memory
