import ArrayTransfer.Selection.Basic

/-!
The selected elements as runs of consecutive linear indices, in row-major order for hyperslabs and in list
order for points. A `RunSource` gives the runs of one selection by number, so that the first few of very
many can be looked at; `RunSource.take` joins neighbours, and `Dataspace.runs` are all joined runs.
-/

namespace ArrayTransfer

/-- Consecutive linear indices. -/
structure Run where
  start : UInt64
  length : UInt64
  deriving DecidableEq

namespace Run

def stop (r : Run) : UInt64 := r.start + r.length

/-- The indices of the run, which go on from zero if the words end. They do not for a dataspace that is `Exact`. -/
def indices (r : Run) : List UInt64 := (List.range r.length.toNat).map fun k => r.start + UInt64.ofNat k

end Run

/-- A number of runs, given by number. -/
structure RunSource where
  count : Nat
  run : Nat → Run

namespace RunSource

def empty : RunSource := ⟨0, fun _ => ⟨0, 0⟩⟩

def single (r : Run) : RunSource := ⟨1, fun _ => r⟩

def toList (s : RunSource) : List Run := (List.range s.count).map s.run

/-- The element counts that one step in each dimension passes over, and the extent of all dimensions. -/
def strides : (shape : List UInt64) → List UInt64 × UInt64
  | [] => ([], 1)
  | extent :: shape =>
    let (inner, product) := strides shape
    (product :: inner, extent * product)

/-- The runs of axes with their strides: the runs along the last axis, whose stride is one, once for each index of the
    axes before it. They are those that an odometer over the axes comes to one by one (`Dataspace.odometer_yields`). -/
def ofAxes : List Axis → List UInt64 → RunSource
  | [], _ => single ⟨0, 1⟩
  | [a], _ => ⟨a.segmentCount, fun k => ⟨a.segmentStart k, a.segmentLength⟩⟩
  | a :: rest, stride =>
    let inner := ofAxes rest (stride.drop 1)
    ⟨a.length.toNat * inner.count, fun k =>
      let r := inner.run (k % inner.count)
      ⟨a.index (k / inner.count) * stride.headD 1 + r.start, r.length⟩⟩

def linearIndex (point strides : List UInt64) : UInt64 := (point.zip strides).foldl (fun n (i, s) => n + i * s) 0

def ofIndices (indices : Array UInt64) : RunSource := ⟨indices.size, fun k => ⟨indices.getD k 0, 1⟩⟩

/-- The run `r` with the runs from number `k` on that continue it, up to `fuel` of them, and the number of the first
    that does not. -/
def join (s : RunSource) : (fuel k : Nat) → Run → Run × Nat
  | 0, k, r => (r, k)
  | fuel + 1, k, r =>
    if (s.run k).start = r.stop then join s fuel (k + 1) ⟨r.start, r.length + (s.run k).length⟩ else (r, k)

/-- The first `n` joined runs from number `k` on. -/
def take (s : RunSource) : (n k : Nat) → List Run
  | 0, _ => []
  | n + 1, k =>
    if k < s.count then
      let (r, next) := s.join (s.count - (k + 1)) (k + 1) (s.run k)
      r :: take s n next
    else []

end RunSource

namespace Dataspace

/-- The runs of the selection, not yet joined. -/
def runSource (d : Dataspace) : RunSource :=
  match d.selection with
  | .all => if d.extent = 0 then .empty else .single ⟨0, d.extent⟩
  | .none => .empty
  | .points p =>
    let strides := (RunSource.strides d.shape).1
    .ofIndices (p.points.map (RunSource.linearIndex · strides)).toArray
  | .hyperslab h => .ofAxes h.axes (RunSource.strides d.shape).1

/-- The first `n` runs of the selection. -/
def firstRuns (d : Dataspace) (n : Nat) : List Run := d.runSource.take n 0

/-- The runs of the selection; no run starts where the one before it stops. -/
def runs (d : Dataspace) : List Run :=
  let source := d.runSource
  source.take source.count 0

/-- The one run that is the whole selection, if it is one; an empty selection is an empty run. -/
def region? (d : Dataspace) : Option Run :=
  match d.firstRuns 2 with
  | [] => some ⟨0, 0⟩
  | [r] => some r
  | _ => none

/-- The linear indices of the selected elements in order. -/
def indices (d : Dataspace) : List UInt64 := d.runs.flatMap Run.indices

end Dataspace

end ArrayTransfer
