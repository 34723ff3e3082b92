import ArrayTransfer.Selection.Error

/-!
Hyperslabs: along each dimension, blocks of consecutive indices at a regular stride. A `Hyperslab` has at
least one axis, its blocks are not empty and do not overlap, and neither an end nor the number of
elements exceeds the 64 bit words; `Hyperslab.ofLists?` finds the first of these rules that four lists break. The
word arithmetic of the other functions relies on them.
-/

namespace ArrayTransfer

/-- The indices selected along one dimension: `count` blocks of `block` indices, the first at `start` and each further
    one `stride` behind the one before. -/
structure Axis where
  start : UInt64
  stride : UInt64
  count : UInt64
  block : UInt64
  deriving DecidableEq

namespace Axis

/-- Blocks are there and hold something, do not overlap, and end within the words. -/
def Valid (a : Axis) : Prop :=
  a.count ≠ 0 ∧ a.block ≠ 0 ∧ (1 < a.count → a.block ≤ a.stride) ∧
    a.start.toNat + a.stride.toNat * (a.count.toNat - 1) + a.block.toNat < UInt64.size

instance (a : Axis) : Decidable a.Valid := inferInstanceAs (Decidable (_ ∧ _))

def length (a : Axis) : UInt64 := a.count * a.block

def stop (a : Axis) : UInt64 := a.start + a.stride * (a.count - 1) + a.block

/-- The step of the range that selects the same indices, if one does; a single block is a range of step one. -/
def step (a : Axis) : UInt64 := if a.count = 1 then 1 else a.stride / a.block

/-- Whether a range selects the same indices: not if several blocks of several indices have gaps between them. -/
def isRange (a : Axis) : Bool := !(1 < a.block && 1 < a.count && a.stride != a.block)

/-- Whether the blocks make one run of indices. -/
def isSolid (a : Axis) : Bool := a.count == 1 || a.stride == a.block

def segmentCount (a : Axis) : Nat := if a.isSolid then 1 else a.count.toNat

def segmentLength (a : Axis) : UInt64 := if a.isSolid then a.length else a.block

/-- The first index of run `k`. -/
def segmentStart (a : Axis) (k : Nat) : UInt64 := a.start + UInt64.ofNat k * a.stride

/-- The selected index number `k`: a place in one of the runs. -/
def index (a : Axis) (k : Nat) : UInt64 :=
  a.segmentStart (k / a.segmentLength.toNat) + UInt64.ofNat (k % a.segmentLength.toNat)

end Axis

/-- The number of elements that axes select together, in exact arithmetic. -/
def Axis.product : List Axis → Nat
  | [] => 1
  | a :: rest => a.count.toNat * a.block.toNat * Axis.product rest

/-- The first rule that axes break, with its dimension; `before` is the number of elements of the dimensions before. -/
def Axis.fault? : (dimension before : Nat) → List Axis → Option SelectionError
  | _, _, [] => none
  | dimension, before, a :: rest =>
    if a.count = 0 ∨ a.block = 0 then some (.zeroExtent dimension)
    else if 1 < a.count ∧ a.stride < a.block then some (.overlappingBlocks dimension a.stride a.block)
    else if UInt64.size ≤ a.start.toNat + a.stride.toNat * (a.count.toNat - 1) + a.block.toNat then
      some (.overflow dimension)
    else if UInt64.size ≤ before * (a.count.toNat * a.block.toNat) then some (.overflow dimension)
    else fault? (dimension + 1) (before * (a.count.toNat * a.block.toNat)) rest

theorem Axis.valid_of_fault?_none {dimension before : Nat} {axes : List Axis}
    (h : fault? dimension before axes = none) :
    ∀ a ∈ axes, a.Valid := by
  induction axes generalizing dimension before with
  | nil => simp
  | cons a rest ih =>
    simp only [fault?] at h
    split at h; · simp at h
    split at h; · simp at h
    split at h; · simp at h
    split at h; · simp at h
    rename_i h1 h2 h3 h4
    intro b hb
    rcases List.mem_cons.1 hb with rfl | hb
    · refine ⟨fun e => h1 (.inl e), fun e => h1 (.inr e), fun hc => ?_, Nat.not_le.1 h3⟩
      exact UInt64.not_lt.1 fun hs => h2 ⟨hc, hs⟩
    · exact ih h b hb

theorem Axis.product_lt_of_fault?_none {dimension before : Nat} {axes : List Axis} (hb : before < UInt64.size)
    (h : fault? dimension before axes = none) : before * product axes < UInt64.size := by
  induction axes generalizing dimension before with
  | nil => simpa [product] using hb
  | cons a rest ih =>
    simp only [fault?] at h
    split at h; · simp at h
    split at h; · simp at h
    split at h; · simp at h
    split at h; · simp at h
    rename_i h4
    have := ih (Nat.not_le.1 h4) h
    rwa [product, ← Nat.mul_assoc]

/-- A regular selection of blocks. -/
structure Hyperslab where
  axes : List Axis
  nonempty : axes ≠ []
  valid : ∀ a ∈ axes, a.Valid
  product_lt : Axis.product axes < UInt64.size

namespace Hyperslab

/-- The axes whose starts, strides, counts and blocks the lists hold. -/
def zipAxes : (start stride count block : List UInt64) → List Axis
  | s :: start, t :: stride, c :: count, b :: block => ⟨s, t, c, b⟩ :: zipAxes start stride count block
  | _, _, _, _ => []

/-- The hyperslab of the axes, or the first rule that they break. -/
def ofAxes? (axes : List Axis) : Except SelectionError Hyperslab :=
  if hne : axes = [] then .error .zeroDimensional
  else match h : Axis.fault? 0 1 axes with
    | some e => .error e
    | none => .ok {
        axes := axes
        nonempty := hne
        valid := Axis.valid_of_fault?_none h
        product_lt := by simpa using Axis.product_lt_of_fault?_none (by decide) h }

/-- The hyperslab of starts, strides, counts and blocks, or the first rule that they break: there is a dimension, the
    lists are of one length, and what `ofAxes?` asks. -/
def ofLists? (start stride count block : List UInt64) : Except SelectionError Hyperslab :=
  let rank := start.length
  if rank = 0 then .error .zeroDimensional
  else match [stride, count, block].find? (·.length ≠ rank) with
    | some list => .error (.incompatibleRank list.length rank)
    | none => ofAxes? (zipAxes start stride count block)

def ofShape? (start shape : List UInt64) : Except SelectionError Hyperslab :=
  let ones := start.map fun _ => 1
  ofLists? start ones shape ones

/-- The hyperslab of one range of indices per dimension; a range that ends before it starts is empty. -/
def ofRanges? (ranges : List (UInt64 × UInt64)) : Except SelectionError Hyperslab :=
  ofShape? (ranges.map (·.1)) (ranges.map fun (a, b) => if a ≤ b then b - a else 0)

def rank (h : Hyperslab) : Nat := h.axes.length

def shape (h : Hyperslab) : List UInt64 := h.axes.map Axis.length

def elementCount (h : Hyperslab) : UInt64 := (h.axes.map Axis.length).foldl (· * ·) 1

def stop (h : Hyperslab) : List UInt64 := h.axes.map Axis.stop

def step (h : Hyperslab) : List UInt64 := h.axes.map Axis.step

/-- The first dimension in which no range selects the same indices. -/
def firstNonRange? (h : Hyperslab) : Option Nat := h.axes.findIdx? (!·.isRange)

/-- Whether the hyperslab has the rank of the shape and ends within it. -/
def inBounds (h : Hyperslab) (shape : List UInt64) : Bool :=
  h.rank == shape.length && (h.stop.zip shape).all fun (stop, extent) => stop ≤ extent

def render (h : Hyperslab) : String :=
  "start " ++ Text.numbers (h.axes.map (·.start)) ++ " stride " ++ Text.numbers (h.axes.map (·.stride)) ++
    " count " ++ Text.numbers (h.axes.map (·.count)) ++ " block " ++ Text.numbers (h.axes.map (·.block))

end Hyperslab

end ArrayTransfer
