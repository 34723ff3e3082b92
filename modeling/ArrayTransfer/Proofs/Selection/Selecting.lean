import ArrayTransfer.Proofs.Selection.Indices

/-! Selecting, again and again. A call is accepted exactly if the selection fits the shape
    (`Dataspace.call_accepted_iff`), and a refused call changes nothing, as every rule is checked before the selection is
    set (`Dataspace.run_selectInPlace`). So whatever calls were made, the dataspace is one of its first shape, and its
    indices are as many as it says and elements of that shape (`Dataspace.within_after_calls`). Its bounds are checked by
    the stops of axes, its elements found by walking the runs, and their number is a product of its own. -/

namespace ArrayTransfer

namespace Selection

/-- The selection is of the rank of the shape, and each element that it selects is one of the shape. Everything and
    nothing are selected in any shape. -/
def Fits : Selection → List UInt64 → Prop
  | all, _ => True
  | none, _ => True
  | points p, shape => p.rank = shape.length ∧ ∀ q ∈ p.points, InShape shape (q.map UInt64.toNat)
  | hyperslab h, shape => h.rank = shape.length ∧ ∀ p ∈ h.coordinates, InShape shape p

/-- Memory holds the points of the selection, so that words count them. -/
def Held : Selection → Prop
  | all => True
  | none => True
  | points p => p.points.length < Dataspace.addressLimit
  | hyperslab _ => True

variable {s : Selection} {shape : List UInt64}

theorem inBounds_iff_fits : s.inBounds shape = true ↔ s.Fits shape := by
  cases s with
  | all => exact ⟨fun _ => trivial, fun _ => rfl⟩
  | none => exact ⟨fun _ => trivial, fun _ => rfl⟩
  | points p => exact Points.inBounds_iff
  | hyperslab h => exact Hyperslab.inBounds_iff

theorem Fits.rank (h : s.Fits shape) : ¬s.rank?.any (· ≠ shape.length) = true := by
  cases s with
  | all => simp [rank?]
  | none => simp [rank?]
  | points p => simp [rank?, h.1]
  | hyperslab slab => simp [rank?, h.1]

end Selection

namespace Dataspace
variable {d : Dataspace} {s : Selection} {shape : List UInt64}

/-! ### One call -/

theorem select?_of_fits (h : s.Fits d.shape) : ∃ w, d.select? s = .ok ⟨d.shape, s, w⟩ := by
  have within := Selection.inBounds_iff_fits.mpr h
  refine ⟨within, ?_⟩
  rw [select?, if_neg h.rank, dif_pos within]

theorem select?_of_not_fits (h : ¬s.Fits d.shape) : ∃ e, d.select? s = .error e := by
  have outside : ¬s.inBounds d.shape = true := fun hb => h (Selection.inBounds_iff_fits.mp hb)
  rw [select?, dif_neg outside]
  split
  · exact ⟨_, rfl⟩
  · exact ⟨_, rfl⟩

/-- Selecting in place: each rule is checked before the selection is set. What is set before an error stays. -/
def selectInPlace (s : Selection) : ExceptT SelectionError (StateM Dataspace) Unit := do
  let d ← get
  if s.rank?.any (· ≠ d.shape.length) then throw (.incompatibleRank (s.rank?.getD 0) d.shape.length)
  else if h : s.inBounds d.shape = true then set (⟨d.shape, s, h⟩ : Dataspace)
  else throw (.outOfBounds s.render d.shape)

theorem run_selectInPlace (d : Dataspace) (s : Selection) : (selectInPlace s).run.run d =
    match d.select? s with
    | .ok changed => (.ok (), changed)
    | .error e => (.error e, d) := by
  show (ite (s.rank?.any (· ≠ d.shape.length) = true) _ _ : ExceptT SelectionError (StateM Dataspace) Unit).run.run d = _
  unfold select?
  split
  · rfl
  · split
    · rfl
    · rfl

/-- The dataspace that a call which selects in place leaves behind, and the error if it was refused. -/
def call (d : Dataspace) (s : Selection) : Dataspace × Option SelectionError :=
  match (selectInPlace s).run.run d with
  | (.ok (), left) => (left, none)
  | (.error e, left) => (left, some e)

theorem call_of_fits (h : s.Fits d.shape) : ∃ w, d.call s = (⟨d.shape, s, w⟩, none) := by
  obtain ⟨w, hw⟩ := select?_of_fits h
  exact ⟨w, by rw [call, run_selectInPlace, hw]⟩

theorem call_of_not_fits (h : ¬s.Fits d.shape) : ∃ e, d.call s = (d, some e) := by
  obtain ⟨e, he⟩ := select?_of_not_fits h
  exact ⟨e, by rw [call, run_selectInPlace, he]⟩

/-- A call is accepted exactly if the selection fits. -/
theorem call_accepted_iff : (d.call s).2 = none ↔ s.Fits d.shape := by
  by_cases h : s.Fits d.shape
  · obtain ⟨w, hw⟩ := call_of_fits h
    simp [hw, h]
  · obtain ⟨e, he⟩ := call_of_not_fits h
    simp [he, h]

/-! ### Any calls -/

/-- What a dataspace keeps while others are selected in it. -/
structure Kept (shape : List UInt64) (d : Dataspace) : Prop where
  shape_eq : d.shape = shape
  held : d.selection.Held

theorem Kept.call (h : d.Kept shape) (hs : s.Held) : (d.call s).1.Kept shape := by
  by_cases hf : s.Fits d.shape
  · obtain ⟨w, hw⟩ := call_of_fits hf
    rw [hw]
    exact ⟨h.shape_eq, hs⟩
  · obtain ⟨e, he⟩ := call_of_not_fits hf
    rw [he]
    exact h

/-- The dataspace behind calls. -/
def after (d : Dataspace) : List Selection → Dataspace
  | [] => d
  | s :: calls => (d.call s).1.after calls

theorem Kept.after {calls : List Selection} (h : d.Kept shape) (hs : ∀ s ∈ calls, s.Held) :
    (d.after calls).Kept shape := by
  induction calls generalizing d with
  | nil => exact h
  | cons s calls ih =>
    rw [List.forall_mem_cons] at hs
    exact ih (h.call hs.1) hs.2

theorem Kept.exact (h : d.Kept shape) (hv : volume shape < UInt64.size) : d.Exact := by
  obtain ⟨rfl, held⟩ := h
  refine ⟨hv, ?_⟩
  cases hs : d.selection with
  | all => rwa [count_all hs]
  | none => simp [count, hs, UInt64.size]
  | points p =>
    rw [hs] at held
    rw [count_points hs]
    exact held
  | hyperslab slab =>
    rw [count_hyperslab hs]
    exact slab.product_lt

/-- Whatever was selected in a dataspace: it keeps its shape, a call is accepted exactly if the selection fits the shape
    and is then the selection, a refused call changes nothing, and the indices are as many as the dataspace says and
    below its extent. -/
theorem within_after_calls (hv : volume shape < UInt64.size) (calls : List Selection) (hc : ∀ s ∈ calls, s.Held) :
    let d := (ofShape shape).after calls
    d.shape = shape ∧ (∀ s, (d.call s).2 = none ↔ s.Fits shape) ∧
      (∀ s, s.Fits shape → (d.call s).1.shape = shape ∧ (d.call s).1.selection = s) ∧
      (∀ s, ¬s.Fits shape → (d.call s).1 = d) ∧
      d.indices.length = d.elementCount.toNat ∧ d.extent.toNat = volume shape ∧ ∀ i ∈ d.indices, i < d.extent := by
  intro d
  have kept : d.Kept shape := Kept.after ⟨rfl, trivial⟩ hc
  have exact := kept.exact hv
  have extent := toNat_extent exact.volume_lt
  have shape_eq := kept.shape_eq
  refine ⟨shape_eq, ?_, ?_, ?_, ?_, ?_, ?_⟩
  · rw [← shape_eq]
    exact fun s => call_accepted_iff
  · intro s hf
    rw [← shape_eq] at hf
    obtain ⟨w, hw⟩ := call_of_fits hf
    rw [hw]
    exact ⟨shape_eq, rfl⟩
  · intro s hf
    rw [← shape_eq] at hf
    obtain ⟨e, he⟩ := call_of_not_fits hf
    rw [he]
  · rw [length_indices exact.count_lt, toNat_elementCount exact.count_lt]
  · rw [extent, shape_eq]
  · intro i hi
    rw [UInt64.lt_iff_toNat_lt, extent]
    exact exact.lt_volume hi

/-- Two rows, and two pairs of columns in them. -/
def pairs : Hyperslab := ⟨[⟨0, 2, 2, 1⟩, ⟨0, 3, 2, 2⟩], by decide, by decide, by decide⟩

/-- A point behind the last of four rows. -/
def behind : Points := ⟨2, [[4, 0]], by decide, by decide⟩

/-- The pairs stay selected when a point outside is refused. -/
theorem within_after_calls_pairs : let d := (ofShape [4, 5]).after [.hyperslab pairs, .points behind]
    volume [4, 5] < UInt64.size ∧ (∀ s ∈ [Selection.hyperslab pairs, .points behind], s.Held) ∧
      d.elementCount = 8 ∧ d.indices.length = 8 ∧ (d.call (.points behind)).1 = d ∧ ∀ i ∈ d.indices, i < 20 := by
  have small : volume [4, 5] < UInt64.size := by decide
  have held : ∀ s ∈ [Selection.hyperslab pairs, .points behind], s.Held :=
    List.forall_mem_cons.mpr ⟨trivial, List.forall_mem_singleton.mpr (show 1 < addressLimit by decide)⟩
  obtain ⟨-, accepted, -, refused, length, -, below⟩ := within_after_calls small _ held
  have misfit : ¬(Selection.points behind).Fits [4, 5] := fun h => by
    have := (accepted _).mpr h
    revert this
    decide
  exact ⟨small, held, by decide, length.trans (by decide), refused _ misfit, below⟩

end Dataspace

end ArrayTransfer
