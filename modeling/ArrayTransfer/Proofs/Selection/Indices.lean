import ArrayTransfer.Proofs.Selection.Traversal

/-! The linear indices of a dataspace. For each kind of selection they are the offsets of its coordinates in order.
    If the numbers of elements are words (`Dataspace.Exact`), each index is an element of the shape
    (`Dataspace.Exact.lt_volume`) and there are as many of them as `Dataspace.elementCount` says. -/

namespace ArrayTransfer

/-! ### Points of a shape -/

/-- A point with one coordinate in each dimension of the shape, below its extent. -/
def InShape : List UInt64 → List Nat → Prop
  | [], [] => True
  | extent :: shape, k :: point => k < extent.toNat ∧ InShape shape point
  | _, _ => False

theorem offset_lt_volume {shape : List UInt64} {point : List Nat} (h : InShape shape point) :
    offset shape point < volume shape := by
  induction shape generalizing point with
  | nil => cases point with
    | nil => simp [offset, volume]
    | cons k point => exact h.elim
  | cons extent shape ih =>
    cases point with
    | nil => exact h.elim
    | cons k point =>
      obtain ⟨hk, hp⟩ := h
      calc offset (extent :: shape) (k :: point)
        _ = k * volume shape + offset shape point := rfl
        _ < k * volume shape + volume shape := Nat.add_lt_add_left (ih hp) _
        _ = (k + 1) * volume shape := (Nat.succ_mul ..).symm
        _ ≤ extent.toNat * volume shape := Nat.mul_le_mul_right _ hk

theorem inShape_of_mem_grid {shape : List UInt64} {axes : List Axis} (hr : axes.length = shape.length)
    (hv : ∀ a ∈ axes, a.Valid) (hb : ((axes.map Axis.stop).zip shape).all (fun (stop, extent) => stop ≤ extent) = true)
    {point : List Nat} (hp : point ∈ grid (axes.map Axis.indices)) : InShape shape point := by
  induction axes generalizing shape point with
  | nil =>
    obtain rfl : shape = [] := List.eq_nil_of_length_eq_zero hr.symm
    obtain rfl : point = [] := by simpa [grid] using hp
    trivial
  | cons a axes ih =>
    obtain _ | ⟨extent, shape⟩ := shape
    · cases hr
    simp only [List.map_cons, grid, List.mem_flatMap, List.mem_map] at hp
    obtain ⟨k, hk, q, hq, rfl⟩ := hp
    simp only [List.map_cons, List.zip_cons_cons, List.all_cons, Bool.and_eq_true, decide_eq_true_eq] at hb
    have hlt := (hv a List.mem_cons_self).lt_of_mem_indices hk
    exact ⟨Nat.lt_of_lt_of_le hlt (UInt64.le_iff_toNat_le.mp hb.1),
      ih (by simpa using hr) (fun b hm => hv b (List.mem_cons_of_mem _ hm)) hb.2 hq⟩

theorem last_mem_grid {axes : List Axis} (hv : ∀ a ∈ axes, a.Valid) :
    (axes.map fun a => a.stop.toNat - 1) ∈ grid (axes.map Axis.indices) := by
  induction axes with
  | nil => exact List.mem_singleton_self _
  | cons a axes ih =>
    simp only [List.map_cons, grid, List.mem_flatMap, List.mem_map]
    exact ⟨_, (hv a List.mem_cons_self).last_mem_indices, _, ih fun b hb => hv b (List.mem_cons_of_mem _ hb), rfl⟩

theorem stops_le_of_inShape {shape : List UInt64} {axes : List Axis} (hv : ∀ a ∈ axes, a.Valid)
    (h : InShape shape (axes.map fun a => a.stop.toNat - 1)) :
    ((axes.map Axis.stop).zip shape).all (fun (stop, extent) => stop ≤ extent) = true := by
  induction axes generalizing shape with
  | nil => rfl
  | cons a axes ih =>
    obtain _ | ⟨extent, shape⟩ := shape
    · exact h.elim
    obtain ⟨hlast, hrest⟩ := h
    have hstop : a.stop ≤ extent := UInt64.le_iff_toNat_le.mpr (Nat.le_of_pred_lt hlast)
    simp only [List.map_cons, List.zip_cons_cons, List.all_cons, Bool.and_eq_true, decide_eq_true_eq]
    exact ⟨hstop, ih (fun b hb => hv b (List.mem_cons_of_mem _ hb)) hrest⟩

theorem inShape_map_iff {shape point : List UInt64} (hr : point.length = shape.length) :
    InShape shape (point.map UInt64.toNat) ↔ (point.zip shape).all (fun (i, extent) => i < extent) = true := by
  induction shape generalizing point with
  | nil =>
    obtain rfl : point = [] := List.eq_nil_of_length_eq_zero hr
    exact ⟨fun _ => rfl, fun _ => trivial⟩
  | cons extent shape ih =>
    obtain _ | ⟨k, point⟩ := point
    · cases hr
    simp only [List.map_cons, InShape, List.zip_cons_cons, List.all_cons, Bool.and_eq_true, decide_eq_true_eq]
    rw [ih (by simpa using hr), UInt64.lt_iff_toNat_lt]

/-- The coordinates of the selected elements, row by row. -/
def Hyperslab.coordinates (h : Hyperslab) : List (List Nat) := grid (h.axes.map Axis.indices)

/-- A hyperslab ends within a shape exactly if each element that it selects is one of the shape. -/
theorem Hyperslab.inBounds_iff {h : Hyperslab} {shape : List UInt64} :
    h.inBounds shape = true ↔ h.rank = shape.length ∧ ∀ p ∈ h.coordinates, InShape shape p := by
  rw [inBounds, Bool.and_eq_true, beq_iff_eq]
  refine and_congr_right fun hr => ⟨fun hb p hp => inShape_of_mem_grid hr h.valid hb hp, fun hp => ?_⟩
  exact stops_le_of_inShape h.valid (hp _ (last_mem_grid h.valid))

theorem Points.inBounds_iff {p : Points} {shape : List UInt64} :
    p.inBounds shape = true ↔ p.rank = shape.length ∧ ∀ q ∈ p.points, InShape shape (q.map UInt64.toNat) := by
  rw [inBounds, Bool.and_eq_true, beq_iff_eq, List.all_eq_true]
  refine and_congr_right fun hr => forall_congr' fun q => forall_congr' fun hq => ?_
  exact (inShape_map_iff ((p.length_eq q hq).trans hr)).symm

/-! ### Indices of dataspaces -/

namespace Dataspace
variable {d : Dataspace}

/-- The exact number of selected elements. -/
def count (d : Dataspace) : Nat :=
  match d.selection with
  | .all => volume d.shape
  | .none => 0
  | .points p => p.points.length
  | .hyperslab h => Axis.product h.axes

/-- The numbers of elements of the shape and of the selection are words. -/
structure Exact (d : Dataspace) : Prop where
  volume_lt : volume d.shape < UInt64.size
  count_lt : d.count < UInt64.size

/-! The runs before they are joined -/

theorem product_eq_foldr (axes : List Axis) :
    Axis.product axes = (axes.map Axis.indices).foldr (fun l n => l.length * n) 1 := by
  induction axes with
  | nil => rfl
  | cons a axes ih => rw [Axis.product, List.map_cons, List.foldr_cons, Axis.length_indices, ih]

theorem volume_lengths {axes : List Axis} (hv : ∀ a ∈ axes, a.Valid) :
    volume (axes.map Axis.length) = Axis.product axes := by
  induction axes with
  | nil => rfl
  | cons a axes ih =>
    obtain ⟨ha, hv⟩ := List.forall_mem_cons.mp hv
    rw [List.map_cons, volume, ha.toNat_length, ih hv, Axis.product]

theorem inBounds_hyperslab {h : Hyperslab} (hs : d.selection = .hyperslab h) : h.inBounds d.shape = true := by
  have hw := d.within
  rwa [hs] at hw

theorem axes_length {h : Hyperslab} (hs : d.selection = .hyperslab h) : h.axes.length = d.shape.length :=
  (Hyperslab.inBounds_iff.mp (inBounds_hyperslab hs)).1

theorem inShape_of_mem_coordinates {h : Hyperslab} (hs : d.selection = .hyperslab h) {p : List Nat}
    (hp : p ∈ h.coordinates) : InShape d.shape p :=
  (Hyperslab.inBounds_iff.mp (inBounds_hyperslab hs)).2 p hp

theorem inShape_of_mem_points {p : Points} (hs : d.selection = .points p) {q : List UInt64} (hq : q ∈ p.points) :
    InShape d.shape (q.map UInt64.toNat) := by
  have hw := d.within
  rw [hs] at hw
  exact (Points.inBounds_iff.mp hw).2 q hq

theorem runSource_indices_hyperslab {h : Hyperslab} (hs : d.selection = .hyperslab h) :
    d.runSource.indices = (grid (h.axes.map Axis.indices)).map fun p => UInt64.ofNat (offset d.shape p) := by
  rw [runSource, hs]
  exact RunSource.indices_ofAxes (axes_length hs) h.valid

theorem runSource_indices_points {p : Points} (hs : d.selection = .points p) :
    d.runSource.indices = p.points.map fun q => UInt64.ofNat (offset d.shape (q.map UInt64.toNat)) := by
  simp only [runSource, hs, RunSource.indices, RunSource.ofIndices, Run.indices]
  apply List.ext_getElem
  · simp [List.length_flatMap, List.map_const']
  · intro k h1 h2
    have hk : k < p.points.length := by simpa using h2
    simp [← List.map_eq_flatMap, ← RunSource.linearIndex_eq, hk]

theorem runSource_indices_all (hs : d.selection = .all) :
    d.runSource.indices = (List.range d.extent.toNat).map UInt64.ofNat := by
  simp only [runSource, hs]
  split
  · rename_i h0
    simp [RunSource.indices, RunSource.empty, h0]
  · simp [RunSource.indices, RunSource.single, Run.indices]

theorem runSource_indices_none (hs : d.selection = .none) : d.runSource.indices = [] := by
  simp [runSource, hs, RunSource.indices, RunSource.empty]

theorem toNat_extent (h : volume d.shape < UInt64.size) : d.extent.toNat = volume d.shape := by
  rw [extent, extentOf_eq, UInt64.toNat_ofNat', Nat.mod_eq_of_lt h]

theorem count_all (hs : d.selection = .all) : d.count = volume d.shape := by simp [count, hs]

theorem count_points {p : Points} (hs : d.selection = .points p) : d.count = p.points.length := by simp [count, hs]

theorem count_hyperslab {h : Hyperslab} (hs : d.selection = .hyperslab h) : d.count = Axis.product h.axes := by
  simp [count, hs]

theorem length_runSource_indices (hc : d.count < UInt64.size) : d.runSource.indices.length = d.count := by
  cases hs : d.selection with
  | all =>
    rw [count_all hs] at hc ⊢
    rw [runSource_indices_all hs, List.length_map, List.length_range, toNat_extent hc]
  | none => simp [runSource_indices_none hs, count, hs]
  | points p => rw [runSource_indices_points hs, List.length_map, count_points hs]
  | hyperslab h =>
    rw [runSource_indices_hyperslab hs, List.length_map, length_grid, ← product_eq_foldr, count_hyperslab hs]

/-! The joined runs -/

theorem indices_eq_runSource (hc : d.count < UInt64.size) : d.indices = d.runSource.indices := by
  have hl := length_runSource_indices hc
  rw [indices, runs, RunSource.flatMap_take (by omega) (by rw [RunSource.indicesFrom_zero, hl]; exact hc),
    RunSource.indicesFrom_zero]

theorem length_indices (hc : d.count < UInt64.size) : d.indices.length = d.count := by
  rw [indices_eq_runSource hc, length_runSource_indices hc]

theorem toNat_elementCount (hc : d.count < UInt64.size) : d.elementCount.toNat = d.count := by
  cases hs : d.selection with
  | all =>
    rw [count_all hs] at hc ⊢
    simp only [elementCount, hs]
    exact toNat_extent hc
  | none => simp [elementCount, count, hs]
  | points p =>
    rw [count_points hs] at hc ⊢
    simp only [elementCount, hs, Points.elementCount, UInt64.toNat_ofNat']
    exact Nat.mod_eq_of_lt hc
  | hyperslab h =>
    rw [count_hyperslab hs] at hc ⊢
    simp only [elementCount, hs]
    show (extentOf (h.axes.map Axis.length)).toNat = _
    rw [extentOf_eq, volume_lengths h.valid, UInt64.toNat_ofNat', Nat.mod_eq_of_lt hc]

/-- The indices of a hyperslab are the offsets of its coordinates, row by row. -/
theorem indices_hyperslab {h : Hyperslab} (hs : d.selection = .hyperslab h) :
    d.indices = (grid (h.axes.map Axis.indices)).map fun p => UInt64.ofNat (offset d.shape p) := by
  rw [indices_eq_runSource (count_hyperslab hs ▸ h.product_lt), runSource_indices_hyperslab hs]

theorem indices_points {p : Points} (hs : d.selection = .points p) (hc : d.count < UInt64.size) :
    d.indices = p.points.map fun q => UInt64.ofNat (offset d.shape (q.map UInt64.toNat)) := by
  rw [indices_eq_runSource hc, runSource_indices_points hs]

theorem indices_all (hs : d.selection = .all) (hc : d.count < UInt64.size) :
    d.indices = (List.range (volume d.shape)).map UInt64.ofNat := by
  rw [indices_eq_runSource hc, runSource_indices_all hs, toNat_extent (count_all hs ▸ hc)]

theorem indices_none (hs : d.selection = .none) : d.indices = [] := by
  rw [indices_eq_runSource (by simp [count, hs]), runSource_indices_none hs]

/-- The first runs are the first of all runs. -/
theorem firstRuns_eq (d : Dataspace) (n : Nat) : d.firstRuns n = d.runs.take n := by
  have enough : d.runSource.take (d.runSource.count + n) 0 = d.runs := RunSource.take_of_le n (by omega)
  rw [← enough, RunSource.take_take, Nat.min_eq_left (Nat.le_add_left ..)]
  rfl

theorem region?_eq (d : Dataspace) : d.region? = match d.runs with
    | [] => some ⟨0, 0⟩
    | [r] => some r
    | _ => none := by
  rw [region?, firstRuns_eq]
  match d.runs with
  | [] => rfl
  | [_] => rfl
  | _ :: _ :: _ => rfl

theorem indices_of_region {r : Run} (hr : d.region? = some r) : d.indices = r.indices := by
  rw [region?_eq] at hr
  split at hr
  · rename_i empty
    cases hr
    rw [indices, empty]
    rfl
  · rename_i one
    cases hr
    rw [indices, one, List.flatMap_singleton]
  · cases hr

/-- In exact arithmetic each index is an element of the shape. -/
theorem Exact.lt_volume (h : d.Exact) {i : UInt64} (hi : i ∈ d.indices) : i.toNat < volume d.shape := by
  have small : ∀ n, n < volume d.shape → (UInt64.ofNat n).toNat < volume d.shape := fun n hn => by
    rw [UInt64.toNat_ofNat', Nat.mod_eq_of_lt (Nat.lt_trans hn h.volume_lt)]
    exact hn
  cases hs : d.selection with
  | all =>
    rw [indices_all hs h.count_lt, List.mem_map] at hi
    obtain ⟨n, hn, rfl⟩ := hi
    exact small n (List.mem_range.mp hn)
  | none =>
    rw [indices_none hs] at hi
    cases hi
  | points p =>
    rw [indices_points hs h.count_lt, List.mem_map] at hi
    obtain ⟨q, hq, rfl⟩ := hi
    exact small _ (offset_lt_volume (inShape_of_mem_points hs hq))
  | hyperslab slab =>
    rw [indices_hyperslab hs, List.mem_map] at hi
    obtain ⟨p, hp, rfl⟩ := hi
    exact small _ (offset_lt_volume (inShape_of_mem_coordinates hs hp))

end Dataspace

theorem Run.stop_le {r : Run} {v : Nat} (hv : v < UInt64.size) (hl : 0 < r.length.toNat)
    (hi : ∀ i ∈ r.indices, i.toNat < v) : r.start.toNat + r.length.toNat ≤ v := by
  have index : ∀ k < r.length.toNat, (r.start.toNat + k) % UInt64.size < v := fun k hk => by
    have hk' : k < UInt64.size := Nat.lt_trans hk r.length.toNat_lt
    have := hi (r.start + UInt64.ofNat k) (List.mem_map.mpr ⟨k, List.mem_range.mpr hk, rfl⟩)
    rwa [UInt64.toNat_add, UInt64.toNat_ofNat', Nat.mod_eq_of_lt hk'] at this
  have hs := r.start.toNat_lt
  by_cases hw : r.start.toNat + r.length.toNat < UInt64.size
  · have := index (r.length.toNat - 1) (by omega)
    rw [Nat.mod_eq_of_lt (by omega)] at this
    omega
  · -- Past the end of the words the run would hold the last word, which is no element.
    have := index (UInt64.size - 1 - r.start.toNat) (by simp only [UInt64.size] at hw ⊢; omega)
    simp only [UInt64.size] at this hv hw
    omega

end ArrayTransfer
