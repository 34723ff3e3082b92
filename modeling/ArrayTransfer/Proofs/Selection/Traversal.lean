import ArrayTransfer.Proofs.Selection.Axis
import ArrayTransfer.Selection.Runs

/-! The order in which a selection is walked. Joining runs keeps the indices that they hold
    (`RunSource.flatMap_take`), and the runs of a hyperslab are the row-major offsets of its coordinates, the last
    dimension varying fastest (`RunSource.indices_ofAxes`). Offsets are exact; the walk computes them in words, so
    that its indices are their remainders, and the offsets themselves if the shape has fewer elements than words
    count. -/

namespace ArrayTransfer

theorem mapM_eq_some {α β : Type} {f : α → Option β} {g : α → β} {l : List α} (h : ∀ a ∈ l, f a = some (g a)) :
    l.mapM f = some (l.map g) := by
  induction l with
  | nil => rfl
  | cons a l ih =>
    rw [List.forall_mem_cons] at h
    rw [List.mapM_cons, h.1, ih h.2]
    rfl

/-! ### Coordinates -/

/-- The lists that take one item from each of the lists, the last varying fastest. -/
def grid : List (List Nat) → List (List Nat)
  | [] => [[]]
  | l :: ls => l.flatMap fun k => (grid ls).map (k :: ·)

/-- The exact number of elements of a shape. -/
def volume : List UInt64 → Nat
  | [] => 1
  | extent :: shape => extent.toNat * volume shape

/-- The exact place of a point among the elements of a shape, row by row. -/
def offset : List UInt64 → List Nat → Nat
  | _ :: shape, k :: point => k * volume shape + offset shape point
  | _, _ => 0

theorem length_grid (ls : List (List Nat)) : (grid ls).length = ls.foldr (fun l n => l.length * n) 1 := by
  induction ls with
  | nil => rfl
  | cons l ls ih => simp [grid, List.length_flatMap, List.map_const', ih]

theorem grid_singleton (l : List Nat) : grid [l] = l.map fun k => [k] := by
  simp [grid, List.map_eq_flatMap]

namespace RunSource

theorem strides_cons (extent : UInt64) (shape : List UInt64) :
    (strides (extent :: shape)).1 = (strides shape).2 :: (strides shape).1 := rfl

theorem length_strides (shape : List UInt64) : (strides shape).1.length = shape.length := by
  induction shape with
  | nil => rfl
  | cons extent shape ih => rw [strides_cons, List.length_cons, List.length_cons, ih]

theorem strides_snd (shape : List UInt64) : (strides shape).2 = UInt64.ofNat (volume shape) := by
  induction shape with
  | nil => rfl
  | cons extent shape ih =>
    show extent * (strides shape).2 = _
    rw [ih, volume, UInt64.ofNat_mul, UInt64.ofNat_toNat]

theorem linearIndex_eq (shape : List UInt64) (point : List UInt64) :
    linearIndex point (strides shape).1 = UInt64.ofNat (offset shape (point.map UInt64.toNat)) := by
  suffices general : ∀ (shape point : List UInt64) (n : UInt64),
      (point.zip (strides shape).1).foldl (fun n p => n + p.1 * p.2) n =
        n + UInt64.ofNat (offset shape (point.map UInt64.toNat)) from (general shape point 0).trans (UInt64.zero_add _)
  intro shape
  induction shape with
  | nil =>
    intro point n
    simp [strides, offset]
  | cons extent shape ih =>
    intro point n
    cases point with
    | nil => simp [offset]
    | cons k point =>
      rw [strides_cons, List.zip_cons_cons, List.foldl_cons, ih, strides_snd]
      simp [offset, UInt64.ofNat_add, UInt64.ofNat_mul, UInt64.add_assoc]

end RunSource

theorem Dataspace.extentOf_eq (shape : List UInt64) : extentOf shape = UInt64.ofNat (volume shape) := by
  suffices general : ∀ (shape : List UInt64) (n : UInt64),
      shape.foldl (· * ·) n = n * UInt64.ofNat (volume shape) by
    rw [extentOf, general, UInt64.one_mul]
  intro shape
  induction shape with
  | nil =>
    intro n
    simp [volume]
  | cons extent shape ih =>
    intro n
    rw [List.foldl_cons, ih, volume, UInt64.ofNat_mul, UInt64.ofNat_toNat, UInt64.mul_assoc]

/-! ### Runs and their indices -/

namespace Run

@[simp] theorem length_indices (r : Run) : r.indices.length = r.length.toNat := by simp [indices]

theorem indices_join {r q : Run} (hq : q.start = r.stop) (hl : r.length.toNat + q.length.toNat < UInt64.size) :
    (⟨r.start, r.length + q.length⟩ : Run).indices = r.indices ++ q.indices := by
  have length : (r.length + q.length).toNat = r.length.toNat + q.length.toNat := by
    rw [UInt64.toNat_add, Nat.mod_eq_of_lt hl]
  simp only [indices, length, List.range_add, List.map_append, List.map_map, Function.comp_def, hq, stop,
    UInt64.ofNat_add, UInt64.ofNat_toNat, UInt64.add_assoc]

theorem indices_shift (n : UInt64) (r : Run) :
    (⟨n + r.start, r.length⟩ : Run).indices = r.indices.map (n + ·) := by
  simp [indices, UInt64.add_assoc]

end Run

namespace RunSource
variable {s : RunSource}

/-- The indices of the runs from number `k` on. -/
def indicesFrom (s : RunSource) (k : Nat) : List UInt64 :=
  (List.range' k (s.count - k)).flatMap fun i => (s.run i).indices

/-- The indices of the runs. -/
def indices (s : RunSource) : List UInt64 := (List.range s.count).flatMap fun i => (s.run i).indices

theorem indicesFrom_zero (s : RunSource) : s.indicesFrom 0 = s.indices := by
  rw [indicesFrom, indices, Nat.sub_zero, List.range_eq_range']

theorem indicesFrom_of_lt {k : Nat} (h : k < s.count) :
    s.indicesFrom k = (s.run k).indices ++ s.indicesFrom (k + 1) := by
  rw [indicesFrom, indicesFrom, show s.count - k = (s.count - (k + 1)) + 1 by omega, List.range'_succ,
    List.flatMap_cons]

theorem indicesFrom_of_le {k : Nat} (h : s.count ≤ k) : s.indicesFrom k = [] := by
  simp [indicesFrom, Nat.sub_eq_zero_of_le h]

/-- What `join` takes into its run it takes from the front of the runs that are left. -/
theorem join_indices {fuel k : Nat} {r : Run} (hk : k + fuel = s.count)
    (hl : r.length.toNat + (s.indicesFrom k).length < UInt64.size) :
    (s.join fuel k r).1.indices ++ s.indicesFrom (s.join fuel k r).2 = r.indices ++ s.indicesFrom k ∧
      k ≤ (s.join fuel k r).2 ∧ r.length.toNat ≤ (s.join fuel k r).1.length.toNat := by
  induction fuel generalizing k r with
  | zero => exact ⟨rfl, Nat.le_refl _, Nat.le_refl _⟩
  | succ fuel ih =>
    rw [join]
    split
    · rename_i hstart
      rw [indicesFrom_of_lt (by omega), List.length_append, Run.length_indices] at hl
      have sum : (r.length + (s.run k).length).toNat = r.length.toNat + (s.run k).length.toNat := by
        rw [UInt64.toNat_add, Nat.mod_eq_of_lt (by simp only [UInt64.size] at hl; omega)]
      obtain ⟨he, hle, hlonger⟩ := ih (k := k + 1) (r := ⟨r.start, r.length + (s.run k).length⟩) (by omega)
        (by rw [sum]; omega)
      rw [sum] at hlonger
      refine ⟨?_, by omega, by omega⟩
      rw [he, Run.indices_join hstart (by omega), indicesFrom_of_lt (k := k) (by omega), List.append_assoc]
    · exact ⟨rfl, Nat.le_refl _, Nat.le_refl _⟩

theorem le_join (s : RunSource) (fuel k : Nat) (r : Run) : k ≤ (s.join fuel k r).2 := by
  induction fuel generalizing k r with
  | zero => exact Nat.le_refl _
  | succ fuel ih =>
    rw [join]
    split
    · exact Nat.le_of_succ_le (ih _ _)
    · exact Nat.le_refl _

/-- Joining stops only where the next run does not continue. -/
theorem join_stop {fuel k : Nat} {r : Run} (hk : k + fuel = s.count) (hlt : (s.join fuel k r).2 < s.count) :
    (s.run (s.join fuel k r).2).start ≠ (s.join fuel k r).1.stop := by
  induction fuel generalizing k r with
  | zero => exact absurd hlt (by show ¬k < s.count; omega)
  | succ fuel ih =>
    rw [join] at hlt ⊢
    split at hlt
    · rename_i hstart
      rw [if_pos hstart]
      exact ih (by omega) hlt
    · rename_i hstart
      rw [if_neg hstart]
      exact hstart

/-- Joined runs have the indices of the runs that they were joined from. -/
theorem flatMap_take {n k : Nat} (hn : s.count ≤ k + n) (hl : (s.indicesFrom k).length < UInt64.size) :
    (s.take n k).flatMap Run.indices = s.indicesFrom k := by
  induction n generalizing k with
  | zero => rw [take, indicesFrom_of_le (by omega), List.flatMap_nil]
  | succ n ih =>
    rw [take]
    split
    · rename_i hk
      rw [indicesFrom_of_lt hk, List.length_append, Run.length_indices] at hl
      obtain ⟨he, hle, -⟩ := @join_indices s (s.count - (k + 1)) _ (s.run k) (by omega) hl
      have hrest := congrArg List.length he
      simp only [List.length_append, Run.length_indices] at hrest
      rw [List.flatMap_cons, ih (by omega) (by omega), he, indicesFrom_of_lt hk]
    · rw [indicesFrom_of_le (by omega), List.flatMap_nil]

theorem take_take (s : RunSource) (m n k : Nat) : (s.take n k).take m = s.take (min m n) k := by
  induction n generalizing m k with
  | zero => simp [take]
  | succ n ih =>
    cases m with
    | zero => simp [take]
    | succ m =>
      rw [Nat.succ_min_succ, take, take]
      split
      · simp only [List.take_succ_cons, ih]
      · rfl

/-- As many joined runs as there are runs are all of them. -/
theorem take_of_le {n k : Nat} (m : Nat) (h : s.count ≤ k + n) : s.take (n + m) k = s.take n k := by
  induction n generalizing k with
  | zero =>
    cases m with
    | zero => rfl
    | succ m => rw [Nat.zero_add, take, take, if_neg (by omega)]
  | succ n ih =>
    rw [Nat.succ_add, take, take]
    split
    · have := le_join s (s.count - (k + 1)) (k + 1) (s.run k)
      simp only [ih (k := (s.join (s.count - (k + 1)) (k + 1) (s.run k)).2) (by omega)]
    · rfl

end RunSource

/-! ### The runs of axes -/

/-- The runs along an axis. -/
def Axis.segments (a : Axis) : List Run := (List.range a.segmentCount).map fun k => ⟨a.segmentStart k, a.segmentLength⟩

/-- The runs along an axis hold its indices in order. -/
theorem Axis.Valid.flatMap_indices_segments {a : Axis} (h : a.Valid) :
    a.segments.flatMap Run.indices = (List.range a.length.toNat).map a.index := by
  rw [h.map_index, ← h.flatMap_segments, List.map_flatMap, segments, List.flatMap_map]
  simp [Run.indices, List.range'_eq_map_range, Function.comp_def, segmentStart_eq, UInt64.ofNat_add]

namespace RunSource

/-- No run is empty. -/
def Positive (s : RunSource) : Prop := ∀ k < s.count, 0 < (s.run k).length.toNat

theorem count_ofAxes_pos {axes : List Axis} (hv : ∀ a ∈ axes, a.Valid) (stride : List UInt64) :
    0 < (ofAxes axes stride).count := by
  induction axes generalizing stride with
  | nil => exact Nat.one_pos
  | cons a axes ih =>
    have ha := hv a List.mem_cons_self
    cases axes with
    | nil =>
      show 0 < a.segmentCount
      unfold Axis.segmentCount
      split
      · exact Nat.one_pos
      · exact ha.count_pos
    | cons b axes =>
      refine Nat.mul_pos ?_ (ih (fun c hc => hv c (List.mem_cons_of_mem _ hc)) _)
      rw [ha.toNat_length]
      exact Nat.mul_pos ha.count_pos ha.block_pos

theorem positive_ofAxes {axes : List Axis} (hv : ∀ a ∈ axes, a.Valid) (stride : List UInt64) :
    (ofAxes axes stride).Positive := by
  induction axes generalizing stride with
  | nil => exact fun _ _ => Nat.one_pos
  | cons a axes ih =>
    have ha := hv a List.mem_cons_self
    cases axes with
    | nil => exact fun _ _ => ha.segmentLength_pos
    | cons b axes =>
      have hv' : ∀ c ∈ b :: axes, c.Valid := fun c hc => hv c (List.mem_cons_of_mem _ hc)
      exact fun k _ => ih hv' _ _ (Nat.mod_lt _ (count_ofAxes_pos hv' _))

/-- The runs of axes are those of the axes behind the first, once for each index along it. -/
theorem toList_ofAxes {a b : Axis} {axes : List Axis} (hv : ∀ c ∈ b :: axes, c.Valid) (stride : List UInt64) :
    (ofAxes (a :: b :: axes) stride).toList = (List.range a.length.toNat).flatMap fun k =>
      (ofAxes (b :: axes) (stride.drop 1)).toList.map fun r =>
        ⟨a.index k * stride.headD 1 + r.start, r.length⟩ := by
  have pos := count_ofAxes_pos hv (stride.drop 1)
  let inner := ofAxes (b :: axes) (stride.drop 1)
  have single := Axis.flatMap_range_mul (fun i k =>
    [(⟨a.index i * stride.headD 1 + (inner.run k).start, (inner.run k).length⟩ : Run)]) a.length.toNat pos
  simp only [← List.map_eq_flatMap] at single
  simp only [toList, List.map_map]
  exact single

/-- The runs of axes hold the offsets of their coordinates, row by row. -/
theorem indices_ofAxes {axes : List Axis} {shape : List UInt64} (hr : axes.length = shape.length)
    (hv : ∀ a ∈ axes, a.Valid) :
    (ofAxes axes (strides shape).1).indices =
      (grid (axes.map Axis.indices)).map fun p => UInt64.ofNat (offset shape p) := by
  induction axes generalizing shape with
  | nil => simp [ofAxes, single, indices, Run.indices, grid, offset]
  | cons a axes ih =>
    have ha := hv a List.mem_cons_self
    obtain _ | ⟨extent, shape⟩ := shape
    · cases hr
    cases axes with
    | nil =>
      have hs : shape = [] := List.eq_nil_of_length_eq_zero (by simpa using hr.symm)
      subst hs
      show (List.range a.segmentCount).flatMap (fun i => (⟨a.segmentStart i, a.segmentLength⟩ : Run).indices) = _
      rw [List.map_cons, List.map_nil, grid_singleton, ← ha.flatMap_segments, List.map_map, List.map_flatMap]
      simp [Run.indices, List.range'_eq_map_range, Function.comp_def, Axis.segmentStart_eq, offset, volume,
        UInt64.ofNat_add, UInt64.ofNat_mul]
    | cons b axes =>
      have hv' : ∀ c ∈ b :: axes, c.Valid := fun c hc => hv c (List.mem_cons_of_mem _ hc)
      have inner := @ih shape (by simpa using hr) hv'
      have pos := count_ofAxes_pos hv' (strides shape).1
      let source := ofAxes (b :: axes) (strides shape).1
      have shifted : ∀ i k, (⟨i * (strides shape).2 + (source.run k).start, (source.run k).length⟩ : Run).indices =
          (source.run k).indices.map (i * (strides shape).2 + ·) := fun i k => Run.indices_shift _ _
      calc (ofAxes (a :: b :: axes) (strides (extent :: shape)).1).indices
        _ = (List.range (a.length.toNat * source.count)).flatMap fun k =>
              (source.run (k % source.count)).indices.map
                (a.index (k / source.count) * (strides shape).2 + ·) := by
          simp only [← shifted]
          rfl
        _ = ((List.range a.length.toNat).map a.index).flatMap fun i =>
              source.indices.map (i * (strides shape).2 + ·) := by
          rw [Axis.flatMap_range_mul (fun i k => (source.run k).indices.map (a.index i * (strides shape).2 + ·)) _ pos,
            List.flatMap_map]
          simp only [indices, List.map_flatMap]
          rfl
        _ = _ := by
          rw [ha.map_index, inner, strides_snd, List.flatMap_map]
          simp [grid, List.map_flatMap, offset, Function.comp_def, UInt64.ofNat_add, UInt64.ofNat_mul]

end RunSource

end ArrayTransfer
