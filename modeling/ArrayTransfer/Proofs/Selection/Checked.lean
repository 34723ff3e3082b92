import ArrayTransfer.Proofs.Selection.Region

/-! The walk in checked words. `Checked.indices` walks a selection once more, from the first dimension to the last with
    a base that grows on the way, and has no value as soon as a sum or a product is no word. If anything is selected in
    a shape whose volume is a word, it has the value that the walk in plain words has
    (`Dataspace.Exact.checked_indices`): every stride, base, start, stop and length on the way is a word. -/

namespace ArrayTransfer

/-! ### The walk -/

namespace Checked

def add (a b : UInt64) : Option UInt64 := if a.toNat + b.toNat < UInt64.size then some (a + b) else none

def mul (a b : UInt64) : Option UInt64 := if a.toNat * b.toNat < UInt64.size then some (a * b) else none

def addProduct (n a b : UInt64) : Option UInt64 := (mul a b).bind (add n)

/-- The product of the extents, one after the other. -/
def extent (shape : List UInt64) : Option UInt64 := shape.foldlM mul 1

/-- The strides of the shape with the product of its extents, from the last dimension on. -/
def strides : (shape : List UInt64) → Option (List UInt64 × UInt64)
  | [] => some ([], 1)
  | extent :: shape => do
    let (inner, product) ← strides shape
    return (product :: inner, ← mul extent product)

def linearIndex (point strides : List UInt64) : Option UInt64 :=
  (point.zip strides).foldlM (fun n (i, s) => addProduct n i s) 0

def segmentLength (a : Axis) : Option UInt64 := if a.isSolid then mul a.count a.block else some a.block

def segments (a : Axis) : Option (List Run) :=
  (List.range a.segmentCount).mapM fun k => do
    return ⟨← addProduct a.start (UInt64.ofNat k) a.stride, ← segmentLength a⟩

/-- The indices of a run, which ends at a word. -/
def runIndices (r : Run) : Option (List UInt64) := (add r.start r.length).map fun _ => r.indices

def runsIndices (runs : List Run) : Option (List UInt64) := (runs.mapM runIndices).map List.flatten

def axisIndices (a : Axis) : Option (List UInt64) := (segments a).bind runsIndices

/-- The runs of axes behind a base: those along the last axis, once for each index of the axes before it. -/
def runsFrom : List Axis → (strides : List UInt64) → (base : UInt64) → Option (List Run)
  | [], _, base => some [⟨base, 1⟩]
  | [a], _, base => do (← segments a).mapM fun r => (add base r.start).map fun start => ⟨start, r.length⟩
  | a :: b :: axes, strides, base => do
    let rows ← (← axisIndices a).mapM fun i => do
      runsFrom (b :: axes) (strides.drop 1) (← addProduct base i (strides.headD 1))
    return rows.flatten

def runs (d : Dataspace) : Option (List Run) :=
  match d.selection with
  | .all => (extent d.shape).map fun n => if n = 0 then [] else [⟨0, n⟩]
  | .none => some []
  | .points p => do
    let (strides, _) ← strides d.shape
    return (← p.points.mapM (linearIndex · strides)).map fun i => ⟨i, 1⟩
  | .hyperslab h => do
    let (strides, _) ← strides d.shape
    runsFrom h.axes strides 0

/-- Joins runs to the run `r` as long as they continue it. -/
def joinFrom (r : Run) : List Run → Option (List Run)
  | [] => some [r]
  | q :: rest => do
    if q.start = (← add r.start r.length) then joinFrom ⟨r.start, ← add r.length q.length⟩ rest
    else return r :: (← joinFrom q rest)

def join : List Run → Option (List Run)
  | [] => some []
  | r :: rest => joinFrom r rest

/-- The linear indices of the selected elements in order. -/
def indices (d : Dataspace) : Option (List UInt64) := do runsIndices (← join (← runs d))

/-! ### Words -/

variable {a b : UInt64}

theorem add_eq_some (h : a.toNat + b.toNat < UInt64.size) : add a b = some (a + b) := if_pos h

theorem mul_eq_some (h : a.toNat * b.toNat < UInt64.size) : mul a b = some (a * b) := if_pos h

theorem toNat_add (h : a.toNat + b.toNat < UInt64.size) : (a + b).toNat = a.toNat + b.toNat := by
  rw [UInt64.toNat_add, Nat.mod_eq_of_lt h]

theorem toNat_mul (h : a.toNat * b.toNat < UInt64.size) : (a * b).toNat = a.toNat * b.toNat := by
  rw [UInt64.toNat_mul, Nat.mod_eq_of_lt h]

theorem addProduct_eq {n : UInt64} (h : n.toNat + a.toNat * b.toNat < UInt64.size) :
    addProduct n a b = some (n + a * b) ∧ (n + a * b).toNat = n.toNat + a.toNat * b.toNat := by
  have product : a.toNat * b.toNat < UInt64.size := by omega
  have sum : n.toNat + (a * b).toNat < UInt64.size := by rwa [toNat_mul product]
  constructor
  · rw [addProduct, mul_eq_some product]
    exact add_eq_some sum
  · rw [toNat_add sum, toNat_mul product]

/-! ### Shapes -/

variable {shape : List UInt64}

theorem volume_pos_cons {extent : UInt64} (h : 0 < volume (extent :: shape)) :
    0 < extent.toNat ∧ 0 < volume shape := by
  rw [volume] at h
  exact ⟨Nat.pos_of_mul_pos_right h, Nat.pos_of_mul_pos_left h⟩

theorem toNat_strides (hv : volume shape < UInt64.size) : (RunSource.strides shape).2.toNat = volume shape := by
  rw [RunSource.strides_snd, UInt64.toNat_ofNat', Nat.mod_eq_of_lt hv]

theorem volume_lt_of_cons {extent : UInt64} (hv : volume (extent :: shape) < UInt64.size)
    (h : 0 < volume (extent :: shape)) : volume shape < UInt64.size :=
  Nat.lt_of_le_of_lt (Nat.le_mul_of_pos_left _ (volume_pos_cons h).1) hv

theorem strides_eq (hv : volume shape < UInt64.size) (h : 0 < volume shape) :
    strides shape = some (RunSource.strides shape) := by
  induction shape with
  | nil => rfl
  | cons extent shape ih =>
    have small := volume_lt_of_cons hv h
    have product : mul extent (RunSource.strides shape).2 = some (extent * (RunSource.strides shape).2) :=
      mul_eq_some (by rwa [toNat_strides small])
    rw [strides, ih small (volume_pos_cons h).2]
    simp only [bind, Option.bind, product]
    rfl

theorem extent_eq (hv : volume shape < UInt64.size) (h : 0 < volume shape) :
    extent shape = some (Dataspace.extentOf shape) := by
  suffices general : ∀ n : UInt64, n.toNat * volume shape < UInt64.size →
      shape.foldlM mul n = some (shape.foldl (· * ·) n) from general 1 (by simpa using hv)
  clear hv
  induction shape with
  | nil => exact fun _ _ => rfl
  | cons extent shape ih =>
    intro n hn
    rw [volume, ← Nat.mul_assoc] at hn
    have small : n.toNat * extent.toNat < UInt64.size :=
      Nat.lt_of_le_of_lt (Nat.le_mul_of_pos_right _ (volume_pos_cons h).2) hn
    rw [List.foldlM_cons, mul_eq_some small]
    exact ih (volume_pos_cons h).2 _ (by rwa [toNat_mul small])

theorem linearIndex_eq (hv : volume shape < UInt64.size) {point : List UInt64}
    (hp : InShape shape (point.map UInt64.toNat)) :
    linearIndex point (RunSource.strides shape).1 = some (RunSource.linearIndex point (RunSource.strides shape).1) := by
  suffices general : ∀ n : UInt64, n.toNat + offset shape (point.map UInt64.toNat) < UInt64.size →
      (point.zip (RunSource.strides shape).1).foldlM (fun n (i, s) => addProduct n i s) n =
        some ((point.zip (RunSource.strides shape).1).foldl (fun n (i, s) => n + i * s) n) from
    general 0 (by rw [UInt64.toNat_zero, Nat.zero_add]; exact Nat.lt_trans (offset_lt_volume hp) hv)
  induction shape generalizing point with
  | nil =>
    intro n _
    simp [RunSource.strides]
  | cons extent shape ih =>
    obtain _ | ⟨k, point⟩ := point
    · exact hp.elim
    intro n hn
    have small := volume_lt_of_cons hv (Nat.zero_lt_of_lt (offset_lt_volume hp))
    have split : offset (extent :: shape) ((k :: point).map UInt64.toNat) =
        k.toNat * volume shape + offset shape (point.map UInt64.toNat) := rfl
    rw [split, ← toNat_strides small] at hn
    obtain ⟨sum, value⟩ := @addProduct_eq k (RunSource.strides shape).2 n (by omega)
    rw [RunSource.strides_cons, List.zip_cons_cons, List.foldlM_cons, List.foldl_cons]
    show (addProduct n k (RunSource.strides shape).2).bind _ = _
    rw [sum]
    exact ih small hp.2 _ (by rw [value]; omega)

/-! ### Axes -/

theorem runIndices_eq {r : Run} (h : r.start.toNat + r.length.toNat < UInt64.size) : runIndices r = some r.indices := by
  rw [runIndices, add_eq_some h]
  rfl

theorem runsIndices_eq {runs : List Run} (h : ∀ r ∈ runs, r.start.toNat + r.length.toNat < UInt64.size) :
    runsIndices runs = some (runs.flatMap Run.indices) := by
  rw [runsIndices, mapM_eq_some fun r hr => runIndices_eq (h r hr), List.flatMap_def]
  rfl

section Axes
variable {a : Axis} (h : a.Valid)
include h

theorem segmentLength_eq : segmentLength a = some a.segmentLength := by
  unfold segmentLength Axis.segmentLength
  split
  · exact mul_eq_some (by rw [← h.toNat_length]; exact a.length.toNat_lt)
  · rfl

theorem segmentStart_eq {k : Nat} (hk : k < a.segmentCount) :
    addProduct a.start (UInt64.ofNat k) a.stride = some (a.segmentStart k) ∧
      (a.segmentStart k).toNat + a.segmentLength.toNat ≤ a.stop.toNat := by
  have bound := h.segment_stop_le hk
  have stop := a.stop.toNat_lt
  have number : (UInt64.ofNat k).toNat = k := by
    have := Nat.lt_of_lt_of_le hk h.segmentCount_le
    exact UInt64.toNat_ofNat_of_lt' (Nat.lt_trans this a.count.toNat_lt)
  obtain ⟨start, value⟩ := @addProduct_eq (UInt64.ofNat k) a.stride a.start (by
    rw [number]
    simp only [UInt64.size]
    omega)
  rw [number] at value
  refine ⟨start, ?_⟩
  rw [Axis.segmentStart, value]
  exact bound

theorem segments_eq : segments a = some a.segments := by
  refine mapM_eq_some fun k hk => ?_
  rw [(segmentStart_eq h (List.mem_range.mp hk)).1, segmentLength_eq h]
  rfl

/-- The checked indices of an axis are those that `Axis.index` gives by number. -/
theorem axisIndices_eq : axisIndices a = some ((List.range a.length.toNat).map a.index) := by
  rw [axisIndices, segments_eq h, Option.bind_some, runsIndices_eq, h.flatMap_indices_segments]
  · rw [Axis.segments, List.forall_mem_map]
    exact fun k hk => Nat.lt_of_le_of_lt (segmentStart_eq h (List.mem_range.mp hk)).2 a.stop.toNat_lt

end Axes

/-! ### Runs -/

/-- The runs along the last axis. -/
theorem runsFrom_last {a : Axis} {base : UInt64} (ha : a.Valid) (hb : base.toNat + a.stop.toNat < UInt64.size)
    (stride : List UInt64) : runsFrom [a] stride base =
      some ((RunSource.ofAxes [a] stride).toList.map fun r => ⟨base + r.start, r.length⟩) := by
  have starts : ∀ r ∈ a.segments,
      ((add base r.start).map fun start => (⟨start, r.length⟩ : Run)) = some ⟨base + r.start, r.length⟩ := by
    rw [Axis.segments, List.forall_mem_map]
    intro k hk
    have stop := (segmentStart_eq ha (List.mem_range.mp hk)).2
    have sum : base.toNat + (a.segmentStart k).toNat < UInt64.size := by omega
    rw [add_eq_some sum]
    rfl
  rw [runsFrom, segments_eq ha]
  exact mapM_eq_some starts

/-- The row of an index along the first axis ends within the words if the shape does. -/
theorem row_lt {a : Axis} {extent base : UInt64} {k : Nat} (ha : a.Valid) (hstop : a.stop.toNat ≤ extent.toNat)
    (hb : base.toNat + volume (extent :: shape) < UInt64.size) (hk : k < a.length.toNat) :
    base.toNat + (a.index k).toNat * volume shape + volume shape < UInt64.size := by
  have row := Nat.mul_le_mul_right (volume shape) (Nat.le_trans (ha.index_lt hk) hstop)
  rw [Nat.succ_mul] at row
  rw [volume] at hb
  omega

/-- The runs of the rows, one row for each index along the first axis. -/
theorem runsFrom_rows {a b : Axis} {axes : List Axis} {stride : List UInt64} {base : UInt64} (ha : a.Valid)
    (hv : ∀ c ∈ b :: axes, c.Valid) (rows : ∀ k < a.length.toNat,
      ((addProduct base (a.index k) (stride.headD 1)).bind fun start => runsFrom (b :: axes) (stride.drop 1) start) =
        some ((RunSource.ofAxes (b :: axes) (stride.drop 1)).toList.map fun r =>
          ⟨base + a.index k * stride.headD 1 + r.start, r.length⟩)) :
    runsFrom (a :: b :: axes) stride base =
      some ((RunSource.ofAxes (a :: b :: axes) stride).toList.map fun r => ⟨base + r.start, r.length⟩) := by
  have walk : runsFrom (a :: b :: axes) stride base =
      (axisIndices a).bind fun is => (is.mapM fun i => (addProduct base i (stride.headD 1)).bind fun start =>
        runsFrom (b :: axes) (stride.drop 1) start).bind fun rows => some rows.flatten := by
    rw [runsFrom]
    rfl
  rw [walk, axisIndices_eq ha, Option.bind_some, List.mapM_map, Function.comp_def,
    mapM_eq_some fun k hk => rows k (List.mem_range.mp hk), RunSource.toList_ofAxes hv, Option.bind_some,
    ← List.flatMap_def, List.map_flatMap]
  simp only [List.map_map, Function.comp_def, UInt64.add_assoc]

theorem runsFrom_eq {axes : List Axis} {base : UInt64} (hv : ∀ a ∈ axes, a.Valid)
    (hs : InShape shape (axes.map fun a => a.stop.toNat - 1)) (hb : base.toNat + volume shape < UInt64.size) :
    runsFrom axes (RunSource.strides shape).1 base =
      some ((RunSource.ofAxes axes (RunSource.strides shape).1).toList.map fun r => ⟨base + r.start, r.length⟩) := by
  induction axes generalizing shape base with
  | nil => simp [runsFrom, RunSource.ofAxes, RunSource.single, RunSource.toList]
  | cons a axes ih =>
    obtain ⟨ha, hv⟩ := List.forall_mem_cons.mp hv
    have pos := Nat.zero_lt_of_lt (offset_lt_volume hs)
    obtain _ | ⟨extent, shape⟩ := shape
    · exact hs.elim
    obtain ⟨hlast, hrest⟩ := hs
    have hstop : a.stop.toNat ≤ extent.toNat := Nat.le_of_pred_lt hlast
    cases axes with
    | nil =>
      have within : extent.toNat ≤ volume (extent :: shape) := Nat.le_mul_of_pos_right _ (volume_pos_cons pos).2
      exact runsFrom_last ha (by omega) _
    | cons b axes =>
      have small := volume_lt_of_cons (Nat.lt_of_le_of_lt (Nat.le_add_left _ _) hb) pos
      refine runsFrom_rows ha hv fun k hk => ?_
      have room := row_lt ha hstop hb hk
      rw [← toNat_strides small] at room
      obtain ⟨start, value⟩ := @addProduct_eq (a.index k) (RunSource.strides shape).2 base (by omega)
      rw [← value, toNat_strides small] at room
      exact (congrArg (Option.bind · _) start).trans (ih hv hrest room)

theorem runs_eq {d : Dataspace} (hv : volume d.shape < UInt64.size) (h : 0 < volume d.shape) :
    runs d = some d.runSource.toList := by
  unfold runs Dataspace.runSource
  cases hs : d.selection with
  | all =>
    have product : extent d.shape = some d.extent := extent_eq hv h
    simp only [product, Option.map_some]
    split
    · rfl
    · rfl
  | none => rfl
  | points p =>
    have index : ∀ q ∈ p.points, linearIndex q (RunSource.strides d.shape).1 =
        some (RunSource.linearIndex q (RunSource.strides d.shape).1) := fun q hq =>
      linearIndex_eq hv (Dataspace.inShape_of_mem_points hs hq)
    simp only [strides_eq hv h, bind, Option.bind, mapM_eq_some index]
    refine congrArg some (List.ext_getElem ?_ fun k h1 h2 => ?_)
    · simp [RunSource.toList, RunSource.ofIndices]
    · have hk : k < p.points.length := by simpa using h1
      simp [RunSource.toList, RunSource.ofIndices, hk]
  | hyperslab slab =>
    have inside := (Hyperslab.inBounds_iff.mp (Dataspace.inBounds_hyperslab hs)).2 _ (last_mem_grid slab.valid)
    have room : (0 : UInt64).toNat + volume d.shape < UInt64.size := by rwa [UInt64.toNat_zero, Nat.zero_add]
    have walk := runsFrom_eq slab.valid inside room
    simp only [strides_eq hv h, bind, Option.bind, walk, UInt64.zero_add]
    exact congrArg some (List.map_id' _)

/-- Runs that end within a volume are joined in words, to runs that end there and hold the same indices. -/
theorem joinFrom_spec {v : Nat} (hv : v < UInt64.size) {r : Run} {rest : List Run}
    (hr : r.start.toNat + r.length.toNat ≤ v) (hrest : ∀ q ∈ rest, q.start.toNat + q.length.toNat ≤ v) :
    ∃ joined, joinFrom r rest = some joined ∧ (∀ q ∈ joined, q.start.toNat + q.length.toNat ≤ v) ∧
      joined.flatMap Run.indices = r.indices ++ rest.flatMap Run.indices := by
  induction rest generalizing r with
  | nil => exact ⟨[r], rfl, List.forall_mem_singleton.mpr hr, rfl⟩
  | cons q rest ih =>
    rw [List.forall_mem_cons] at hrest
    obtain ⟨hq, hrest⟩ := hrest
    have stop := add_eq_some (Nat.lt_of_le_of_lt hr hv)
    by_cases hs : q.start = r.start + r.length
    · have start : q.start.toNat = r.start.toNat + r.length.toNat := by
        rw [hs, toNat_add (Nat.lt_of_le_of_lt hr hv)]
      have room : r.length.toNat + q.length.toNat < UInt64.size := by omega
      obtain ⟨joined, walk, within, holds⟩ := @ih ⟨r.start, r.length + q.length⟩
        (by show r.start.toNat + (r.length + q.length).toNat ≤ v; rw [toNat_add room]; omega) hrest
      refine ⟨joined, ?_, within, ?_⟩
      · rw [joinFrom, stop]
        simp only [bind, Option.bind, if_pos hs, add_eq_some room]
        exact walk
      · rw [holds, Run.indices_join hs room, List.flatMap_cons, List.append_assoc]
    · obtain ⟨joined, walk, within, holds⟩ := ih hq hrest
      refine ⟨r :: joined, ?_, List.forall_mem_cons.mpr ⟨hr, within⟩, ?_⟩
      · rw [joinFrom, stop]
        simp only [bind, Option.bind, if_neg hs, walk]
        rfl
      · rw [List.flatMap_cons, holds, List.flatMap_cons]

theorem join_spec {v : Nat} (hv : v < UInt64.size) {runs : List Run}
    (h : ∀ r ∈ runs, r.start.toNat + r.length.toNat ≤ v) :
    ∃ joined, join runs = some joined ∧ (∀ q ∈ joined, q.start.toNat + q.length.toNat ≤ v) ∧
      joined.flatMap Run.indices = runs.flatMap Run.indices := by
  cases runs with
  | nil => exact ⟨[], rfl, h, rfl⟩
  | cons r rest =>
    rw [List.forall_mem_cons] at h
    exact joinFrom_spec hv h.1 h.2

end Checked

/-- If the shape has elements, and no more than words count, no word on the way to the indices overflows. -/
theorem Dataspace.Exact.checked_indices {d : Dataspace} (h : d.Exact) (hpos : 0 < volume d.shape) :
    Checked.indices d = some d.indices := by
  have holds : d.runSource.toList.flatMap Run.indices = d.indices := by
    rw [indices_eq_runSource h.count_lt, RunSource.toList, List.flatMap_map]
    rfl
  have within : ∀ r ∈ d.runSource.toList, r.start.toNat + r.length.toNat ≤ volume d.shape := by
    intro r hr
    have positive : 0 < r.length.toNat := by
      obtain ⟨k, hk, rfl⟩ := List.mem_map.mp hr
      exact d.runSource_positive k (List.mem_range.mp hk)
    refine Run.stop_le h.volume_lt positive fun i hi => h.lt_volume ?_
    rw [← holds]
    exact List.mem_flatMap.mpr ⟨r, hr, hi⟩
  obtain ⟨joined, walk, within, same⟩ := Checked.join_spec h.volume_lt within
  have small : ∀ r ∈ joined, r.start.toNat + r.length.toNat < UInt64.size := fun r hr =>
    Nat.lt_of_le_of_lt (within r hr) h.volume_lt
  rw [Checked.indices, Checked.runs_eq h.volume_lt hpos]
  simp only [bind, Option.bind, walk]
  rw [Checked.runsIndices_eq small, same, holds]

end ArrayTransfer
