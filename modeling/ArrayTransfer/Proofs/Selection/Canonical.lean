import ArrayTransfer.Proofs.Selection.Encoding

/-! One encoding for each set of coordinates. An axis can be written in many ways, as one wide block, as adjacent blocks
    or as single indices behind one another, but the range that is encoded for it is tight: it starts and stops at
    indices of its own, and a single index has step one. A tight range is determined by its indices
    (`IndexRange.Tight.ext`), and each axis by the coordinates of all of them, so that two hyperslabs are encoded alike
    exactly if they select the same elements (`Selection.encoding_canonical`). -/

namespace ArrayTransfer

/-! ### Ranges -/

namespace IndexRange
variable {r s : IndexRange}

/-- The range stops right behind an index of its own, and has step one if it has no other. -/
structure Tight (r : IndexRange) : Prop where
  step_pos : 0 < r.step
  last_mem : r.stop - 1 ∈ r.indices
  step_single : r.stop = r.start + 1 → r.step = 1

namespace Tight

theorem start_lt (h : r.Tight) : r.start < r.stop := by
  obtain ⟨le, lt, -⟩ := (mem_indices h.step_pos).mp h.last_mem
  exact Nat.lt_of_le_of_lt le lt

theorem start_mem (h : r.Tight) : r.start ∈ r.indices :=
  (mem_indices h.step_pos).mpr ⟨Nat.le_refl _, h.start_lt, by rw [Nat.sub_self]; exact Nat.dvd_zero _⟩

theorem second_mem (h : r.Tight) (several : r.stop ≠ r.start + 1) : r.start + r.step ∈ r.indices := by
  obtain ⟨-, -, dvd⟩ := (mem_indices h.step_pos).mp h.last_mem
  have lt := h.start_lt
  have le : r.step ≤ r.stop - 1 - r.start := Nat.le_of_dvd (by omega) dvd
  have next : r.step ∣ r.start + r.step - r.start := ⟨1, by rw [Nat.add_sub_cancel_left, Nat.mul_one]⟩
  exact (mem_indices h.step_pos).mpr ⟨Nat.le_add_right _ _, by omega, next⟩

/-- A range among the indices of another lies within it, and its step is a number of steps of the other. -/
theorem of_subset (hr : r.Tight) (hs : s.Tight) (h : ∀ k ∈ r.indices, k ∈ s.indices) :
    s.start ≤ r.start ∧ r.stop ≤ s.stop ∧ (r.stop ≠ r.start + 1 → s.step ∣ r.step) := by
  obtain ⟨low, -, first⟩ := (mem_indices hs.step_pos).mp (h _ hr.start_mem)
  obtain ⟨-, high, -⟩ := (mem_indices hs.step_pos).mp (h _ hr.last_mem)
  refine ⟨low, Nat.le_of_pred_lt high, fun several => ?_⟩
  obtain ⟨-, -, second⟩ := (mem_indices hs.step_pos).mp (h _ (hr.second_mem several))
  rw [Nat.sub_add_comm low] at second
  exact (Nat.dvd_add_right first).mp second

/-- The indices of a tight range determine it. -/
theorem ext (hr : r.Tight) (hs : s.Tight) (h : ∀ k, k ∈ r.indices ↔ k ∈ s.indices) : r = s := by
  obtain ⟨low, high, dvd⟩ := hr.of_subset hs fun k => (h k).mp
  obtain ⟨low', high', dvd'⟩ := hs.of_subset hr fun k => (h k).mpr
  have start : r.start = s.start := Nat.le_antisymm low' low
  have stop : r.stop = s.stop := Nat.le_antisymm high high'
  have step : r.step = s.step := by
    by_cases single : r.stop = r.start + 1
    · rw [hr.step_single single, hs.step_single (stop ▸ start ▸ single)]
    · exact Nat.dvd_antisymm (dvd' (stop ▸ start ▸ single)) (dvd single)
  cases r
  cases s
  simp_all only

end Tight

end IndexRange

/-! ### Axes -/

namespace Axis
variable {a b : Axis}

theorem Valid.tight_range (h : a.Valid) (hr : a.isRange = true) : a.range.Tight where
  step_pos := h.one_le_step
  last_mem := by
    rw [h.indices_range hr]
    exact h.last_mem_indices
  step_single := by
    intro single
    replace single : a.stop.toNat = a.start.toNat + 1 := single
    rw [h.toNat_stop] at single
    have hb := h.block_pos
    have hc := h.count_pos
    have one : a.count.toNat = 1 := by
      apply Decidable.byContradiction
      intro several
      have wide := h.block_le_stride (by omega)
      have far : a.stride.toNat ≤ a.stride.toNat * (a.count.toNat - 1) := Nat.le_mul_of_pos_right _ (by omega)
      omega
    have one : a.count = 1 := UInt64.toNat_inj.mp one
    simp [range, step, one]

/-- An axis with the indices of a range is the same range. -/
theorem Valid.range_eq (ha : a.Valid) (hb : b.Valid) (hr : a.isRange = true)
    (h : ∀ k, k ∈ b.indices ↔ k ∈ a.indices) : b.isRange = true ∧ b.range = a.range := by
  have own := ha.indices_range hr
  have hb' : b.isRange = true := hb.isRange_of_addresses (r := a.range) fun k => by rw [own, h]
  refine ⟨hb', (hb.tight_range hb').ext (ha.tight_range hr) fun k => ?_⟩
  rw [hb.indices_range hb', own, h]

end Axis

/-! ### Coordinates -/

theorem cons_mem_grid {k : Nat} {q l : List Nat} {ls : List (List Nat)} :
    k :: q ∈ grid (l :: ls) ↔ k ∈ l ∧ q ∈ grid ls := by
  simp [grid]

/-- Points that are the same have the same coordinates in the first dimension, and the same in the others. -/
theorem grid_cons_ext {k : Nat} {q l m : List Nat} {ls ms : List (List Nat)} (hk : k ∈ l) (hq : q ∈ grid ls)
    (h : ∀ p, p ∈ grid (l :: ls) ↔ p ∈ grid (m :: ms)) :
    (∀ i, i ∈ l ↔ i ∈ m) ∧ ∀ p, p ∈ grid ls ↔ p ∈ grid ms := by
  have split : ∀ i p, (i ∈ l ∧ p ∈ grid ls ↔ i ∈ m ∧ p ∈ grid ms) := fun i p => by
    rw [← cons_mem_grid, ← cons_mem_grid, h]
  obtain ⟨hk', hq'⟩ := (split k q).mp ⟨hk, hq⟩
  constructor
  · intro i
    simpa [hq, hq'] using split i q
  · intro p
    simpa [hk, hk'] using split k p

/-- Axes that select the points of ranges are the same ranges. -/
theorem Axis.ranges_eq {as bs : List Axis} (ha : ∀ a ∈ as, a.Valid) (hb : ∀ b ∈ bs, b.Valid)
    (hr : ∀ a ∈ as, a.isRange = true)
    (h : ∀ p, p ∈ grid (as.map Axis.indices) ↔ p ∈ grid (bs.map Axis.indices)) :
    (∀ b ∈ bs, b.isRange = true) ∧ bs.map Axis.range = as.map Axis.range := by
  induction as generalizing bs with
  | nil =>
    cases bs with
    | nil => exact ⟨nofun, rfl⟩
    | cons b bs =>
      have empty : [] ∈ grid ((b :: bs).map Axis.indices) := (h []).mp List.mem_cons_self
      simp [grid] at empty
  | cons a as ih =>
    cases bs with
    | nil =>
      have empty : [] ∈ grid ((a :: as).map Axis.indices) := (h []).mpr List.mem_cons_self
      simp [grid] at empty
    | cons b bs =>
      rw [List.forall_mem_cons] at ha hb hr
      obtain ⟨first, others⟩ := grid_cons_ext ha.1.last_mem_indices (last_mem_grid ha.2) h
      obtain ⟨isRange, range⟩ := ha.1.range_eq hb.1 hr.1 fun k => (first k).symm
      obtain ⟨areRanges, ranges⟩ := ih ha.2 hb.2 hr.2 others
      refine ⟨List.forall_mem_cons.mpr ⟨isRange, areRanges⟩, ?_⟩
      rw [List.map_cons, List.map_cons, range, ranges]

/-! ### Hyperslabs -/

namespace Hyperslab
variable {h h' : Hyperslab}

/-- The hyperslabs select the same set of coordinates. -/
def SameElements (h h' : Hyperslab) : Prop := ∀ p, p ∈ h.coordinates ↔ p ∈ h'.coordinates

theorem firstNonRange?_of_isRange (hr : ∀ a ∈ h.axes, a.isRange = true) : h.firstNonRange? = none := by
  rw [firstNonRange?, List.findIdx?_eq_none_iff]
  intro a ha
  rw [hr a ha]
  rfl

/-- A hyperslab that is ranges selects the elements of another exactly if the other is the same ranges. -/
theorem sameElements_iff (hc : Selection.checkRanges h = .ok ()) :
    h.SameElements h' ↔ Selection.checkRanges h' = .ok () ∧ h'.axes.map Axis.range = h.axes.map Axis.range := by
  constructor
  · intro same
    obtain ⟨areRanges, ranges⟩ := Axis.ranges_eq h.valid h'.valid (Selection.isRange_of_checkRanges hc) same
    refine ⟨?_, ranges⟩
    rw [Selection.checkRanges, firstNonRange?_of_isRange areRanges]
  · rintro ⟨hc', ranges⟩ p
    rw [← (Selection.ranges_spec hc).2, ← (Selection.ranges_spec hc').2, ranges]

end Hyperslab

/-! ### Both forms -/

namespace Selection
variable {h h' : Hyperslab}

/-- The query of a range. -/
def textOfRange (r : IndexRange) : String := toString r.start ++ ":" ++ toString r.stop ++ ":" ++ toString r.step

/-- The ranges of a hyperslab are all that its query is made of. -/
theorem queryText_congr (hc : checkRanges h = .ok ()) (hc' : checkRanges h' = .ok ())
    (ranges : h'.axes.map Axis.range = h.axes.map Axis.range) :
    (hyperslab h').queryText = (hyperslab h).queryText := by
  have texts : ∀ axes : List Axis, axes.map rangeText = (axes.map Axis.range).map textOfRange := fun axes => by
    rw [List.map_map]
    rfl
  simp only [queryText, hc, hc', texts, ranges]

/-- The ranges of a hyperslab are all that its fields are made of. -/
theorem bodyFields_congr (hc : checkRanges h = .ok ()) (hc' : checkRanges h' = .ok ())
    (ranges : h'.axes.map Axis.range = h.axes.map Axis.range) :
    (hyperslab h').bodyFields = (hyperslab h).bodyFields := by
  have column : ∀ (part : IndexRange → Nat) (word : Axis → UInt64), (∀ a, part a.range = (word a).toNat) →
      ∀ axes : List Axis, axes.map word = (axes.map Axis.range).map fun r => UInt64.ofNat (part r) := by
    intro part word same axes
    simp [same]
  simp only [bodyFields, hc, hc', Hyperslab.stop, Hyperslab.step, column IndexRange.start Axis.start fun _ => rfl,
    column IndexRange.stop Axis.stop fun _ => rfl, column IndexRange.step Axis.step fun _ => rfl, ranges]

theorem readRanges?_of_bodyFields {fields : List (String × Json)} (hf : (hyperslab h).bodyFields = .ok fields) :
    readRanges? fields = some (h.axes.map Axis.range) := by
  obtain ⟨-, fields', hf', read⟩ := read_hyperslab (checkRanges_of_bodyFields hf)
  obtain rfl : fields' = fields := Except.ok.inj (hf'.symm.trans hf)
  simpa using read []

/-- What is encoded of a hyperslab, in a query and in a body, is encoded of exactly those hyperslabs that select the same
    coordinates, whatever their blocks, strides and counts are. -/
theorem encoding_canonical (h h' : Hyperslab) :
    (∀ text, (hyperslab h).queryText = .ok text → ((hyperslab h').queryText = .ok text ↔ h.SameElements h')) ∧
      ∀ fields, (hyperslab h).bodyFields = .ok fields →
        ((hyperslab h').bodyFields = .ok fields ↔ h.SameElements h') := by
  constructor
  · intro text ht
    obtain ⟨hc, read⟩ := readQuery?_of_queryText ht
    rw [Hyperslab.sameElements_iff hc]
    constructor
    · intro ht'
      obtain ⟨hc', read'⟩ := readQuery?_of_queryText ht'
      exact ⟨hc', Option.some.inj (read'.symm.trans read)⟩
    · rintro ⟨hc', ranges⟩
      rw [queryText_congr hc hc' ranges, ht]
  · intro fields hf
    have hc := checkRanges_of_bodyFields hf
    rw [Hyperslab.sameElements_iff hc]
    constructor
    · intro hf'
      refine ⟨checkRanges_of_bodyFields hf', Option.some.inj ?_⟩
      rw [← readRanges?_of_bodyFields hf, ← readRanges?_of_bodyFields hf']
    · rintro ⟨hc', ranges⟩
      rw [bodyFields_congr hc hc' ranges, hf]

/-- Six indices in one block, which needs no stride, and a single one. -/
def oneBlock : Hyperslab where
  axes := [⟨4, 0, 1, 6⟩, ⟨7, 9, 1, 1⟩]
  nonempty := by decide
  valid := by decide
  product_lt := by decide

/-- The same in three blocks that touch. -/
def touchingBlocks : Hyperslab where
  axes := [⟨4, 2, 3, 2⟩, ⟨7, 1, 1, 1⟩]
  nonempty := by decide
  valid := by decide
  product_lt := by decide

theorem encoding_canonical_touchingBlocks : oneBlock.SameElements touchingBlocks ∧
    (hyperslab oneBlock).queryText = .ok "[4:10:1,7:8:1]" ∧
    (hyperslab touchingBlocks).queryText = .ok "[4:10:1,7:8:1]" ∧
    (hyperslab touchingBlocks).bodyFields = (hyperslab oneBlock).bodyFields := by
  have coordinates : oneBlock.coordinates = touchingBlocks.coordinates := by decide
  have same : oneBlock.SameElements touchingBlocks := fun p => by rw [coordinates]
  have text : (hyperslab oneBlock).queryText = .ok "[4:10:1,7:8:1]" := by rfl
  obtain ⟨queries, bodies⟩ := encoding_canonical oneBlock touchingBlocks
  exact ⟨same, text, (queries _ text).mpr same, (bodies _ rfl).mpr same⟩

end Selection

end ArrayTransfer
