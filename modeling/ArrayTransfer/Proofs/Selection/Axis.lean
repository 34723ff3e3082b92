import ArrayTransfer.Selection.Hyperslab

/-! The indices that an axis selects, in exact arithmetic. A valid axis ends within the words, so its word
    arithmetic (`Axis.stop`, `Axis.length`, `Axis.index`) never wraps, and `Axis.index` counts `Axis.indices`
    in order. -/

namespace ArrayTransfer.Axis

/-- The selected indices: those of each block, block after block. -/
def indices (a : Axis) : List Nat :=
  (List.range a.count.toNat).flatMap fun i => List.range' (a.start.toNat + i * a.stride.toNat) a.block.toNat

/-! ### Words -/

section Words
variable {a : Axis}

theorem Valid.count_pos (h : a.Valid) : 0 < a.count.toNat :=
  Nat.pos_of_ne_zero fun h0 => h.1 (UInt64.toNat_inj.mp h0)

theorem Valid.block_pos (h : a.Valid) : 0 < a.block.toNat :=
  Nat.pos_of_ne_zero fun h0 => h.2.1 (UInt64.toNat_inj.mp h0)

theorem Valid.block_le_stride (h : a.Valid) (hc : 1 < a.count.toNat) : a.block.toNat ≤ a.stride.toNat :=
  UInt64.le_iff_toNat_le.mp (h.2.2.1 (UInt64.lt_iff_toNat_lt.mpr hc))

theorem Valid.stop_lt (h : a.Valid) :
    a.start.toNat + a.stride.toNat * (a.count.toNat - 1) + a.block.toNat < UInt64.size := h.2.2.2

theorem Valid.length_le (h : a.Valid) :
    a.count.toNat * a.block.toNat ≤ a.stride.toNat * (a.count.toNat - 1) + a.block.toNat := by
  have hc := h.count_pos
  by_cases h1 : a.count.toNat = 1
  · simp [h1]
  · have hs := Nat.mul_le_mul_right (a.count.toNat - 1) (h.block_le_stride (by omega))
    have hm : a.count.toNat * a.block.toNat = a.block.toNat * (a.count.toNat - 1) + a.block.toNat := by
      rw [Nat.mul_comm, ← Nat.mul_succ]
      congr 1
      omega
    omega

theorem product_pos {axes : List Axis} (hv : ∀ a ∈ axes, a.Valid) : 0 < product axes := by
  induction axes with
  | nil => exact Nat.one_pos
  | cons a axes ih =>
    obtain ⟨ha, hv⟩ := List.forall_mem_cons.mp hv
    exact Nat.mul_pos (Nat.mul_pos ha.count_pos ha.block_pos) (ih hv)

theorem Valid.toNat_length (h : a.Valid) : a.length.toNat = a.count.toNat * a.block.toNat := by
  have hl := h.length_le
  have hs := h.stop_lt
  rw [length, UInt64.toNat_mul, Nat.mod_eq_of_lt (by simp only [UInt64.size] at hs; omega)]

theorem Valid.toNat_stop (h : a.Valid) :
    a.stop.toNat = a.start.toNat + a.stride.toNat * (a.count.toNat - 1) + a.block.toNat := by
  have hs := h.stop_lt
  have hc : (a.count - 1).toNat = a.count.toNat - 1 :=
    UInt64.toNat_sub_of_le _ _ (UInt64.le_iff_toNat_le.mpr h.count_pos)
  simp only [UInt64.size] at hs
  rw [stop, UInt64.toNat_add, UInt64.toNat_add, UInt64.toNat_mul, hc,
    Nat.mod_eq_of_lt (a := a.stride.toNat * _) (by omega), Nat.mod_eq_of_lt (a := a.start.toNat + _) (by omega),
    Nat.mod_eq_of_lt (by omega)]

end Words

/-! ### Blocks in one piece -/

theorem flatMap_range'_adjacent (start size n : Nat) :
    (List.range n).flatMap (fun i => List.range' (start + i * size) size) = List.range' start (n * size) := by
  induction n with
  | zero => simp
  | succ n ih =>
    rw [List.range_succ, List.flatMap_append, ih, List.flatMap_cons, List.flatMap_nil, List.append_nil,
      List.range'_append_1, Nat.succ_mul]

theorem flatMap_range'_one (start stride n : Nat) :
    (List.range n).flatMap (fun i => List.range' (start + i * stride) 1) = List.range' start n stride := by
  induction n with
  | zero => rfl
  | succ n ih =>
    rw [List.range_succ, List.flatMap_append, ih, List.flatMap_cons, List.flatMap_nil, List.append_nil,
      List.range'_one, List.range'_concat, Nat.mul_comm n]

variable {a : Axis}

theorem mem_indices {k : Nat} : k ∈ a.indices ↔
    ∃ i < a.count.toNat, ∃ j < a.block.toNat, k = a.start.toNat + i * a.stride.toNat + j := by
  simp only [indices, List.mem_flatMap, List.mem_range, List.mem_range', Nat.one_mul]

theorem length_indices (a : Axis) : a.indices.length = a.count.toNat * a.block.toNat := by
  simp [indices, List.length_flatMap, List.map_const']

theorem indices_of_solid (h : a.count.toNat = 1 ∨ a.stride = a.block) :
    a.indices = List.range' a.start.toNat (a.count.toNat * a.block.toNat) := by
  rcases h with h | h
  · simp [indices, h]
  · rw [indices, h, flatMap_range'_adjacent]

theorem indices_of_block_one (h : a.block.toNat = 1) :
    a.indices = List.range' a.start.toNat a.count.toNat a.stride.toNat := by
  rw [indices, h, flatMap_range'_one]

/-! ### Runs along an axis -/

theorem isSolid_iff : a.isSolid = true ↔ a.count.toNat = 1 ∨ a.stride = a.block := by
  simp [isSolid, ← UInt64.toNat_inj]

/-- The runs of an axis, one behind the other, are its indices. -/
theorem Valid.flatMap_segments (h : a.Valid) :
    (List.range a.segmentCount).flatMap (fun i =>
      List.range' (a.start.toNat + i * a.stride.toNat) a.segmentLength.toNat) = a.indices := by
  by_cases hs : a.isSolid = true
  · rw [indices_of_solid (isSolid_iff.mp hs)]
    simp [segmentCount, segmentLength, hs, h.toNat_length]
  · simp only [segmentCount, segmentLength, hs, Bool.false_eq_true, ↓reduceIte, indices]

theorem Valid.segmentLength_pos (h : a.Valid) : 0 < a.segmentLength.toNat := by
  unfold segmentLength
  split
  · rw [h.toNat_length]
    exact Nat.mul_pos h.count_pos h.block_pos
  · exact h.block_pos

theorem Valid.length_eq_segments (h : a.Valid) : a.length.toNat = a.segmentCount * a.segmentLength.toNat := by
  unfold segmentCount segmentLength
  split
  · rw [Nat.one_mul]
  · exact h.toNat_length

theorem segmentStart_eq (a : Axis) (i : Nat) :
    a.segmentStart i = UInt64.ofNat (a.start.toNat + i * a.stride.toNat) := by
  simp [segmentStart, UInt64.ofNat_add, UInt64.ofNat_mul]

theorem flatMap_range_mul {α : Type} (f : Nat → Nat → List α) (m : Nat) {n : Nat} (hn : 0 < n) :
    (List.range (m * n)).flatMap (fun k => f (k / n) (k % n)) =
      (List.range m).flatMap fun i => (List.range n).flatMap (f i) := by
  induction m with
  | zero => simp
  | succ m ih =>
    have last : (List.range n).flatMap (fun j => f ((m * n + j) / n) ((m * n + j) % n)) =
        (List.range n).flatMap (f m) := by
      simp only [List.flatMap_def]
      congr 1
      apply List.map_congr_left
      intro j hj
      have hj := List.mem_range.mp hj
      rw [Nat.add_comm, Nat.add_mul_div_right j m hn, Nat.add_mul_mod_self_right, Nat.div_eq_of_lt hj,
        Nat.mod_eq_of_lt hj, Nat.zero_add]
    rw [Nat.succ_mul, List.range_add, List.flatMap_append, ih, List.flatMap_map, last, List.range_succ,
      List.flatMap_append, List.flatMap_cons, List.flatMap_nil, List.append_nil]

/-- `Axis.index` gives the selected indices by number. -/
theorem Valid.map_index (h : a.Valid) :
    (List.range a.length.toNat).map a.index = a.indices.map UInt64.ofNat := by
  have hi : a.index = fun k =>
      UInt64.ofNat (a.start.toNat + k / a.segmentLength.toNat * a.stride.toNat + k % a.segmentLength.toNat) := by
    funext k
    simp only [index, segmentStart_eq, UInt64.ofNat_add]
  rw [hi, h.length_eq_segments, ← h.flatMap_segments, List.map_flatMap, List.map_eq_flatMap]
  refine (flatMap_range_mul (fun i j => [UInt64.ofNat (a.start.toNat + i * a.stride.toNat + j)]) _
    h.segmentLength_pos).trans ?_
  simp only [List.range'_eq_map_range, List.map_eq_flatMap, List.flatMap_assoc, List.flatMap_cons, List.flatMap_nil,
    List.append_nil]

theorem Valid.lt_of_mem_indices (h : a.Valid) {k : Nat} (hk : k ∈ a.indices) : k < a.stop.toNat := by
  obtain ⟨i, hi, j, hj, rfl⟩ := mem_indices.mp hk
  rw [h.toNat_stop]
  have hm : i * a.stride.toNat ≤ a.stride.toNat * (a.count.toNat - 1) := by
    rw [Nat.mul_comm]
    exact Nat.mul_le_mul_left _ (by omega)
  omega

theorem Valid.index_lt (h : a.Valid) {k : Nat} (hk : k < a.length.toNat) : (a.index k).toNat < a.stop.toNat := by
  have hm : a.index k ∈ a.indices.map UInt64.ofNat := by
    rw [← h.map_index]
    exact List.mem_map_of_mem (List.mem_range.mpr hk)
  obtain ⟨n, hn, he⟩ := List.mem_map.mp hm
  have hlt := h.lt_of_mem_indices hn
  rw [← he, UInt64.toNat_ofNat_of_lt' (Nat.lt_trans hlt a.stop.toNat_lt)]
  exact hlt

/-- Each run along an axis ends within it. -/
theorem Valid.segment_stop_le (h : a.Valid) {k : Nat} (hk : k < a.segmentCount) :
    a.start.toNat + k * a.stride.toNat + a.segmentLength.toNat ≤ a.stop.toNat := by
  have hl := h.length_le
  rw [h.toNat_stop]
  unfold segmentCount at hk
  unfold segmentLength
  split at hk
  · rename_i solid
    obtain rfl : k = 0 := by omega
    rw [if_pos solid, h.toNat_length]
    omega
  · rename_i gaps
    have hm : k * a.stride.toNat ≤ a.stride.toNat * (a.count.toNat - 1) := by
      rw [Nat.mul_comm]
      exact Nat.mul_le_mul_left _ (by omega)
    rw [if_neg gaps]
    omega

theorem Valid.segmentCount_le (h : a.Valid) : a.segmentCount ≤ a.count.toNat := by
  unfold segmentCount
  split
  · exact h.count_pos
  · exact Nat.le_refl _

theorem Valid.last_mem_indices (h : a.Valid) : a.stop.toNat - 1 ∈ a.indices := by
  have hc := h.count_pos
  have hb := h.block_pos
  refine mem_indices.mpr ⟨a.count.toNat - 1, by omega, a.block.toNat - 1, by omega, ?_⟩
  rw [h.toNat_stop, Nat.mul_comm]
  omega

end ArrayTransfer.Axis
