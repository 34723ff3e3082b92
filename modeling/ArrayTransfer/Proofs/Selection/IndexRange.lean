import ArrayTransfer.Proofs.Selection.Axis

/-! Ranges `start:stop:step` of indices, and the axes that one of them selects. An axis whose blocks are single
    indices, one block, or adjacent blocks is the range of its start, stop and step (`Axis.Valid.indices_range`).
    Every other axis has a gap behind two neighbours, so that no range at all has its indices
    (`Axis.Valid.isRange_of_addresses`). -/

namespace ArrayTransfer

/-- The indices from `start` on, each `step` behind the one before, as far as they lie before `stop`. -/
structure IndexRange where
  start : Nat
  stop : Nat
  step : Nat
  deriving DecidableEq

namespace IndexRange

/-- The indices of a range. -/
def indices (r : IndexRange) : List Nat :=
  List.range' r.start ((r.stop - r.start + r.step - 1) / r.step) r.step

/-- The range selects the indices that the axis does. -/
def Addresses (r : IndexRange) (a : Axis) : Prop := ∀ k, k ∈ r.indices ↔ k ∈ a.indices

theorem mem_indices {r : IndexRange} (hs : 0 < r.step) {k : Nat} :
    k ∈ r.indices ↔ r.start ≤ k ∧ k < r.stop ∧ r.step ∣ k - r.start := by
  have count : ∀ i, i < (r.stop - r.start + r.step - 1) / r.step ↔ r.start + r.step * i < r.stop := by
    intro i
    rw [Nat.lt_iff_add_one_le, Nat.le_div_iff_mul_le hs, Nat.succ_mul, Nat.mul_comm i]
    omega
  simp only [indices, List.mem_range']
  constructor
  · rintro ⟨i, hi, rfl⟩
    exact ⟨Nat.le_add_right .., (count i).mp hi, by rw [Nat.add_sub_cancel_left]; exact Nat.dvd_mul_right ..⟩
  · rintro ⟨hle, hlt, i, hi⟩
    exact ⟨i, (count i).mpr (by omega), by omega⟩

theorem step_pos_of_mem {r : IndexRange} {k : Nat} (h : k ∈ r.indices) : 0 < r.step := by
  apply Nat.pos_of_ne_zero
  intro h0
  simp [indices, h0] at h

/-- The number of indices of a range that ends right behind one of them. -/
theorem indices_of_stop {start n step : Nat} (hs : 0 < step) (hn : 0 < n) :
    (IndexRange.mk start (start + step * (n - 1) + 1) step).indices = List.range' start n step := by
  have hc : (start + step * (n - 1) + 1 - start + step - 1) / step = n := by
    have hm : start + step * (n - 1) + 1 - start + step - 1 = step * n := by
      obtain ⟨m, rfl⟩ := Nat.exists_eq_add_of_lt hn
      simp only [Nat.zero_add, Nat.add_sub_cancel, Nat.mul_succ]
      omega
    rw [hm, Nat.mul_div_cancel_left n hs]
  simp only [indices, hc]

theorem indices_of_step_one (start n : Nat) : (IndexRange.mk start (start + n) 1).indices = List.range' start n := by
  simp [indices]

end IndexRange

namespace Axis
variable {a : Axis}

/-- The range of the start, the stop and the step of an axis. -/
def range (a : Axis) : IndexRange := ⟨a.start.toNat, a.stop.toNat, a.step.toNat⟩

theorem isRange_iff :
    a.isRange = true ↔ a.block.toNat ≤ 1 ∨ a.count.toNat ≤ 1 ∨ a.stride = a.block := by
  simp only [isRange, Bool.not_eq_true', Bool.and_eq_false_iff, decide_eq_false_iff_not, UInt64.lt_iff_toNat_lt,
    UInt64.toNat_one, Nat.not_lt, bne_eq_false_iff_eq, or_assoc]

theorem Valid.one_le_step (h : a.Valid) : 1 ≤ a.step.toNat := by
  unfold step
  split
  · simp
  · rename_i hc
    have h1 : a.count.toNat ≠ 1 := fun h1 => hc (UInt64.toNat_inj.mp h1)
    have := h.count_pos
    rw [UInt64.toNat_div, Nat.le_div_iff_mul_le h.block_pos, Nat.one_mul]
    exact h.block_le_stride (by omega)

/-- The start, the stop and the step of an axis that is a range give its indices. -/
theorem Valid.indices_range (h : a.Valid) (hr : a.isRange = true) : a.range.indices = a.indices := by
  have hc := h.count_pos
  have hb := h.block_pos
  have solid : a.count.toNat = 1 ∨ a.stride = a.block → a.step.toNat = 1 ∧
      a.stride.toNat * (a.count.toNat - 1) + a.block.toNat = a.count.toNat * a.block.toNat := by
    rintro (h1 | hs)
    · have h1' : a.count = 1 := UInt64.toNat_inj.mp h1
      simp [step, h1']
    · refine ⟨?_, ?_⟩
      · unfold step
        split
        · rfl
        · rw [UInt64.toNat_div, hs, Nat.div_self hb]
      · obtain ⟨m, hm⟩ := Nat.exists_eq_add_of_lt hc
        rw [hs, hm]
        simp only [Nat.zero_add, Nat.add_sub_cancel, Nat.succ_mul, Nat.mul_comm]
  by_cases hs : a.count.toNat = 1 ∨ a.stride = a.block
  · obtain ⟨h1, hl⟩ := solid hs
    rw [indices_of_solid hs, range, h1, h.toNat_stop, Nat.add_assoc, hl]
    exact IndexRange.indices_of_step_one ..
  · obtain ⟨h1, hs⟩ := not_or.mp hs
    have hb1 : a.block.toNat = 1 := by
      rcases isRange_iff.mp hr with h | h | h
      · omega
      · omega
      · exact absurd h hs
    have hst : a.step.toNat = a.stride.toNat := by
      have h1' : a.count ≠ 1 := fun h1' => h1 (by simp [h1'])
      rw [step, if_neg h1', UInt64.toNat_div, hb1, Nat.div_one]
    rw [indices_of_block_one hb1, range, h.toNat_stop, hst, hb1]
    exact IndexRange.indices_of_stop (by have := h.block_le_stride (by omega); omega) hc

/-- An axis with the indices of any range is one. Two neighbours make the step one, so that the range goes on from the
    first block to the second without a gap. -/
theorem Valid.isRange_of_addresses (h : a.Valid) {r : IndexRange} (hr : r.Addresses a) : a.isRange = true := by
  rw [isRange_iff]
  apply Decidable.byContradiction
  intro hn
  simp only [not_or, Nat.not_le] at hn
  obtain ⟨hb, hc, hs⟩ := hn
  have hlt : a.block.toNat < a.stride.toNat :=
    Nat.lt_of_le_of_ne (h.block_le_stride hc) fun he => hs (UInt64.toNat_inj.mp he).symm
  have selected : ∀ i < a.count.toNat, ∀ j < a.block.toNat,
      a.start.toNat + i * a.stride.toNat + j ∈ r.indices := fun i hi j hj =>
    (hr _).mpr (mem_indices.mpr ⟨i, hi, j, hj, rfl⟩)
  have first := selected 0 (by omega) 0 (by omega)
  have pos := IndexRange.step_pos_of_mem first
  obtain ⟨l0, -, d0⟩ := (IndexRange.mem_indices pos).mp first
  obtain ⟨-, -, d1⟩ := (IndexRange.mem_indices pos).mp (selected 0 (by omega) 1 hb)
  obtain ⟨-, u1, -⟩ := (IndexRange.mem_indices pos).mp (selected 1 hc 0 (by omega))
  have one : r.step = 1 := by
    have hd := Nat.dvd_sub d1 d0
    rw [show a.start.toNat + 0 * a.stride.toNat + 1 - r.start - (a.start.toNat + 0 * a.stride.toNat + 0 - r.start) = 1
      by omega] at hd
    exact Nat.eq_one_of_dvd_one hd
  have gap : a.start.toNat + a.block.toNat ∈ r.indices :=
    (IndexRange.mem_indices pos).mpr ⟨by omega, by omega, one ▸ Nat.one_dvd _⟩
  obtain ⟨i, hi, j, hj, he⟩ := mem_indices.mp ((hr _).mp gap)
  rcases Nat.eq_zero_or_pos i with rfl | hpos
  · omega
  · have := Nat.le_mul_of_pos_left a.stride.toNat hpos
    omega

end Axis

end ArrayTransfer
