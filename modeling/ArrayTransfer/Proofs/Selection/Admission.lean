import ArrayTransfer.Proofs.Selection.Checked

/-! Which lists make a hyperslab. The axes are looked at one after the other, with the product of the elements so far,
    and all of it in checked words; a sum or a product that is no word is one that exact arithmetic finds too large
    (`Checked.fault?_eq`). What is admitted keeps to the rules of `Hyperslab.Admits`, and for it the word arithmetic of
    shape, element count, stops, steps and segments, which no longer checks anything, is exact
    (`Hyperslab.wordExact`). -/

namespace ArrayTransfer

/-! ### The rules -/

namespace Axis
variable {axes : List Axis}

/-- No axis is at fault exactly if each is valid and all of them, behind the dimensions before, select no more elements
    than words count. The product so far never exceeds the product of all, as no factor is zero. -/
theorem fault?_eq_none_iff {dimension before : Nat} (hb : before < UInt64.size) :
    fault? dimension before axes = none ↔ (∀ a ∈ axes, a.Valid) ∧ before * product axes < UInt64.size := by
  refine ⟨fun h => ⟨valid_of_fault?_none h, product_lt_of_fault?_none hb h⟩, ?_⟩
  clear hb
  induction axes generalizing dimension before with
  | nil => exact fun _ => rfl
  | cons a axes ih =>
    rintro ⟨hv, total⟩
    obtain ⟨ha, hv⟩ := List.forall_mem_cons.mp hv
    rw [product, ← Nat.mul_assoc] at total
    have sofar : before * (a.count.toNat * a.block.toNat) < UInt64.size :=
      Nat.lt_of_le_of_lt (Nat.le_mul_of_pos_right _ (product_pos hv)) total
    have apart : ¬(1 < a.count ∧ a.stride < a.block) := fun h => UInt64.not_lt.mpr (ha.2.2.1 h.1) h.2
    rw [fault?, if_neg (not_or.mpr ⟨ha.1, ha.2.1⟩), if_neg apart, if_neg (Nat.not_le.mpr ha.2.2.2),
      if_neg (Nat.not_le.mpr sofar)]
    exact ih ⟨hv, total⟩

end Axis

namespace Hyperslab
variable {start stride count block : List UInt64}

/-- The rules for the lists of a hyperslab, in exact arithmetic. -/
structure Admits (start stride count block : List UInt64) : Prop where
  rank_pos : 0 < start.length
  rank_eq : stride.length = start.length ∧ count.length = start.length ∧ block.length = start.length
  filled : ∀ a ∈ zipAxes start stride count block, 1 ≤ a.count.toNat ∧ 1 ≤ a.block.toNat
  apart : ∀ a ∈ zipAxes start stride count block, 1 < a.count.toNat → a.block.toNat ≤ a.stride.toNat
  ends : ∀ a ∈ zipAxes start stride count block,
    a.start.toNat + a.stride.toNat * (a.count.toNat - 1) + a.block.toNat < UInt64.size
  product : Axis.product (zipAxes start stride count block) < UInt64.size

theorem zipAxes_columns (h : stride.length = start.length ∧ count.length = start.length ∧ block.length = start.length) :
    (zipAxes start stride count block).map Axis.start = start ∧
      (zipAxes start stride count block).map Axis.stride = stride ∧
      (zipAxes start stride count block).map Axis.count = count ∧
      (zipAxes start stride count block).map Axis.block = block := by
  obtain ⟨h1, h2, h3⟩ := h
  induction start generalizing stride count block with
  | nil => simp_all [zipAxes]
  | cons s start ih =>
    obtain _ | ⟨t, stride⟩ := stride
    · simp at h1
    obtain _ | ⟨c, count⟩ := count
    · simp at h2
    obtain _ | ⟨b, block⟩ := block
    · simp at h3
    obtain ⟨e1, e2, e3, e4⟩ := ih (Nat.succ.inj h1) (Nat.succ.inj h2) (Nat.succ.inj h3)
    simp only [zipAxes, List.map_cons, e1, e2, e3, e4, and_self]

theorem ofAxes?_eq_ok_iff {axes : List Axis} {h : Hyperslab} : ofAxes? axes = .ok h ↔ h.axes = axes := by
  unfold ofAxes?
  split
  · rename_i hne
    exact ⟨(nomatch ·), fun e => absurd (e.trans hne) h.nonempty⟩
  · split
    · rename_i e fault
      refine ⟨(nomatch ·), ?_⟩
      rintro rfl
      rw [(Axis.fault?_eq_none_iff (by decide)).mpr ⟨h.valid, by simpa using h.product_lt⟩] at fault
      exact nomatch fault
    · constructor
      · rintro ⟨⟩
        rfl
      · rintro rfl
        rfl

/-- The lists of a hyperslab are those of its axes, all of one length. -/
theorem ofLists?_eq_ok_iff {h : Hyperslab} : ofLists? start stride count block = .ok h ↔
    (stride.length = start.length ∧ count.length = start.length ∧ block.length = start.length) ∧
      h.axes = zipAxes start stride count block := by
  simp only [ofLists?]
  split
  · rename_i empty
    refine ⟨(nomatch ·), fun ⟨_, e⟩ => absurd e ?_⟩
    rw [List.length_eq_zero_iff.mp empty, zipAxes]
    · exact h.nonempty
    · simp
  · split
    · rename_i list found
      have unequal := List.find?_some found
      have listed := List.mem_of_find?_eq_some found
      refine ⟨(nomatch ·), fun ⟨⟨e1, e2, e3⟩, _⟩ => ?_⟩
      simp only [List.mem_cons, List.not_mem_nil, or_false] at listed
      rcases listed with rfl | rfl | rfl <;> simp_all
    · rename_i equal
      simp only [List.find?_eq_none, List.forall_mem_cons, decide_eq_true_eq, Decidable.not_not] at equal
      obtain ⟨e1, e2, e3, -⟩ := equal
      rw [ofAxes?_eq_ok_iff]
      exact ⟨fun e => ⟨⟨e1, e2, e3⟩, e⟩, And.right⟩

theorem valid_iff {a : Axis} : a.Valid ↔ (1 ≤ a.count.toNat ∧ 1 ≤ a.block.toNat) ∧
    (1 < a.count.toNat → a.block.toNat ≤ a.stride.toNat) ∧
      a.start.toNat + a.stride.toNat * (a.count.toNat - 1) + a.block.toNat < UInt64.size := by
  constructor
  · exact fun h => ⟨⟨h.count_pos, h.block_pos⟩, h.block_le_stride, h.stop_lt⟩
  · rintro ⟨⟨hc, hb⟩, hs, he⟩
    refine ⟨fun e => ?_, fun e => ?_, fun h => ?_, he⟩
    · simp [e] at hc
    · simp [e] at hb
    · exact UInt64.le_iff_toNat_le.mpr (hs (UInt64.lt_iff_toNat_lt.mp h))

theorem exists_ofLists?_iff :
    (∃ h, ofLists? start stride count block = .ok h) ↔ Admits start stride count block := by
  simp only [ofLists?_eq_ok_iff]
  constructor
  · rintro ⟨h, equal, axes⟩
    have valid : ∀ a ∈ zipAxes start stride count block, a.Valid := axes ▸ h.valid
    refine ⟨?_, equal, fun a ha => (valid_iff.mp (valid a ha)).1, fun a ha => (valid_iff.mp (valid a ha)).2.1,
      fun a ha => (valid_iff.mp (valid a ha)).2.2, ?_⟩
    · rw [← (zipAxes_columns equal).1, List.length_map, ← axes]
      exact List.length_pos_iff.mpr h.nonempty
    · rw [← axes]
      exact h.product_lt
  · intro rules
    have valid : ∀ a ∈ zipAxes start stride count block, a.Valid := fun a ha =>
      valid_iff.mpr ⟨rules.filled a ha, rules.apart a ha, rules.ends a ha⟩
    have ranked : zipAxes start stride count block ≠ [] := by
      have positive := rules.rank_pos
      rw [← (zipAxes_columns rules.rank_eq).1, List.length_map] at positive
      exact List.ne_nil_of_length_pos positive
    exact ⟨⟨_, ranked, valid, rules.product⟩, rules.rank_eq, rfl⟩

end Hyperslab

/-! ### The rules in checked words -/

namespace Checked

def sub (a b : UInt64) : Option UInt64 := if b ≤ a then some (a - b) else none

def div (a b : UInt64) : Option UInt64 := if b = 0 then none else some (a / b)

/-- The stop of an axis, from its last block back to its start. -/
def extentStop (a : Axis) : Option UInt64 := do add (← add (← mul a.stride (← sub a.count 1)) a.block) a.start

/-- The first rule that axes break, as `Axis.fault?` finds it, but with a product of words so far and no sum or product
    that is no word. -/
def fault? : (dimension : Nat) → (before : UInt64) → List Axis → Option SelectionError
  | _, _, [] => none
  | dimension, before, a :: rest =>
    if a.count = 0 ∨ a.block = 0 then some (.zeroExtent dimension)
    else if 1 < a.count ∧ a.stride < a.block then some (.overlappingBlocks dimension a.stride a.block)
    else if (extentStop a).isNone then some (.overflow dimension)
    else match (mul a.count a.block).bind (mul · before) with
      | none => some (.overflow dimension)
      | some product => fault? (dimension + 1) product rest

variable {a b c : UInt64}

theorem add_eq_none (h : UInt64.size ≤ a.toNat + b.toNat) : add a b = none := if_neg (Nat.not_lt.mpr h)

theorem mul_eq_none (h : UInt64.size ≤ a.toNat * b.toNat) : mul a b = none := if_neg (Nat.not_lt.mpr h)

theorem sub_one_eq (h : 1 ≤ a.toNat) : sub a 1 = some (a - 1) ∧ (a - 1).toNat = a.toNat - 1 := by
  have le : (1 : UInt64) ≤ a := UInt64.le_iff_toNat_le.mpr h
  exact ⟨if_pos le, UInt64.toNat_sub_of_le _ _ le⟩

/-- A product of three words is taken exactly if it is a word, whichever two are multiplied first: the third is not
    zero. -/
theorem mul_mul (hc : 0 < c.toNat) : (mul a b).bind (mul · c) =
    if c.toNat * (a.toNat * b.toNat) < UInt64.size then some (a * b * c) else none := by
  by_cases inner : a.toNat * b.toNat < UInt64.size
  · rw [mul_eq_some inner, Option.bind_some, mul, toNat_mul inner, Nat.mul_comm]
  · have outer := Nat.le_mul_of_pos_left (a.toNat * b.toNat) hc
    rw [mul_eq_none (Nat.not_lt.mp inner), Option.bind_none, if_neg (by omega)]

theorem toNat_mul_mul (h : c.toNat * (a.toNat * b.toNat) < UInt64.size) (hc : 0 < c.toNat) :
    (a * b * c).toNat = c.toNat * (a.toNat * b.toNat) := by
  have inner := Nat.lt_of_le_of_lt (Nat.le_mul_of_pos_left (a.toNat * b.toNat) hc) h
  rw [toNat_mul (by rwa [toNat_mul inner, Nat.mul_comm]), toNat_mul inner, Nat.mul_comm]

theorem isNone_extentStop_iff {a : Axis} (hc : 1 ≤ a.count.toNat) : (extentStop a).isNone ↔
    UInt64.size ≤ a.start.toNat + a.stride.toNat * (a.count.toNat - 1) + a.block.toNat := by
  obtain ⟨last, value⟩ := sub_one_eq hc
  simp only [extentStop, last, bind, Option.bind_some]
  rw [← value]
  by_cases product : a.stride.toNat * (a.count - 1).toNat < UInt64.size
  · rw [mul_eq_some product, Option.bind_some]
    rw [← toNat_mul product]
    by_cases sum : (a.stride * (a.count - 1)).toNat + a.block.toNat < UInt64.size
    · rw [add_eq_some sum, Option.bind_some, add, toNat_add sum]
      split
      · exact iff_of_false (by simp) (by omega)
      · exact iff_of_true rfl (by omega)
    · rw [add_eq_none (Nat.not_lt.mp sum)]
      exact iff_of_true rfl (by omega)
  · rw [mul_eq_none (Nat.not_lt.mp product)]
    exact iff_of_true rfl (by omega)

/-- Checked words find the fault that exact arithmetic finds. -/
theorem fault?_eq {axes : List Axis} {dimension : Nat} {before : UInt64} (hb : 0 < before.toNat) :
    fault? dimension before axes = Axis.fault? dimension before.toNat axes := by
  induction axes generalizing dimension before with
  | nil => rfl
  | cons a axes ih =>
    rw [fault?, Axis.fault?]
    by_cases filled : a.count = 0 ∨ a.block = 0
    · rw [if_pos filled, if_pos filled]
    have count_pos : 0 < a.count.toNat := Nat.pos_of_ne_zero fun e => filled (.inl (UInt64.toNat_inj.mp e))
    have block_pos : 0 < a.block.toNat := Nat.pos_of_ne_zero fun e => filled (.inr (UInt64.toNat_inj.mp e))
    rw [if_neg filled, if_neg filled, mul_mul hb]
    simp only [isNone_extentStop_iff count_pos]
    split; · rfl
    split; · rfl
    by_cases total : before.toNat * (a.count.toNat * a.block.toNat) < UInt64.size
    · rw [if_pos total, if_neg (Nat.not_le.mpr total), ← toNat_mul_mul total hb]
      refine ih ?_
      rw [toNat_mul_mul total hb]
      exact Nat.mul_pos hb (Nat.mul_pos count_pos block_pos)
    · rw [if_neg total, if_pos (Nat.not_lt.mp total)]

/-! ### The arithmetic behind them -/

def length (a : Axis) : Option UInt64 := mul a.count a.block

def stop (a : Axis) : Option UInt64 := do add (← addProduct a.start a.stride (← sub a.count 1)) a.block

def step (a : Axis) : Option UInt64 := if a.count = 1 then some 1 else div a.stride a.block

def shape (h : Hyperslab) : Option (List UInt64) := h.axes.mapM length

def elementCount (h : Hyperslab) : Option UInt64 := (shape h).bind extent

section Valid
variable {a : Axis} (h : a.Valid)
include h

theorem length_eq : length a = some a.length :=
  mul_eq_some (by rw [← h.toNat_length]; exact a.length.toNat_lt)

theorem stop_eq : stop a = some a.stop := by
  obtain ⟨last, value⟩ := sub_one_eq h.count_pos
  have bound := h.stop_lt
  rw [← value] at bound
  obtain ⟨start, sum⟩ := @addProduct_eq a.stride (a.count - 1) a.start (by omega)
  rw [← sum] at bound
  simp only [stop, last, start, bind, Option.bind_some, add_eq_some bound]
  rfl

theorem step_eq : step a = some a.step := by
  unfold step Axis.step
  split
  · rfl
  · exact if_neg h.2.1

end Valid

end Checked

namespace Axis

theorem toNat_step (a : Axis) :
    a.step.toNat = if a.count.toNat = 1 then 1 else a.stride.toNat / a.block.toNat := by
  have single : a.count = 1 ↔ a.count.toNat = 1 := (@UInt64.toNat_inj a.count 1).symm
  simp only [step, single, apply_ite UInt64.toNat, UInt64.toNat_div]
  rfl

theorem Valid.toNat_runs {a : Axis} (h : a.Valid) (strides : List UInt64) :
    (RunSource.ofAxes [a] strides).toList.map (fun r => (r.start.toNat, r.length.toNat)) =
      if a.count.toNat = 1 ∨ a.stride = a.block then [(a.start.toNat, a.count.toNat * a.block.toNat)]
      else (List.range a.count.toNat).map fun k => (a.start.toNat + k * a.stride.toNat, a.block.toNat) := by
  have starts : ∀ k ∈ List.range a.segmentCount, (a.segmentStart k).toNat = a.start.toNat + k * a.stride.toNat := by
    intro k hk
    have bound := Nat.le_trans (Nat.le_add_right _ _) (h.segment_stop_le (List.mem_range.mp hk))
    rw [segmentStart_eq, UInt64.toNat_ofNat_of_lt' (Nat.lt_of_le_of_lt bound a.stop.toNat_lt)]
  have values : (RunSource.ofAxes [a] strides).toList.map (fun r => (r.start.toNat, r.length.toNat)) =
      (List.range a.segmentCount).map fun k => (a.start.toNat + k * a.stride.toNat, a.segmentLength.toNat) := by
    rw [RunSource.toList, List.map_map]
    exact List.map_congr_left fun k hk => Prod.ext (starts k hk) rfl
  simp only [values, ← isSolid_iff, segmentCount, segmentLength]
  split
  · simp [h.toNat_length]
  · rfl

end Axis

namespace Hyperslab
variable {start stride count block : List UInt64}

/-- The word arithmetic of the hyperslab is that of checked words, so none of it wraps or divides by zero, and has the
    values of exact arithmetic. -/
structure WordExact (h : Hyperslab) : Prop where
  shape : Checked.shape h = some h.shape ∧
    h.shape.map UInt64.toNat = h.axes.map fun a => a.count.toNat * a.block.toNat
  elementCount : Checked.elementCount h = some h.elementCount ∧ h.elementCount.toNat = Axis.product h.axes
  stop : h.axes.mapM Checked.stop = some h.stop ∧ h.stop.map UInt64.toNat =
    h.axes.map fun a => a.start.toNat + a.stride.toNat * (a.count.toNat - 1) + a.block.toNat
  step : h.axes.mapM Checked.step = some h.step ∧ h.step.map UInt64.toNat =
    h.axes.map fun a => if a.count.toNat = 1 then 1 else a.stride.toNat / a.block.toNat
  segments : ∀ a ∈ h.axes, ∀ strides, Checked.segments a = some (RunSource.ofAxes [a] strides).toList ∧
    (RunSource.ofAxes [a] strides).toList.map (fun r => (r.start.toNat, r.length.toNat)) =
      if a.count.toNat = 1 ∨ a.stride = a.block then [(a.start.toNat, a.count.toNat * a.block.toNat)]
      else (List.range a.count.toNat).map fun k => (a.start.toNat + k * a.stride.toNat, a.block.toNat)

theorem wordExact (h : Hyperslab) : h.WordExact := by
  have volume_shape : volume h.shape = Axis.product h.axes := Dataspace.volume_lengths h.valid
  have small : volume h.shape < UInt64.size := volume_shape ▸ h.product_lt
  have positive : 0 < volume h.shape := volume_shape ▸ Axis.product_pos h.valid
  have lengths : Checked.shape h = some h.shape := mapM_eq_some fun a ha => Checked.length_eq (h.valid a ha)
  constructor
  · refine ⟨lengths, ?_⟩
    rw [shape, List.map_map]
    exact List.map_congr_left fun a ha => (h.valid a ha).toNat_length
  · constructor
    · rw [Checked.elementCount, lengths, Option.bind_some]
      exact Checked.extent_eq small positive
    · show (Dataspace.extentOf h.shape).toNat = _
      rw [Dataspace.extentOf_eq, UInt64.toNat_ofNat_of_lt' small, volume_shape]
  · refine ⟨mapM_eq_some fun a ha => Checked.stop_eq (h.valid a ha), ?_⟩
    rw [stop, List.map_map]
    exact List.map_congr_left fun a ha => (h.valid a ha).toNat_stop
  · refine ⟨mapM_eq_some fun a ha => Checked.step_eq (h.valid a ha), ?_⟩
    rw [step, List.map_map]
    exact List.map_congr_left fun a _ => a.toNat_step
  · exact fun a ha strides => ⟨Checked.segments_eq (h.valid a ha), (h.valid a ha).toNat_runs strides⟩

/-- Lists are admitted exactly if they keep to the rules in exact arithmetic, although the loop over the axes computes
    in checked words, and a hyperslab that is made of them never again computes what is no word. -/
theorem admitted_exactly (start stride count block : List UInt64) :
    Checked.fault? 0 1 (zipAxes start stride count block) = Axis.fault? 0 1 (zipAxes start stride count block) ∧
      ((∃ h, ofLists? start stride count block = .ok h) ↔ Admits start stride count block) ∧
      ∀ h, ofLists? start stride count block = .ok h →
        h.axes.map Axis.start = start ∧ h.axes.map Axis.stride = stride ∧ h.axes.map Axis.count = count ∧
          h.axes.map Axis.block = block ∧ h.WordExact := by
  refine ⟨Checked.fault?_eq (by decide), exists_ofLists?_iff, fun h made => ?_⟩
  obtain ⟨equal, axes⟩ := ofLists?_eq_ok_iff.mp made
  obtain ⟨starts, strides, counts, blocks⟩ := zipAxes_columns equal
  rw [← axes] at starts strides counts blocks
  exact ⟨starts, strides, counts, blocks, h.wordExact⟩

/-- A single block with no stride may end at the last word. -/
theorem admitted_exactly_last_word : ∃ h, ofLists? [18446744073709551611, 0] [0, 3] [1, 4] [4, 2] = .ok h ∧
    h.stop.map UInt64.toNat = [UInt64.size - 1, 11] ∧ h.step.map UInt64.toNat = [1, 1] ∧ h.elementCount.toNat = 32 := by
  obtain ⟨-, admitted, exact⟩ := admitted_exactly [18446744073709551611, 0] [0, 3] [1, 4] [4, 2]
  obtain ⟨h, made⟩ := admitted.mpr ⟨by decide, by decide, by decide, by decide, by decide, by decide⟩
  have axes : h.axes = zipAxes _ _ _ _ := (ofLists?_eq_ok_iff.mp made).2
  obtain ⟨-, -, -, -, words⟩ := exact h made
  refine ⟨h, made, ?_, ?_, ?_⟩
  · rw [words.stop.2, axes]
    rfl
  · rw [words.step.2, axes]
    rfl
  · rw [words.elementCount.2, axes]
    rfl

end Hyperslab

end ArrayTransfer
