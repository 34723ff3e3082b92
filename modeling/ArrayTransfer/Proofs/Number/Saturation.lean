import ArrayTransfer.Proofs.Number.Embedding

/-! Numbers written to integer types. A number is cut to its whole part, and one out of the range of the type goes to the
    nearer bound (`NumericValue.saturate_eq_nearest`). The integer that is read back from the slot is this one, so that the
    order of numbers is kept (`NumericValue.write_saturates`). -/

namespace ArrayTransfer

namespace Worth
variable {low high : Int} {p q : ℚ} {w w' : Worth}

/-- The integer in a range that is nearest to the whole part of a number. -/
def nearest (low high : Int) : Worth → Int
  | infinite negative => if negative then low else high
  | finite q => max low (min (trunc q) high)

/-- The order of numbers; the infinities stand below and above all others. -/
inductive Le : Worth → Worth → Prop where
  | below (w : Worth) : Le (infinite true) w
  | above (w : Worth) : Le w (infinite false)
  | finite {p q : ℚ} (le : p ≤ q) : Le (finite p) (finite q)

theorem trunc_nonneg (h : 0 ≤ q) : 0 ≤ trunc q := by
  rw [trunc, if_neg (not_lt.mpr h)]
  exact Int.floor_nonneg.mpr h

theorem trunc_nonpos (h : q < 0) : trunc q ≤ 0 := by
  rw [trunc, if_pos h]
  exact Int.ceil_le.mpr (by exact_mod_cast h.le)

theorem trunc_mono (h : p ≤ q) : trunc p ≤ trunc q := by
  obtain positive | negative := le_or_gt 0 q
  · obtain positive' | negative' := le_or_gt 0 p
    · rw [trunc, trunc, if_neg (not_lt.mpr positive), if_neg (not_lt.mpr positive')]
      exact Int.floor_mono h
    · exact (trunc_nonpos negative').trans (trunc_nonneg positive)
  · rw [trunc, trunc, if_pos negative, if_pos (h.trans_lt negative)]
    exact Int.ceil_mono h

theorem nearest_bounds (order : low ≤ high) (w : Worth) : low ≤ w.nearest low high ∧ w.nearest low high ≤ high := by
  cases w with
  | infinite negative => cases negative <;> simp [nearest, order]
  | finite q =>
    simp only [nearest]
    omega

theorem nearest_mono (order : low ≤ high) (h : w.Le w') : w.nearest low high ≤ w'.nearest low high := by
  cases h with
  | below => exact (nearest_bounds order w').1
  | above => exact (nearest_bounds order w).2
  | finite le =>
    have := trunc_mono le
    simp only [nearest]
    omega

end Worth

namespace NumericValue
variable {v : NumericValue} {low high : Int} {q : ℚ} {negative : Bool}

/-! ### Values by their worth -/

/-- The integer that a value is, unless it is a floating point number. -/
def integer? : NumericValue → Option Int
  | signed n => some n.toInt
  | unsigned n => some n.toNat
  | float _ => none

/-- The integer nearest to the whole part of a value, and zero for a NaN. -/
def nearest (low high : Int) (v : NumericValue) : Int :=
  match v.worth? with
  | some w => w.nearest low high
  | none => 0

theorem of_worth_none (h : v.worth? = none) : v.whole? = none ∧ v.isNaN = true := by
  cases v with
  | signed | unsigned => cases h
  | float x =>
    simp only [worth?, whole?, isNaN, Double.isNaN, Double.datum, Format.truncate?] at h ⊢
    cases datum : Format.double.decode x.bits.toNat <;> simp_all [Datum.worth?]

theorem of_worth_infinite (h : v.worth? = some (.infinite negative)) :
    v.whole? = none ∧ v.isNaN = false ∧ v.isNegative = negative := by
  cases v with
  | signed | unsigned => cases h
  | float x =>
    simp only [worth?, whole?, isNaN, isNegative, Double.isNaN, Double.datum, Format.truncate?] at h ⊢
    cases datum : Format.double.decode x.bits.toNat <;> simp_all [Datum.worth?]

theorem of_worth_finite (h : v.worth? = some (.finite q)) :
    v.isNaN = false ∧ (v.isNegative = true ↔ q < 0) := by
  cases v with
  | signed n =>
    cases h
    simp [isNaN, isNegative, Int64.lt_iff_toInt_lt]
  | unsigned n =>
    cases h
    simp [isNaN, isNegative]
  | float x =>
    simp only [worth?, isNaN, isNegative, Double.isNaN, Double.datum] at h ⊢
    cases datum : Format.double.decode x.bits.toNat with
    | nan | infinite => simp [datum, Datum.worth?] at h
    | finite negative m e =>
      rw [datum] at h
      cases h
      have pos : (0 : ℚ) < 2 ^ e := zpow_pos (by norm_num) e
      cases negative <;> simp [Worth.signed, pos, Nat.pos_iff_ne_zero]

/-- A value is moved to the integer in the range that is nearest to its whole part. -/
theorem saturate_eq_nearest (hl : low ≤ 0) (hh : 0 ≤ high) (v : NumericValue) :
    v.saturate low high = v.nearest low high := by
  unfold saturate toInt? nearest
  cases worth : v.worth? with
  | none =>
    obtain ⟨whole, nan⟩ := of_worth_none worth
    simp [whole, nan]
  | some w =>
    cases w with
    | infinite negative =>
      obtain ⟨whole, number, sign⟩ := of_worth_infinite worth
      simp [whole, number, sign, Worth.nearest]
    | finite q =>
      obtain ⟨number, sign⟩ := of_worth_finite worth
      simp only [whole_of_worth worth, number, Worth.nearest, Bool.false_eq_true, ↓reduceIte]
      by_cases inside : low ≤ Worth.trunc q ∧ Worth.trunc q ≤ high
      · simp only [if_pos inside]
        omega
      · simp only [if_neg inside]
        obtain negative | positive := lt_or_ge q 0
        · have := Worth.trunc_nonpos negative
          rw [if_pos (sign.mpr negative)]
          omega
        · have := Worth.trunc_nonneg positive
          rw [if_neg (mt sign.mp (not_lt.mpr positive))]
          omega

end NumericValue

/-! ### Slots -/

namespace Numeric
variable {kind : Numeric} {low high : Int}

theorem bounds_zero (hk : kind.bounds? = some (low, high)) : low ≤ 0 ∧ 0 ≤ high := by
  obtain ⟨m, rfl, -, lower⟩ := bounds_spec hk
  omega

/-- What is read from a slot of an integer type is an integer. -/
theorem integer_of_read (hk : kind.bounds? = some (low, high)) {b : Bytes} {u : NumericValue} {n : Int}
    (read : NumericValue.read kind b = some u) (worth : u.worth? = some (.finite n)) : u.integer? = some n := by
  unfold NumericValue.read at read
  split at read
  · cases read
  · cases kind with
    | signed width =>
      cases read
      simpa [NumericValue.worth?, NumericValue.integer?] using worth
    | unsigned width =>
      cases read
      simp only [NumericValue.worth?, Option.some.injEq, Worth.finite.injEq] at worth
      exact congrArg some (by exact_mod_cast worth)
    | float32 | float64 => cases hk

/-- The integer that is read from a slot after a value was written to it. -/
def stored? (kind : Numeric) (v : NumericValue) (slot : Bytes) : Option Int :=
  ((v.write kind slot).bind (NumericValue.read kind)).bind NumericValue.integer?

section slots
variable (hk : kind.bounds? = some (low, high)) {slot : Bytes}
include hk

theorem nearest_bounds (v : NumericValue) : low ≤ v.nearest low high ∧ v.nearest low high ≤ high := by
  obtain ⟨hl, hh⟩ := bounds_zero hk
  unfold NumericValue.nearest
  cases v.worth? with
  | none => exact ⟨hl, hh⟩
  | some w => exact Worth.nearest_bounds (hl.trans hh) w

theorem write_eq (hs : slot.length = kind.size) (v : NumericValue) :
    v.write kind slot = some (Bytes.ofNat kind.size (NumericValue.wrap (8 * kind.size) (v.nearest low high))) := by
  obtain ⟨hl, hh⟩ := bounds_zero hk
  rw [NumericValue.write, if_neg (not_not_intro hs), NumericValue.encode_of_bounds hk,
    NumericValue.saturate_eq_nearest hl hh]

theorem stored_eq (hs : slot.length = kind.size) (v : NumericValue) : kind.stored? v slot = some (v.nearest low high) := by
  obtain ⟨hl, hh⟩ := nearest_bounds hk v
  obtain ⟨u, read, worth⟩ := read_worth (Bytes.length_ofNat _ _) (worth_wrap hk hl hh)
  rw [stored?, write_eq hk hs, Option.bind_some, read, Option.bind_some, integer_of_read hk read worth]

end slots

/-- Writing to an integer type saturates. The slot gets the two's complement of the integer of the type that is nearest to
    the whole part of the value, and of zero for a NaN; this integer is read back, and of two numbers the greater one does
    not give a smaller integer. -/
theorem write_saturates (hk : kind.bounds? = some (low, high)) :
    (∀ (v : NumericValue) (slot : Bytes), slot.length = kind.size →
      v.write kind slot = some (Bytes.ofNat kind.size (v.nearest low high % 2 ^ (8 * kind.size)).toNat) ∧
        kind.stored? v slot = some (v.nearest low high)) ∧
      ∀ (v v' : NumericValue) (slot slot' : Bytes) (w w' : Worth), slot.length = kind.size → slot'.length = kind.size →
        v.worth? = some w → v'.worth? = some w' → w.Le w' →
          ∃ n n', kind.stored? v slot = some n ∧ kind.stored? v' slot' = some n' ∧ n ≤ n' := by
  refine ⟨fun v slot hs => ⟨?_, stored_eq hk hs v⟩, fun v v' slot slot' w w' hs hs' hw hw' le => ?_⟩
  · rw [write_eq hk hs, NumericValue.wrap, Nat.pow_eq]
    norm_cast
  · obtain ⟨hl, hh⟩ := bounds_zero hk
    refine ⟨_, _, stored_eq hk hs v, stored_eq hk hs' v', ?_⟩
    simp only [NumericValue.nearest, hw, hw']
    exact Worth.nearest_mono (hl.trans hh) le

/-- One half below zero, and the first power of two that is beyond a word. -/
theorem write_saturates_beyondWord :
    let below : NumericValue := .float ⟨0xBFE0000000000000⟩
    let beyond : NumericValue := .float ⟨0x43F0000000000000⟩
    (below.worth? = some (.finite (-1 / 2)) ∧ beyond.worth? = some (.finite (2 ^ 64))) ∧
      below.write (.unsigned .w64) (List.replicate 8 7) = some (List.replicate 8 0) ∧
      beyond.write (.unsigned .w64) (List.replicate 8 7) = some (List.replicate 8 0xFF) ∧
      ∃ n n', (unsigned .w64).stored? below (List.replicate 8 7) = some n ∧
        (unsigned .w64).stored? beyond (List.replicate 8 7) = some n' ∧ n ≤ n' := by
  intro below beyond
  have worth : below.worth? = some (.finite (-1 / 2)) ∧ beyond.worth? = some (.finite (2 ^ 64)) := by decide +kernel
  have cut : below.nearest 0 (2 ^ 64 - 1) = 0 := by decide +kernel
  have moved : beyond.nearest 0 (2 ^ 64 - 1) = 2 ^ 64 - 1 := by decide +kernel
  obtain ⟨written, ordered⟩ := @write_saturates (.unsigned .w64) 0 (2 ^ 64 - 1) rfl
  have first := (written below (List.replicate 8 7) rfl).1
  have second := (written beyond (List.replicate 8 7) rfl).1
  rw [cut] at first
  rw [moved] at second
  refine ⟨worth, first.trans (by decide), second.trans (by decide), ?_⟩
  exact ordered below beyond _ _ _ _ rfl rfl worth.1 worth.2 (.finite (by norm_num))

end Numeric

end ArrayTransfer
