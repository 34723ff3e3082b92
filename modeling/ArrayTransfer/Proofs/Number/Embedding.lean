import ArrayTransfer.Proofs.Number.Worth

/-! Types that hold each number of another. Whether they do can be told by bounds and precision
    (`Numeric.embeds_iff_fits`). A number that is no NaN comes back from a type that holds it (`Numeric.encode_back`). -/

namespace ArrayTransfer

namespace Format
variable {f : Format} {n : Nat} {q : ℚ}

theorem exists_of_has (h : f.Regular) (has : f.Has q) :
    ∃ bits < 2 * f.signWeight, (f.decode bits).worth? = some (.finite q) := by
  obtain ⟨b, hb, amount⟩ := has
  refine ⟨f.withSign (q < 0) b, withSign_lt (Nat.lt_trans hb h.infinity_lt), ?_⟩
  rw [worth_withSign h hb, ← amount]
  unfold Worth.signed
  by_cases negative : q < 0
  · simp [negative, abs_of_neg negative]
  · simp [negative, abs_of_nonneg (not_lt.mp negative)]

theorem has_natCast_iff : f.Has n ↔ ∃ b < f.infinity, f.units b = n * Nat.pow 2 f.scale := by
  unfold Has amount
  refine exists_congr fun b => and_congr_right fun _ => ?_
  rw [abs_of_nonneg (Nat.cast_nonneg n), eq_div_iff (by positivity), eq_comm]
  norm_cast

/-- Integers within the precision are numbers of a format that has an exponent for them. -/
theorem has_of_le (room : f.scale + 3 ≤ Nat.pow 2 f.exponentBits - 1) (short : n ≤ 2 * f.fractions) : f.Has n := by
  have inRange : ∀ {b k : Nat}, b < (k + 2) * f.fractions → k ≤ f.scale + 1 → b < f.infinity := fun bound le =>
    Nat.lt_of_lt_of_le bound (Nat.mul_le_mul_right _ (by omega))
  obtain shorter | rfl := Nat.lt_or_eq_of_le short
  · obtain ⟨b, units, bound⟩ := exists_units shorter rfl
    exact has_natCast_iff.mpr ⟨b, inRange bound (Nat.le_succ _), units⟩
  · have carried : 2 * f.fractions * Nat.pow 2 f.scale = f.fractions * Nat.pow 2 (f.scale + 1) := by
      rw [Nat.mul_comm 2, Nat.mul_assoc, Nat.add_comm, pow_add]
    have pos := f.fractions_pos
    obtain ⟨b, units, bound⟩ := exists_units (f := f) (by omega) carried
    exact has_natCast_iff.mpr ⟨b, inRange bound (le_refl _), units⟩

/-- Of the integers beyond the precision, those that are odd are no numbers of the format. -/
theorem not_has_of_odd (odd : n % 2 = 1) (large : 2 * f.fractions ≤ n) : ¬f.Has n := by
  intro has
  obtain ⟨b, -, value⟩ := has_natCast_iff.mp has
  obtain ⟨short, -⟩ := f.significand_spec b
  unfold units at value
  -- in steps of at most one, the significand is as long as the integer; in longer steps the number is even
  obtain fine | coarse := le_or_gt (f.step b) f.scale
  · obtain ⟨d, scale⟩ := Nat.exists_eq_add_of_le fine
    rw [scale, Nat.add_comm, pow_add, ← Nat.mul_assoc] at value
    have whole : f.significand b = n * Nat.pow 2 d := Nat.eq_of_mul_eq_mul_right (pow_pos _) value
    have := Nat.le_mul_of_pos_right n (pow_pos d)
    omega
  · obtain ⟨d, step⟩ := Nat.exists_eq_add_of_lt coarse
    have step : f.step b = (d + 1) + f.scale := by omega
    rw [step, pow_add, ← Nat.mul_assoc] at value
    have even : f.significand b * Nat.pow 2 (d + 1) = n := Nat.eq_of_mul_eq_mul_right (pow_pos _) value
    have two : Nat.pow 2 1 = 2 := rfl
    rw [pow_add, ← Nat.mul_assoc, two] at even
    omega

end Format

namespace NumericValue

theorem wrap_lt (bits : Nat) (n : Int) : wrap bits n < Nat.pow 2 bits := by
  have pos : 0 < Nat.pow 2 bits := Format.pow_pos bits
  have := Int.emod_lt_of_pos n (Int.natCast_pos.mpr pos)
  unfold wrap
  omega

theorem signExtend_wrap {bits : Nat} {n : Int} (hb : 0 < bits) (low : -((Nat.pow 2 (bits - 1) : Nat) : Int) ≤ n)
    (high : n ≤ ((Nat.pow 2 (bits - 1) : Nat) : Int) - 1) : signExtend bits (wrap bits n) = n := by
  have two := two_mul_pow_pred hb
  obtain negative | positive := Int.lt_or_le n 0
  · have wrapped : n % (Nat.pow 2 bits : Nat) = n + (Nat.pow 2 bits : Nat) := by
      rw [← Int.add_emod_right, Int.emod_eq_of_lt (by omega) (by omega)]
    unfold signExtend wrap
    rw [wrapped, if_neg (by omega)]
    omega
  · unfold signExtend wrap
    rw [Int.emod_eq_of_lt positive (by omega), if_pos (by omega)]
    omega

end NumericValue

namespace Numeric
variable {kind k l : Numeric} {low high low' high' : Int} {f : Format} {b : Bytes} {w : Worth}

/-! ### The numbers of a type -/

/-- The upper bound of an integer type has all bits set, and the lower one is zero or as far below it. -/
theorem bounds_spec (hk : kind.bounds? = some (low, high)) :
    ∃ m : Nat, high = m ∧ m % 2 = 1 ∧ (low = 0 ∨ low = -high - 1) := by
  cases kind with
  | signed width =>
    cases hk
    cases width <;> exact ⟨_, rfl, by decide, .inr (by decide)⟩
  | unsigned width =>
    cases hk
    cases width <;> exact ⟨_, rfl, by decide, .inl rfl⟩
  | float32 | float64 => cases hk

/-- The two's complement of an integer between the bounds is worth it. -/
theorem worth_wrap (hk : kind.bounds? = some (low, high)) {n : Int} (hl : low ≤ n) (hh : n ≤ high) :
    kind.worth? (Bytes.ofNat kind.size (NumericValue.wrap (8 * kind.size) n)) = some (.finite n) := by
  cases kind with
  | signed width =>
    cases hk
    have pos : 0 < width.bits := by cases width <;> decide
    show some (Worth.finite (NumericValue.signExtend width.bits
      (Bytes.toNat (Bytes.ofNat width.bytes (NumericValue.wrap width.bits n))))) = _
    rw [Bytes.toNat_ofNat, NumericValue.pow_bytes, Nat.mod_eq_of_lt (NumericValue.wrap_lt _ _),
      NumericValue.signExtend_wrap pos hl hh]
  | unsigned width =>
    cases hk
    obtain ⟨m, rfl⟩ := Int.eq_ofNat_of_zero_le hl
    have bound : m < Nat.pow 2 width.bits := by omega
    show some (Worth.finite (Bytes.toNat (Bytes.ofNat width.bytes (NumericValue.wrap width.bits m)))) = _
    rw [Bytes.toNat_ofNat, NumericValue.pow_bytes, NumericValue.wrap_ofNat bound, Nat.mod_eq_of_lt bound, Int.cast_natCast]
  | float32 | float64 => cases hk

/-- The numbers of an integer type are the integers between its bounds. -/
theorem isValue_iff_bounds (hk : kind.bounds? = some (low, high)) :
    kind.IsValue w ↔ ∃ n : Int, w = .finite n ∧ low ≤ n ∧ n ≤ high := by
  constructor
  · rintro ⟨b, hl, hb⟩
    cases kind with
    | signed width =>
      cases hk
      cases hb
      have pos : 0 < width.bits := by cases width <;> decide
      exact ⟨_, rfl, NumericValue.signExtend_bounds pos (NumericValue.toNat_lt_bits width hl)⟩
    | unsigned width =>
      cases hk
      cases hb
      have bound := NumericValue.toNat_lt_bits width hl
      exact ⟨Bytes.toNat b, by norm_cast, by omega, by omega⟩
    | float32 | float64 => cases hk
  · rintro ⟨n, rfl, low, high⟩
    exact ⟨_, Bytes.length_ofNat _ _, worth_wrap hk low high⟩

/-- The numbers of a floating point type are those of its format. -/
theorem isValue_iff_format (hk : kind.format? = some f) :
    kind.IsValue w ↔ ∃ bits < 2 * f.signWeight, (f.decode bits).worth? = some w := by
  unfold IsValue
  simp only [worth_format hk]
  constructor
  · rintro ⟨b, hl, hb⟩
    refine ⟨_, ?_, hb⟩
    rw [← pow_size hk, ← hl]
    exact Bytes.toNat_lt b
  · rintro ⟨bits, bound, hw⟩
    exact ⟨_, Bytes.length_ofNat _ _, by rw [toNat_ofNat_format hk bound, hw]⟩

/-- The finite numbers of a floating point type. -/
theorem isValue_finite_iff {q : ℚ} (hk : kind.format? = some f) : kind.IsValue (.finite q) ↔ f.Has q := by
  rw [isValue_iff_format hk]
  constructor
  · rintro ⟨bits, -, hw⟩
    exact Format.has_of_worth hw
  · exact Format.exists_of_has (regular_format hk)

/-! ### Types that hold each number of another -/

/-- Each number of a type is one of another. -/
def Embeds (k l : Numeric) : Prop := ∀ w, k.IsValue w → l.IsValue w

theorem Embeds.refl (k : Numeric) : k.Embeds k := fun _ => id

theorem embeds_integer_integer (hk : k.bounds? = some (low, high)) (hl : l.bounds? = some (low', high')) :
    k.Embeds l ↔ low' ≤ low ∧ high ≤ high' := by
  have order : low ≤ high := by
    obtain ⟨m, rfl, -, lower⟩ := bounds_spec hk
    omega
  unfold Embeds
  simp only [isValue_iff_bounds hk, isValue_iff_bounds hl]
  constructor
  · intro h
    obtain ⟨n, same, lower, -⟩ := h _ ⟨low, rfl, le_refl _, order⟩
    obtain ⟨m, same', -, upper⟩ := h _ ⟨high, rfl, order, le_refl _⟩
    simp only [Worth.finite.injEq, Int.cast_inj] at same same'
    omega
  · rintro ⟨lower, upper⟩ w ⟨n, same, h1, h2⟩
    exact ⟨n, same, lower.trans h1, h2.trans upper⟩

/-- A format holds an integer type if it has the bits for its greatest number. -/
theorem embeds_integer_format (hk : k.bounds? = some (low, high)) (hl : l.format? = some f) :
    k.Embeds l ↔ high < (2 * f.fractions : Nat) := by
  obtain ⟨m, rfl, odd, lower⟩ := bounds_spec hk
  have room : f.scale + 3 ≤ Nat.pow 2 f.exponentBits - 1 := by cases l <;> cases hl <;> decide
  constructor
  · intro h
    have value := h (.finite m) ((isValue_iff_bounds hk).mpr ⟨m, by norm_cast, by omega, le_refl _⟩)
    by_contra long
    refine Format.not_has_of_odd odd ?_ ((isValue_finite_iff hl).mp value)
    omega
  · intro short w value
    obtain ⟨n, rfl, low, high⟩ := (isValue_iff_bounds hk).mp value
    have has : f.Has n.natAbs := Format.has_of_le room (by omega)
    refine (isValue_finite_iff hl).mpr ?_
    unfold Format.Has at has ⊢
    rwa [Nat.cast_natAbs, Int.cast_abs, abs_abs] at has

/-- No integer is an infinity. -/
theorem not_embeds_format_integer (hk : k.format? = some f) (hl : l.bounds? = some (low, high)) : ¬k.Embeds l := by
  intro h
  have infinite : k.IsValue (.infinite false) := (isValue_iff_format hk).mpr
    ⟨f.withSign false f.infinity, Format.withSign_lt (regular_format hk).infinity_lt, by
      rw [Format.decode_withSign_infinity (regular_format hk)]
      rfl⟩
  obtain ⟨n, same, -⟩ := (isValue_iff_bounds hl).mp (h _ infinite)
  cases same

theorem embeds_single_double : float32.Embeds float64 := by
  intro w value
  obtain ⟨bits, -, hw⟩ := (isValue_iff_format rfl).mp value
  obtain ⟨same, bound⟩ := Format.single_within_double.worth_cast hw
  exact (isValue_iff_format rfl).mpr ⟨_, bound, same⟩

/-- The smallest double is less than each positive number of single precision. -/
theorem not_embeds_double_single : ¬float64.Embeds float32 := by
  intro h
  have smallest : Format.double.Has (Format.double.amount 1) :=
    ⟨1, by decide, abs_of_nonneg (Format.amount_nonneg _ _)⟩
  obtain ⟨b, -, amount⟩ := (isValue_finite_iff rfl).mp (h _ ((isValue_finite_iff rfl).mpr smallest))
  have nonzero : ∀ n : Nat, (2 : ℚ) ^ n ≠ 0 := fun n => pow_ne_zero n two_ne_zero
  rw [abs_of_nonneg (Format.amount_nonneg _ _), Format.amount, Format.amount,
    div_eq_div_iff (nonzero _) (nonzero _)] at amount
  have value : Format.double.units 1 * 2 ^ Format.single.scale = Format.single.units b * 2 ^ Format.double.scale := by
    exact_mod_cast amount
  have one : Format.double.units 1 = 1 := by decide
  have finer : 2 ^ Format.single.scale < 2 ^ Format.double.scale := Nat.pow_lt_pow_right (by decide) (by decide)
  rw [one, Nat.one_mul] at value
  obtain zero | pos := Nat.eq_zero_or_pos (Format.single.units b)
  · rw [zero, Nat.zero_mul] at value
    exact absurd value (Nat.ne_of_gt (Nat.two_pow_pos _))
  · have := Nat.le_mul_of_pos_left (2 ^ Format.double.scale) pos
    omega

/-- Whether each number of a type is one of another, by bounds and precision. -/
def fits (k l : Numeric) : Bool :=
  match k.bounds?, l.bounds? with
  | some (low, high), some (low', high') => low' ≤ low && high ≤ high'
  | some (_, high), none => (l.format?).any fun f => high < (2 * f.fractions : Nat)
  | none, some _ => false
  | none, none => k = l || l = .float64

theorem exists_format (h : k.bounds? = none) : ∃ f, k.format? = some f := by
  cases k with
  | signed | unsigned => cases h
  | float32 | float64 => exact ⟨_, rfl⟩

theorem embeds_iff_fits (k l : Numeric) : k.Embeds l ↔ k.fits l = true := by
  cases hk : k.bounds? with
  | some bounds =>
    cases hl : l.bounds? with
    | some bounds' =>
      rw [embeds_integer_integer hk hl]
      simp [fits, hk, hl]
    | none =>
      obtain ⟨f, format⟩ := exists_format hl
      rw [embeds_integer_format hk format]
      simp [fits, hk, hl, format]
  | none =>
    obtain ⟨f, format⟩ := exists_format hk
    cases hl : l.bounds? with
    | some bounds' =>
      have outside := not_embeds_format_integer format hl
      simp [fits, hk, hl, outside]
    | none =>
      simp only [fits, hk, hl]
      cases k with
      | signed | unsigned => cases hk
      | float32 =>
        cases l with
        | signed | unsigned => cases hl
        | float32 => simpa using Embeds.refl _
        | float64 => simpa using embeds_single_double
      | float64 =>
        cases l with
        | signed | unsigned => cases hl
        | float32 => simpa using not_embeds_double_single
        | float64 => simpa using Embeds.refl _

instance (k l : Numeric) : Decidable (k.Embeds l) := decidable_of_iff _ (embeds_iff_fits k l).symm

example : (signed .w32).Embeds float64 ∧ ¬(unsigned .w32).Embeds float32 ∧
    ¬(unsigned .w64).Embeds (signed .w64) := by decide

/-- Of different types, only double precision holds one that is no integer type. -/
theorem single_double_of_embeds (hk : k.isInteger = false) (ne : k ≠ l) (h : k.Embeds l) : k = .float32 ∧ l = .float64 := by
  rw [embeds_iff_fits] at h
  cases k with
  | signed | unsigned => cases hk
  | float32 =>
    cases l with
    | signed | unsigned => cases h
    | float32 => exact absurd rfl ne
    | float64 => exact ⟨rfl, rfl⟩
  | float64 =>
    cases l with
    | signed | unsigned => cases h
    | float32 => cases h
    | float64 => exact absurd rfl ne

/-- A number written to a type that holds it, read from there and written back is the number again. -/
theorem encode_back (ne : k ≠ l) (h : k.Embeds l) (hb : b.length = k.size) (number : k.worth? b ≠ none) :
    ∃ v u, NumericValue.read k b = some v ∧ NumericValue.read l (v.encode l) = some u ∧ u.encode k = b := by
  obtain ⟨w, hw⟩ := Option.ne_none_iff_exists'.mp number
  cases integer : k.isInteger with
  | true =>
    obtain ⟨v, read, hv⟩ := read_worth hb hw
    obtain ⟨u, read', hu⟩ := read_worth (NumericValue.length_encode _ _) (worth_encode hv (h w ⟨b, hb, hw⟩))
    exact ⟨v, u, read, read', encode_eq integer hb hu hw⟩
  | false =>
    -- their worth does not tell the zeros apart, so the one pair that is left is followed by its bits
    obtain ⟨rfl, rfl⟩ := single_double_of_embeds integer ne h
    exact ⟨_, _, NumericValue.read_eq hb, NumericValue.read_encode_double _,
      NumericValue.encode_float32 hb (Format.isCanonical_of_worth number)⟩

end Numeric

end ArrayTransfer
