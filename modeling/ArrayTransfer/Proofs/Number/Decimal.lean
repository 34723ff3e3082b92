import ArrayTransfer.Number.Decimal
import ArrayTransfer.Proofs.Number.Ieee

/-! Decimals and doubles. Decimals of one value round to the same pattern (`Decimal.magnitude_shift`), and a decimal that
    rounds to a pattern between zero and infinity is read as it (`Decimal.toDouble?_of_magnitude`). The shortest
    decimal of a double rounds back to it (`Double.magnitude_shortest`): the finest of the grids that are tried is so
    fine that the number above the double is nearer to it than half a step. -/

namespace ArrayTransfer

namespace Decimal
variable {d : Decimal} {b n : Nat}

theorem pow_pos (n : Nat) : 0 < Nat.pow 10 n := Nat.pow_pos (by decide)

theorem pow_add (a b : Nat) : Nat.pow 10 (a + b) = Nat.pow 10 a * Nat.pow 10 b := Nat.pow_add 10 a b

/-! ### Numbers of digits -/

theorem digitCount_pos (n : Nat) : 0 < digitCount n := Nat.length_toDigits_pos

theorem lt_pow_digitCount (n : Nat) : n < Nat.pow 10 (digitCount n) :=
  (Nat.length_toDigits_le_iff (by decide) (digitCount_pos n)).mp (Nat.le_refl _)

theorem pow_le_of_ne_zero (hn : n ≠ 0) : Nat.pow 10 (digitCount n - 1) ≤ n := by
  rcases Nat.lt_or_ge 1 (digitCount n) with h | h
  · rw [← Nat.not_lt]
    intro hlt
    have := (Nat.length_toDigits_le_iff (b := 10) (by decide) (Nat.sub_pos_of_lt h)).mpr hlt
    unfold digitCount at h this
    omega
  · have one : digitCount n - 1 = 0 := by omega
    rw [one]
    exact Nat.pos_of_ne_zero hn

/-! ### Values -/

/-- Zeros can go from the digits to the exponent. -/
theorem magnitude_shift (n k : Nat) (e : Int) : magnitude ⟨n * Nat.pow 10 k, e⟩ = magnitude ⟨n, e + k⟩ := by
  unfold magnitude
  refine Format.round_congr (pow_pos _) (pow_pos _) ?_
  have powers : k + (e.toNat + (-(e + k)).toNat) = (e + k).toNat + (-e).toNat := by omega
  rw [Nat.mul_assoc, Nat.mul_assoc, ← pow_add, ← pow_add, powers, pow_add, Nat.mul_assoc]

theorem magnitude_zero (e : Int) : magnitude ⟨0, e⟩ = 0 := by
  have low : Format.double.units 0 = 0 := by decide
  refine Format.round_of_units (by decide) (pow_pos _) (Nat.zero_le _) ?_
  rw [low, Nat.zero_mul, Nat.zero_mul, Nat.mul_zero]

theorem magnitude_of_small (h : d.exponent + digitCount d.digits < -400) : d.magnitude = 0 := by
  have low : Format.double.units 0 = 0 := by decide
  have step : Nat.pow 2 (Format.double.step 0) = 1 := by decide
  have up : d.exponent.toNat = 0 := by omega
  have one : Nat.pow 10 0 = 1 := rfl
  obtain ⟨far, hfar, scale⟩ : ∃ far ≤ 400, 2 * Nat.pow 2 Format.double.scale ≤ Nat.pow 10 far :=
    ⟨400, by decide, by decide +kernel⟩
  have down : (-d.exponent).toNat = digitCount d.digits + (far + ((-d.exponent).toNat - digitCount d.digits - far)) := by
    omega
  have digits := lt_pow_digitCount d.digits
  unfold magnitude
  refine Format.round_of_near (by decide) (Nat.zero_le _) (by rw [low, Nat.mul_zero]; exact Nat.zero_le _) ?_
  rw [low, step, up, one, Nat.mul_zero, Nat.sub_zero, Nat.mul_one, Nat.mul_one, down, pow_add, pow_add,
    Nat.mul_left_comm]
  refine Nat.lt_of_lt_of_le ((Nat.mul_lt_mul_right (Nat.mul_pos (by decide) (Format.pow_pos _))).mpr digits) ?_
  refine Nat.mul_le_mul_left _ (Nat.le_trans scale ?_)
  exact Nat.le_mul_of_pos_right _ (pow_pos _)

theorem magnitude_of_large (hd : d.digits ≠ 0) (h : 400 < d.exponent + digitCount d.digits) :
    d.magnitude = Format.double.infinity := by
  obtain ⟨far, hfar, scale⟩ : ∃ far ≤ 400,
      Format.double.units Format.double.infinity ≤ Nat.pow 10 far * Nat.pow 2 Format.double.scale :=
    ⟨400, by decide, by decide +kernel⟩
  have digits := pow_le_of_ne_zero hd
  have count := digitCount_pos d.digits
  have large : Nat.pow 10 (-d.exponent).toNat * Nat.pow 10 far ≤ d.digits * Nat.pow 10 d.exponent.toNat := by
    rw [← pow_add]
    refine Nat.le_trans ?_ (Nat.mul_le_mul_right _ digits)
    rw [← pow_add]
    exact Nat.pow_le_pow_right (by decide) (by omega)
  refine Nat.le_antisymm (Format.round_le_infinity ..)
    (Format.le_round (by decide) (pow_pos _) (Nat.le_refl _) ?_)
  calc Nat.pow 10 (-d.exponent).toNat * Format.double.units Format.double.infinity
    _ ≤ Nat.pow 10 (-d.exponent).toNat * (Nat.pow 10 far * Nat.pow 2 Format.double.scale) := Nat.mul_le_mul_left _ scale
    _ = Nat.pow 10 (-d.exponent).toNat * Nat.pow 10 far * Nat.pow 2 Format.double.scale := (Nat.mul_assoc ..).symm
    _ ≤ d.digits * Nat.pow 10 d.exponent.toNat * Nat.pow 2 Format.double.scale := Nat.mul_le_mul_right _ large

/-- A decimal that rounds to a pattern other than zero and infinity is read as that double. -/
theorem toDouble?_of_magnitude {negative : Bool} (hb : d.magnitude = b) (h0 : b ≠ 0) (hinf : b ≠ Format.double.infinity) :
    toDouble? negative d = some ⟨UInt64.ofNat (Format.double.withSign negative b)⟩ := by
  have digits : d.digits ≠ 0 := by
    intro hd
    have zero : d = ⟨0, d.exponent⟩ := by rw [← hd]
    rw [zero, magnitude_zero] at hb
    exact h0 hb.symm
  have low : ¬(d.digits = 0 ∨ d.exponent + digitCount d.digits < -400) := by
    rintro (hd | hd)
    · exact digits hd
    · exact h0 (hb.symm.trans (magnitude_of_small hd))
  have high : ¬400 < d.exponent + digitCount d.digits := fun hd => hinf (hb.symm.trans (magnitude_of_large digits hd))
  unfold toDouble?
  simp only [low, high, hb, hinf, if_false]

/-! ### Orders of magnitude -/

theorem digitCount_of_lt_ten (hn : n < 10) : digitCount n = 1 := by
  rw [digitCount, Nat.toDigits_of_lt_base hn]
  rfl

variable {num den : Nat} {e : Int}

/-- A quotient has at least the order that the numbers of digits say, but for one. -/
theorem order_le (hn : 0 < num) (hd : 0 < den)
    (he : e = (digitCount (num / den) : Int) - digitCount (den / num) - 1) :
    den * Nat.pow 10 e.toNat ≤ num * Nat.pow 10 (-e).toNat := by
  rcases Nat.lt_or_ge num den with hlt | hge
  · have zero : num / den = 0 := Nat.div_eq_of_lt hlt
    rw [zero, digitCount_of_lt_ten (by decide)] at he
    have up : e.toNat = 0 := by omega
    have down : (-e).toNat = digitCount (den / num) := by omega
    have one : Nat.pow 10 0 = 1 := rfl
    rw [up, down, one, Nat.mul_one]
    have next : den < num * (den / num + 1) := Nat.lt_mul_div_succ den hn
    exact Nat.le_trans (Nat.le_of_lt next) (Nat.mul_le_mul_left _ (lt_pow_digitCount (den / num)))
  · have small : den / num < 10 := by
      have : den / num ≤ 1 := Nat.div_le_of_le_mul (by omega)
      omega
    rw [digitCount_of_lt_ten small] at he
    have quotient : num / den ≠ 0 := Nat.ne_of_gt (Nat.div_pos hge hd)
    have up : e.toNat ≤ digitCount (num / den) - 1 := by omega
    calc den * Nat.pow 10 e.toNat
      _ ≤ den * (num / den) :=
        Nat.mul_le_mul_left _ (Nat.le_trans (Nat.pow_le_pow_right (by decide) up) (pow_le_of_ne_zero quotient))
      _ ≤ num := Nat.mul_div_le num den
      _ ≤ num * Nat.pow 10 (-e).toNat := Nat.le_mul_of_pos_right _ (pow_pos _)

theorem order_shift {k : Nat} (h : den * Nat.pow 10 e.toNat ≤ num * Nat.pow 10 (-e).toNat) :
    den * Nat.pow 10 (e - k).toNat * Nat.pow 10 k ≤ num * Nat.pow 10 (-(e - k)).toNat := by
  apply Nat.le_of_mul_le_mul_right _ (pow_pos (-e).toNat)
  have powers : (e - k).toNat + k + (-e).toNat = e.toNat + (-(e - k)).toNat := by omega
  have grown := Nat.mul_le_mul_right (Nat.pow 10 (-(e - k)).toNat) h
  calc den * Nat.pow 10 (e - k).toNat * Nat.pow 10 k * Nat.pow 10 (-e).toNat
    _ = den * Nat.pow 10 e.toNat * Nat.pow 10 (-(e - k)).toNat := by
      rw [Nat.mul_assoc, Nat.mul_assoc, Nat.mul_assoc, ← pow_add, ← pow_add, ← pow_add, ← Nat.add_assoc, powers]
    _ ≤ num * Nat.pow 10 (-e).toNat * Nat.pow 10 (-(e - k)).toNat := grown
    _ = num * Nat.pow 10 (-(e - k)).toNat * Nat.pow 10 (-e).toNat := Nat.mul_right_comm ..

/-- The arithmetic of a grid with twenty digits below the order of a number: the next number above is nearer than half a
    step, since a step has more than seventeen digits of the number above it. -/
theorem near_of_fine {units step scale up down below : Nat} (hd : 0 < den) (hdown : 0 < down)
    (value : num * scale = den * units) (short : units < Nat.pow 2 53 * step)
    (above : num * down < den * up * (below + 1)) (close : den * up * below ≤ num * down)
    (fine : den * up * Nat.pow 10 20 ≤ num * down) :
    down * units ≤ (below + 1) * up * scale ∧ 2 * ((below + 1) * up * scale - down * units) < down * step := by
  -- both sides times the denominator
  have exact : den * (down * units) = num * down * scale := by
    rw [Nat.mul_left_comm, ← value]
    ac_rfl
  have scaled : den * ((below + 1) * up * scale) = den * up * (below + 1) * scale := by ac_rfl
  have low : down * units ≤ (below + 1) * up * scale := by
    apply Nat.le_of_mul_le_mul_left _ hd
    rw [exact, scaled]
    exact Nat.mul_le_mul_right _ (Nat.le_of_lt above)
  have distance : (below + 1) * up * scale - down * units ≤ up * scale := by
    rw [Nat.sub_le_iff_le_add]
    apply Nat.le_of_mul_le_mul_left _ hd
    rw [Nat.mul_add, exact, scaled, ← Nat.mul_assoc, ← Nat.add_mul]
    refine Nat.mul_le_mul_right _ ?_
    rw [Nat.mul_succ]
    omega
  have digits : up * scale * Nat.pow 10 20 ≤ down * units := by
    apply Nat.le_of_mul_le_mul_left _ hd
    rw [exact]
    have grown := Nat.mul_le_mul_right scale fine
    calc den * (up * scale * Nat.pow 10 20)
      _ = den * up * Nat.pow 10 20 * scale := by ac_rfl
      _ ≤ num * down * scale := grown
  have bits : 2 * (up * scale) * Nat.pow 2 53 < down * step * Nat.pow 2 53 := by
    have wide : 2 * Nat.pow 2 53 ≤ Nat.pow 10 20 := by decide
    calc 2 * (up * scale) * Nat.pow 2 53
      _ = up * scale * (2 * Nat.pow 2 53) := by ac_rfl
      _ ≤ up * scale * Nat.pow 10 20 := Nat.mul_le_mul_left _ wide
      _ ≤ down * units := digits
      _ < down * (Nat.pow 2 53 * step) := (Nat.mul_lt_mul_left hdown).mpr short
      _ = down * step * Nat.pow 2 53 := by ac_rfl
  have half : 2 * (up * scale) < down * step := Nat.lt_of_mul_lt_mul_right bits
  exact ⟨low, Nat.lt_of_le_of_lt (Nat.mul_le_mul_left 2 distance) half⟩

/-- On a grid with twenty digits below the order of a double, the next number above it rounds to it. -/
theorem magnitude_above (hd : 0 < den) (hb : b ≤ Format.double.infinity)
    (value : num * Nat.pow 2 Format.double.scale = den * Format.double.units b)
    (fine : den * Nat.pow 10 e.toNat * Nat.pow 10 20 ≤ num * Nat.pow 10 (-e).toNat) :
    magnitude ⟨num * Nat.pow 10 (-e).toNat / (den * Nat.pow 10 e.toNat) + 1, e⟩ = b := by
  have cell : 0 < den * Nat.pow 10 e.toNat := Nat.mul_pos hd (pow_pos _)
  have short : Format.double.units b < Nat.pow 2 53 * Nat.pow 2 (Format.double.step b) :=
    (Nat.mul_lt_mul_right (Format.pow_pos _)).mpr (Format.double.significand_spec b).1
  obtain ⟨low, near⟩ := near_of_fine hd (pow_pos _) value short (Nat.lt_mul_div_succ _ cell) (Nat.mul_div_le _ _) fine
  exact Format.round_of_near (by decide) hb low near

theorem magnitude_stripZeros (fuel : Nat) (d : Decimal) : (stripZeros fuel d).magnitude = d.magnitude := by
  induction fuel generalizing d with
  | zero => rfl
  | succ fuel ih =>
    rw [stripZeros]
    split
    · rename_i h
      have tens : d = ⟨d.digits / 10 * Nat.pow 10 1, d.exponent⟩ := by
        have : d.digits / 10 * Nat.pow 10 1 = d.digits := Nat.div_mul_cancel (Nat.dvd_of_mod_eq_zero h.2)
        rw [this]
      rw [ih]
      conv => rhs; rw [tens]
      exact (magnitude_shift (d.digits / 10) 1 d.exponent).symm
    · rfl

end Decimal

/-! ### Shortest decimals -/

namespace Double
variable {b num den : Nat} {e : Int} {d : Decimal} {x : Double}

theorem magnitude_onGrid? (h : onGrid? b num den e = some d) : d.magnitude = b := by
  simp only [onGrid?] at h
  split at h
  · rename_i below
    split at h
    · rename_i above
      cases h
      exact above.2
    · cases h
      exact below
  · split at h
    · rename_i above
      cases h
      exact above
    · cases h

theorem onGrid?_of_above
    (h : Decimal.magnitude ⟨num * Nat.pow 10 (-e).toNat / (den * Nat.pow 10 e.toNat) + 1, e⟩ = b) :
    ∃ d, onGrid? b num den e = some d := by
  simp only [onGrid?, h, if_true]
  split
  · split <;> exact ⟨_, rfl⟩
  · exact ⟨_, rfl⟩

theorem magnitude_coarsest? {fuel : Nat} (h : coarsest? b num den fuel e = some d) : d.magnitude = b := by
  induction fuel generalizing e with
  | zero => cases h
  | succ fuel ih =>
    rw [coarsest?] at h
    cases hit : onGrid? b num den e with
    | some d' =>
      rw [hit] at h
      cases h
      exact magnitude_onGrid? hit
    | none =>
      rw [hit] at h
      exact ih h

/-- The search comes to a grid within its fuel on which there is a hit. -/
theorem coarsest?_of_onGrid? {fuel k : Nat} (hk : k < fuel) (h : ∃ d, onGrid? b num den (e - k) = some d) :
    ∃ d, coarsest? b num den fuel e = some d := by
  induction fuel generalizing e k with
  | zero => omega
  | succ fuel ih =>
    rw [coarsest?]
    cases hit : onGrid? b num den e with
    | some d => exact ⟨d, rfl⟩
    | none =>
      cases k with
      | zero =>
        obtain ⟨d, hd⟩ := h
        rw [Int.natCast_zero, Int.sub_zero, hit] at hd
        cases hd
      | succ k =>
        refine ih (k := k) (by omega) ?_
        have next : e - 1 - (k : Int) = e - ((k + 1 : Nat) : Int) := by omega
        rwa [next]

/-- The shortest decimal of a double rounds to the double. -/
theorem magnitude_shortest (h0 : Format.double.magnitude x.bits.toNat ≠ 0)
    (hfin : Format.double.magnitude x.bits.toNat < Format.double.infinity) :
    x.shortest.magnitude = Format.double.magnitude x.bits.toNat := by
  obtain ⟨m, e, datum, value⟩ := Format.decode_finite hfin
  have den_pos : 0 < Nat.pow 2 (-e).toNat := Format.pow_pos _
  have num_pos : 0 < m * Nat.pow 2 e.toNat := by
    apply Nat.pos_of_ne_zero
    intro h
    rw [h, Nat.zero_mul] at value
    exact Nat.ne_of_lt (Nat.mul_pos den_pos (Format.units_pos (Nat.pos_of_ne_zero h0))) value
  have hm : m ≠ 0 := Nat.ne_of_gt (Nat.pos_of_mul_pos_right num_pos)
  unfold shortest Double.datum
  rw [datum]
  simp only [hm, if_false]
  rw [Decimal.magnitude_stripZeros]
  generalize Nat.pow 2 (-e).toNat = den at *
  generalize m * Nat.pow 2 e.toNat = num at *
  obtain ⟨order, horder⟩ : ∃ order : Int, order = Decimal.digitCount (num / den) - Decimal.digitCount (den / num) :=
    ⟨_, rfl⟩
  have fine := Decimal.order_shift (k := 20) (Decimal.order_le num_pos den_pos (e := order - 1) (by rw [horder]))
  have above := Decimal.magnitude_above den_pos (Nat.le_of_lt hfin) value fine
  have grid : order - 1 - ((20 : Nat) : Int) = order + 2 - ((23 : Nat) : Int) := by omega
  rw [grid] at above
  obtain ⟨d, hd⟩ := coarsest?_of_onGrid? (show 23 < 24 by decide) (onGrid?_of_above above)
  rw [← horder, hd]
  exact magnitude_coarsest? hd

end Double

end ArrayTransfer
