import ArrayTransfer.Proofs.Number.Rounding

/-! What patterns denote, and casts between formats. A format lies within another if each of its numbers is one of the
    other. A cast to the wider format is then exact, and the cast back gives the pattern again
    (`Within.cast_cast`). -/

namespace ArrayTransfer.Format

/-- A format with the bits that a quiet NaN and an exponent need. -/
structure Regular (f : Format) : Prop where
  precision : 2 ≤ f.precision
  exponentBits : 2 ≤ f.exponentBits

/-- Each number of `f` is one of `g`. -/
structure Within (f g : Format) : Prop where
  ne : f ≠ g
  inner : f.Regular
  outer : g.Regular
  precision : f.precision ≤ g.precision
  scale : f.scale ≤ g.scale
  range : Nat.pow 2 f.exponentBits + (g.scale - f.scale) ≤ Nat.pow 2 g.exponentBits

/-- The quiet NaN without a sign or a payload. -/
def canonicalNaN (f : Format) : Nat := f.infinity + f.quietBit

/-- A pattern that is no NaN, or the canonical one. -/
def IsCanonical (f : Format) (bits : Nat) : Prop := f.magnitude bits ≤ f.infinity ∨ bits = f.canonicalNaN

theorem regular_single : single.Regular := ⟨by decide, by decide⟩

theorem regular_double : double.Regular := ⟨by decide, by decide⟩

theorem single_within_double : single.Within double :=
  ⟨by decide, regular_single, regular_double, by decide, by decide, by decide⟩

variable {f g : Format} {bits b n : Nat} {negative : Bool}

theorem Regular.one_le (h : f.Regular) : 1 ≤ f.precision := Nat.le_of_succ_le h.precision

/-! ### Signs -/

theorem Regular.signWeight_eq (h : f.Regular) : f.signWeight = f.infinity + f.fractions := by
  have split : f.exponentBits + f.precision - 1 = f.exponentBits + (f.precision - 1) := by
    have := h.precision
    omega
  have pos := pow_pos f.exponentBits
  unfold signWeight infinity fractions
  rw [split, pow_add, ← Nat.succ_mul, Nat.succ_eq_add_one, Nat.sub_add_cancel pos]

theorem Regular.infinity_lt (h : f.Regular) : f.infinity < f.signWeight := by
  rw [h.signWeight_eq]
  exact Nat.lt_add_of_pos_right f.fractions_pos

theorem signWeight_pos (f : Format) : 0 < f.signWeight := pow_pos _

theorem withSign_lt (hb : b < f.signWeight) : f.withSign negative b < 2 * f.signWeight := by
  unfold withSign
  split <;> omega

theorem magnitude_withSign (hb : b < f.signWeight) : f.magnitude (f.withSign negative b) = b := by
  unfold magnitude withSign
  split
  · rw [Nat.add_mod_left, Nat.mod_eq_of_lt hb]
  · exact Nat.mod_eq_of_lt hb

theorem isNegative_withSign (hb : b < f.signWeight) : f.isNegative (f.withSign negative b) = negative := by
  unfold isNegative withSign
  cases negative with
  | false => simp [Nat.div_eq_of_lt hb]
  | true => simp [Nat.add_div_left b f.signWeight_pos, Nat.div_eq_of_lt hb]

theorem withSign_magnitude (hb : bits < 2 * f.signWeight) :
    f.withSign (f.isNegative bits) (f.magnitude bits) = bits := by
  have hd := Nat.div_add_mod bits f.signWeight
  have hq : bits / f.signWeight < 2 := Nat.div_lt_of_lt_mul (by rw [Nat.mul_comm]; exact hb)
  unfold withSign isNegative magnitude
  rcases Nat.eq_zero_or_pos (bits / f.signWeight) with h0 | h0
  · rw [h0, Nat.mul_zero] at hd
    simp only [h0]
    simp
    omega
  · have h1 : bits / f.signWeight = 1 := by omega
    rw [h1, Nat.mul_one] at hd
    simp only [h1]
    simp
    omega

/-! ### What a pattern denotes -/

theorem decode_nan (h : f.infinity < f.magnitude bits) : f.decode bits = .nan := by
  unfold decode
  simp only [if_pos h]

theorem isCanonical_of_decode (h : f.decode bits ≠ .nan) : f.IsCanonical bits :=
  .inl (Nat.not_lt.mp fun above => h (decode_nan above))

theorem decode_infinite (h : f.magnitude bits = f.infinity) : f.decode bits = .infinite (f.isNegative bits) := by
  unfold decode
  simp only [h, Nat.lt_irrefl, if_false, if_true]

/-- A pattern below infinity denotes its units, times the smallest number. -/
theorem decode_finite (h : f.magnitude bits < f.infinity) :
    ∃ m e, f.decode bits = .finite (f.isNegative bits) m e ∧
      m * Nat.pow 2 e.toNat * Nat.pow 2 f.scale = Nat.pow 2 (-e).toNat * f.units (f.magnitude bits) := by
  have parts := Nat.div_add_mod (f.magnitude bits) f.fractions
  unfold decode
  simp only [if_neg (Nat.not_lt.mpr (Nat.le_of_lt h)), if_neg (Nat.ne_of_lt h)]
  rcases Nat.eq_zero_or_pos (f.magnitude bits / f.fractions) with h0 | h0
  · rw [if_pos h0]
    refine ⟨_, _, rfl, ?_⟩
    rw [h0, Nat.mul_zero, Nat.zero_add] at parts
    have step : f.step (f.magnitude bits) = 0 := by simp [step, h0]
    have up : (-(f.scale : Int)).toNat = 0 := by omega
    have down : (- -(f.scale : Int)).toNat = f.scale := by omega
    have one : Nat.pow 2 0 = 1 := rfl
    rw [up, down, parts, units, significand, step, one]
    simp [Nat.mul_comm]
  · rw [if_neg (Nat.ne_of_gt h0)]
    refine ⟨_, _, rfl, ?_⟩
    obtain ⟨k, hk⟩ := Nat.exists_eq_succ_of_ne_zero (Nat.ne_of_gt h0)
    have step : f.step (f.magnitude bits) = k := by simp [step, hk]
    have significand : f.significand (f.magnitude bits) = f.fractions + f.magnitude bits % f.fractions := by
      rw [hk, Nat.mul_succ, Nat.mul_comm] at parts
      rw [significand, step]
      omega
    rw [units, step, significand, hk, Nat.mul_assoc, ← pow_add, Nat.mul_left_comm, ← pow_add]
    congr 2
    omega

theorem infinity_lt_of_decode_nan (h : f.decode bits = .nan) : f.infinity < f.magnitude bits := by
  rcases Nat.lt_trichotomy (f.magnitude bits) f.infinity with below | equal | above
  · obtain ⟨m, e, datum, -⟩ := decode_finite below
    cases datum.symm.trans h
  · cases (decode_infinite equal).symm.trans h
  · exact above

theorem decode_withSign_infinity (h : f.Regular) (negative : Bool) :
    f.decode (f.withSign negative f.infinity) = .infinite negative := by
  rw [decode_infinite (magnitude_withSign h.infinity_lt), isNegative_withSign h.infinity_lt]

/-! ### Casts -/

theorem Within.cast_infinite (h : f.Within g) (hb : f.magnitude bits = f.infinity) :
    f.cast g bits = g.withSign (f.isNegative bits) g.infinity := by
  unfold cast
  rw [if_neg h.ne, decode_infinite hb]

/-- A finite number of the inner format is the same number of the outer one. -/
theorem Within.cast_finite (h : f.Within g) (hb : f.magnitude bits < f.infinity) :
    ∃ wide, wide < g.infinity ∧ f.cast g bits = g.withSign (f.isNegative bits) wide ∧
      g.units wide = f.units (f.magnitude bits) * Nat.pow 2 (g.scale - f.scale) := by
  obtain ⟨hm, -⟩ := f.significand_spec (f.magnitude bits)
  have fractions : f.fractions ≤ g.fractions :=
    Nat.pow_le_pow_right (by decide) (Nat.sub_le_sub_right h.precision 1)
  have split : f.units (f.magnitude bits) * Nat.pow 2 (g.scale - f.scale) =
      f.significand (f.magnitude bits) * Nat.pow 2 (f.step (f.magnitude bits) + (g.scale - f.scale)) := by
    rw [pow_add, ← Nat.mul_assoc]
    rfl
  obtain ⟨wide, units, bound⟩ := exists_units (f := g) (by omega) split
  have inRange : wide < g.infinity := by
    have order : f.magnitude bits / f.fractions < Nat.pow 2 f.exponentBits - 1 := by
      rw [Nat.div_lt_iff_lt_mul f.fractions_pos]
      exact hb
    have range := h.range
    refine Nat.lt_of_lt_of_le bound (Nat.mul_le_mul_right _ ?_)
    have four : 4 ≤ Nat.pow 2 f.exponentBits :=
      @Nat.pow_le_pow_right 2 (by decide) 2 _ h.inner.exponentBits
    show f.magnitude bits / f.fractions - 1 + (g.scale - f.scale) + 2 ≤ Nat.pow 2 g.exponentBits - 1
    omega
  refine ⟨wide, inRange, ?_, units⟩
  obtain ⟨m, e, datum, value⟩ := decode_finite hb
  unfold cast
  rw [if_neg h.ne, datum]
  simp only
  rw [round_of_units h.outer.one_le (pow_pos _) (Nat.le_of_lt inRange)]
  have scale : g.scale = f.scale + (g.scale - f.scale) := by
    have := h.scale
    omega
  rw [scale, pow_add, ← Nat.mul_assoc, value, Nat.mul_assoc, ← units]

/-- The cast to an outer format is undone by the cast back, unless the pattern is a NaN. -/
theorem Within.cast_cast (h : f.Within g) (hb : bits < 2 * f.signWeight) (hn : f.magnitude bits ≤ f.infinity) :
    g.cast f (f.cast g bits) = bits := by
  have back := withSign_magnitude hb
  rcases Nat.eq_or_lt_of_le hn with hinf | hfin
  · rw [h.cast_infinite hinf]
    unfold cast
    rw [if_neg h.ne.symm, decode_withSign_infinity h.outer]
    simp only
    rw [← hinf, back]
  · obtain ⟨wide, inRange, cast, units⟩ := h.cast_finite hfin
    have outer : wide < g.signWeight := Nat.lt_trans inRange h.outer.infinity_lt
    rw [cast]
    have mag : g.magnitude (g.withSign (f.isNegative bits) wide) = wide := magnitude_withSign outer
    have finite : g.magnitude (g.withSign (f.isNegative bits) wide) < g.infinity := by rwa [mag]
    obtain ⟨m, e, datum, value⟩ := decode_finite finite
    rw [mag, isNegative_withSign outer] at *
    unfold Format.cast
    rw [if_neg h.ne.symm, datum]
    simp only
    rw [round_of_units h.inner.one_le (pow_pos _) hn, back]
    -- the difference of the scales is a factor on both sides
    apply Nat.eq_of_mul_eq_mul_right (pow_pos (g.scale - f.scale))
    have scale : f.scale + (g.scale - f.scale) = g.scale := by
      have := h.scale
      omega
    rw [Nat.mul_assoc, ← pow_add, scale, value, units, Nat.mul_assoc]

theorem Within.cast_lt (h : f.Within g) (hn : f.magnitude bits ≤ f.infinity) : f.cast g bits < 2 * g.signWeight := by
  rcases Nat.eq_or_lt_of_le hn with hinf | hfin
  · rw [h.cast_infinite hinf]
    exact withSign_lt h.outer.infinity_lt
  · obtain ⟨wide, inRange, cast, -⟩ := h.cast_finite hfin
    rw [cast]
    exact withSign_lt (Nat.lt_trans inRange h.outer.infinity_lt)

/-! ### NaNs -/

theorem Regular.two_mul_quietBit (h : f.Regular) : 2 * f.quietBit = f.fractions := by
  obtain ⟨k, hk⟩ := Nat.exists_eq_add_of_le h.precision
  unfold quietBit fractions
  rw [hk, show 2 + k - 1 = k + 1 by omega, show Nat.pow 2 (k + 1) = Nat.pow 2 k * 2 from rfl]
  omega

/-- The payload of a NaN has room in a wider format. -/
theorem Within.moved_lt (h : f.Within g) (n : Nat) :
    n % f.quietBit * Nat.pow 2 (g.precision - f.precision) / Nat.pow 2 (f.precision - g.precision) < g.quietBit := by
  have inner := h.inner.two_mul_quietBit
  have outer := h.outer.two_mul_quietBit
  have small : 0 < f.quietBit := by have := f.fractions_pos; omega
  have wide : g.fractions = f.fractions * Nat.pow 2 (g.precision - f.precision) := by
    have p := h.precision
    have p1 := h.inner.one_le
    unfold fractions
    rw [← pow_add]
    congr 1
    omega
  have same : Nat.pow 2 (f.precision - g.precision) = 1 := by
    rw [Nat.sub_eq_zero_of_le h.precision]
  have quiet : g.quietBit = f.quietBit * Nat.pow 2 (g.precision - f.precision) := by
    rw [← inner, Nat.mul_assoc, ← outer] at wide
    omega
  rw [same, Nat.div_one, quiet]
  exact Nat.mul_lt_mul_of_pos_right (Nat.mod_lt _ small) (pow_pos _)

/-- A NaN is cast to a NaN. -/
theorem Within.cast_nan (h : f.Within g) (hn : f.decode bits = .nan) :
    g.decode (f.cast g bits) = .nan ∧ f.cast g bits < 2 * g.signWeight := by
  have quiet := h.outer.two_mul_quietBit
  have pos := g.fractions_pos
  have moved := h.moved_lt (f.magnitude bits)
  simp only [cast, if_neg h.ne, hn, moveNaN]
  generalize f.magnitude bits % f.quietBit * Nat.pow 2 (g.precision - f.precision) /
    Nat.pow 2 (f.precision - g.precision) = payload at moved ⊢
  have bound : g.infinity + g.quietBit + payload < g.signWeight := by
    rw [h.outer.signWeight_eq]
    omega
  refine ⟨decode_nan ?_, withSign_lt bound⟩
  rw [magnitude_withSign bound]
  omega

end ArrayTransfer.Format
