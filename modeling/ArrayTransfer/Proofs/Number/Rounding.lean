import ArrayTransfer.Number.Ieee

/-! Rounding, measured in units of the smallest positive number. A pattern without a sign is a significand and a step,
    the power of two that its last place stands for, and denotes `units`. A quotient that is nearer to such a number
    than half its step rounds to it (`round_of_near`), and one that is equal to it always does (`round_of_units`).
    Only the ratio of the quotient matters (`round_congr`). -/

namespace ArrayTransfer.Format

/-- The power of two of the last place of a pattern without a sign, in units of the smallest number. -/
def step (f : Format) (b : Nat) : Nat := b / f.fractions - 1

/-- The significand of a pattern without a sign: its fraction, with the leading bit if it has one. -/
def significand (f : Format) (b : Nat) : Nat := b - f.step b * f.fractions

/-- The number that a pattern without a sign denotes, in units of the smallest positive number. -/
def units (f : Format) (b : Nat) : Nat := f.significand b * Nat.pow 2 (f.step b)

variable {f : Format} {b e m num den : Nat}

theorem pow_pos (n : Nat) : 0 < Nat.pow 2 n := Nat.pow_pos (by decide)

theorem pow_add (a b : Nat) : Nat.pow 2 (a + b) = Nat.pow 2 a * Nat.pow 2 b := Nat.pow_add 2 a b

theorem fractions_pos (f : Format) : 0 < f.fractions := pow_pos _

/-! ### Significands and steps -/

theorem step_mul_add (f : Format) (b : Nat) : f.step b * f.fractions + f.significand b = b := by
  have h : f.step b * f.fractions ≤ b :=
    Nat.le_trans (Nat.mul_le_mul_right _ (Nat.sub_le _ _)) (Nat.div_mul_le_self b f.fractions)
  unfold significand
  omega

theorem significand_spec (f : Format) (b : Nat) :
    f.significand b < 2 * f.fractions ∧ (f.step b = 0 ∨ f.fractions ≤ f.significand b) := by
  have hb := Nat.div_add_mod b f.fractions
  have hm := Nat.mod_lt b f.fractions_pos
  rw [Nat.mul_comm] at hb
  rcases Nat.eq_zero_or_pos (b / f.fractions) with h0 | h0
  · rw [h0, Nat.zero_mul, Nat.zero_add] at hb
    rw [hb] at hm
    simp only [significand, step, h0, Nat.zero_sub, Nat.zero_mul, Nat.sub_zero]
    exact ⟨by omega, by simp⟩
  · obtain ⟨e, he⟩ := Nat.exists_eq_succ_of_ne_zero (Nat.ne_of_gt h0)
    rw [he, Nat.succ_mul] at hb
    simp only [significand, step, he, Nat.succ_sub_one]
    omega

theorem step_of_parts (hm : m < 2 * f.fractions) (he : e = 0 ∨ f.fractions ≤ m) :
    f.step (e * f.fractions + m) = e := by
  unfold step
  rw [Nat.mul_comm, Nat.mul_add_div f.fractions_pos]
  rcases Nat.lt_or_ge m f.fractions with hlt | hge
  · rw [Nat.div_eq_of_lt hlt]
    omega
  · have one : m / f.fractions = 1 := Nat.div_eq_of_lt_le (by omega) (by omega)
    omega

theorem significand_of_parts (hm : m < 2 * f.fractions) (he : e = 0 ∨ f.fractions ≤ m) :
    f.significand (e * f.fractions + m) = m := by
  unfold significand
  rw [step_of_parts hm he]
  omega

theorem units_of_parts (hm : m < 2 * f.fractions) (he : e = 0 ∨ f.fractions ≤ m) :
    f.units (e * f.fractions + m) = m * Nat.pow 2 e := by
  unfold units
  rw [step_of_parts hm he, significand_of_parts hm he]

theorem units_pos (hb : 0 < b) : 0 < f.units b := by
  refine Nat.mul_pos ?_ (pow_pos _)
  obtain ⟨-, he⟩ := f.significand_spec b
  have parts := f.step_mul_add b
  rcases he with he | he
  · rw [he] at parts
    omega
  · exact Nat.lt_of_lt_of_le f.fractions_pos he

theorem two_mul_fractions (hp : 1 ≤ f.precision) : 2 * f.fractions = Nat.pow 2 f.precision := by
  unfold fractions
  obtain ⟨p, hp⟩ := Nat.exists_eq_add_of_le hp
  rw [hp, Nat.add_sub_cancel_left]
  exact (pow_add 1 p).symm

theorem le_exponent {n : Nat} (hp : 1 ≤ f.precision) (low : f.units b ≤ n) : f.step b ≤ n.log2 + 1 - f.precision := by
  obtain ⟨-, he⟩ := f.significand_spec b
  rcases he with he | he
  · rw [he]
    exact Nat.zero_le _
  · have large : Nat.pow 2 (f.precision - 1 + f.step b) ≤ n := by
      rw [pow_add]
      exact Nat.le_trans (Nat.mul_le_mul_right _ he) low
    have pos : n ≠ 0 := Nat.ne_of_gt (Nat.lt_of_lt_of_le (pow_pos _) large)
    have := (Nat.le_log2 pos).mpr large
    omega

/-- The exponent by which rounding divides is the step of the pattern that the number lies at. -/
theorem log2_eq_step {n : Nat} (hp : 1 ≤ f.precision) (low : f.units b ≤ n) (high : n < f.units b + Nat.pow 2 (f.step b)) :
    n.log2 + 1 - f.precision = f.step b := by
  obtain ⟨hm, -⟩ := f.significand_spec b
  have lower := le_exponent hp low
  have bound : n < Nat.pow 2 (f.precision + f.step b) := by
    rw [pow_add, ← two_mul_fractions hp]
    refine Nat.lt_of_lt_of_le high ?_
    rw [units, ← Nat.succ_mul]
    exact Nat.mul_le_mul_right _ hm
  rcases Nat.eq_zero_or_pos n with rfl | hn
  · rw [Nat.log2_zero] at lower ⊢
    omega
  · have upper : n.log2 < f.precision + f.step b := (Nat.log2_lt (Nat.ne_of_gt hn)).mpr bound
    omega

/-! ### Rounding -/

theorem roundHalfEven_eq {n q : Nat} (low : den * q ≤ n) (near : 2 * (n - den * q) < den) : roundHalfEven n den = q := by
  have quotient : n / den = q := Nat.div_eq_of_lt_le (by rw [Nat.mul_comm]; exact low)
    (by rw [Nat.succ_mul, Nat.mul_comm]; omega)
  have rest : n % den = n - den * q := by
    rw [Nat.mod_eq_sub, quotient]
  unfold roundHalfEven
  simp only [quotient, rest]
  rw [if_pos (Or.inl near)]

/-- What is as large as a number of the format, but by less than half of the step there, rounds to that number. -/
theorem round_of_near (hp : 1 ≤ f.precision) (hb : b ≤ f.infinity) (low : den * f.units b ≤ num * Nat.pow 2 f.scale)
    (near : 2 * (num * Nat.pow 2 f.scale - den * f.units b) < den * Nat.pow 2 (f.step b)) : f.round num den = b := by
  have hd : 0 < den := by
    rcases Nat.eq_zero_or_pos den with rfl | h
    · omega
    · exact h
  have exponent : (num * Nat.pow 2 f.scale / den).log2 + 1 - f.precision = f.step b := by
    apply log2_eq_step hp
    · rw [Nat.le_div_iff_mul_le hd, Nat.mul_comm]
      exact low
    · rw [Nat.div_lt_iff_lt_mul hd, Nat.mul_comm _ den, Nat.mul_add]
      omega
  have quotient : roundHalfEven (num * Nat.pow 2 f.scale) (den * Nat.pow 2 (f.step b)) = f.significand b := by
    have product : den * Nat.pow 2 (f.step b) * f.significand b = den * f.units b := by
      unfold units
      rw [Nat.mul_assoc, Nat.mul_comm (f.significand b)]
    apply roundHalfEven_eq <;> rw [product]
    · exact low
    · exact near
  unfold round
  simp only [exponent, quotient, step_mul_add]
  exact Nat.min_eq_right hb

/-- A quotient that is a number of the format rounds to it. -/
theorem round_of_units (hp : 1 ≤ f.precision) (hd : 0 < den) (hb : b ≤ f.infinity)
    (h : num * Nat.pow 2 f.scale = den * f.units b) : f.round num den = b := by
  refine round_of_near hp hb (Nat.le_of_eq h.symm) ?_
  rw [h, Nat.sub_self]
  exact Nat.mul_pos hd (pow_pos _)

theorem div_le_roundHalfEven (num den : Nat) : num / den ≤ roundHalfEven num den := by
  unfold roundHalfEven
  simp only
  split
  · exact Nat.le_refl _
  · exact Nat.le_succ _

/-- What is as large as a number of the format does not round to less. -/
theorem le_round (hp : 1 ≤ f.precision) (hd : 0 < den) (hb : b ≤ f.infinity)
    (h : den * f.units b ≤ num * Nat.pow 2 f.scale) : b ≤ f.round num den := by
  obtain ⟨hm, -⟩ := f.significand_spec b
  have parts := f.step_mul_add b
  have quotient : f.units b ≤ num * Nat.pow 2 f.scale / den := by
    rw [Nat.le_div_iff_mul_le hd, Nat.mul_comm]
    exact h
  have order := le_exponent hp quotient
  unfold round
  simp only
  refine Nat.le_min.mpr ⟨hb, ?_⟩
  have rounded := div_le_roundHalfEven (num * Nat.pow 2 f.scale)
    (den * Nat.pow 2 ((num * Nat.pow 2 f.scale / den).log2 + 1 - f.precision))
  rw [← Nat.div_div_eq_div_mul] at rounded
  generalize num * Nat.pow 2 f.scale / den = q at quotient order rounded ⊢
  rcases Nat.eq_or_lt_of_le order with same | above
  · rw [← same] at rounded ⊢
    have : f.significand b ≤ q / Nat.pow 2 (f.step b) := (Nat.le_div_iff_mul_le (pow_pos _)).mpr quotient
    omega
  · -- a larger exponent leaves a leading bit, which is worth as much as any significand below it
    have pos : q ≠ 0 := by
      rintro rfl
      rw [Nat.log2_zero] at above
      omega
    have large : Nat.pow 2 (f.precision - 1 + (q.log2 + 1 - f.precision)) ≤ q :=
      (Nat.le_log2 pos).mp (by omega)
    rw [pow_add] at large
    have leading : f.fractions ≤ q / Nat.pow 2 (q.log2 + 1 - f.precision) :=
      (Nat.le_div_iff_mul_le (pow_pos _)).mpr large
    have exponent : (f.step b + 1) * f.fractions ≤ (q.log2 + 1 - f.precision) * f.fractions :=
      Nat.mul_le_mul_right _ above
    rw [Nat.succ_mul] at exponent
    omega

theorem round_le_infinity (f : Format) (num den : Nat) : f.round num den ≤ f.infinity := Nat.min_le_left _ _

theorem roundHalfEven_mul {k : Nat} (hk : 0 < k) (num den : Nat) :
    roundHalfEven (k * num) (k * den) = roundHalfEven num den := by
  have lt : 2 * (k * (num % den)) < k * den ↔ 2 * (num % den) < den := by
    rw [Nat.mul_left_comm]
    exact Nat.mul_lt_mul_left hk
  have eq : 2 * (k * (num % den)) = k * den ↔ 2 * (num % den) = den := by
    rw [Nat.mul_left_comm]
    exact Nat.mul_right_inj (Nat.ne_of_gt hk)
  unfold roundHalfEven
  simp only [Nat.mul_div_mul_left num den hk, Nat.mul_mod_mul_left, lt, eq]

theorem round_mul {k : Nat} (hk : 0 < k) (f : Format) (num den : Nat) : f.round (k * num) (k * den) = f.round num den := by
  unfold round
  simp only [Nat.mul_assoc, Nat.mul_div_mul_left _ den hk, roundHalfEven_mul hk]

/-- Quotients of the same ratio round to the same pattern. -/
theorem round_congr {num' den' : Nat} (hd : 0 < den) (hd' : 0 < den') (h : num * den' = num' * den) :
    f.round num den = f.round num' den' := by
  rw [← round_mul hd' f num den, ← round_mul hd f num' den', Nat.mul_comm den' num, h, Nat.mul_comm num' den,
    Nat.mul_comm den' den]

/-! ### Numbers of the format -/

/-- A short number of units is one of the format, unless its order is too large. -/
theorem exists_units {n k : Nat} (hm : m < 2 * f.fractions) (hn : n = m * Nat.pow 2 k) :
    ∃ b, f.units b = n ∧ b < (k + 2) * f.fractions := by
  induction k generalizing m with
  | zero =>
    refine ⟨0 * f.fractions + m, ?_, by omega⟩
    rw [units_of_parts hm (Or.inl rfl), hn]
  | succ k ih =>
    rcases Nat.lt_or_ge m f.fractions with hlt | hge
    · -- the leading bit is free, so the significand takes a power of two
      obtain ⟨b, hb, bound⟩ := ih (m := 2 * m) (by omega) (by
        have one : Nat.pow 2 1 = 2 := rfl
        rw [hn, Nat.add_comm, pow_add, one, ← Nat.mul_assoc, Nat.mul_comm 2 m])
      refine ⟨b, hb, Nat.lt_trans bound ?_⟩
      exact (Nat.mul_lt_mul_right f.fractions_pos).mpr (by omega)
    · refine ⟨(k + 1) * f.fractions + m, ?_, ?_⟩
      · rw [units_of_parts hm (Or.inr hge), hn]
      · rw [Nat.add_mul (k + 1) 2]
        omega

end ArrayTransfer.Format
