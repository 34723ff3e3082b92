import ArrayTransfer.Proofs.Number.Value
import Mathlib.Data.Rat.Floor

/-! What numbers are worth. An element of a numeric type that is no NaN is worth a fraction or an infinity, and a value
    that is read from it is worth the same (`Numeric.read_worth`). Written to a type that has a number of this worth, it is
    worth the same again (`Numeric.worth_encode`): an integer in range is neither cut nor moved to a bound, and a number
    of a format is not rounded. -/

namespace ArrayTransfer

/-- What a number is worth. -/
inductive Worth where
  | infinite (negative : Bool)
  | finite (q : ℚ)
  deriving DecidableEq

/-- A fraction with a sign. -/
def Worth.signed (negative : Bool) (q : ℚ) : ℚ := if negative then -q else q

/-- A fraction without what is behind its point. -/
def Worth.trunc (q : ℚ) : Int := if q < 0 then ⌈q⌉ else ⌊q⌋

@[simp] theorem Worth.trunc_intCast (n : Int) : trunc n = n := by simp [trunc]

theorem Worth.trunc_signed {negative : Bool} {q : ℚ} (h : 0 ≤ q) :
    trunc (signed negative q) = if negative then -⌊q⌋ else ⌊q⌋ := by
  unfold trunc signed
  cases negative with
  | false => simp [not_lt.mpr h]
  | true =>
    obtain rfl | pos := h.eq_or_lt
    · simp
    · simp [pos, Int.ceil_neg]

/-- What a bit pattern is worth, unless it denotes a NaN. -/
def Datum.worth? : Datum → Option Worth
  | nan => none
  | infinite negative => some (.infinite negative)
  | finite negative m e => some (.finite (Worth.signed negative (m * 2 ^ e)))

/-- What an element is worth, unless it is a NaN. -/
def Numeric.worth? (kind : Numeric) (b : Bytes) : Option Worth :=
  match kind with
  | signed w => some (.finite (NumericValue.signExtend w.bits (Bytes.toNat b)))
  | unsigned _ => some (.finite (Bytes.toNat b))
  | float32 => (Format.single.decode (Bytes.toNat b)).worth?
  | float64 => (Format.double.decode (Bytes.toNat b)).worth?

/-- What a value is worth, unless it is a NaN. -/
def NumericValue.worth? : NumericValue → Option Worth
  | signed n => some (.finite n.toInt)
  | unsigned n => some (.finite n.toNat)
  | float x => x.datum.worth?

/-! ### Numbers of a format -/

namespace Format
variable {f g : Format} {b bits num den : Nat} {negative : Bool} {q : ℚ}

/-- What a pattern without a sign is worth. -/
def amount (f : Format) (b : Nat) : ℚ := f.units b / 2 ^ f.scale

theorem amount_nonneg (f : Format) (b : Nat) : 0 ≤ f.amount b := by
  unfold amount
  positivity

theorem mul_zpow (m : Nat) (e : Int) : (m : ℚ) * 2 ^ e = (m * Nat.pow 2 e.toNat : Nat) / (Nat.pow 2 (-e).toNat : Nat) := by
  have split : e = (e.toNat : Int) - ((-e).toNat : Int) := by omega
  conv => lhs; rw [split, zpow_sub₀ (by norm_num), zpow_natCast, zpow_natCast]
  push_cast [Nat.pow_eq]
  rw [mul_div_assoc]

/-- A pattern below infinity is worth its amount, with its sign. -/
theorem worth_decode (h : f.magnitude bits < f.infinity) :
    (f.decode bits).worth? = some (.finite (Worth.signed (f.isNegative bits) (f.amount (f.magnitude bits)))) := by
  obtain ⟨m, e, datum, value⟩ := decode_finite h
  have same : (m : ℚ) * 2 ^ e = f.amount (f.magnitude bits) := by
    have hd : ((Nat.pow 2 (-e).toNat : Nat) : ℚ) ≠ 0 := Nat.cast_ne_zero.mpr (Nat.ne_of_gt (pow_pos _))
    have cast : ((m * Nat.pow 2 e.toNat : Nat) : ℚ) * 2 ^ f.scale =
        (Nat.pow 2 (-e).toNat : Nat) * f.units (f.magnitude bits) := by
      exact_mod_cast value
    rw [mul_zpow, amount, div_eq_div_iff hd (by positivity), cast, mul_comm]
  rw [datum, Datum.worth?, same]

/-- A pattern that is worth something is below infinity or one of the infinities. -/
theorem worth_cases {w : Worth} (h : (f.decode bits).worth? = some w) :
    (f.magnitude bits < f.infinity ∧ w = .finite (Worth.signed (f.isNegative bits) (f.amount (f.magnitude bits)))) ∨
      (f.magnitude bits = f.infinity ∧ w = .infinite (f.isNegative bits)) := by
  obtain below | same | above := Nat.lt_trichotomy (f.magnitude bits) f.infinity
  · rw [worth_decode below] at h
    exact .inl ⟨below, (Option.some.inj h).symm⟩
  · rw [decode_infinite same] at h
    exact .inr ⟨same, (Option.some.inj h).symm⟩
  · rw [decode_nan above] at h
    cases h

theorem worth_withSign (h : f.Regular) (hb : b < f.infinity) :
    (f.decode (f.withSign negative b)).worth? = some (.finite (Worth.signed negative (f.amount b))) := by
  have below : b < f.signWeight := Nat.lt_trans hb h.infinity_lt
  have mag : f.magnitude (f.withSign negative b) = b := magnitude_withSign below
  rw [worth_decode (by rwa [mag]), mag, isNegative_withSign below]

/-- A quotient that is worth as much as a number of the format rounds to it. -/
theorem round_of_amount (h : f.Regular) (hd : 0 < den) (hb : b < f.infinity) (value : (num : ℚ) / den = f.amount b) :
    f.round num den = b := by
  refine round_of_units h.one_le hd (Nat.le_of_lt hb) ?_
  have hd : (den : ℚ) ≠ 0 := Nat.cast_ne_zero.mpr (Nat.ne_of_gt hd)
  rw [amount, div_eq_div_iff hd (by positivity), mul_comm (f.units b : ℚ)] at value
  exact_mod_cast value

/-- A fraction is worth a number of the format, but for its sign. -/
def Has (f : Format) (q : ℚ) : Prop := ∃ b < f.infinity, |q| = f.amount b

theorem abs_signed (h : 0 ≤ q) : |Worth.signed negative q| = q := by
  unfold Worth.signed
  split
  · rw [abs_neg, abs_of_nonneg h]
  · exact abs_of_nonneg h

theorem has_of_worth (h : (f.decode bits).worth? = some (.finite q)) : f.Has q := by
  obtain ⟨below, same⟩ | ⟨-, same⟩ := worth_cases h
  · cases same
    exact ⟨_, below, abs_signed (f.amount_nonneg _)⟩
  · cases same

theorem isCanonical_of_worth (h : (f.decode bits).worth? ≠ none) : f.IsCanonical bits :=
  isCanonical_of_decode fun nan => h (by rw [nan]; rfl)

/-- A number of the format is not changed by rounding it. -/
theorem worth_round (h : f.Regular) (has : f.Has q) (hd : 0 < den) (value : q = Worth.signed negative (num / den)) :
    (f.decode (f.withSign negative (f.round num den))).worth? = some (.finite q) ∧
      f.withSign negative (f.round num den) < 2 * f.signWeight := by
  obtain ⟨b, hb, amount⟩ := has
  have exact : (num : ℚ) / den = f.amount b := by
    rw [← amount, value, abs_signed (by positivity)]
  rw [round_of_amount h hd hb exact, worth_withSign h hb, ← exact, ← value]
  exact ⟨rfl, withSign_lt (Nat.lt_trans hb h.infinity_lt)⟩

/-- A cast to a format that has a number of this worth does not change it. -/
theorem worth_cast {w : Worth} (ne : f ≠ g) (hg : g.Regular) (hw : (f.decode bits).worth? = some w)
    (has : ∃ c, (g.decode c).worth? = some w) :
    (g.decode (f.cast g bits)).worth? = some w ∧ f.cast g bits < 2 * g.signWeight := by
  obtain ⟨c, has⟩ := has
  unfold cast
  rw [if_neg ne]
  cases datum : f.decode bits with
  | nan =>
    rw [datum] at hw
    cases hw
  | infinite negative =>
    rw [datum] at hw
    cases hw
    simp only [decode_withSign_infinity hg]
    exact ⟨rfl, withSign_lt hg.infinity_lt⟩
  | finite negative m e =>
    rw [datum] at hw
    cases hw
    refine worth_round hg (has_of_worth has) (pow_pos _) ?_
    rw [mul_zpow]

/-- A cast to a format that the other lies within does not change a number. -/
theorem Within.worth_cast {w : Worth} (h : f.Within g) (hw : (f.decode bits).worth? = some w) :
    (g.decode (f.cast g bits)).worth? = some w ∧ f.cast g bits < 2 * g.signWeight := by
  obtain ⟨below, rfl⟩ | ⟨same, rfl⟩ := worth_cases hw
  · obtain ⟨wide, inRange, cast, units⟩ := h.cast_finite below
    have amount : g.amount wide = f.amount (f.magnitude bits) := by
      obtain ⟨k, scale⟩ := Nat.exists_eq_add_of_le h.scale
      have value : f.units (f.magnitude bits) * Nat.pow 2 k * Nat.pow 2 f.scale =
          f.units (f.magnitude bits) * Nat.pow 2 (f.scale + k) := by
        rw [pow_add, Nat.mul_assoc, Nat.mul_comm (Nat.pow 2 k)]
      rw [Format.amount, Format.amount, units, scale, Nat.add_sub_cancel_left,
        div_eq_div_iff (by positivity) (by positivity)]
      exact_mod_cast value
    rw [cast, worth_withSign h.outer inRange, amount]
    exact ⟨rfl, withSign_lt (Nat.lt_trans inRange h.outer.infinity_lt)⟩
  · rw [h.cast_infinite same, decode_withSign_infinity h.outer]
    exact ⟨rfl, withSign_lt h.outer.infinity_lt⟩

/-- A number that is worth a fraction is cut to it without what is behind its point. -/
theorem truncate_of_worth (h : (f.decode bits).worth? = some (.finite q)) : f.truncate? bits = some (Worth.trunc q) := by
  unfold truncate?
  cases datum : f.decode bits with
  | nan =>
    rw [datum] at h
    cases h
  | infinite negative =>
    rw [datum] at h
    cases h
  | finite negative m e =>
    rw [datum] at h
    cases h
    simp only [mul_zpow, Option.some.injEq]
    rw [Worth.trunc_signed (by positivity), Rat.floor_natCast_div_natCast, Int.natCast_ediv]

end Format

namespace NumericValue
variable {v : NumericValue} {w : Worth} {f : Format}

theorem worth_ofInt (hf : f.Regular) {n : Int} (has : f.Has n) :
    (f.decode (f.ofInt n)).worth? = some (.finite n) ∧ f.ofInt n < 2 * f.signWeight := by
  refine Format.worth_round hf has Nat.one_pos ?_
  unfold Worth.signed
  by_cases negative : n < 0
  · simp [negative, Nat.cast_natAbs, abs_of_neg negative]
  · simp [negative, Nat.cast_natAbs, abs_of_nonneg (Int.not_lt.mp negative)]

/-- A value that is worth a number of a format is not changed by rounding it to the format. -/
theorem worth_toFormat (hf : f.Regular) (hw : v.worth? = some w) (has : ∃ bits, (f.decode bits).worth? = some w) :
    (f.decode (v.toFormat f)).worth? = some w ∧ v.toFormat f < 2 * f.signWeight := by
  obtain ⟨bits, has⟩ := has
  cases v with
  | signed n =>
    cases hw
    exact worth_ofInt hf (Format.has_of_worth has)
  | unsigned n =>
    cases hw
    exact worth_ofInt hf (Format.has_of_worth has)
  | float x =>
    by_cases same : Format.double = f
    · subst same
      rw [toFormat, Format.cast, if_pos rfl]
      exact ⟨hw, x.toNat_bits_lt⟩
    · exact Format.worth_cast same hf hw ⟨bits, has⟩

/-- A value that is worth a fraction is cut to it without what is behind its point. -/
theorem whole_of_worth {q : ℚ} (hw : v.worth? = some (.finite q)) : v.whole? = some (Worth.trunc q) := by
  cases v with
  | signed i =>
    cases hw
    rw [whole?, Worth.trunc_intCast]
  | unsigned i =>
    cases hw
    rw [whole?, ← Worth.trunc_intCast i.toNat, Int.cast_natCast]
  | float x => exact Format.truncate_of_worth hw

theorem whole_of_integer {n : Int} (hw : v.worth? = some (.finite n)) : v.whole? = some n := by
  rw [whole_of_worth hw, Worth.trunc_intCast]

end NumericValue

/-! ### Elements -/

namespace Numeric
variable {kind : Numeric} {f : Format} {v : NumericValue} {b : Bytes} {w : Worth}

section format
variable (hk : kind.format? = some f)
include hk

theorem regular_format : f.Regular := by
  cases kind <;> cases hk
  · exact Format.regular_single
  · exact Format.regular_double

theorem pow_size : Nat.pow 256 kind.size = 2 * f.signWeight := by cases kind <;> cases hk <;> rfl

theorem worth_format (b : Bytes) : kind.worth? b = (f.decode (Bytes.toNat b)).worth? := by cases kind <;> cases hk <;> rfl

theorem encode_format (v : NumericValue) : v.encode kind = Bytes.ofNat kind.size (v.toFormat f) := by
  cases kind <;> cases hk <;> rfl

theorem toNat_ofNat_format {bits : Nat} (h : bits < 2 * f.signWeight) :
    Bytes.toNat (Bytes.ofNat kind.size bits) = bits := by
  rw [Bytes.toNat_ofNat, pow_size hk, Nat.mod_eq_of_lt h]

end format

/-- An element is worth as much as the value that is read from it. -/
theorem read_worth (hl : b.length = kind.size) (hw : kind.worth? b = some w) :
    ∃ v, NumericValue.read kind b = some v ∧ v.worth? = some w := by
  refine ⟨_, NumericValue.read_eq hl, ?_⟩
  cases kind with
  | signed width =>
    simp only [NumericValue.worth?, NumericValue.toInt_ofInt_signExtend width (NumericValue.toNat_lt_bits width hl)]
    exact hw
  | unsigned width =>
    simp only [NumericValue.worth?, NumericValue.toNat_ofNat_of_lt_bits width (NumericValue.toNat_lt_bits width hl)]
    exact hw
  | float32 =>
    obtain ⟨same, bound⟩ := Format.single_within_double.worth_cast hw
    simp only [NumericValue.worth?, Double.datum, Double.toNat_ofNat bound]
    exact same
  | float64 =>
    have bound := Bytes.toNat_lt b
    rw [hl] at bound
    simp only [NumericValue.worth?, Double.datum, Double.toNat_ofNat bound]
    exact hw

/-- An integer element is the only one that is worth as much. -/
theorem encode_eq (integer : kind.isInteger = true) (hl : b.length = kind.size) (hv : v.worth? = some w)
    (hb : kind.worth? b = some w) : v.encode kind = b := by
  cases kind with
  | signed width =>
    cases hb
    exact NumericValue.encode_signed hl (NumericValue.whole_of_integer hv)
  | unsigned width =>
    cases hb
    exact NumericValue.encode_unsigned hl (NumericValue.whole_of_integer (by exact_mod_cast hv))
  | float32 | float64 => cases integer

theorem isInteger_or_format (kind : Numeric) : kind.isInteger = true ∨ ∃ f, kind.format? = some f := by
  cases kind <;> simp [isInteger, format?]

/-- A type has an element of this worth. -/
def IsValue (kind : Numeric) (w : Worth) : Prop := ∃ b : Bytes, b.length = kind.size ∧ kind.worth? b = some w

/-- What is written to a type that has a number of its worth keeps its worth. -/
theorem worth_encode (hv : v.worth? = some w) (value : kind.IsValue w) : kind.worth? (v.encode kind) = some w := by
  obtain ⟨b, hl, hb⟩ := value
  obtain integer | ⟨f, hk⟩ := isInteger_or_format kind
  · rw [encode_eq integer hl hv hb, hb]
  · rw [worth_format hk] at hb
    obtain ⟨same, bound⟩ := NumericValue.worth_toFormat (regular_format hk) hv ⟨_, hb⟩
    rw [worth_format hk, encode_format hk, toNat_ofNat_format hk bound, same]

end Numeric

end ArrayTransfer
