import ArrayTransfer.Proofs.Number.Ieee
import ArrayTransfer.Wire.Value

/-! Numeric elements and the JSON that stands for them. An element that is no NaN, or the canonical one, comes back from
    its JSON (`NumericValue.json_round_trip`), and any other as the canonical NaN (`NumericValue.json_canonicalize`). -/

namespace ArrayTransfer

/-! ### Numbers in bytes -/

namespace Bytes

theorem toNat_lt (b : Bytes) : toNat b < Nat.pow 256 b.length := by
  induction b with
  | nil => exact Nat.one_pos
  | cons x b ih =>
    have pow : Nat.pow 256 (x :: b).length = Nat.pow 256 b.length * 256 := rfl
    have := x.toNat_lt
    rw [toNat, pow]
    omega

theorem ofNat_toNat (b : Bytes) : ofNat b.length (toNat b) = b := by
  induction b with
  | nil => rfl
  | cons x b ih =>
    have hx : x.toNat < 256 := x.toNat_lt
    have low : (x.toNat + 256 * toNat b) % 256 = x.toNat := by omega
    have high : (x.toNat + 256 * toNat b) / 256 = toNat b := by omega
    rw [toNat, List.length_cons, ofNat, low, high, ih, UInt8.ofNat_toNat]

end Bytes

/-- The format of a floating point type. -/
def Numeric.format? : Numeric → Option Format
  | signed _ => none
  | unsigned _ => none
  | float32 => some .single
  | float64 => some .double

/-- An element of a numeric type that is no NaN, or the canonical one. -/
def Numeric.IsCanonical (kind : Numeric) (b : Bytes) : Prop := ∀ f, kind.format? = some f → f.IsCanonical (Bytes.toNat b)

namespace Double
variable {x : Double}

theorem toNat_bits_lt (x : Double) : x.bits.toNat < 2 * Format.double.signWeight := x.bits.toNat_lt

theorem eq_nan (h : x.bits.toNat = Format.double.canonicalNaN) : x = nan := by
  have bits : x.bits = nan.bits := UInt64.toNat_inj.mp (h.trans (by decide))
  cases x
  exact congrArg Double.mk bits

theorem eq_infinity (h : Format.double.magnitude x.bits.toNat = Format.double.infinity) :
    x = infinity (Format.double.isNegative x.bits.toNat) := by
  have whole := Format.withSign_magnitude x.toNat_bits_lt
  rw [h] at whole
  cases x
  simp only [infinity, whole, UInt64.ofNat_toNat]

theorem toNat_ofNat {n : Nat} (h : n < 2 * Format.double.signWeight) : (UInt64.ofNat n).toNat = n :=
  UInt64.toNat_ofNat_of_lt' h

end Double

namespace NumericValue

/-! ### Integers -/

theorem two_mul_pow_pred {bits : Nat} (hb : 0 < bits) : Nat.pow 2 bits = 2 * Nat.pow 2 (bits - 1) := by
  obtain ⟨k, rfl⟩ := Nat.exists_eq_succ_of_ne_zero (Nat.ne_of_gt hb)
  exact Nat.pow_succ'

theorem signExtend_bounds {bits n : Nat} (hb : 0 < bits) (hn : n < Nat.pow 2 bits) :
    -((Nat.pow 2 (bits - 1) : Nat) : Int) ≤ signExtend bits n ∧
      signExtend bits n ≤ ((Nat.pow 2 (bits - 1) : Nat) : Int) - 1 := by
  have two := two_mul_pow_pred hb
  unfold signExtend
  split <;> omega

theorem wrap_signExtend {bits n : Nat} (hn : n < Nat.pow 2 bits) : wrap bits (signExtend bits n) = n := by
  unfold wrap signExtend
  split
  · rw [Int.emod_eq_of_lt (by omega) (by omega)]
    rfl
  · rw [Int.sub_emod, Int.emod_self, Int.sub_zero, Int.emod_emod, Int.emod_eq_of_lt (by omega) (by omega)]
    rfl

theorem saturate_of_whole {v : NumericValue} {low high n : Int} (h : v.whole? = some n) (hl : low ≤ n) (hh : n ≤ high) :
    v.saturate low high = n := by
  unfold saturate toInt?
  simp only [h]
  rw [if_pos ⟨hl, hh⟩]

theorem toInt_toUInt64 {n : Int64} (h : ¬n < 0) : ((n.toUInt64.toNat : Nat) : Int) = n.toInt := by
  have low : 0 ≤ n := Int64.not_lt.mp h
  rw [Int64.toNat_toUInt64_of_le low]
  exact Int.toNat_of_nonneg (Int64.le_iff_toInt_le.mp low)

theorem numberOfJson_ofInt64 (kind : Numeric) (n : Int64) :
    ∃ w, WireValue.numberOfJson kind (Json.ofInt64 n) = .ok (.number w) ∧ w.whole? = some n.toInt := by
  refine ⟨_, rfl, ?_⟩
  split
  · rfl
  · rename_i h
    exact congrArg some (toInt_toUInt64 h)

theorem encode_of_bounds {kind : Numeric} {low high : Int} (hk : kind.bounds? = some (low, high)) (v : NumericValue) :
    v.encode kind = Bytes.ofNat kind.size (wrap (8 * kind.size) (v.saturate low high)) := by
  unfold encode toBits
  simp only [hk]

/-- A whole number within the bounds of an integer type is encoded as it is. -/
theorem encode_of_whole {kind : Numeric} {v : NumericValue} {low high n : Int} (hk : kind.bounds? = some (low, high))
    (h : v.whole? = some n) (hl : low ≤ n) (hh : n ≤ high) :
    v.encode kind = Bytes.ofNat kind.size (wrap (8 * kind.size) n) := by
  rw [encode_of_bounds hk, saturate_of_whole h hl hh]

theorem pow_bytes (w : Width) : Nat.pow 256 w.bytes = Nat.pow 2 w.bits := by cases w <;> rfl

theorem toNat_lt_bits (w : Width) {b : Bytes} (hl : b.length = w.bytes) : Bytes.toNat b < Nat.pow 2 w.bits := by
  rw [← pow_bytes, ← hl]
  exact Bytes.toNat_lt b

theorem read_eq {kind : Numeric} {b : Bytes} (hl : b.length = kind.size) : read kind b = some (match kind with
    | .signed w => .signed (Int64.ofInt (signExtend w.bits (Bytes.toNat b)))
    | .unsigned _ => .unsigned (UInt64.ofNat (Bytes.toNat b))
    | .float32 => .float ⟨UInt64.ofNat (Format.single.cast .double (Bytes.toNat b))⟩
    | .float64 => .float ⟨UInt64.ofNat (Bytes.toNat b)⟩) := by
  unfold read
  rw [if_neg (not_not_intro hl)]
  cases kind <;> rfl

/-- A signed number that is read is exact. -/
theorem toInt_ofInt_signExtend (w : Width) {n : Nat} (hn : n < Nat.pow 2 w.bits) :
    (Int64.ofInt (signExtend w.bits n)).toInt = signExtend w.bits n := by
  obtain ⟨low, high⟩ := signExtend_bounds (by cases w <;> decide) hn
  have half : Nat.pow 2 (w.bits - 1) ≤ Nat.pow 2 63 :=
    @Nat.pow_le_pow_right 2 (by decide) _ 63 (by cases w <;> decide)
  have word : Nat.pow 2 63 = 9223372036854775808 := by decide
  rw [word] at half
  exact Int64.toInt_ofInt_of_le (by omega) (by omega)

/-- An unsigned number that is read is exact. -/
theorem toNat_ofNat_of_lt_bits (w : Width) {n : Nat} (hn : n < Nat.pow 2 w.bits) : (UInt64.ofNat n).toNat = n := by
  have fits : Nat.pow 2 w.bits ≤ Nat.pow 2 64 :=
    @Nat.pow_le_pow_right 2 (by decide) _ 64 (by cases w <;> decide)
  exact UInt64.toNat_ofNat_of_lt' (Nat.lt_of_lt_of_le hn fits)

theorem wrap_ofNat {bits n : Nat} (hn : n < Nat.pow 2 bits) : wrap bits (n : Int) = n := by
  unfold wrap
  rw [Int.emod_eq_of_lt (by omega) (by omega)]
  rfl

/-- A value that is the signed number in `b` is encoded as `b`. -/
theorem encode_signed {v : NumericValue} {w : Width} {b : Bytes} (hl : b.length = w.bytes)
    (whole : v.whole? = some (signExtend w.bits (Bytes.toNat b))) : v.encode (.signed w) = b := by
  have bound := toNat_lt_bits w hl
  obtain ⟨low, high⟩ := signExtend_bounds (by cases w <;> decide) bound
  rw [encode_of_whole rfl whole low high]
  show Bytes.ofNat w.bytes (wrap w.bits (signExtend w.bits (Bytes.toNat b))) = b
  rw [wrap_signExtend bound, ← hl, Bytes.ofNat_toNat]

/-- A value that is the unsigned number in `b` is encoded as `b`. -/
theorem encode_unsigned {v : NumericValue} {w : Width} {b : Bytes} (hl : b.length = w.bytes)
    (whole : v.whole? = some (Bytes.toNat b : Int)) : v.encode (.unsigned w) = b := by
  have bound := toNat_lt_bits w hl
  refine (encode_of_whole rfl whole (by omega) (by omega)).trans ?_
  show Bytes.ofNat w.bytes (wrap w.bits (Bytes.toNat b : Int)) = b
  rw [wrap_ofNat bound, ← hl, Bytes.ofNat_toNat]

theorem json_round_trip_signed (w : Width) {b : Bytes} (hl : b.length = w.bytes) :
    ∃ v u, read (.signed w) b = some v ∧ WireValue.numberOfJson (.signed w) (WireValue.numberToJson v) = .ok (.number u) ∧
      u.encode (.signed w) = b := by
  obtain ⟨u, json, whole⟩ := numberOfJson_ofInt64 (.signed w) (Int64.ofInt (signExtend w.bits (Bytes.toNat b)))
  rw [toInt_ofInt_signExtend w (toNat_lt_bits w hl)] at whole
  exact ⟨_, u, read_eq hl, json, encode_signed hl whole⟩

theorem json_round_trip_unsigned (w : Width) {b : Bytes} (hl : b.length = w.bytes) :
    ∃ v u, read (.unsigned w) b = some v ∧
      WireValue.numberOfJson (.unsigned w) (WireValue.numberToJson v) = .ok (.number u) ∧ u.encode (.unsigned w) = b := by
  have whole : (unsigned (UInt64.ofNat (Bytes.toNat b))).whole? = some (Bytes.toNat b : Int) := by
    rw [whole?, toNat_ofNat_of_lt_bits w (toNat_lt_bits w hl)]
  exact ⟨_, _, read_eq hl, rfl, encode_unsigned hl whole⟩

/-! ### Floating point numbers -/

/-- A double comes back from its JSON, unless it is a NaN other than the canonical one. -/
theorem json_round_trip_double {kind : Numeric} {x : Double} (hk : kind.isInteger = false)
    (hx : Format.double.IsCanonical x.bits.toNat) :
    WireValue.numberOfJson kind (WireValue.numberToJson (.float x)) = .ok (.number (.float x)) := by
  simp only [WireValue.numberToJson, Double.datum]
  rcases hx with hx | hx
  · rcases Nat.eq_or_lt_of_le hx with hinf | hfin
    · rw [Format.decode_infinite hinf]
      have whole := Double.eq_infinity hinf
      cases hn : Format.double.isNegative x.bits.toNat <;> rw [hn] at whole <;>
        simp [WireValue.numberOfJson, hk, WireValue.ofWord?, whole]
    · obtain ⟨m, e, datum, -⟩ := Format.decode_finite hfin
      rw [datum]
      rfl
  · have nan := Double.eq_nan hx
    have datum : Format.double.decode x.bits.toNat = .nan := by
      apply Format.decode_nan
      rw [hx]
      decide
    rw [datum]
    simp [WireValue.numberOfJson, hk, WireValue.ofWord?, nan]

theorem isCanonical_double {bits : Nat} (hb : bits < Nat.pow 2 32) (hc : Format.single.IsCanonical bits) :
    Format.double.IsCanonical (Format.single.cast .double bits) ∧ Format.single.cast .double bits < Nat.pow 2 64 ∧
      Format.double.cast .single (Format.single.cast .double bits) = bits := by
  rcases hc with hc | rfl
  · have within := Format.single_within_double
    have back := within.cast_cast hb hc
    have bound := within.cast_lt hc
    refine ⟨.inl ?_, bound, back⟩
    rcases Nat.eq_or_lt_of_le hc with hinf | hfin
    · rw [within.cast_infinite hinf]
      exact Nat.le_of_eq (Format.magnitude_withSign Format.regular_double.infinity_lt)
    · obtain ⟨wide, inRange, cast, -⟩ := within.cast_finite hfin
      rw [cast, Format.magnitude_withSign (Nat.lt_trans inRange Format.regular_double.infinity_lt)]
      exact Nat.le_of_lt inRange
  · have cast : Format.single.cast .double Format.single.canonicalNaN = Format.double.canonicalNaN := by decide +kernel
    rw [cast]
    exact ⟨.inr rfl, by decide, by decide +kernel⟩

/-- A single precision number that is no NaN, or the canonical one, is encoded from its double as it was. -/
theorem encode_float32 {b : Bytes} (hl : b.length = 4) (hc : Format.single.IsCanonical (Bytes.toNat b)) :
    (float ⟨UInt64.ofNat (Format.single.cast .double (Bytes.toNat b))⟩).encode .float32 = b := by
  have bound := Bytes.toNat_lt b
  rw [hl] at bound
  obtain ⟨-, word, back⟩ := isCanonical_double bound hc
  have bits : (UInt64.ofNat (Format.single.cast .double (Bytes.toNat b))).toNat =
      Format.single.cast .double (Bytes.toNat b) := UInt64.toNat_ofNat_of_lt' word
  show Bytes.ofNat 4 (Format.double.cast .single (UInt64.ofNat (Format.single.cast .double (Bytes.toNat b))).toNat) = b
  rw [bits, back, ← hl, Bytes.ofNat_toNat]

theorem length_encode (kind : Numeric) (v : NumericValue) : (v.encode kind).length = kind.size := Bytes.length_ofNat _ _

/-- A double is read from its own encoding. -/
theorem read_encode_double (x : Double) : read .float64 ((float x).encode .float64) = some (.float x) := by
  have same : Format.double.cast .double x.bits.toNat = x.bits.toNat := if_pos rfl
  have bits : Bytes.toNat ((float x).encode .float64) = x.bits.toNat := by
    show Bytes.toNat (Bytes.ofNat 8 (Format.double.cast .double x.bits.toNat)) = x.bits.toNat
    rw [same, Bytes.toNat_ofNat]
    exact Nat.mod_eq_of_lt x.toNat_bits_lt
  rw [read_eq (length_encode _ _)]
  simp only [bits, UInt64.ofNat_toNat]

theorem json_round_trip {kind : Numeric} {b : Bytes} (hl : b.length = kind.size) (hc : kind.IsCanonical b) :
    ∃ v u, read kind b = some v ∧ WireValue.numberOfJson kind (WireValue.numberToJson v) = .ok (.number u) ∧
      u.encode kind = b := by
  have bound := Bytes.toNat_lt b
  rw [hl] at bound
  cases kind with
  | signed w => exact json_round_trip_signed w hl
  | unsigned w => exact json_round_trip_unsigned w hl
  | float32 =>
    obtain ⟨canonical, word, -⟩ := isCanonical_double bound (hc .single rfl)
    have bits : (UInt64.ofNat (Format.single.cast .double (Bytes.toNat b))).toNat =
        Format.single.cast .double (Bytes.toNat b) := UInt64.toNat_ofNat_of_lt' word
    exact ⟨_, _, read_eq hl, json_round_trip_double rfl (by rw [bits]; exact canonical), encode_float32 hl (hc .single rfl)⟩
  | float64 =>
    have bits : (UInt64.ofNat (Bytes.toNat b)).toNat = Bytes.toNat b := UInt64.toNat_ofNat_of_lt' bound
    refine ⟨_, _, read_eq hl, json_round_trip_double rfl (by rw [bits]; exact hc .double rfl), ?_⟩
    have own : Bytes.ofNat 8 (Bytes.toNat b) = b := by
      rw [show 8 = b.length from hl.symm, Bytes.ofNat_toNat]
    have same : Format.double.cast .double (Bytes.toNat b) = Bytes.toNat b := if_pos rfl
    show Bytes.ofNat 8 (Format.double.cast .double (UInt64.ofNat (Bytes.toNat b)).toNat) = b
    rw [bits, same, own]

end NumericValue

/-! ### NaNs -/

/-- The element, or the canonical NaN in place of any other. -/
def Numeric.canonicalize (kind : Numeric) (b : Bytes) : Bytes :=
  match kind.format? with
  | none => b
  | some f =>
    match f.decode (Bytes.toNat b) with
    | .nan => Bytes.ofNat kind.size f.canonicalNaN
    | _ => b

namespace Numeric
variable {kind : Numeric} {f : Format} {b : Bytes}

theorem canonicalize_of_nan (hf : kind.format? = some f) (hn : f.decode (Bytes.toNat b) = .nan) :
    kind.canonicalize b = Bytes.ofNat kind.size f.canonicalNaN := by
  simp only [canonicalize, hf, hn]

theorem decode_canonicalize (hf : kind.format? = some f) (hn : f.decode (Bytes.toNat b) = .nan) :
    f.decode (Bytes.toNat (kind.canonicalize b)) = .nan := by
  rw [canonicalize_of_nan hf hn]
  apply Format.decode_nan
  cases kind with
  | signed | unsigned => cases hf
  | _ =>
    cases hf
    decide +kernel

theorem canonicalize_of_decode (h : ∀ f, kind.format? = some f → f.decode (Bytes.toNat b) ≠ .nan) :
    kind.canonicalize b = b := by
  unfold canonicalize
  split
  · rfl
  · rename_i f hf
    have := h f hf
    split
    · contradiction
    · rfl

theorem length_canonicalize (hl : b.length = kind.size) : (kind.canonicalize b).length = kind.size := by
  unfold canonicalize
  split
  · exact hl
  · split
    · exact Bytes.length_ofNat _ _
    · exact hl

theorem IsCanonical.canonicalize_eq (hl : b.length = kind.size) (hc : kind.IsCanonical b) : kind.canonicalize b = b := by
  by_cases h : ∃ f, kind.format? = some f ∧ f.decode (Bytes.toNat b) = .nan
  · obtain ⟨f, hf, hn⟩ := h
    rw [canonicalize_of_nan hf hn]
    rcases hc f hf with below | canonical
    · exact absurd (Format.infinity_lt_of_decode_nan hn) (Nat.not_lt.mpr below)
    · rw [← canonical, ← hl, Bytes.ofNat_toNat]
  · exact canonicalize_of_decode fun f hf hn => h ⟨f, hf, hn⟩

end Numeric

namespace NumericValue
variable {kind : Numeric} {b : Bytes}

theorem numberToJson_nan {x : Double} (h : x.datum = .nan) : WireValue.numberToJson (.float x) = .string "NaN" := by
  simp only [WireValue.numberToJson, h]

theorem encode_nan {f : Format} (hf : kind.format? = some f) :
    (float .nan).encode kind = Bytes.ofNat kind.size f.canonicalNaN := by
  have single : Format.double.cast .single Double.nan.bits.toNat = Format.single.canonicalNaN := by decide +kernel
  cases kind with
  | signed | unsigned => cases hf
  | float32 =>
    cases hf
    exact congrArg (Bytes.ofNat 4) single
  | float64 =>
    cases hf
    rfl

/-- A NaN is read as one. -/
theorem read_nan {f : Format} (hl : b.length = kind.size) (hf : kind.format? = some f)
    (hn : f.decode (Bytes.toNat b) = .nan) : ∃ x, read kind b = some (.float x) ∧ x.datum = .nan := by
  have bound := Bytes.toNat_lt b
  rw [hl] at bound
  cases kind with
  | signed | unsigned => cases hf
  | float32 =>
    cases hf
    obtain ⟨nan, word⟩ := Format.single_within_double.cast_nan hn
    refine ⟨_, read_eq hl, ?_⟩
    rw [Double.datum, Double.toNat_ofNat word]
    exact nan
  | float64 =>
    cases hf
    refine ⟨_, read_eq hl, ?_⟩
    rw [Double.datum, Double.toNat_ofNat bound]
    exact hn

/-- Any number comes back from its JSON but for the sign and the payload of a NaN. -/
theorem json_canonicalize (hl : b.length = kind.size) :
    ∃ v u, read kind b = some v ∧ WireValue.numberOfJson kind (WireValue.numberToJson v) = .ok (.number u) ∧
      u.encode kind = kind.canonicalize b := by
  by_cases h : ∃ f, kind.format? = some f ∧ f.decode (Bytes.toNat b) = .nan
  · obtain ⟨f, hf, hn⟩ := h
    obtain ⟨x, number, nan⟩ := read_nan hl hf hn
    refine ⟨_, .float .nan, number, ?_, ?_⟩
    · rw [numberToJson_nan nan]
      cases kind with
      | signed | unsigned => cases hf
      | _ => rfl
    · rw [encode_nan hf, Numeric.canonicalize_of_nan hf hn]
  · have number : ∀ f, kind.format? = some f → f.decode (Bytes.toNat b) ≠ .nan := fun f hf hn => h ⟨f, hf, hn⟩
    rw [Numeric.canonicalize_of_decode number]
    exact json_round_trip hl fun f hf => Format.isCanonical_of_decode (number f hf)

end NumericValue

end ArrayTransfer
