import ArrayTransfer.Json.Parser
import ArrayTransfer.Json.Printer
import ArrayTransfer.Proofs.Number.Decimal
import ArrayTransfer.Proofs.Number.Value

/-! Numbers in JSON text. What is printed for a number is read back as that number (`readNumber_render`), whole
    numbers by their digits and doubles by a decimal that rounds to them, in each of the forms that a style sets
    decimals out in. -/

namespace ArrayTransfer

namespace Json
variable {c : Char} {cs ds rest : List Char} {n : Nat} {negative : Bool}

/-- What stands behind a number and does not go on with it. -/
def Stops (rest : List Char) : Prop := ∀ a, rest.head? = some a → isDigit a = false ∧ a ≠ '.' ∧ a ≠ 'e' ∧ a ≠ 'E'

theorem stops_nil : Stops [] := fun _ h => by cases h

theorem stops_cons (h : isDigit c = false ∧ c ≠ '.' ∧ c ≠ 'e' ∧ c ≠ 'E') : Stops (c :: rest) := fun a ha => by
  cases ha
  exact h

/-! ### Digits -/

theorem isDigit_of_mem_toDigits (h : c ∈ Nat.toDigits 10 n) : isDigit c = true :=
  Nat.isDigit_of_mem_toDigits (by decide) (by decide) h

theorem digitsValue_eq (ds : List Char) : digitsValue ds = Nat.ofDigitChars 10 ds 0 := by
  rw [digitsValue, Nat.ofDigitChars_eq_foldl]
  congr 1
  funext n c
  rw [Nat.mul_comm]
  rfl

theorem digitsValue_toDigits (n : Nat) : digitsValue (Nat.toDigits 10 n) = n := by
  rw [digitsValue_eq, Nat.ofDigitChars_ten_toDigits]

theorem digitsValue_append_zeros (ds : List Char) (k : Nat) :
    digitsValue (ds ++ List.replicate k '0') = digitsValue ds * Nat.pow 10 k := by
  rw [digitsValue_eq, digitsValue_eq, Nat.ofDigitChars_append, Nat.ofDigitChars_replicate_zero, Nat.mul_comm]
  rfl

theorem digitsValue_zeros_append (k : Nat) (ds : List Char) :
    digitsValue (List.replicate k '0' ++ ds) = digitsValue ds := by
  rw [digitsValue_eq, digitsValue_eq, Nat.ofDigitChars_append, Nat.ofDigitChars_replicate_zero, Nat.mul_zero]

/-- A number other than zero has no leading zero. -/
theorem head?_toDigits (hn : n ≠ 0) : (Nat.toDigits 10 n).head? ≠ some '0' := by
  induction n using Nat.strongRecOn with
  | ind n ih =>
    rw [Nat.toDigits_eq_if (by decide)]
    split
    · rename_i hlt
      rw [List.head?_cons]
      intro h
      have zero := Nat.toNat_digitChar_sub_48_of_lt_ten hlt
      rw [Option.some.inj h] at zero
      exact hn zero.symm
    · rename_i hge
      have smaller : n / 10 < n := Nat.div_lt_self (Nat.pos_of_ne_zero hn) (by decide)
      have nonzero : n / 10 ≠ 0 := by omega
      have leading := ih _ smaller nonzero
      obtain ⟨a, as, ha⟩ := List.exists_cons_of_ne_nil (@Nat.toDigits_ne_nil (n / 10) 10)
      rw [ha] at leading ⊢
      exact leading

theorem isDigit_of_mem_zero (h : c ∈ ['0']) : isDigit c = true := by
  rw [List.mem_singleton.mp h]
  rfl

theorem readDigits_append (hne : ds ≠ []) (hd : ∀ c ∈ ds, isDigit c = true)
    (hr : ∀ a, rest.head? = some a → isDigit a = false) : readDigits (ds ++ rest) = some (ds, rest) := by
  have front : (ds ++ rest).takeWhile isDigit = ds := by
    rw [List.takeWhile_append_of_pos hd]
    cases rest with
    | nil => simp
    | cons a rest => rw [List.takeWhile_cons_of_neg (by simp [hr a rfl]), List.append_nil]
  have back : (ds ++ rest).dropWhile isDigit = rest := by
    rw [List.dropWhile_append_of_pos hd]
    cases rest with
    | nil => rfl
    | cons a rest => rw [List.dropWhile_cons_of_neg (by simp [hr a rfl])]
  unfold readDigits
  rw [front, back]
  cases ds with
  | nil => exact absurd rfl hne
  | cons d ds => rfl

theorem readWhole_append (hne : ds ≠ []) (hd : ∀ c ∈ ds, isDigit c = true) (hz : ds.head? ≠ some '0' ∨ ds.length = 1)
    (hr : ∀ a, rest.head? = some a → isDigit a = false) : readWhole (ds ++ rest) = some (ds, rest) := by
  unfold readWhole
  rw [readDigits_append hne hd hr]
  simp only
  rw [if_neg]
  rintro ⟨h, h'⟩
  rcases hz with hz | hz
  · exact hz h
  · exact h' hz

theorem readFraction_point (hne : ds ≠ []) (hd : ∀ c ∈ ds, isDigit c = true)
    (hr : ∀ a, rest.head? = some a → isDigit a = false) : readFraction ('.' :: (ds ++ rest)) = some (some ds, rest) := by
  rw [readFraction, readDigits_append hne hd hr]
  rfl

theorem readFraction_none (hr : ∀ a, rest.head? = some a → a ≠ '.') : readFraction rest = some (none, rest) := by
  unfold readFraction
  split
  · exact absurd rfl (hr '.' rfl)
  · rfl

theorem readExponent_none (hr : ∀ a, rest.head? = some a → a ≠ 'e' ∧ a ≠ 'E') :
    readExponent rest = some (none, rest) := by
  unfold readExponent
  split
  · exact absurd rfl (hr 'e' rfl).1
  · exact absurd rfl (hr 'E' rfl).2
  · rfl

theorem readExponent_signed (k : Int) (hr : ∀ a, rest.head? = some a → isDigit a = false) :
    readExponent ('e' :: (if k < 0 then '-' else '+') :: (Nat.toDigits 10 k.natAbs ++ rest)) = some (some k, rest) := by
  have digits : readDigits (Nat.toDigits 10 k.natAbs ++ rest) = some (Nat.toDigits 10 k.natAbs, rest) :=
    readDigits_append Nat.toDigits_ne_nil (fun _ => isDigit_of_mem_toDigits) hr
  split
  · rename_i hk
    have value : -((k.natAbs : Nat) : Int) = k := by omega
    simp only [readExponent, digits, Option.map_some, digitsValue_toDigits, value]
  · rename_i hk
    have value : ((k.natAbs : Nat) : Int) = k := by omega
    simp only [readExponent, digits, Option.map_some, digitsValue_toDigits, value]

/-! ### Doubles -/

/-- A number with a fraction or an exponent is read as the decimal that its parts make. -/
theorem readMagnitude_parts {whole cs' cs'' : List Char} {fraction : Option (List Char)} {exponent : Option Int}
    (hw : readWhole cs = some (whole, cs')) (hf : readFraction cs' = some (fraction, cs''))
    (he : readExponent cs'' = some (exponent, rest)) (h : fraction.isSome ∨ exponent.isSome) :
    readMagnitude negative cs = (Decimal.toDouble? negative
      ⟨digitsValue (whole ++ fraction.getD []), exponent.getD 0 - (fraction.getD []).length⟩).map fun x =>
        (.double x, rest) := by
  unfold readMagnitude
  rw [hw]
  simp only [Option.bind_eq_bind, Option.bind_some, hf, he]
  cases fraction with
  | some f => rfl
  | none =>
    cases exponent with
    | some e => rfl
    | none => simp at h

theorem readMagnitude_point {whole fraction : List Char} (hw : whole ≠ []) (hwd : ∀ c ∈ whole, isDigit c = true)
    (hz : whole.head? ≠ some '0' ∨ whole.length = 1) (hf : fraction ≠ []) (hfd : ∀ c ∈ fraction, isDigit c = true)
    (hr : Stops rest) : readMagnitude negative (whole ++ '.' :: (fraction ++ rest)) =
      (Decimal.toDouble? negative ⟨digitsValue (whole ++ fraction), -(fraction.length : Int)⟩).map fun x =>
        (.double x, rest) := by
  have point : ∀ a, ('.' :: (fraction ++ rest)).head? = some a → isDigit a = false := fun a h => by
    cases h
    decide
  rw [readMagnitude_parts (readWhole_append hw hwd hz point) (readFraction_point hf hfd fun a h => (hr a h).1)
    (readExponent_none fun a h => (hr a h).2.2) (.inl rfl)]
  simp

theorem toDigits_eq_cons (n : Nat) :
    ∃ a as, Nat.toDigits 10 n = a :: as ∧ isDigit a = true ∧ ∀ c ∈ as, isDigit c = true := by
  obtain ⟨a, as, ha⟩ := List.exists_cons_of_ne_nil (@Nat.toDigits_ne_nil n 10)
  have digits : ∀ c ∈ a :: as, isDigit c = true := fun c hc => isDigit_of_mem_toDigits (by rwa [ha])
  exact ⟨a, as, ha, digits a List.mem_cons_self, fun c hc => digits c (List.mem_cons_of_mem _ hc)⟩

section forms
variable {d : Decimal} (hd : d.digits ≠ 0) (hr : Stops rest)
include hd hr

/-- Digits, the zeros that the exponent asks for, and a fraction of zero. -/
theorem read_whole (negative : Bool) (he : 0 ≤ d.exponent) :
    ∃ d' : Decimal, d'.magnitude = d.magnitude ∧
      readMagnitude negative (Nat.toDigits 10 d.digits ++ List.replicate d.exponent.toNat '0' ++ '.' :: (['0'] ++ rest)) =
        (Decimal.toDouble? negative d').map fun x => (.double x, rest) := by
  have zeros : ∀ (k : Nat), ∀ c ∈ Nat.toDigits 10 d.digits ++ List.replicate k '0', isDigit c = true := by
    intro k c hc
    rcases List.mem_append.mp hc with hc | hc
    · exact isDigit_of_mem_toDigits hc
    · rw [List.eq_of_mem_replicate hc]
      decide
  have leading := head?_toDigits hd
  obtain ⟨a, as, ha, -, -⟩ := toDigits_eq_cons d.digits
  refine ⟨_, ?_, readMagnitude_point (by simp [ha]) (zeros _) (.inl (by rw [ha] at leading ⊢; exact leading)) (by simp)
    (fun _ => isDigit_of_mem_zero) hr⟩
  have more : Nat.toDigits 10 d.digits ++ List.replicate d.exponent.toNat '0' ++ ['0'] =
      Nat.toDigits 10 d.digits ++ List.replicate (d.exponent.toNat + 1) '0' := by
    rw [List.append_assoc, List.replicate_succ']
  have exponent : -((['0'].length : Nat) : Int) + ((d.exponent.toNat + 1 : Nat) : Int) = d.exponent := by
    simp
    omega
  rw [more, digitsValue_append_zeros, digitsValue_toDigits, Decimal.magnitude_shift, exponent]

/-- Digits on both sides of a point. -/
theorem read_split {k : Nat} (hk : 0 < k) (he : k + (-d.exponent).toNat = (Nat.toDigits 10 d.digits).length)
    (hn : d.exponent < 0) :
    readMagnitude negative
        ((Nat.toDigits 10 d.digits).take k ++ '.' :: ((Nat.toDigits 10 d.digits).drop k ++ rest)) =
      (Decimal.toDouble? negative d).map fun x => (.double x, rest) := by
  have leading := head?_toDigits hd
  obtain ⟨a, as, ha, -, -⟩ := toDigits_eq_cons d.digits
  have front : ((Nat.toDigits 10 d.digits).take k).head? = (Nat.toDigits 10 d.digits).head? := by
    obtain ⟨j, rfl⟩ := Nat.exists_eq_succ_of_ne_zero (Nat.ne_of_gt hk)
    rw [ha]
    rfl
  rw [readMagnitude_point _ (fun c hc => isDigit_of_mem_toDigits (List.mem_of_mem_take hc)) (.inl (by rwa [front])) _
    (fun c hc => isDigit_of_mem_toDigits (List.mem_of_mem_drop hc)) hr]
  · rw [List.take_append_drop, digitsValue_toDigits, List.length_drop]
    have exponent : -(((Nat.toDigits 10 d.digits).length - k : Nat) : Int) = d.exponent := by omega
    rw [exponent]
  · intro h
    rw [h, ha] at front
    cases front
  · rw [← List.length_pos_iff, List.length_drop]
    omega

omit hd in
/-- A zero, and the digits behind a point and zeros. -/
theorem read_small {k : Nat} (he : k + (Nat.toDigits 10 d.digits).length = (-d.exponent).toNat) :
    readMagnitude negative
        (['0'] ++ '.' :: ((List.replicate k '0' ++ Nat.toDigits 10 d.digits) ++ rest)) =
      (Decimal.toDouble? negative d).map fun x => (.double x, rest) := by
  have zeros : ∀ c ∈ List.replicate k '0' ++ Nat.toDigits 10 d.digits, isDigit c = true := by
    intro c hc
    rcases List.mem_append.mp hc with hc | hc
    · rw [List.eq_of_mem_replicate hc]
      decide
    · exact isDigit_of_mem_toDigits hc
  rw [readMagnitude_point (by simp) (fun _ => isDigit_of_mem_zero) (.inr rfl) (by simp [Nat.toDigits_ne_nil]) zeros hr]
  have value : digitsValue (['0'] ++ (List.replicate k '0' ++ Nat.toDigits 10 d.digits)) = d.digits := by
    have := digitsValue_zeros_append (k + 1) (Nat.toDigits 10 d.digits)
    rwa [List.replicate_succ, digitsValue_toDigits] at this
  have pos := @Nat.length_toDigits_pos 10 d.digits
  have exponent : -((List.replicate k '0' ++ Nat.toDigits 10 d.digits).length : Int) = d.exponent := by
    rw [List.length_append, List.length_replicate]
    omega
  rw [value, exponent]

/-- One digit, the others behind a point if there are any, and the power of ten of the first. -/
theorem read_scientific (leading : Int) (he : leading = (Nat.toDigits 10 d.digits).length + d.exponent - 1) :
    readMagnitude negative ((Nat.toDigits 10 d.digits).take 1 ++
        ((if (Nat.toDigits 10 d.digits).length ≤ 1 then [] else '.' :: (Nat.toDigits 10 d.digits).drop 1) ++
          'e' :: (if leading < 0 then '-' else '+') :: (Nat.toDigits 10 leading.natAbs ++ rest))) =
      (Decimal.toDouble? negative d).map fun x => (.double x, rest) := by
  obtain ⟨a, as, ha, first, others⟩ := toDigits_eq_cons d.digits
  have value := digitsValue_toDigits d.digits
  have exponent := readExponent_signed leading fun a h => (hr a h).1
  rw [ha] at he value ⊢
  have one : ∀ c ∈ [a], isDigit c = true := by simpa using first
  simp only [List.take_succ_cons, List.take_zero, List.drop_succ_cons, List.drop_zero, List.length_cons] at he ⊢
  cases as with
  | nil =>
    simp only [List.length_nil] at he ⊢
    simp only [Nat.zero_add, Nat.le_refl, if_true, List.nil_append]
    rw [readMagnitude_parts (readWhole_append (by simp) one (.inr rfl) _) (readFraction_none _) exponent (.inr rfl)]
    · have same : d = ⟨digitsValue [a], leading⟩ := by
        cases d
        simp only [Decimal.mk.injEq]
        simp only at value he
        exact ⟨value.symm, by omega⟩
      simp only [Option.getD_none, List.append_nil, Option.getD_some, List.length_nil, Int.natCast_zero, Int.sub_zero]
      rw [← same]
    · intro c hc
      cases hc
      decide
    · intro c hc
      cases hc
      decide
  | cons b bs =>
    simp only [List.length_cons] at he ⊢
    rw [if_neg (by omega)]
    show readMagnitude negative ([a] ++ '.' :: (b :: bs ++
      'e' :: (if leading < 0 then '-' else '+') :: (Nat.toDigits 10 leading.natAbs ++ rest))) = _
    rw [readMagnitude_parts (readWhole_append (by simp) one (.inr rfl) _)
      (readFraction_point (by simp) others _) exponent (.inr rfl)]
    · have same : d = ⟨digitsValue (a :: b :: bs), leading - ((b :: bs).length : Int)⟩ := by
        cases d
        simp only [Decimal.mk.injEq]
        simp only at value he
        refine ⟨value.symm, ?_⟩
        simp only [List.length_cons]
        omega
      simp only [Option.getD_some, List.singleton_append]
      rw [← same]
    · intro c hc
      cases hc
      decide
    · intro c hc
      cases hc
      decide

/-- A decimal in any style is read as one of the same value. -/
theorem readMagnitude_render (negative : Bool) (style : DecimalStyle) : ∃ d' : Decimal, d'.magnitude = d.magnitude ∧
    readMagnitude negative ((style.render d).toList ++ rest) =
      (Decimal.toDouble? negative d').map fun x => (.double x, rest) := by
  have pos := @Nat.length_toDigits_pos 10 d.digits
  unfold DecimalStyle.render
  simp only
  split
  · split
    · rename_i he
      obtain ⟨d', value, read⟩ := read_whole hd hr negative he
      refine ⟨d', value, ?_⟩
      rw [← read, String.toList_ofList]
      simp
    · rename_i he
      split
      · rename_i hl
        refine ⟨d, rfl, ?_⟩
        rw [← read_split hd hr (k := ((Nat.toDigits 10 d.digits).length + d.exponent - 1 : Int).toNat + 1) (by omega)
          (by omega) (by omega), String.toList_ofList]
        simp
      · rename_i hl
        refine ⟨d, rfl, ?_⟩
        rw [← read_small hr (k := (-((Nat.toDigits 10 d.digits).length + d.exponent - 1) - 1 : Int).toNat) (by omega),
          String.toList_ofList]
        simp
  · refine ⟨d, rfl, ?_⟩
    rw [← read_scientific hd hr _ rfl, String.toList_ofList]
    simp

end forms

theorem render_eq_cons (style : DecimalStyle) (d : Decimal) :
    ∃ a as, (style.render d).toList = a :: as ∧ isDigit a = true := by
  obtain ⟨a, as, ha, digit, -⟩ := toDigits_eq_cons d.digits
  unfold DecimalStyle.render
  simp only [ha]
  split
  · split
    · exact ⟨a, _, by rw [String.toList_ofList]; rfl, digit⟩
    · split
      · exact ⟨a, _, by rw [String.toList_ofList]; rfl, digit⟩
      · exact ⟨'0', _, by rw [String.toList_ofList]; rfl, by decide⟩
  · exact ⟨a, _, by rw [String.toList_ofList]; rfl, digit⟩

end Json

/-- Neither an infinity nor a NaN. -/
def Double.IsFinite (x : Double) : Prop := Format.double.magnitude x.bits.toNat < Format.double.infinity

/-- A number as the kinds say: a negative one is below zero, and a double is finite. -/
def JsonNumber.IsValid : JsonNumber → Prop
  | .unsigned _ => True
  | .negative n => n < 0
  | .double x => x.IsFinite

namespace Json
variable {rest : List Char} {n : Nat} {negative : Bool} {x : Double}

theorem shortest_of_zero (h0 : Format.double.magnitude x.bits.toNat = 0) : x.shortest = ⟨0, 0⟩ := by
  have finite : Format.double.magnitude x.bits.toNat < Format.double.infinity := by
    rw [h0]
    decide
  obtain ⟨m, e, datum, value⟩ := Format.decode_finite finite
  have zero : Format.double.units 0 = 0 := by decide
  rw [h0, zero, Nat.mul_zero] at value
  have hm : m = 0 := by
    rcases Nat.mul_eq_zero.mp value with h | h
    · exact (Nat.mul_eq_zero.mp h).resolve_right (Nat.ne_of_gt (Format.pow_pos _))
    · exact absurd h (Nat.ne_of_gt (Format.pow_pos _))
  unfold Double.shortest Double.datum
  rw [datum]
  simp only [hm, if_true]

theorem ofNat_withSign (x : Double) :
    (⟨UInt64.ofNat (Format.double.withSign x.isNegative (Format.double.magnitude x.bits.toNat))⟩ : Double) = x := by
  cases x
  rw [Double.isNegative, Format.withSign_magnitude (Double.toNat_bits_lt _), UInt64.ofNat_toNat]

theorem readMagnitude_double (hx : x.IsFinite) (hr : Stops rest) :
    readMagnitude x.isNegative ((doubleStyle.render x.shortest).toList ++ rest) = some (.double x, rest) := by
  by_cases h0 : Format.double.magnitude x.bits.toNat = 0
  · have text : (doubleStyle.render ⟨0, 0⟩).toList = ['0'] ++ '.' :: ['0'] := by decide
    have sign : Double.zero x.isNegative = x := by
      have whole := ofNat_withSign x
      rwa [h0] at whole
    rw [shortest_of_zero h0, text]
    show readMagnitude x.isNegative (['0'] ++ '.' :: (['0'] ++ rest)) = _
    rw [readMagnitude_point (by simp) (fun _ => isDigit_of_mem_zero) (.inr rfl) (by simp)
      (fun _ => isDigit_of_mem_zero) hr]
    have zero : Decimal.toDouble? x.isNegative ⟨digitsValue (['0'] ++ ['0']), -((['0'] : List Char).length : Int)⟩ =
        some (Double.zero x.isNegative) := by
      unfold Decimal.toDouble?
      simp only
      rw [if_pos (.inl (by decide))]
    rw [zero, sign]
    rfl
  · have digits : x.shortest.digits ≠ 0 := by
      intro hd
      have zero : x.shortest = ⟨0, x.shortest.exponent⟩ := by rw [← hd]
      have value := Double.magnitude_shortest h0 hx
      rw [zero, Decimal.magnitude_zero] at value
      exact h0 value.symm
    obtain ⟨d, value, read⟩ := readMagnitude_render digits hr x.isNegative doubleStyle
    rw [read, Decimal.toDouble?_of_magnitude (value.trans (Double.magnitude_shortest h0 hx)) h0 (Nat.ne_of_lt hx),
      ofNat_withSign]
    rfl

/-- Without a sign in front, a number is not negative. -/
theorem readNumber_of_digit {a : Char} {as : List Char} (ha : isDigit a = true) :
    readNumber (a :: as) = readMagnitude false (a :: as) := by
  unfold readNumber
  split
  · rename_i h
    cases h
    exact absurd ha (by decide)
  · rfl

theorem readNumber_double (hx : x.IsFinite) (hr : Stops rest) :
    readNumber ((x.render doubleStyle).toList ++ rest) = some (.double x, rest) := by
  have read := readMagnitude_double hx hr
  unfold Double.render
  cases hn : x.isNegative with
  | true =>
    rw [hn] at read
    simpa [readNumber] using read
  | false =>
    rw [hn] at read
    obtain ⟨a, as, ha, digit⟩ := render_eq_cons doubleStyle x.shortest
    rw [ha, List.cons_append] at read
    simp only [Bool.false_eq_true, if_false, String.empty_append, ha, List.cons_append]
    rw [readNumber_of_digit digit]
    exact read

/-! ### Whole numbers -/

theorem readMagnitude_whole (negative : Bool) (n : Nat) (hr : Stops rest) :
    readMagnitude negative (Nat.toDigits 10 n ++ rest) = (wholeNumber? negative n).map fun k => (k, rest) := by
  have leading : (Nat.toDigits 10 n).head? ≠ some '0' ∨ (Nat.toDigits 10 n).length = 1 := by
    by_cases hn : n = 0
    · exact .inr (by rw [hn, Nat.toDigits_zero]; rfl)
    · exact .inl (head?_toDigits hn)
  have whole := readWhole_append Nat.toDigits_ne_nil (fun _ => isDigit_of_mem_toDigits) leading fun a h => (hr a h).1
  have fraction := readFraction_none fun a h => (hr a h).2.1
  have exponent := readExponent_none fun a h => (hr a h).2.2
  unfold readMagnitude
  rw [whole]
  simp only [Option.bind_eq_bind, Option.bind_some, fraction, exponent, digitsValue_toDigits]

theorem readNumber_unsigned (n : UInt64) (hr : Stops rest) :
    readNumber ((JsonNumber.unsigned n).render.toList ++ rest) = some (.unsigned n, rest) := by
  obtain ⟨a, as, ha, digit, -⟩ := toDigits_eq_cons n.toNat
  have text : (JsonNumber.unsigned n).render.toList = Nat.toDigits 10 n.toNat := Nat.toList_repr
  have read := readMagnitude_whole false n.toNat hr
  have word : n.toNat < UInt64.size := n.toNat_lt
  have kind : wholeNumber? false n.toNat = some (.unsigned n) := by
    unfold wholeNumber?
    rw [if_pos (by simpa using word), UInt64.ofNat_toNat]
  rw [text]
  rw [kind, ha] at read
  rw [ha, List.cons_append, readNumber_of_digit digit]
  exact read

theorem readNumber_negative {n : Int64} (hn : n < 0) (hr : Stops rest) :
    readNumber ((JsonNumber.negative n).render.toList ++ rest) = some (.negative n, rest) := by
  have below : n.toInt < 0 := Int64.lt_iff_toInt_lt.mp hn
  have least : -2 ^ 63 ≤ n.toInt := n.le_toInt
  have text : (JsonNumber.negative n).render.toList = '-' :: Nat.toDigits 10 n.toInt.natAbs := by
    show (toString n.toInt).toList = _
    cases hk : n.toInt with
    | ofNat k =>
      rw [hk] at below
      exact absurd below (by simp)
    | negSucc k =>
      show ("-" ++ (k + 1).repr).toList = _
      rw [String.toList_append, Nat.toList_repr]
      rfl
  have kind : wholeNumber? true n.toInt.natAbs = some (.negative n) := by
    have bound : n.toInt.natAbs ≤ Nat.pow 2 63 := by
      show n.toInt.natAbs ≤ 2 ^ 63
      omega
    have back : -((n.toInt.natAbs : Nat) : Int) = n.toInt := by omega
    unfold wholeNumber?
    rw [if_neg (by simp), if_pos ⟨rfl, by omega, bound⟩, back, Int64.ofInt_toInt]
  rw [text, List.cons_append, readNumber, readMagnitude_whole true _ hr, kind]
  rfl

/-- A number is read back from its text. -/
theorem readNumber_render {n : JsonNumber} (hn : n.IsValid) (hr : Stops rest) :
    readNumber (n.render.toList ++ rest) = some (n, rest) := by
  cases n with
  | unsigned n => exact readNumber_unsigned n hr
  | negative n => exact readNumber_negative hn hr
  | double x => exact readNumber_double hn hr

/-- The text of a number begins with a digit or a minus sign. -/
theorem render_number_eq_cons (n : JsonNumber) :
    ∃ a as, n.render.toList = a :: as ∧ (isDigit a = true ∨ a = '-') := by
  cases n with
  | unsigned n =>
    obtain ⟨a, as, ha, digit, -⟩ := toDigits_eq_cons n.toNat
    exact ⟨a, as, (show n.toNat.repr.toList = _ by rw [Nat.toList_repr, ha]), .inl digit⟩
  | negative n =>
    show ∃ a as, (toString n.toInt).toList = a :: as ∧ _
    cases n.toInt with
    | ofNat k =>
      obtain ⟨a, as, ha, digit, -⟩ := toDigits_eq_cons k
      exact ⟨a, as, (show k.repr.toList = _ by rw [Nat.toList_repr, ha]), .inl digit⟩
    | negSucc k =>
      refine ⟨'-', (k + 1).repr.toList, ?_, .inr rfl⟩
      show ("-" ++ (k + 1).repr).toList = _
      rw [String.toList_append]
      rfl
  | double x =>
    obtain ⟨a, as, ha, digit⟩ := render_eq_cons doubleStyle x.shortest
    show ∃ a as, (x.render doubleStyle).toList = a :: as ∧ _
    unfold Double.render
    rw [String.toList_append, ha]
    split
    · exact ⟨'-', a :: as, rfl, .inr rfl⟩
    · exact ⟨a, as, rfl, .inl digit⟩

end Json

end ArrayTransfer
