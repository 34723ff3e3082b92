import ArrayTransfer.Proofs.Wire.Update

/-! Writes in JSON, and what they keep of the elements. If all its references can be read, an element is written, and
    nothing else is asked of it. It comes back the same for every reader (`Agrees`), as long as its strings are texts
    (`agrees_viaJson`); of other strings the reader gets what the lossy reading left, and nobody is told
    (`Elements.json_alters_text`). Elements in base64 come back byte by byte. -/

namespace ArrayTransfer

namespace WireValue
variable {t : DataType} {b : Bytes}

/-- Two elements are the same but for the sign and the payload of a NaN, what stands behind the first zero of a string or
    a reference, and the bytes between members. -/
inductive Agrees : DataType → Bytes → Bytes → Prop where
  | numeric {kind : Numeric} {b : Bytes} (length : b.length = kind.size) : Agrees (.numeric kind) b b
  | nan {kind : Numeric} {f : Format} {b c : Bytes} (format : kind.format? = some f) (lengths : b.length = kind.size ∧
    c.length = kind.size) (nans : f.decode (Bytes.toNat b) = .nan ∧ f.decode (Bytes.toNat c) = .nan) :
    Agrees (.numeric kind) b c
  | string {size : Nat} {b c : Bytes} (lengths : b.length = size ∧ c.length = size)
    (same : Bytes.beforeZero c = Bytes.beforeZero b) : Agrees (.string size) b c
  | reference {b c : Bytes} (lengths : b.length = DataType.referenceSize ∧ c.length = DataType.referenceSize)
    (same : Bytes.beforeZero c = Bytes.beforeZero b) : Agrees .reference b c
  | compound {members : List (Member DataType)} {size : Nat} {b c : Bytes} (lengths : b.length = size ∧ c.length = size)
    (each : ∀ m ∈ members, Agrees m.type (Bytes.slice b m.offset m.size) (Bytes.slice c m.offset m.size)) :
    Agrees (.compound members size) b c

theorem Agrees.refl (hw : t.WellFormed) (hf : t.isVariable = false) (hl : b.length = t.size) : Agrees t b b := by
  induction hw generalizing b with
  | numeric kind => exact .numeric hl
  | @compound members size laidOut _ ih =>
    exact .compound ⟨hl, hl⟩ fun m hm => ih m hm (laidOut.fixed m hm) (laidOut.length_slice hm hl)
  | string size => exact .string ⟨hl, hl⟩ rfl
  | varString | sequence => cases hf
  | reference => exact .reference ⟨hl, hl⟩ rfl

/-- What stands before the first zero is UTF-8. -/
def IsText (b : Bytes) : Prop := (Utf8.decode? (Bytes.beforeZero b)).isSome

instance (b : Bytes) : Decidable (IsText b) := inferInstanceAs (Decidable (_ = true))

/-- All strings in the element are texts. -/
def Textual : DataType → Bytes → Prop := Throughout IsText fun _ => True

/-- A text is read as it is. -/
theorem IsText.encode_decodeLossy (h : IsText b) :
    Utf8.encode (Utf8.decodeLossy (Bytes.beforeZero b)) = Bytes.beforeZero b := by
  obtain ⟨s, hs⟩ := Option.isSome_iff_exists.mp h
  rw [← Utf8.decode?_eq_some_iff.mp hs, Utf8.decodeLossy_encode]

theorem agrees_canonicalize {kind : Numeric} (hl : b.length = kind.size) :
    Agrees (.numeric kind) b (kind.canonicalize b) := by
  by_cases h : ∃ f, kind.format? = some f ∧ f.decode (Bytes.toNat b) = .nan
  · obtain ⟨f, hf, hn⟩ := h
    exact .nan hf ⟨hl, Numeric.length_canonicalize hl⟩ ⟨hn, Numeric.decode_canonicalize hf hn⟩
  · rw [Numeric.canonicalize_of_decode fun f hf hn => h ⟨f, hf, hn⟩]
    exact .numeric hl

/-- An element whose strings are texts comes back the same. -/
theorem agrees_viaJson (hw : t.WellFormed) (hl : b.length = t.size) (ht : Textual t b) : Agrees t b (viaJson t b) := by
  induction hw generalizing b with
  | numeric kind => exact agrees_canonicalize hl
  | @compound members size laidOut wellFormed ih =>
    cases ht with
    | compound _ each =>
      refine .compound ⟨hl, length_viaJson (.compound laidOut wellFormed) hl⟩ fun m hm => ?_
      rw [slice_viaJson laidOut wellFormed hl hm]
      exact ih m hm (laidOut.length_slice hm hl) (each m hm)
  | string size =>
    cases ht with
    | string _ text =>
      refine .string ⟨hl, Bytes.length_fit _ _⟩ ?_
      rw [viaJson, text.encode_decodeLossy]
      exact Bytes.beforeZero_fit_beforeZero (Nat.le_of_eq hl)
  | varString | sequence => cases ht
  | reference => exact .reference ⟨hl, Bytes.length_fit _ _⟩ (Bytes.beforeZero_fit_beforeZero (Nat.le_of_eq hl))

end WireValue

/-! ### Packed elements -/

namespace Elements
open WireValue
variable {t : DataType} {b c : Bytes} {n : Nat}

/-- What came back for packed elements: as many, and those whose strings are texts the same. -/
structure Kept (t : DataType) (n : Nat) (b c : Bytes) : Prop where
  length : c.length = b.length
  agrees : ∀ k < n, Textual t (Bytes.element b t.size k) → Agrees t (Bytes.element b t.size k) (Bytes.element c t.size k)

section packed
variable {es : List Bytes} (hw : t.WellFormed) (sizes : ∀ e ∈ es, e.length = t.size)
include hw sizes

theorem element_viaJson {k : Nat} (hk : k < es.length) :
    Bytes.element (es.map (viaJson t)).flatten t.size k = viaJson t (Bytes.element es.flatten t.size k) := by
  rw [Bytes.element_flatten (length_of_mem_map_viaJson hw sizes) (by rwa [List.length_map]),
    Bytes.element_flatten sizes hk, List.getElem_map]

theorem kept_viaJson : Kept t es.length es.flatten (es.map (viaJson t)).flatten where
  length := by
    rw [Bytes.length_flatten_of_size (length_of_mem_map_viaJson hw sizes), Bytes.length_flatten_of_size sizes,
      List.length_map]
  agrees k hk ht := by
    rw [element_viaJson hw sizes hk]
    refine agrees_viaJson hw ?_ ht
    rw [Bytes.element_flatten sizes hk]
    exact sizes _ (List.getElem_mem _)

theorem kept_refl (hf : t.isVariable = false) : Kept t es.length es.flatten es.flatten where
  length := rfl
  agrees k hk _ := by
    refine Agrees.refl hw hf ?_
    rw [Bytes.element_flatten sizes hk]
    exact sizes _ (List.getElem_mem _)

end packed

theorem exists_encode_iff {es : List Bytes} (hw : t.WellFormed) (hf : t.isVariable = false)
    (sizes : ∀ e ∈ es, e.length = t.size) :
    (∃ v, encode es.flatten t es.length = .ok v) ↔ ∀ e ∈ es, Readable t e := by
  constructor
  · rintro ⟨v, encoded⟩
    rw [encode_eq_readAll hf sizes] at encoded
    cases hr : readAll t es with
    | error e =>
      rw [hr] at encoded
      cases encoded
    | ok vs => exact readable_of_readAll hr
  · intro readable
    obtain ⟨items, encoded, -⟩ := decode_viaJson hf sizes hw readable
    exact ⟨_, encoded⟩

/-- Packed elements are written as JSON exactly if all references in them can be read, and come back from it as `viaJson`
    says of each, so those whose strings are texts come back the same. So they do from the body of any write in JSON,
    which holds them in base64 if that is asked for and there are no references among them, and then comes back byte by
    byte. -/
theorem json_keeps_elements (hw : t.WellFormed) (hf : t.isVariable = false) (hl : b.length = t.size * n) :
    ((∃ v, encode b t n = .ok v) ↔ ∀ k < n, Readable t (Bytes.element b t.size k)) ∧
    (∀ v, encode b t n = .ok v → ∃ c, decode v t n = .ok c ∧ Kept t n b c ∧
      ∀ k < n, Bytes.element c t.size k = viaJson t (Bytes.element b t.size k)) ∧
    ∀ (s : Selection) (order : ByteOrder) (base64 : Bool) (body : RequestBody), n ≠ 0 →
      Body.encodeWrite .json s t order b n base64 = .ok body →
        ∃ fields c, Body.fields? body.toBytes = some fields ∧ Body.inFields? t order n fields = some c ∧
          Kept t n b c ∧ ((Json.lookup "value_base64" fields).isSome ↔ base64 = true ∧ t.holdsReference = false) ∧
          (base64 = true ∧ t.holdsReference = false → c = b) := by
  obtain ⟨es, rfl, sizes, rfl⟩ := Bytes.exists_packed hl
  have kept := kept_viaJson hw sizes
  refine ⟨?_, fun v encoded => ?_, fun s order base64 body hn written => ?_⟩
  · rw [exists_encode_iff hw hf sizes, List.forall_mem_iff_forall_getElem]
    exact forall_congr' fun k => forall_congr' fun hk => by rw [Bytes.element_flatten sizes hk]
  · have readable := (exists_encode_iff hw hf sizes).mp ⟨v, encoded⟩
    obtain ⟨items, items_encoded, -, -, back⟩ := decode_viaJson hf sizes hw readable
    obtain rfl := Except.ok.inj (encoded.symm.trans items_encoded)
    exact ⟨_, back _ (Nests.refl items).whole, kept, fun k hk => element_viaJson hw sizes hk⟩
  · obtain ⟨fields, read, form, found⟩ := Body.inFields?_encodeWrite hw hf sizes hn written
    refine ⟨fields, _, read, found, ?_, form, fun raw => by rw [if_pos raw]⟩
    split
    · exact kept_refl hw sizes hf
    · exact kept

/-- A label, a number behind a byte of padding, and a reference. -/
def labelled : DataType :=
  .compound [⟨"label", 0, .string 3⟩, ⟨"x", 4, .numeric .float32⟩, ⟨"r", 8, .reference⟩] 56

/-- A label that ends before its last byte, padding that is set, a NaN with a sign and a payload, and no reference. -/
def unkempt : Bytes := [97, 0, 98, 9, 1, 0, 192, 255] ++ Bytes.zeros 48

/-- The element comes back the same, and tidied up. -/
theorem json_keeps_elements_unkempt : labelled.WellFormed ∧ labelled.isVariable = false ∧
    unkempt.length = labelled.size * 1 ∧ ∃ v c, encode unkempt labelled 1 = .ok v ∧ decode v labelled 1 = .ok c ∧
      c = [97, 0, 0, 0, 0, 0, 192, 127] ++ Bytes.zeros 48 ∧ Agrees labelled unkempt c := by
  have wellFormed : labelled.WellFormed := by
    refine .compound ⟨by simp, by decide, by decide, by decide, by decide⟩ ?_
    exact List.forall_mem_cons.mpr ⟨.string _, List.forall_mem_cons.mpr ⟨.numeric _,
      List.forall_mem_singleton.mpr .reference⟩⟩
  have readable : Readable labelled unkempt := by
    refine .compound _ (List.forall_mem_cons.mpr ⟨.string _ trivial, List.forall_mem_cons.mpr ⟨.numeric _ _,
      List.forall_mem_singleton.mpr (.reference ⟨none, ?_⟩)⟩⟩)
    exact Reference.ofSlot_zeros
  have textual : Textual labelled unkempt :=
    .compound _ (List.forall_mem_cons.mpr ⟨.string _ (by decide), List.forall_mem_cons.mpr ⟨.numeric _ _,
      List.forall_mem_singleton.mpr (.reference trivial)⟩⟩)
  obtain ⟨encodes, back, -⟩ := json_keeps_elements wellFormed rfl (show unkempt.length = labelled.size * 1 from rfl)
  obtain ⟨v, encoded⟩ := encodes.mpr fun k hk => by
    obtain rfl : k = 0 := by omega
    exact readable
  obtain ⟨c, decoded, kept, values⟩ := back v encoded
  have whole : Bytes.element c labelled.size 0 = c := Bytes.slice_whole kept.length
  have value := values 0 Nat.one_pos
  have agrees := kept.agrees 0 Nat.one_pos textual
  rw [whole] at value agrees
  exact ⟨wellFormed, rfl, rfl, v, c, encoded, decoded, value.trans (by decide), agrees⟩

/-- Three bytes that are no UTF-8 are written as a text with U+FFFD in front, which leaves no room for the others. -/
theorem json_alters_text : ¬IsText [255, 65, 66] ∧ ∃ v, encode [255, 65, 66] (.string 3) 1 = .ok v ∧
    decode v (.string 3) 1 = .ok [239, 191, 189] ∧ ¬Agrees (.string 3) [255, 65, 66] [239, 191, 189] := by
  have sizes : ∀ e ∈ [([255, 65, 66] : Bytes)], e.length = (DataType.string 3).size := by decide
  obtain ⟨items, encoded, -, -, back⟩ := decode_viaJson rfl sizes (.string 3)
    (List.forall_mem_singleton.mpr (.string 3 trivial))
  have returned : ([[255, 65, 66]].map (viaJson (.string 3))).flatten = [239, 191, 189] := by decide
  refine ⟨by decide, _, encoded, (back _ (Nests.refl items).whole).trans (congrArg _ returned), fun same => ?_⟩
  cases same with
  | string _ same => exact absurd same (by decide)

end Elements

end ArrayTransfer
