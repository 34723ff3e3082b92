import ArrayTransfer.Proofs.Bytes.Packed
import ArrayTransfer.Proofs.DataType.ByteOrder
import ArrayTransfer.Proofs.Wire.Answered
import Mathlib.Data.List.Forall2

/-! What can be wrong with a response. What is read from a document as an element of a type can be written as one
    (`WireValue.ofJson_cases`), so that a document is refused only for what stands in it (`WireError.OfDocument`), and a
    raw body only for its length. What is not refused decodes to as many elements as were asked for. -/

namespace ArrayTransfer

/-- What can be wrong with a document: it is no JSON or has no values, it has too many or too few, or one of them is of
    another kind or no reference. -/
inductive WireError.OfDocument : WireError → Prop where
  | malformed (cause : Malformed) : OfDocument (.malformed cause)
  | element (value : Json) (type : DataType) : OfDocument (.unsupportedElement value type)
  | reference (text : String) : OfDocument (.invalidReference text)
  | count (got expected : Nat) : OfDocument (.countMismatch got expected)

/-! ### One element -/

namespace WireValue
variable {t : DataType} {v : Json} {u : WireValue} {members : List (Member DataType)} {items : List Json}
  {us : List (String × WireValue)}

/-- The value can be written over any element of the type. -/
def Fits (t : DataType) (u : WireValue) : Prop :=
  ∀ b : Bytes, b.length = t.size → ∃ c, write t u b = ⟨c, none⟩ ∧ c.length = t.size

theorem fits_number (kind : Numeric) (n : NumericValue) : Fits (.numeric kind) (.number n) := by
  intro b length
  replace length : b.length = kind.size := length
  rw [write, if_neg (Decidable.not_not.mpr length)]
  exact ⟨_, rfl, Bytes.length_ofNat _ _⟩

theorem fits_string (size : Nat) (s : String) : Fits (.string size) (.string s) := by
  intro b length
  replace length : b.length = size := length
  rw [write, if_neg (Decidable.not_not.mpr length)]
  exact ⟨_, rfl, Bytes.length_fit _ _⟩

theorem fits_reference (r : Option Reference) : Fits .reference (.reference r) := by
  intro b length
  replace length : b.length = DataType.referenceSize := length
  rw [write, if_neg (Decidable.not_not.mpr length)]
  refine ⟨_, rfl, ?_⟩
  rw [length]
  cases r with
  | none => exact Bytes.length_zeros _
  | some r => exact Bytes.length_fit _ _

theorem writeMembers_of_fits {b : Bytes} (bound : ∀ m ∈ members, m.stop ≤ b.length)
    (each : List.Forall₂ (fun m u => Fits m.type u.2) members us) :
    ∃ c, writeMembers members us b = ⟨c, none⟩ ∧ c.length = b.length := by
  induction each generalizing b with
  | nil => exact ⟨b, rfl, rfl⟩
  | @cons m u members us first _ ih =>
    obtain ⟨name, offset, t⟩ := m
    have stop : offset + t.size ≤ b.length := bound _ List.mem_cons_self
    obtain ⟨c, written, length⟩ := first (Bytes.slice b offset t.size) (Bytes.length_slice b offset t.size stop)
    have patched : (Bytes.patch b offset c).length = b.length := Bytes.length_patch b offset c (by rwa [length])
    obtain ⟨d, rest, kept⟩ := ih (by rw [patched]; exact fun m hm => bound m (List.mem_cons_of_mem _ hm))
    refine ⟨d, ?_, kept.trans patched⟩
    rw [writeMembers]
    simp only [written]
    exact rest

theorem fits_compound {size : Nat} (laidOut : Member.LaidOut members size)
    (each : List.Forall₂ (fun m u => Fits m.type u.2) members us) : Fits (.compound members size) (.compound us) := by
  intro b length
  replace length : b.length = size := length
  obtain ⟨c, written, kept⟩ := writeMembers_of_fits (b := b) (by rw [length]; exact laidOut.bound) each
  rw [write, if_neg (Decidable.not_not.mpr length)]
  simp only [each.length_eq, if_true]
  exact ⟨c, written, kept.trans length⟩

theorem numberOfJson_cases (kind : Numeric) (v : Json) :
    (∃ n, numberOfJson kind v = .ok (.number n)) ∨ ∃ e, numberOfJson kind v = .error e ∧ e.OfDocument := by
  unfold numberOfJson
  split
  · exact .inl ⟨_, rfl⟩
  · split
    · exact .inl ⟨_, rfl⟩
    · exact .inr ⟨_, rfl, .element _ _⟩
  · exact .inr ⟨_, rfl, .element _ _⟩

theorem referenceOfJson_cases (v : Json) :
    (∃ r, referenceOfJson v = .ok (.reference r)) ∨ ∃ e, referenceOfJson v = .error e ∧ e.OfDocument := by
  unfold referenceOfJson
  split
  · exact .inl ⟨_, rfl⟩
  · split
    · exact .inl ⟨_, rfl⟩
    · rename_i s _
      unfold Reference.parse
      split
      · exact .inl ⟨_, rfl⟩
      · exact .inr ⟨_, rfl, .reference s⟩
  · exact .inr ⟨_, rfl, .element _ _⟩

theorem membersOfJson_cases
    (each : ∀ m ∈ members, ∀ v, (∃ u, ofJson m.type v = .ok u ∧ Fits m.type u) ∨
      ∃ e, ofJson m.type v = .error e ∧ e.OfDocument) (all : items.length = members.length) :
    (∃ us, membersOfJson members items = .ok us ∧ List.Forall₂ (fun m u => Fits m.type u.2) members us) ∨
      ∃ e, membersOfJson members items = .error e ∧ e.OfDocument := by
  induction members generalizing items with
  | nil => exact .inl ⟨[], rfl, .nil⟩
  | cons m members ih =>
    obtain ⟨v, items, rfl⟩ := List.exists_cons_of_length_eq_add_one all
    have later := ih (fun m hm => each m (List.mem_cons_of_mem _ hm)) (Nat.succ.inj all)
    have first := each m List.mem_cons_self v
    obtain ⟨name, offset, t⟩ := m
    rw [membersOfJson]
    obtain ⟨u, read, fits⟩ | ⟨e, refused, about⟩ := first
    · obtain ⟨us, reads, fit⟩ | ⟨e, refused, about⟩ := later
      · simp only [read, reads]
        exact .inl ⟨_, rfl, .cons fits fit⟩
      · simp only [read, refused]
        exact .inr ⟨e, rfl, about⟩
    · simp only [refused]
      exact .inr ⟨e, rfl, about⟩

/-- A value is read as an element of the type, and can be written as one, or it is refused for what it is. -/
theorem ofJson_cases (hw : t.WellFormed) (fixed : t.isVariable = false) (v : Json) :
    (∃ u, ofJson t v = .ok u ∧ Fits t u) ∨ ∃ e, ofJson t v = .error e ∧ e.OfDocument := by
  induction hw generalizing v with
  | numeric kind =>
    obtain ⟨n, read⟩ | refused := numberOfJson_cases kind v
    · exact .inl ⟨_, read, fits_number kind n⟩
    · exact .inr refused
  | @compound members size laidOut _ ih =>
    have refused (v : Json) : (WireError.unsupportedElement v (.compound members size)).OfDocument := .element _ _
    cases v with
    | array items =>
      by_cases all : items.length = members.length
      · have whole : ofJson (.compound members size) (.array items) =
            (membersOfJson members items).map WireValue.compound := by rw [ofJson, if_pos all]
        obtain ⟨us, reads, fit⟩ | ⟨e, refused, about⟩ :=
          membersOfJson_cases (fun m hm v => ih m hm (laidOut.fixed m hm) v) all
        · exact .inl ⟨.compound us, by rw [whole, reads]; rfl, fits_compound laidOut fit⟩
        · exact .inr ⟨e, by rw [whole, refused]; rfl, about⟩
      · exact .inr ⟨_, by rw [ofJson, if_neg all], refused _⟩
    | _ => exact .inr ⟨_, rfl, refused _⟩
  | string size =>
    cases v with
    | string s => exact .inl ⟨.string s, rfl, fits_string size s⟩
    | _ => exact .inr ⟨_, rfl, .element _ _⟩
  | varString | sequence => cases fixed
  | reference =>
    obtain ⟨r, read⟩ | refused := referenceOfJson_cases v
    · exact .inl ⟨_, read, fits_reference r⟩
    · exact .inr refused

end WireValue

/-! ### Documents -/

namespace Elements
variable {t : DataType}

theorem elementBytes_cases (hw : t.WellFormed) (fixed : t.isVariable = false) (v : Json) :
    (∃ b, elementBytes t t.size v = .ok b ∧ b.length = t.size) ∨
      ∃ e, elementBytes t t.size v = .error e ∧ e.OfDocument := by
  unfold elementBytes
  obtain ⟨u, read, fits⟩ | ⟨e, refused, about⟩ := WireValue.ofJson_cases hw fixed v
  · obtain ⟨b, written, length⟩ := fits (Bytes.zeros t.size) (Bytes.length_zeros _)
    simp only [read, written]
    exact .inl ⟨b, rfl, length⟩
  · simp only [refused]
    exact .inr ⟨e, rfl, about⟩

theorem packAll_cases (hw : t.WellFormed) (fixed : t.isVariable = false) (vs : List Json) :
    (∃ es : List Bytes, packAll t t.size vs = .ok es.flatten ∧ es.length = vs.length ∧ ∀ e ∈ es, e.length = t.size) ∨
      ∃ e, packAll t t.size vs = .error e ∧ e.OfDocument := by
  induction vs with
  | nil => exact .inl ⟨[], rfl, rfl, List.forall_mem_nil _⟩
  | cons v vs ih =>
    rw [packAll]
    obtain ⟨b, first, length⟩ | ⟨e, refused, about⟩ := elementBytes_cases hw fixed v
    · obtain ⟨es, rest, many, sizes⟩ | ⟨e, refused, about⟩ := ih
      · simp only [first, rest]
        exact .inl ⟨b :: es, rfl, congrArg (· + 1) many, List.forall_mem_cons.mpr ⟨length, sizes⟩⟩
      · simp only [first, refused]
        exact .inr ⟨e, rfl, about⟩
    · simp only [refused]
      exact .inr ⟨e, rfl, about⟩

theorem decode_cases (hw : t.WellFormed) (fixed : t.isVariable = false) (v : Json) (count : Nat) :
    (∃ es : List Bytes, decode v t count = .ok es.flatten ∧ es.length = count ∧ ∀ e ∈ es, e.length = t.size) ∨
      ∃ e, decode v t count = .error e ∧ e.OfDocument := by
  unfold decode
  simp only [DataType.size?_eq_some fixed]
  by_cases many : (flatten t v).length = count
  · simp only [many, ne_eq, not_true_eq_false, if_false]
    by_cases zero : t.size = 0
    · refine .inl ⟨List.replicate count [], ?_, List.length_replicate, fun e he => ?_⟩
      · rw [if_pos zero, List.flatten_replicate_nil]
      · rw [List.eq_of_mem_replicate he, zero]
        rfl
    · rw [if_neg zero, ← many]
      exact packAll_cases hw fixed _
  · rw [if_pos many]
    exact .inr ⟨_, rfl, .count _ _⟩

end Elements

/-! ### Bodies -/

namespace Body
variable {t : DataType}

/-- A document decodes to the elements that were asked for, or is refused for what stands in it. -/
theorem decodeJson_cases (hw : t.WellFormed) (fixed : t.isVariable = false) (body : Bytes) (count : Nat) :
    (∃ es : List Bytes, decodeJson body t count = .ok es.flatten ∧ es.length = count ∧ ∀ e ∈ es, e.length = t.size) ∨
      ∃ e, decodeJson body t count = .error e ∧ e.OfDocument := by
  unfold decodeJson
  split
  · exact .inr ⟨_, rfl, .malformed _⟩
  · split
    · exact .inr ⟨_, rfl, .malformed _⟩
    · exact Elements.decode_cases hw fixed _ count

/-- A raw body of the right length decodes to the elements that were asked for, and one of another length to none. -/
theorem decodeBinary_cases (hw : t.WellFormed) (fixed : t.isVariable = false) (order : ByteOrder) (body : Bytes)
    (count : Nat) :
    (body.length = t.size * count ∧ ∃ es : List Bytes, decodeBinary body t order count = .ok es.flatten ∧
      es.length = count ∧ ∀ e ∈ es, e.length = t.size) ∨
    body.length ≠ t.size * count ∧ decodeBinary body t order count = .error (mismatch t t.size count body.length) := by
  unfold decodeBinary
  simp only [DataType.size?_eq_some fixed]
  by_cases length : body.length = t.size * count
  · obtain ⟨es, many, sizes, rfl⟩ := Bytes.exists_packed length
    refine .inl ⟨length, es.map (t.toNative order), ?_, by rw [List.length_map, many], ?_⟩
    · rw [if_neg (Decidable.not_not.mpr length), hw.toNative_flatten order sizes]
    · rw [List.forall_mem_map]
      exact fun e he => hw.length_toNative order (sizes e he)
  · exact .inr ⟨length, if_pos length⟩

end Body

end ArrayTransfer
