import ArrayTransfer.Proofs.Wire.Decoding
import ArrayTransfer.Proofs.Wire.Nesting

/-! Rows of whatever is accepted. What JSON a type accepts as an element has the shape of one (`Accepted.isElement`), and
    so is never an array of others that it accepts, however these are nested (`Elements.not_accepted_of_nests`). Rows of any
    dimensions are taken apart into the values that were put in, and each is written as an element of its own
    (`decode_rows_accepted`). -/

namespace ArrayTransfer

namespace WireValue
variable {t : DataType} {v : Json} {members : List (Member DataType)} {items : List Json}
  {us : List (String × WireValue)}

/-- The type takes the JSON value for an element. -/
def Accepted (t : DataType) (v : Json) : Prop := ∃ u, ofJson t v = .ok u

theorem not_isArray_of_numberOfJson {kind : Numeric} {u : WireValue} (h : numberOfJson kind v = .ok u) :
    v.isArray = false := by
  cases v with
  | array items => cases h
  | _ => rfl

theorem not_isArray_of_referenceOfJson {u : WireValue} (h : referenceOfJson v = .ok u) : v.isArray = false := by
  cases v with
  | array items => cases h
  | _ => rfl

theorem areElements_of_membersOfJson
    (each : ∀ m ∈ members, ∀ v, Accepted m.type v → isElement m.type v = true)
    (h : membersOfJson members items = .ok us) : areElements members items = true := by
  induction members generalizing items us with
  | nil => rfl
  | cons m members ih =>
    obtain ⟨name, offset, t⟩ := m
    cases items with
    | nil => rfl
    | cons v items =>
      rw [List.forall_mem_cons] at each
      rw [membersOfJson] at h
      cases first : ofJson t v with
      | error e =>
        simp only [first] at h
        cases h
      | ok u =>
        cases rest : membersOfJson members items with
        | error e =>
          simp only [first, rest] at h
          cases h
        | ok us' =>
          rw [areElements, each.1 v ⟨u, first⟩, ih each.2 rest]
          rfl

/-- What is accepted has the shape of an element. -/
theorem Accepted.isElement (h : Accepted t v) : isElement t v = true := by
  induction t using DataType.induct generalizing v with
  | numeric kind =>
    obtain ⟨u, read⟩ := h
    rw [WireValue.isElement, not_isArray_of_numberOfJson read]
    rfl
  | compound members size ih =>
    obtain ⟨u, read⟩ := h
    cases v with
    | array items =>
      rw [ofJson] at read
      split at read; rotate_left
      · cases read
      rename_i lengths
      cases rest : membersOfJson members items with
      | error e =>
        rw [rest] at read
        cases read
      | ok us =>
        have elements := areElements_of_membersOfJson (fun m hm v => ih m hm) rest
        simp [WireValue.isElement, lengths, elements]
    | _ => cases read
  | string size =>
    obtain ⟨u, read⟩ := h
    cases v with
    | string s => rfl
    | _ => cases read
  | varString | sequence =>
    obtain ⟨u, read⟩ := h
    cases read
  | reference =>
    obtain ⟨u, read⟩ := h
    rw [WireValue.isElement, not_isArray_of_referenceOfJson read]
    rfl

theorem fits_of_ofJson {u : WireValue} (hw : t.WellFormed) (hf : t.isVariable = false) (h : ofJson t v = .ok u) :
    Fits t u := by
  obtain ⟨u', read, fits⟩ | ⟨e, refused, -⟩ := ofJson_cases hw hf v
  · obtain rfl := Except.ok.inj (h.symm.trans read)
    exact fits
  · cases h.symm.trans refused

end WireValue

namespace Elements
open WireValue
variable {t : DataType} {v : Json} {vs es items : List Json}

/-- What is accepted is no array of what is accepted, however nested. An array of nothing is not accepted, either. -/
theorem not_accepted_of_nests (hw : t.WellFormed) (h : Nests es items) (ha : ∀ e ∈ es, Accepted t e) :
    ¬Accepted t (.array items) := fun whole =>
  Nat.lt_irrefl _ (arrayDepth_lt h (fun e he => (ha e he).isElement) hw whole.isElement)

theorem flatten_rows (hw : t.WellFormed) (ha : ∀ v ∈ vs, Accepted t v) {dims : List Nat}
    (hd : vs.length = room dims) : flatten t (rows dims vs) = vs := by
  have alone := flattenAll_of_nests (nests_rows hd) (fun v hv => (ha v hv).isElement) hw
  rwa [flattenAll, flattenAll, List.append_nil] at alone

/-- What an accepted value is written as over zeros. -/
def WrittenAs (t : DataType) (v : Json) (e : Bytes) : Prop :=
  ∃ u, ofJson t v = .ok u ∧ write t u (Bytes.zeros t.size) = ⟨e, none⟩ ∧ e.length = t.size

theorem exists_writtenAs (hw : t.WellFormed) (hf : t.isVariable = false) (h : Accepted t v) :
    ∃ e, WrittenAs t v e := by
  obtain ⟨u, read⟩ := h
  obtain ⟨e, written, length⟩ := fits_of_ofJson hw hf read (Bytes.zeros t.size) (Bytes.length_zeros _)
  exact ⟨e, u, read, written, length⟩

theorem packAll_of_accepted (hw : t.WellFormed) (hf : t.isVariable = false) (ha : ∀ v ∈ vs, Accepted t v) :
    ∃ es, List.Forall₂ (WrittenAs t) vs es ∧ packAll t t.size vs = .ok es.flatten := by
  induction vs with
  | nil => exact ⟨[], .nil, rfl⟩
  | cons v vs ih =>
    rw [List.forall_mem_cons] at ha
    obtain ⟨e, first⟩ := exists_writtenAs hw hf ha.1
    obtain ⟨es, rest, packed⟩ := ih ha.2
    refine ⟨e :: es, .cons first rest, ?_⟩
    obtain ⟨u, read, written, -⟩ := first
    rw [packAll, elementBytes]
    simp only [read, written, packed]
    rfl

theorem length_flatten_writtenAs {bs : List Bytes} (h : List.Forall₂ (WrittenAs t) vs bs) :
    bs.flatten.length = vs.length * t.size := by
  induction h with
  | nil => simp
  | cons first rest ih =>
    obtain ⟨u, -, -, length⟩ := first
    rw [List.flatten_cons, List.length_append, length, ih, List.length_cons, Nat.succ_mul, Nat.add_comm]

/-- A compound of one member, which is a compound of two. -/
def pairInside : DataType :=
  .compound [⟨"pair", 0, .compound [⟨"a", 0, .numeric (.unsigned .w8)⟩, ⟨"b", 1, .numeric (.unsigned .w8)⟩] 2⟩] 2

/-- A pair of small numbers in the array of its only member. -/
def jsonPair (m n : UInt64) : Json := .array [.array [.number (.unsigned m), .number (.unsigned n)]]

end Elements

end ArrayTransfer
