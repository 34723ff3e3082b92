import ArrayTransfer.Proofs.DataType.ByteOrder
import ArrayTransfer.Proofs.Json.Text
import ArrayTransfer.Proofs.Wire.Elements
import ArrayTransfer.Wire.Body

/-! Bodies with elements. Raw bodies hold them in the byte order of the store. The JSON of every element is valid, and
    stays so however elements are nested, so that the text of a document with them reads back. -/

namespace ArrayTransfer

theorem Double.isFinite_of_datum {x : Double} {negative : Bool} {m : Nat} {e : Int} (h : x.datum = .finite negative m e) :
    x.IsFinite := by
  unfold Double.IsFinite
  rcases Nat.lt_trichotomy (Format.double.magnitude x.bits.toNat) Format.double.infinity with hlt | heq | hgt
  · exact hlt
  · rw [Double.datum, Format.decode_infinite heq] at h
    cases h
  · rw [Double.datum, Format.decode_nan hgt] at h
    cases h

namespace WireValue
open Json (Valid)

theorem valid_numberToJson (v : NumericValue) : Valid (numberToJson v) := by
  cases v with
  | signed n =>
    rw [numberToJson, Json.ofInt64]
    split
    · rename_i hn
      exact .number hn
    · exact .number trivial
  | unsigned n => exact .number trivial
  | float x =>
    simp only [numberToJson]
    split
    · exact .string _
    · exact .string _
    · rename_i datum
      exact .number (Double.isFinite_of_datum datum)

mutual
theorem valid_toJson : ∀ v : WireValue, Valid v.toJson
  | .number v => valid_numberToJson v
  | .string s => .string s
  | .reference none => .string ""
  | .reference (some r) => .string r.text
  | .compound members => .array (valid_membersToJson members)
termination_by structural v => v
theorem valid_membersToJson : ∀ (members : List (String × WireValue)), ∀ v ∈ membersToJson members, Valid v
  | [] => by simp [membersToJson]
  | (_, v) :: rest => by
    rw [membersToJson, List.forall_mem_cons]
    exact ⟨valid_toJson v, valid_membersToJson rest⟩
termination_by structural members => members
end

end WireValue

namespace Elements
variable {t : DataType} {es items : List Json} {bs : List Bytes} {b : Bytes} {count : Nat}
open Json (Valid)

theorem valid_readAll (h : readAll t bs = .ok items) : ∀ v ∈ items, Valid v := by
  induction bs generalizing items with
  | nil =>
    cases h
    simp
  | cons b bs ih =>
    rw [readAll] at h
    split at h; · cases h
    rename_i v _
    split at h; · cases h
    rename_i rest hrest
    cases h
    rw [List.forall_mem_cons]
    exact ⟨WireValue.valid_toJson v, ih hrest⟩

theorem encode_eq_ok {v : Json} (h : encode b t count = .ok v) : ∃ items, v = .array items ∧ ∀ v ∈ items, Valid v := by
  unfold encode at h
  split at h
  · cases h
  · split at h
    · cases h
    · cases hr : readAll t (Bytes.split _ count b) with
      | error e =>
        rw [hr] at h
        cases h
      | ok items =>
        rw [hr] at h
        exact ⟨items, (Except.ok.inj h).symm, valid_readAll hr⟩

theorem Nests.valid (h : Nests es items) (he : ∀ e ∈ es, Valid e) : ∀ v ∈ items, Valid v := by
  induction h with
  | nil => exact he
  | element v rest ih =>
    rw [List.forall_mem_cons] at he ⊢
    exact ⟨he.1, ih he.2⟩
  | array inner rest ih ih' =>
    rw [List.forall_mem_cons]
    exact ⟨.array (ih fun e h => he e (List.mem_append_left _ h)), ih' fun e h => he e (List.mem_append_right _ h)⟩

end Elements

/-! ### Raw bodies -/

/-- Packed elements in the byte order of the store come back. -/
theorem Body.decodeBinary_map {t : DataType} {es : List Bytes} (hw : t.WellFormed) (hf : t.isVariable = false)
    (order : ByteOrder) (sizes : ∀ e ∈ es, e.length = t.size) :
    decodeBinary (es.map (t.toNative order)).flatten t order es.length = .ok es.flatten := by
  have length : (es.map (t.toNative order)).flatten.length = t.size * es.length := by
    have swapped : ∀ e ∈ es.map (t.toNative order), e.length = t.size := by
      rw [List.forall_mem_map]
      exact fun e he => hw.length_toNative order (sizes e he)
    rw [Bytes.length_flatten_of_size swapped, List.length_map, Nat.mul_comm]
  unfold decodeBinary
  simp only [DataType.size?_eq_some hf, length, ne_eq, not_true_eq_false, if_false]
  rw [hw.toNative_flatten_map order sizes]

/-! ### Bodies of writes -/

/-- The body of a request that writes some elements. -/
theorem Body.encodeWrite_eq_ok {mode : TransferMode} {s : Selection} {t : DataType} {order : ByteOrder} {elements : Bytes}
    {count : Nat} {base64 : Bool} {body : RequestBody} (h : encodeWrite mode s t order elements count base64 = .ok body)
    (hn : count ≠ 0) : body.contentType? = some mode.contentType ∧
      ((mode = .binary ∧ body = .binary (t.toNative order elements)) ∨
        mode = .json ∧ ∃ fields f, s.bodyFields = .ok fields ∧ valueField t order elements count base64 = .ok f ∧
          body = .json (.object (fields ++ [f]))) := by
  unfold encodeWrite at h
  simp only [hn, if_false] at h
  split at h
  · cases h
  · split at h
    · cases h
    · cases mode with
      | binary =>
        cases h
        exact ⟨rfl, .inl ⟨rfl, rfl⟩⟩
      | json =>
        cases hfields : s.bodyFields with
        | error e =>
          simp only [hfields] at h
          cases h
        | ok fields =>
          simp only [hfields] at h
          cases hvalue : valueField t order elements count base64 with
          | error e =>
            simp only [hvalue] at h
            cases h
          | ok f =>
            simp only [hvalue] at h
            cases h
            exact ⟨rfl, .inr ⟨rfl, fields, f, rfl, rfl, rfl⟩⟩

end ArrayTransfer
