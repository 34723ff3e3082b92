import ArrayTransfer.Proofs.DataType.Leaves
import ArrayTransfer.Wire.Body

/-! Raw bodies there and back. What is sent raw in either byte order is read back as it was, since the byte order is
    changed number by number, each in its place. -/

namespace ArrayTransfer
variable {t : DataType}

namespace Body

/-- Elements of a fixed size are read back from the raw body that was made of them. -/
theorem decodeBinary_encodeWrite (ht : t.WellFormed) (fixed : t.isVariable = false) (s : Selection) (order : ByteOrder)
    {elements : Bytes} {n : Nat} (base64 : Bool) (length : elements.length = t.size * n) :
    ∃ body, encodeWrite .binary s t order elements n base64 = .ok body ∧
      decodeBinary body.toBytes t order n = .ok elements := by
  obtain ⟨back, kept⟩ := ht.toNative_involutive order elements
  unfold encodeWrite decodeBinary
  simp only [DataType.size?_eq_some fixed, length, ne_eq, not_true_eq_false, if_false]
  by_cases none : n = 0
  · subst none
    obtain rfl : elements = [] := List.eq_nil_of_length_eq_zero length
    refine ⟨.empty, if_pos rfl, ?_⟩
    have empty : t.toNative order [] = [] := List.eq_nil_of_length_eq_zero kept
    simp [RequestBody.toBytes, empty]
  · refine ⟨.binary (t.toNative order elements), if_neg none, ?_⟩
    simp [RequestBody.toBytes, back, kept, length]

/-- Raw bodies and what the byte order does to them. Elements of a fixed size are read back from the body that was made of
    them, in either byte order. The other byte order is its own inverse on any bytes, and keeps their number. Packed
    elements change independently, and a rest that is too short for one stays. In an element each number is turned
    around in its place, at any depth of compounds, and every byte beside the numbers stays. -/
theorem raw_round_trip (ht : t.WellFormed) :
    (t.isVariable = false → ∀ (s : Selection) (order : ByteOrder) (elements : Bytes) (n : Nat) (base64 : Bool),
      elements.length = t.size * n → ∃ body, encodeWrite .binary s t order elements n base64 = .ok body ∧
        decodeBinary body.toBytes t order n = .ok elements) ∧
    (∀ b, t.reverse (t.reverse b) = b ∧ (t.reverse b).length = b.length) ∧
    (∀ (es : List Bytes) (rest : Bytes), (∀ e ∈ es, e.length = t.size) → rest.length < t.size ∨ t.size = 0 →
      t.reverse (es.flatten ++ rest) = (es.map t.reverse).flatten ++ rest) ∧
    ∀ e : Bytes, e.length = t.size →
      (∀ l ∈ t.leaves, l.stop ≤ t.size ∧
        Bytes.slice (t.reverse e) l.start l.kind.size = List.reverse (Bytes.slice e l.start l.kind.size)) ∧
      ∀ i, (∀ l ∈ t.leaves, i < l.start ∨ l.stop ≤ i) → (t.reverse e)[i]? = e[i]? := by
  refine ⟨fun fixed s order elements n base64 length => decodeBinary_encodeWrite ht fixed s order base64 length,
    ht.reverse_involutive, fun es rest sizes short => ht.reverse_append sizes short, fun e he => ⟨fun l hl => ?_, ?_⟩⟩
  · exact ⟨ht.leaf_bound hl, ht.slice_reverse he hl⟩
  · exact fun i out => ht.getElem?_reverse he out

/-- A pair behind a name, in a compound that begins with its last member. -/
def nestedPairType : DataType :=
  .compound [⟨"pair", 4, .compound [⟨"high", 3, .numeric (.unsigned .w16)⟩, ⟨"low", 0, .numeric (.signed .w16)⟩] 6⟩,
    ⟨"name", 0, .string 3⟩] 11

theorem raw_round_trip_nestedPair : nestedPairType.WellFormed ∧
    nestedPairType.leaves = [⟨7, .unsigned .w16⟩, ⟨4, .signed .w16⟩] ∧
    nestedPairType.reverse [97, 98, 99, 9, 1, 2, 9, 3, 4, 9, 9] = [97, 98, 99, 9, 2, 1, 9, 4, 3, 9, 9] ∧
    ∃ body, encodeWrite .binary .all nestedPairType .big [97, 98, 99, 9, 1, 2, 9, 3, 4, 9, 9] 1 false = .ok body ∧
      decodeBinary body.toBytes nestedPairType .big 1 = .ok [97, 98, 99, 9, 1, 2, 9, 3, 4, 9, 9] := by
  have inner : (DataType.compound [⟨"high", 3, .numeric (.unsigned .w16)⟩, ⟨"low", 0, .numeric (.signed .w16)⟩]
      6).WellFormed := by
    refine .compound ⟨by simp, by decide, by decide, by decide, by decide⟩ ?_
    exact List.forall_mem_cons.mpr ⟨.numeric _, List.forall_mem_singleton.mpr (.numeric _)⟩
  have outer : nestedPairType.WellFormed := by
    refine .compound ⟨by simp, by decide, by decide, by decide, by decide⟩ ?_
    exact List.forall_mem_cons.mpr ⟨inner, List.forall_mem_singleton.mpr (.string _)⟩
  obtain ⟨back, -⟩ := raw_round_trip outer
  exact ⟨outer, by decide, by decide +kernel, back rfl .all .big _ 1 false rfl⟩

end Body

end ArrayTransfer
