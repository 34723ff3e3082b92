import ArrayTransfer.Proofs.Bytes.Window
import ArrayTransfer.Proofs.Wire.Value
import ArrayTransfer.Wire.Elements

/-! Packed elements and the JSON array of their values. A response may nest the array in any way (`Nests`). An array
    between the elements is never taken for one of them, since their first number lies deeper in it than the type
    says (`arrayDepth_lt`). So elements come back from every nesting as from their own JSON (`decode_viaJson`), canonical
    ones as they were (`decode_of_nests`). -/

namespace ArrayTransfer.Elements
open WireValue
variable {s t : DataType} {v : Json} {es items : List Json}

/-- The JSON values hold the elements in this order, grouped into arrays in any way. -/
inductive Nests : List Json → List Json → Prop where
  | nil : Nests [] []
  | element (v : Json) {es vs : List Json} (rest : Nests es vs) : Nests (v :: es) (v :: vs)
  | array {es es' items vs : List Json} (inner : Nests es items) (rest : Nests es' vs) :
    Nests (es ++ es') (.array items :: vs)

theorem Nests.refl : ∀ es, Nests es es
  | [] => .nil
  | v :: es => .element v (refl es)

theorem Nests.whole (h : Nests es items) : Nests es [.array items] := by
  rw [← List.append_nil es]
  exact .array h .nil

/-! ### Arrays that are elements -/

mutual
/-- The number of arrays around the first number of an element. -/
def arrayDepth : DataType → Nat
  | .numeric _ => 0
  | .compound members _ => firstDepth members + 1
  | .string _ => 0
  | .varString => 0
  | .sequence _ => 0
  | .reference => 0
termination_by structural t => t
/-- The number of arrays around the first number of the first member. -/
def firstDepth : List (Member DataType) → Nat
  | [] => 0
  | ⟨_, _, t⟩ :: _ => arrayDepth t
termination_by structural members => members
end

theorem isElement_array (h : isElement t (.array items) = true) :
    ∃ members size, t = .compound members size ∧ items.length = members.length ∧ areElements members items = true := by
  cases t with
  | compound members size =>
    simp only [isElement, Bool.and_eq_true, beq_iff_eq] at h
    exact ⟨members, size, rfl, h.1, h.2⟩
  | _ => simp [isElement, Json.isArray] at h

theorem arrayDepth_of_flat (hv : v.isArray = false) (h : isElement t v = true) : arrayDepth t = 0 := by
  cases t with
  | compound members size => cases v <;> simp_all [isElement, Json.isArray]
  | _ => rfl

theorem arrayDepth_eq (hs : isElement s v = true) (ht : isElement t v = true) : arrayDepth s = arrayDepth t := by
  induction s using DataType.induct generalizing t v with
  | compound ms size ih =>
    cases v with
    | array items =>
      obtain ⟨_, _, hc, lengths, elements⟩ := isElement_array hs
      obtain ⟨rfl, rfl⟩ := DataType.compound.inj hc
      obtain ⟨members, size', rfl, lengths', elements'⟩ := isElement_array ht
      cases items with
      | nil =>
        rw [List.eq_nil_of_length_eq_zero lengths.symm, List.eq_nil_of_length_eq_zero lengths'.symm]
        rfl
      | cons w items =>
        obtain ⟨⟨_, _, s⟩, ms, rfl⟩ := List.exists_cons_of_length_eq_add_one lengths.symm
        obtain ⟨⟨_, _, t⟩, ms', rfl⟩ := List.exists_cons_of_length_eq_add_one lengths'.symm
        simp only [areElements, Bool.and_eq_true] at elements elements'
        have first := ih _ List.mem_cons_self elements.1 elements'.1
        simp only [arrayDepth, firstDepth]
        exact congrArg (· + 1) first
    | _ => simp [isElement] at hs
  | _ =>
    have hv : v.isArray = false := by simpa [isElement] using hs
    exact (arrayDepth_of_flat hv ht).symm

/-- An array of nested elements is no element of a type that is as deep as theirs, or less. -/
theorem arrayDepth_lt (h : Nests es items) (he : ∀ e ∈ es, isElement t e = true) (hw : s.WellFormed)
    (hs : isElement s (.array items) = true) : arrayDepth t < arrayDepth s := by
  induction h generalizing s with
  | nil =>
    obtain ⟨members, size, rfl, lengths, -⟩ := isElement_array hs
    cases hw with
    | compound laidOut wellFormed => exact absurd (List.eq_nil_of_length_eq_zero lengths.symm) laidOut.nonempty
  | element v rest ih =>
    obtain ⟨members, size, rfl, lengths, elements⟩ := isElement_array hs
    obtain ⟨⟨_, _, s⟩, ms, rfl⟩ := List.exists_cons_of_length_eq_add_one lengths.symm
    simp only [areElements, Bool.and_eq_true] at elements
    have first := arrayDepth_eq (he v List.mem_cons_self) elements.1
    simp only [arrayDepth, firstDepth]
    omega
  | array inner rest ih ih' =>
    obtain ⟨members, size, rfl, lengths, elements⟩ := isElement_array hs
    obtain ⟨⟨_, _, s⟩, ms, rfl⟩ := List.exists_cons_of_length_eq_add_one lengths.symm
    simp only [areElements, Bool.and_eq_true] at elements
    cases hw with
    | compound laidOut wellFormed =>
      have first : arrayDepth t < arrayDepth s :=
        ih (fun e he' => he e (List.mem_append_left _ he')) (wellFormed _ List.mem_cons_self) elements.1
      simp only [arrayDepth, firstDepth]
      omega

theorem flatten_element (h : isElement t v = true) : flatten t v = [v] := by
  cases v <;> simp [flatten, h]

/-- Flattening finds the elements, however they are nested. -/
theorem flattenAll_of_nests (h : Nests es items) (he : ∀ e ∈ es, isElement t e = true) (hw : t.WellFormed) :
    flattenAll t items = es := by
  induction h with
  | nil => rfl
  | element v rest ih =>
    rw [flattenAll, flatten_element (he v List.mem_cons_self), ih fun e he' => he e (List.mem_cons_of_mem _ he')]
    rfl
  | @array es es' items vs inner rest ih ih' =>
    have inner_elements : ∀ e ∈ es, isElement t e = true := fun e he' => he e (List.mem_append_left _ he')
    have no_element : ¬isElement t (.array items) = true := fun h =>
      Nat.lt_irrefl _ (arrayDepth_lt inner inner_elements hw h)
    rw [flattenAll, flatten, if_neg no_element, ih inner_elements, ih' fun e he' => he e (List.mem_append_right _ he')]

/-! ### Packed elements -/

theorem readAll_of_readable {bs : List Bytes} (hw : t.WellFormed)
    (hb : ∀ b ∈ bs, b.length = t.size ∧ Readable t b) :
    ∃ vs, readAll t bs = .ok vs ∧ vs.length = bs.length ∧ (∀ v ∈ vs, isElement t v = true) ∧
      packAll t t.size vs = .ok (bs.map (viaJson t)).flatten := by
  induction bs with
  | nil => exact ⟨[], rfl, rfl, List.forall_mem_nil _, rfl⟩
  | cons b bs ih =>
    rw [List.forall_mem_cons] at hb
    obtain ⟨vs, reads, length, shapes, packs⟩ := ih hb.2
    obtain ⟨v, hv⟩ := carries_viaJson hw hb.1.1 hb.1.2
    obtain ⟨u, json, written⟩ := hv.back
    refine ⟨v.toJson :: vs, ?_, by simp [length], List.forall_mem_cons.mpr ⟨hv.shape, shapes⟩, ?_⟩
    · rw [readAll]
      simp only [hv.read, reads]
    · have element : elementBytes t t.size v.toJson = .ok (viaJson t b) := by
        unfold elementBytes
        simp only [json, written]
      rw [packAll]
      simp only [element, packs, List.map_cons, List.flatten_cons]

theorem readable_of_readAll {bs : List Bytes} {vs : List Json} (h : readAll t bs = .ok vs) :
    ∀ b ∈ bs, Readable t b := by
  induction bs generalizing vs with
  | nil => exact List.forall_mem_nil _
  | cons b bs ih =>
    rw [readAll] at h
    split at h
    · cases h
    rename_i v read
    split at h
    · cases h
    rename_i rest others
    exact List.forall_mem_cons.mpr ⟨readable_of_read read, ih others⟩

section encode
variable {bs : List Bytes} (hf : t.isVariable = false) (sizes : ∀ b ∈ bs, b.length = t.size)
include hf sizes

theorem encode_eq_readAll : encode bs.flatten t bs.length = (readAll t bs).map .array := by
  have total : bs.flatten.length = t.size * bs.length := by
    rw [Bytes.length_flatten_of_size sizes, Nat.mul_comm]
  unfold encode
  simp only [DataType.size?_eq_some hf, total, ne_eq, not_true_eq_false, if_false, Bytes.split_flatten sizes]

/-- Elements whose references can be read are encoded, and come back from their array, nested in any way, as
    `viaJson` says. -/
theorem decode_viaJson (hw : t.WellFormed) (hr : ∀ b ∈ bs, Readable t b) :
    ∃ items, encode bs.flatten t bs.length = .ok (.array items) ∧ items.length = bs.length ∧
      (∀ v ∈ items, isElement t v = true) ∧
      ∀ v, Nests items [v] → decode v t bs.length = .ok (bs.map (viaJson t)).flatten := by
  obtain ⟨vs, reads, length, shapes, packs⟩ := readAll_of_readable hw fun b hb => ⟨sizes b hb, hr b hb⟩
  refine ⟨vs, ?_, length, shapes, fun v hv => ?_⟩
  · rw [encode_eq_readAll hf sizes, reads]
    rfl
  · have flat : flatten t v = vs := by
      have := flattenAll_of_nests hv shapes hw
      rwa [flattenAll, flattenAll, List.append_nil] at this
    unfold decode
    simp only [DataType.size?_eq_some hf, flat, length, ne_eq, not_true_eq_false, if_false]
    split
    · rename_i zero
      have empty : (bs.map (viaJson t)).flatten = [] := by
        apply List.eq_nil_of_length_eq_zero
        rw [Bytes.length_flatten_of_size (length_of_mem_map_viaJson hw sizes), zero, Nat.mul_zero]
      rw [empty]
    · exact packs

end encode

/-- Canonical elements are encoded, and come back from their array, nested in any way. -/
theorem decode_of_nests {bs : List Bytes} (hw : t.WellFormed) (hf : t.isVariable = false)
    (hc : ∀ b ∈ bs, Canonical t b) :
    ∃ items, encode bs.flatten t bs.length = .ok (.array items) ∧ items.length = bs.length ∧
      (∀ v ∈ items, isElement t v = true) ∧ ∀ v, Nests items [v] → decode v t bs.length = .ok bs.flatten := by
  have back := decode_viaJson hf (fun b hb => (hc b hb).length_eq) hw fun b hb => (hc b hb).readable
  rwa [map_viaJson_of_canonical hw hc] at back

end ArrayTransfer.Elements
