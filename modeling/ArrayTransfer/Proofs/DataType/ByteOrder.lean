import ArrayTransfer.DataType.ByteOrder
import ArrayTransfer.Proofs.Bytes.Edit
import ArrayTransfer.Proofs.Bytes.Packed
import ArrayTransfer.Proofs.DataType.Layout

/-! Byte order. Packed elements are reversed one by one (`DataType.WellFormed.reverse_append`), and the second reversal
    undoes the first (`DataType.WellFormed.reverse_reverse`), so that bytes come back from either order
    (`DataType.WellFormed.toNative_involutive`). -/

namespace ArrayTransfer

namespace Bytes
variable {size : Nat} {f : Bytes → Bytes} {es : List Bytes}

theorem mapChunks_flatten (hf : ∀ e : Bytes, e.length = size → (f e).length = size) (he : ∀ e ∈ es, e.length = size) :
    mapChunks size f es.flatten = (es.map f).flatten := by
  have chunks := @mapChunks_append size f es [] hf he (Nat.eq_zero_or_pos size).symm
  simpa using chunks

theorem mapChunks_single (hf : ∀ e : Bytes, e.length = size → (f e).length = size) {e : Bytes} (he : e.length = size) :
    mapChunks size f e = f e := by
  have := @mapChunks_flatten size f [e] hf (by simpa using he)
  simpa using this

end Bytes

namespace DataType
variable {t : DataType} {members : List (Member DataType)} {size : Nat} {e : Bytes} {es : List Bytes}

/-- The change that reverses a member in its place. -/
def reverseEdit (m : Member DataType) : Edit := ⟨m.offset, m.size, m.type.reverse⟩

theorem reverseMembers_eq (members : List (Member DataType)) (b : Bytes) :
    reverseMembers members b = Edit.run (members.map reverseEdit) b := by
  induction members generalizing b with
  | nil => rfl
  | cons m members ih =>
    rw [reverseMembers, ih, List.map_cons, Edit.run_cons]
    rfl

theorem fit_reverseEdits (hl : Member.LaidOut members size)
    (keeps : ∀ m ∈ members, ∀ w : Bytes, w.length = m.type.size → (m.type.reverse w).length = m.type.size) :
    Edit.Fit size (members.map reverseEdit) := by
  refine ⟨?_, ?_, List.pairwise_map.mpr hl.apart⟩
  · rw [List.forall_mem_map]
    exact hl.bound
  · rw [List.forall_mem_map]
    exact keeps

theorem reverse_numeric {kind : Numeric} (he : e.length = kind.size) : (numeric kind).reverse e = List.reverse e := by
  rw [reverse, Bytes.mapChunks_single (fun e he => by rw [List.length_reverse, he]) he]

namespace WellFormed

/-- An element keeps its length. -/
theorem length_reverse (ht : t.WellFormed) (he : e.length = t.size) : (t.reverse e).length = t.size := by
  induction ht generalizing e with
  | numeric kind => rw [reverse_numeric he, List.length_reverse, he]
  | @compound members size hl _ ih =>
    have keeps : ∀ b : Bytes, b.length = size → (reverseMembers members b).length = size := by
      rintro b rfl
      rw [reverseMembers_eq, Edit.length_run (fit_reverseEdits hl fun m hm w hw => ih m hm hw)]
    rw [reverse, Bytes.mapChunks_single keeps he]
    exact keeps e he
  | string _ => exact he
  | varString => exact he
  | sequence _ _ => exact he
  | reference => exact he

section members
variable (hl : Member.LaidOut members size) (hm : ∀ m ∈ members, m.type.WellFormed)
include hl hm

theorem fit_members : Edit.Fit size (members.map reverseEdit) :=
  fit_reverseEdits hl fun m hmem _ => (hm m hmem).length_reverse

theorem length_reverseMembers (he : e.length = size) : (reverseMembers members e).length = size := by
  subst he
  rw [reverseMembers_eq, Edit.length_run (fit_members hl hm)]

theorem reverse_compound (he : e.length = size) :
    (DataType.compound members size).reverse e = reverseMembers members e := by
  rw [reverse, Bytes.mapChunks_single (fun e => length_reverseMembers hl hm) he]

end members

/-- Packed elements are reversed one by one, and a rest that is too short for one stays. -/
theorem reverse_append (ht : t.WellFormed) (he : ∀ e ∈ es, e.length = t.size) {rest : Bytes}
    (short : rest.length < t.size ∨ t.size = 0) :
    t.reverse (es.flatten ++ rest) = (es.map t.reverse).flatten ++ rest := by
  cases ht with
  | numeric kind =>
    have each : es.map (DataType.numeric kind).reverse = es.map List.reverse :=
      List.map_congr_left fun e hm => reverse_numeric (he e hm)
    rw [each, reverse]
    exact Bytes.mapChunks_append (fun e he => by rw [List.length_reverse, he]) he short
  | @compound members size hl hm =>
    have each : es.map (DataType.compound members size).reverse = es.map (reverseMembers members) :=
      List.map_congr_left fun e hmem => reverse_compound hl hm (he e hmem)
    rw [each, reverse]
    exact Bytes.mapChunks_append (fun e => length_reverseMembers hl hm) he short
  | string | varString | sequence | reference =>
    exact congrArg (fun es : List Bytes => es.flatten ++ rest) (List.map_id es).symm

theorem reverse_flatten (ht : t.WellFormed) (he : ∀ e ∈ es, e.length = t.size) :
    t.reverse es.flatten = (es.map t.reverse).flatten := by
  simpa using @reverse_append t es ht he [] (Nat.eq_zero_or_pos t.size).symm

theorem reverse_reverse (ht : t.WellFormed) (he : e.length = t.size) : t.reverse (t.reverse e) = e := by
  induction ht generalizing e with
  | numeric kind => rw [reverse_numeric he, reverse_numeric (by rw [List.length_reverse, he]; rfl), List.reverse_reverse]
  | @compound members size hl hm ih =>
    have he : e.length = size := he
    have hr := length_reverseMembers hl hm he
    have fit := fit_members hl hm
    rw [reverse_compound hl hm he, reverse_compound hl hm hr, reverseMembers_eq]
    symm
    refine Edit.eq_run (by rwa [hr]) (by rw [he, hr]) ?_ ?_
    · rw [List.forall_mem_map]
      intro m hmem
      have window := Edit.slice_run (by rwa [he]) (List.mem_map_of_mem (f := reverseEdit) hmem)
      rw [reverseMembers_eq, window]
      exact (ih m hmem (hl.length_slice hmem he)).symm
    · intro i hi
      rw [reverseMembers_eq, Edit.getElem?_run (by rwa [he]) hi]
  | string _ => rfl
  | varString => rfl
  | sequence _ _ => rfl
  | reference => rfl

/-- Bytes of any length come back from the other byte order, and have their length in it. -/
theorem reverse_involutive (ht : t.WellFormed) (b : Bytes) :
    t.reverse (t.reverse b) = b ∧ (t.reverse b).length = b.length := by
  obtain ⟨es, rest, sizes, short, rfl⟩ := Bytes.exists_packed_rest t.size b
  have reversed : ∀ e ∈ es.map t.reverse, e.length = t.size := by
    rw [List.forall_mem_map]
    exact fun e he => ht.length_reverse (sizes e he)
  have undone : (es.map t.reverse).map t.reverse = es := by
    rw [List.map_map]
    conv => rhs; rw [← List.map_id es]
    exact List.map_congr_left fun e he => ht.reverse_reverse (sizes e he)
  rw [ht.reverse_append sizes short, ht.reverse_append reversed short, undone]
  refine ⟨rfl, ?_⟩
  rw [List.length_append, List.length_append, Bytes.length_flatten_of_size reversed,
    Bytes.length_flatten_of_size sizes, List.length_map]

/-- Bytes of either order come back, and have their length in the other. -/
theorem toNative_involutive (ht : t.WellFormed) (order : ByteOrder) (b : Bytes) :
    t.toNative order (t.toNative order b) = b ∧ (t.toNative order b).length = b.length := by
  unfold toNative
  split
  · exact ⟨rfl, rfl⟩
  · exact ht.reverse_involutive b

theorem length_toNative (ht : t.WellFormed) (order : ByteOrder) (he : e.length = t.size) :
    (t.toNative order e).length = t.size := (ht.toNative_involutive order e).2.trans he

theorem toNative_flatten (ht : t.WellFormed) (order : ByteOrder) (he : ∀ e ∈ es, e.length = t.size) :
    t.toNative order es.flatten = (es.map (t.toNative order)).flatten := by
  unfold toNative
  split
  · simp
  · exact ht.reverse_flatten he

/-- Packed elements of either order come back. -/
theorem toNative_flatten_map (ht : t.WellFormed) (order : ByteOrder) (he : ∀ e ∈ es, e.length = t.size) :
    t.toNative order (es.map (t.toNative order)).flatten = es.flatten := by
  rw [← ht.toNative_flatten order he, (ht.toNative_involutive order _).1]

end WellFormed

end DataType

end ArrayTransfer
