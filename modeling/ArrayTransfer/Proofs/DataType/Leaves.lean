import ArrayTransfer.Proofs.DataType.ByteOrder

/-! What the other byte order changes. The numbers in an element are its leaves, through all compounds in it, at their
    offsets from its start. Reversing turns each of them around where it stands (`DataType.WellFormed.slice_reverse`) and
    touches no other byte (`DataType.WellFormed.getElem?_reverse`). -/

namespace ArrayTransfer

/-- A number in an element, by its first byte and its kind. -/
structure Leaf where
  start : Nat
  kind : Numeric
  deriving DecidableEq

namespace Leaf

/-- The first byte behind the number. -/
def stop (l : Leaf) : Nat := l.start + l.kind.size

/-- The number as it stands in an element that its own one is a part of, from the offset on. -/
def shift (offset : Nat) (l : Leaf) : Leaf := ⟨offset + l.start, l.kind⟩

end Leaf

namespace DataType

mutual
/-- The numbers in an element of the type. -/
def leaves : DataType → List Leaf
  | numeric kind => [⟨0, kind⟩]
  | compound members _ => memberLeaves members
  | string _ => []
  | varString => []
  | sequence _ => []
  | reference => []
termination_by structural t => t
/-- The numbers in the members of an element. -/
def memberLeaves : List (Member DataType) → List Leaf
  | [] => []
  | ⟨_, offset, t⟩ :: rest => t.leaves.map (Leaf.shift offset) ++ memberLeaves rest
termination_by structural ms => ms
end

theorem mem_memberLeaves {members : List (Member DataType)} {l : Leaf} :
    l ∈ memberLeaves members ↔ ∃ m ∈ members, ∃ k ∈ m.type.leaves, l = k.shift m.offset := by
  induction members with
  | nil => simp [memberLeaves]
  | cons m members ih =>
    obtain ⟨name, offset, t⟩ := m
    simp [memberLeaves, ih, eq_comm]

namespace WellFormed
variable {t : DataType} {e : Bytes} {l : Leaf} {i : Nat}

/-- A number lies within the element. -/
theorem leaf_bound (ht : t.WellFormed) (hl : l ∈ t.leaves) : l.stop ≤ t.size := by
  induction ht generalizing l with
  | numeric kind =>
    obtain rfl := List.mem_singleton.mp hl
    exact Nat.le_of_eq (Nat.zero_add _)
  | @compound members size laidOut _ ih =>
    obtain ⟨m, hm, k, hk, rfl⟩ := mem_memberLeaves.mp hl
    have inner : k.stop ≤ m.size := ih m hm hk
    have outer : m.stop ≤ size := laidOut.bound m hm
    show m.offset + k.start + k.kind.size ≤ size
    unfold Leaf.stop at inner
    unfold Member.stop at outer
    omega
  | string | varString | sequence | reference => cases hl

section member
variable {members : List (Member DataType)} {size : Nat} (laidOut : Member.LaidOut members size)
  (hm : ∀ m ∈ members, m.type.WellFormed) (he : e.length = size)
include laidOut hm he

/-- A member is reversed in its place. -/
theorem slice_reverse_member {m : Member DataType} (mem : m ∈ members) :
    Bytes.slice ((DataType.compound members size).reverse e) m.offset m.size =
      m.type.reverse (Bytes.slice e m.offset m.size) := by
  rw [reverse_compound laidOut hm he, reverseMembers_eq]
  exact Edit.slice_run (by rw [he]; exact fit_members laidOut hm) (List.mem_map_of_mem (f := reverseEdit) mem)

theorem getElem?_reverse_member (out : ∀ m ∈ members, i < m.offset ∨ m.stop ≤ i) :
    ((DataType.compound members size).reverse e)[i]? = e[i]? := by
  rw [reverse_compound laidOut hm he, reverseMembers_eq]
  refine Edit.getElem?_run (by rw [he]; exact fit_members laidOut hm) ?_
  rw [List.forall_mem_map]
  exact out

end member

/-- Each number in an element is turned around in its place. -/
theorem slice_reverse (ht : t.WellFormed) (he : e.length = t.size) (hl : l ∈ t.leaves) :
    Bytes.slice (t.reverse e) l.start l.kind.size = List.reverse (Bytes.slice e l.start l.kind.size) := by
  induction ht generalizing e l with
  | numeric kind =>
    obtain rfl := List.mem_singleton.mp hl
    replace he : e.length = kind.size := he
    rw [reverse_numeric he]
    show Bytes.slice (List.reverse e) 0 kind.size = List.reverse (Bytes.slice e 0 kind.size)
    rw [Bytes.slice_whole he, Bytes.slice_whole (by rw [List.length_reverse, he])]
  | @compound members size laidOut hm ih =>
    obtain ⟨m, mem, k, hk, rfl⟩ := mem_memberLeaves.mp hl
    have inside : k.start + k.kind.size ≤ m.size := (hm m mem).leaf_bound hk
    have inner := ih m mem (laidOut.length_slice mem he) hk
    rw [← slice_reverse_member laidOut hm he mem, Bytes.slice_slice inside, Bytes.slice_slice inside] at inner
    exact inner
  | string | varString | sequence | reference => cases hl

/-- No byte beside the numbers changes. -/
theorem getElem?_reverse (ht : t.WellFormed) (he : e.length = t.size)
    (out : ∀ l ∈ t.leaves, i < l.start ∨ l.stop ≤ i) : (t.reverse e)[i]? = e[i]? := by
  induction ht generalizing e i with
  | numeric kind =>
    have behind : kind.size ≤ i := by
      obtain before | behind := out ⟨0, kind⟩ List.mem_cons_self
      · cases before
      · rwa [Leaf.stop, Nat.zero_add] at behind
    replace he : e.length = kind.size := he
    have reversed : (List.reverse e).length = kind.size := by rw [List.length_reverse, he]
    rw [reverse_numeric he, List.getElem?_eq_none (reversed ▸ behind), List.getElem?_eq_none (he ▸ behind)]
  | @compound members size laidOut hm ih =>
    by_cases within : ∃ m ∈ members, m.offset ≤ i ∧ i < m.stop
    · obtain ⟨m, mem, low, high⟩ := within
      have inner : (m.type.reverse (Bytes.slice e m.offset m.size))[i - m.offset]? =
          (Bytes.slice e m.offset m.size)[i - m.offset]? := by
        refine ih m mem (laidOut.length_slice mem he) fun l hl => ?_
        have outside := out _ (mem_memberLeaves.mpr ⟨m, mem, l, hl, rfl⟩)
        simp only [Leaf.shift, Leaf.stop] at outside ⊢
        omega
      unfold Member.stop at high
      have own : i - m.offset < m.size := by omega
      rw [← slice_reverse_member laidOut hm he mem, Bytes.getElem?_slice, Bytes.getElem?_slice, if_pos own, if_pos own,
        Nat.add_sub_cancel' low] at inner
      exact inner
    · refine getElem?_reverse_member laidOut hm he fun m mem => ?_
      by_cases before : i < m.offset
      · exact .inl before
      · exact .inr (Nat.not_lt.mp fun high => within ⟨m, mem, Nat.not_lt.mp before, high⟩)
  | string | varString | sequence | reference => rfl

end WellFormed

end DataType

end ArrayTransfer
