import ArrayTransfer.Proofs.DataType.Packed
import Mathlib.Data.List.Pairwise

/-! Which members make a compound. Neighbours are compared after the members were sorted by offset, which comes to a
    comparison of any two members, for which it matters which of them is declared first (`Member.sorted_iff`). Two
    members with bytes pass it exactly if no byte belongs to both. A member without bytes has none to share and still can
    be refused, between two bytes of another, or at the start of one that is declared before it
    (`DataType.laid_out_exactly`). Members in sequence always pass. -/

namespace ArrayTransfer

namespace Member
variable {members : List (Member DataType)} {m n z : Member DataType} {size : Nat}

/-! ### The rules -/

/-- The byte is one of the member. -/
def Holds (m : Member DataType) (i : Nat) : Prop := m.offset ≤ i ∧ i < m.stop

/-- No byte belongs to both members. -/
def Disjoint (m n : Member DataType) : Prop := ∀ i, ¬(m.Holds i ∧ n.Holds i)

/-- The rules for the members of a compound of `size` bytes: there are some, with names of their own and fixed sizes,
    they end within the compound, and no byte belongs to two of them. -/
structure Admissible (members : List (Member DataType)) (size : Nat) : Prop where
  nonempty : members ≠ []
  names : (members.map (·.name)).Nodup
  fixed : ∀ m ∈ members, m.type.isVariable = false
  bound : ∀ m ∈ members, m.stop ≤ size
  disjoint : members.Pairwise Disjoint

/-- A member without bytes stands between two bytes of the other. -/
def Splits (z m : Member DataType) : Prop := z.size = 0 ∧ m.offset < z.offset ∧ z.offset < m.stop

/-- A member without bytes stands where the other, which has some, begins. -/
def Heads (z m : Member DataType) : Prop := z.size = 0 ∧ 0 < m.size ∧ z.offset = m.offset

theorem disjoint_iff : m.Disjoint n ↔ m.size = 0 ∨ n.size = 0 ∨ m.stop ≤ n.offset ∨ n.stop ≤ m.offset := by
  unfold Disjoint Holds stop
  constructor
  · intro h
    -- The later of the two first bytes belongs to both, if any byte does.
    have last := h (max m.offset n.offset)
    omega
  · rintro h i ⟨⟨hm, hm'⟩, hn, hn'⟩
    omega

instance (m n : Member DataType) : Decidable (m.Disjoint n) := decidable_of_iff _ disjoint_iff.symm

instance (members : List (Member DataType)) (size : Nat) : Decidable (Admissible members size) :=
  decidable_of_iff
    (members ≠ [] ∧ (members.map (·.name)).Nodup ∧ (∀ m ∈ members, m.type.isVariable = false) ∧
      (∀ m ∈ members, m.stop ≤ size) ∧ members.Pairwise Disjoint)
    ⟨fun ⟨nonempty, names, fixed, bound, disjoint⟩ => ⟨nonempty, names, fixed, bound, disjoint⟩,
      fun h => ⟨h.nonempty, h.names, h.fixed, h.bound, h.disjoint⟩⟩

theorem Disjoint.symm (h : m.Disjoint n) : n.Disjoint m := fun i hi => h i hi.symm

/-! ### Sorted members -/

/-- What sorting by offset makes of two members of which `m` is declared first: `n` is the one that comes later unless it
    starts before `m`, and the later one does not start before the other ends. -/
def Clear (m n : Member DataType) : Prop := if m.offset ≤ n.offset then m.stop ≤ n.offset else n.stop ≤ m.offset

theorem clear_iff : m.Clear n ↔ m.Disjoint n ∧ (¬m.Splits n ∧ ¬n.Splits m) ∧ ¬n.Heads m := by
  rw [disjoint_iff]
  unfold Clear Splits Heads stop
  split <;> omega

theorem insertByOffset_ordered (h : members.Pairwise fun m n => m.offset ≤ n.offset) :
    (insertByOffset m members).Pairwise fun m n => m.offset ≤ n.offset := by
  induction members with
  | nil => exact List.pairwise_singleton ..
  | cons n rest ih =>
    obtain ⟨first, later⟩ := List.pairwise_cons.mp h
    rw [insertByOffset]
    split
    · rename_i before
      refine List.pairwise_cons.mpr ⟨?_, h⟩
      rw [List.forall_mem_cons]
      exact ⟨before, fun k hk => Nat.le_trans before (first k hk)⟩
    · rename_i behind
      refine List.pairwise_cons.mpr ⟨fun k hk => ?_, ih later⟩
      rcases List.mem_cons.mp ((insertByOffset_perm m rest).mem_iff.mp hk) with rfl | hk
      · exact Nat.le_of_not_le behind
      · exact first k hk

theorem sortByOffset_ordered (members : List (Member DataType)) :
    (sortByOffset members).Pairwise fun m n => m.offset ≤ n.offset := by
  induction members with
  | nil => exact .nil
  | cons m rest ih => exact insertByOffset_ordered ih

/-- Inserting a member that is declared before the others compares it with each of them. -/
theorem insertByOffset_pairwise_iff (h : members.Pairwise fun m n => m.offset ≤ n.offset) :
    (insertByOffset m members).Pairwise (fun m n => m.stop ≤ n.offset) ↔
      (∀ n ∈ members, m.Clear n) ∧ members.Pairwise fun m n => m.stop ≤ n.offset := by
  induction members with
  | nil => simp [insertByOffset]
  | cons n rest ih =>
    obtain ⟨first, later⟩ := List.pairwise_cons.mp h
    rw [insertByOffset]
    split
    · rename_i before
      have clear : ∀ k ∈ n :: rest, (m.Clear k ↔ m.stop ≤ k.offset) := by
        rw [List.forall_mem_cons]
        exact ⟨iff_of_eq (if_pos before), fun k hk => iff_of_eq (if_pos (Nat.le_trans before (first k hk)))⟩
      rw [List.pairwise_cons]
      exact and_congr_left' (forall₂_congr fun k hk => (clear k hk).symm)
    · rename_i behind
      have clear : m.Clear n ↔ n.stop ≤ m.offset := iff_of_eq (if_neg behind)
      rw [List.pairwise_cons, List.pairwise_cons, ih later, List.forall_mem_cons, clear]
      have mem : ∀ k, k ∈ insertByOffset m rest ↔ k = m ∨ k ∈ rest := fun k => by
        rw [(insertByOffset_perm m rest).mem_iff, List.mem_cons]
      simp only [mem, forall_eq_or_imp]
      constructor
      · rintro ⟨⟨own, others⟩, clears, pairs⟩
        exact ⟨⟨own, clears⟩, others, pairs⟩
      · rintro ⟨⟨own, clears⟩, others, pairs⟩
        exact ⟨⟨own, others⟩, clears, pairs⟩

/-- Sorted members lie one behind the other exactly if any two of them are clear of each other. -/
theorem sorted_iff : (sortByOffset members).Pairwise (fun m n => m.stop ≤ n.offset) ↔ members.Pairwise Clear := by
  induction members with
  | nil => exact ⟨fun _ => .nil, fun _ => .nil⟩
  | cons m rest ih =>
    rw [sortByOffset, insertByOffset_pairwise_iff (sortByOffset_ordered rest), ih, List.pairwise_cons]
    simp only [(sortByOffset_perm rest).mem_iff]

theorem forall_splits_iff : (∀ z ∈ members, ∀ m ∈ members, ¬z.Splits m) ↔
    members.Pairwise fun m n => ¬m.Splits n ∧ ¬n.Splits m := by
  constructor
  · intro h
    exact List.pairwise_of_forall_mem_list fun m hm n hn => ⟨h m hm n hn, h n hn m hm⟩
  · intro h
    have : Std.Symm fun m n : Member DataType => ¬m.Splits n ∧ ¬n.Splits m := ⟨fun _ _ => And.symm⟩
    have self : ∀ m ∈ members, ¬m.Splits m ∧ ¬m.Splits m := fun m _ =>
      and_self_iff.mpr fun split => Nat.lt_irrefl _ split.2.1
    exact fun z hz m hm => (List.Pairwise.forall_of_forall self h hz hm).1

/-- Members are laid out exactly if they keep to the rules and none without bytes stands in the way of another. -/
theorem laidOut_iff : LaidOut members size ↔ Admissible members size ∧
    (∀ z ∈ members, ∀ m ∈ members, ¬z.Splits m) ∧ members.Pairwise fun m z => ¬z.Heads m := by
  have pairs : members.Pairwise Clear ↔ members.Pairwise Disjoint ∧
      (members.Pairwise fun m n => ¬m.Splits n ∧ ¬n.Splits m) ∧ members.Pairwise fun m z => ¬z.Heads m := by
    simp only [← List.pairwise_and_iff, ← clear_iff]
  rw [forall_splits_iff]
  constructor
  · intro h
    obtain ⟨disjoint, between, heads⟩ := pairs.mp (sorted_iff.mp h.sorted)
    exact ⟨⟨h.nonempty, h.names, h.fixed, h.bound, disjoint⟩, between, heads⟩
  · rintro ⟨h, between, heads⟩
    exact ⟨h.nonempty, h.names, h.fixed, h.bound, sorted_iff.mpr (pairs.mpr ⟨h.disjoint, between, heads⟩)⟩

theorem Admissible.perm {others : List (Member DataType)} (h : Admissible members size) (same : members.Perm others) :
    Admissible others size where
  nonempty := fun none => h.nonempty (List.perm_nil.mp (none ▸ same))
  names := (same.map _).nodup_iff.mp h.names
  fixed := fun m hm => h.fixed m (same.mem_iff.mpr hm)
  bound := fun m hm => h.bound m (same.mem_iff.mpr hm)
  disjoint := same.pairwise h.disjoint Disjoint.symm

/-- Members in sequence are clear of each other, whether they have bytes or not. -/
theorem InSequence.clear {start : Nat} (h : InSequence start members) : members.Pairwise Clear := by
  refine h.pairwise.imp fun {m n} behind => ?_
  rw [Clear, if_pos (Nat.le_trans (offset_le_stop m) behind)]
  exact behind

/-- The rules for names and types that are put one behind the other. -/
structure Packable (named : List (String × DataType)) : Prop where
  nonempty : named ≠ []
  names : (named.map Prod.fst).Nodup
  fixed : ∀ item ∈ named, item.2.isVariable = false

theorem InSequence.laidOut_iff (h : InSequence 0 members) :
    LaidOut members (sizeUsed members) ↔ Packable (members.map declared) := by
  have names : (members.map declared).map Prod.fst = members.map (·.name) := List.map_map
  constructor
  · intro laidOut
    refine ⟨fun none => laidOut.nonempty (List.map_eq_nil_iff.mp none), names ▸ laidOut.names, ?_⟩
    rw [List.forall_mem_map]
    exact laidOut.fixed
  · rintro ⟨nonempty, distinct, fixed⟩
    rw [List.forall_mem_map] at fixed
    refine ⟨fun none => nonempty (none ▸ rfl), names ▸ distinct, fixed, fun m hm => ?_, sorted_iff.mpr h.clear⟩
    exact Nat.zero_add (sizeUsed members) ▸ (h.within m hm).2

end Member

/-! ### Compounds -/

namespace DataType
variable {t : DataType} {named : List (String × DataType)}

/-- Names and types that keep to the rules make the compound of their members in sequence, and no others make one. -/
theorem packed?_eq_ok_iff : packed? named = .ok t ↔ Member.Packable named ∧
    ∃ members, members.map Member.declared = named ∧ Member.InSequence 0 members ∧
      t = .compound members (Member.sizeUsed members) := by
  rw [packed?]
  constructor
  · intro h
    split at h
    · cases h
    · rename_i packed
      obtain ⟨rfl, -, sequence, used⟩ := Member.pack_eq_ok_iff.mp packed
      rw [Nat.zero_add] at used
      subst used
      obtain ⟨laidOut, rfl⟩ := laidOut?_eq_ok_iff.mp h
      exact ⟨sequence.laidOut_iff.mp laidOut, _, rfl, sequence, rfl⟩
  · rintro ⟨packable, members, rfl, sequence, rfl⟩
    have laidOut := sequence.laidOut_iff.mpr packable
    have packed : Member.pack 0 (members.map Member.declared) = .ok (members, Member.sizeUsed members) :=
      Member.pack_eq_ok_iff.mpr ⟨rfl, laidOut.fixed, sequence, (Nat.zero_add _).symm⟩
    rw [packed]
    exact laidOut?_eq_ok_iff.mpr ⟨laidOut, rfl⟩

theorem exists_laidOut?_iff {members : List (Member DataType)} {size : Nat} :
    (∃ t, laidOut? members size = .ok t) ↔ Member.LaidOut members size := by
  simp only [laidOut?_eq_ok_iff, exists_and_left, exists_eq, and_true]

/-- Members make a compound exactly if they keep to the rules and none without bytes stands between two bytes of another,
    nor at the start of one that is declared before it. If all have bytes, the rules alone decide; and in which order
    members are declared matters only if one without bytes stands where another begins. What is put one behind the other
    makes a compound exactly if there is something, with names of its own and fixed sizes. -/
theorem laid_out_exactly (members : List (Member DataType)) (size : Nat) :
    ((∃ t, laidOut? members size = .ok t) ↔ Member.Admissible members size ∧
      (∀ z ∈ members, ∀ m ∈ members, ¬z.Splits m) ∧ members.Pairwise fun m z => ¬z.Heads m) ∧
    ((∀ m ∈ members, 0 < m.size) → ((∃ t, laidOut? members size = .ok t) ↔ Member.Admissible members size)) ∧
    ((∀ z ∈ members, ∀ m ∈ members, ¬z.Heads m) → ∀ others, members.Perm others →
      ((∃ t, laidOut? others size = .ok t) ↔ ∃ t, laidOut? members size = .ok t)) ∧
    ∀ named, (∃ t, packed? named = .ok t) ↔ Member.Packable named := by
  have admits : ∀ list, ((∃ t, laidOut? list size = .ok t) ↔ Member.Admissible list size ∧
      (∀ z ∈ list, ∀ m ∈ list, ¬z.Splits m) ∧ list.Pairwise fun m z => ¬z.Heads m) := fun list =>
    exists_laidOut?_iff.trans Member.laidOut_iff
  refine ⟨admits members, fun filled => ?_, fun free others same => ?_, fun named => ?_⟩
  · rw [admits]
    have some : ∀ z ∈ members, z.size ≠ 0 := fun z hz => Nat.pos_iff_ne_zero.mp (filled z hz)
    refine and_iff_left ⟨fun z hz m _ split => some z hz split.1, ?_⟩
    exact List.pairwise_of_forall_mem_list fun m _ z hz heads => some z hz heads.1
  · have heads : ∀ {list : List (Member DataType)}, (∀ z ∈ list, z ∈ members) →
        list.Pairwise fun m z => ¬z.Heads m := fun sub =>
      List.pairwise_of_forall_mem_list fun m hm z hz => free z (sub z hz) m (sub m hm)
    have ofMembers := heads fun z hz => hz
    have ofOthers := heads fun z hz => same.mem_iff.mpr hz
    simp only [admits, ← same.mem_iff, ofMembers, ofOthers, and_true]
    exact and_congr_left' ⟨fun h => h.perm same.symm, fun h => h.perm same⟩
  · constructor
    · rintro ⟨t, made⟩
      exact (packed?_eq_ok_iff.mp made).1
    · intro packable
      obtain ⟨members, names, sequence⟩ := Member.exists_inSequence 0 named
      exact ⟨_, packed?_eq_ok_iff.mpr ⟨packable, members, names, sequence, rfl⟩⟩

/-- Two numbers, the second behind the first with a gap, and declared before it. -/
def gapped : List (Member DataType) := [⟨"high", 6, .numeric (.unsigned .w8)⟩, ⟨"low", 0, .numeric .float32⟩]

theorem laid_out_exactly_gapped :
    (∃ t, laidOut? gapped 8 = .ok t) ∧ ∃ t, laidOut? gapped.reverse 8 = .ok t := by
  have filled : ∀ m ∈ gapped, 0 < m.size := by decide
  have free : ∀ z ∈ gapped, ∀ m ∈ gapped, ¬z.Heads m := fun z hz _ _ heads => Nat.pos_iff_ne_zero.mp (filled z hz) heads.1
  obtain ⟨-, admitted, anyOrder, -⟩ := laid_out_exactly gapped 8
  have made := (admitted filled).mpr (by decide)
  exact ⟨made, (anyOrder free gapped.reverse gapped.reverse_perm.symm).mpr made⟩

/-- A number of one byte, and a label without bytes where it begins. -/
def flagged : List (Member DataType) := [⟨"flag", 0, .numeric (.unsigned .w8)⟩, ⟨"label", 0, .string 0⟩]

/-- No byte belongs to both members, and they keep to all rules; they are told to overlap in one order and make a
    compound in the other. -/
theorem label_overlaps : Member.Admissible flagged 1 ∧
    laidOut? flagged 1 = .error (.overlappingMembers "flag" "label") ∧
    laidOut? flagged.reverse 1 = .ok (.compound flagged.reverse 1) := ⟨by decide, by rfl, by rfl⟩

end DataType

end ArrayTransfer
