import ArrayTransfer.Bytes
import ArrayTransfer.DataType.Layout

/-! What the members of a compound keep to. `Member.LaidOut` is what `DataType.laidOut?` leaves of the rules that it
    checks: members have names of their own and fixed sizes, end within the compound, and lie apart. Members that take
    as many bytes as the compound has leave no byte open (`Member.LaidOut.cover`). `DataType.WellFormed` asks this of
    every compound in a type. -/

namespace ArrayTransfer

namespace Member
variable {members : List (Member DataType)} {m : Member DataType} {size : Nat}

/-! ### The rules -/

/-- Members that make a compound of `size` bytes. -/
structure LaidOut (members : List (Member DataType)) (size : Nat) : Prop where
  nonempty : members ≠ []
  names : (members.map (·.name)).Nodup
  fixed : ∀ m ∈ members, m.type.isVariable = false
  bound : ∀ m ∈ members, m.stop ≤ size
  sorted : (sortByOffset members).Pairwise fun m n => m.stop ≤ n.offset

theorem LaidOut.length_slice (h : LaidOut members size) (hm : m ∈ members) {b : Bytes} (hb : b.length = size) :
    (Bytes.slice b m.offset m.size).length = m.size :=
  Bytes.length_slice _ _ _ (hb ▸ h.bound m hm)

theorem rules_of_fault?_none {seen : List String} (h : fault? size seen members = none) :
    (members.map (·.name)).Nodup ∧ (∀ m ∈ members, m.name ∉ seen) ∧
      (∀ m ∈ members, m.type.isVariable = false) ∧ ∀ m ∈ members, m.stop ≤ size := by
  induction members generalizing seen with
  | nil => simp
  | cons m members ih =>
    simp only [fault?] at h
    split at h; · cases h
    split at h; · cases h
    split at h; · cases h
    rename_i hseen hfixed hstop
    obtain ⟨names, unseen, fixed, bound⟩ := ih h
    have own : m.name ∉ members.map (·.name) := fun hm => by
      obtain ⟨n, hn, he⟩ := List.mem_map.mp hm
      exact unseen n hn (by simp [he])
    refine ⟨List.nodup_cons.mpr ⟨own, names⟩, ?_, ?_, ?_⟩
    · rw [List.forall_mem_cons]
      exact ⟨hseen, fun n hn hs => unseen n hn (List.mem_cons_of_mem _ hs)⟩
    · rw [List.forall_mem_cons]
      exact ⟨by simpa using hfixed, fixed⟩
    · rw [List.forall_mem_cons]
      exact ⟨Nat.not_lt.mp hstop, bound⟩

theorem offset_le_stop (m : Member DataType) : m.offset ≤ m.stop := Nat.le_add_right ..

theorem pairwise_of_overlap?_none (h : overlap? members = none) : members.Pairwise fun m n => m.stop ≤ n.offset := by
  induction members with
  | nil => exact .nil
  | cons m members ih =>
    cases members with
    | nil => exact List.pairwise_singleton ..
    | cons n rest =>
      rw [overlap?] at h
      split at h; · cases h
      rename_i hlt
      have tail := ih h
      refine List.pairwise_cons.mpr ⟨?_, tail⟩
      rw [List.forall_mem_cons]
      refine ⟨Nat.not_lt.mp hlt, fun k hk => ?_⟩
      have hn := (List.pairwise_cons.mp tail).1 k hk
      have := offset_le_stop n
      omega

theorem insertByOffset_perm (m : Member DataType) (members : List (Member DataType)) :
    (insertByOffset m members).Perm (m :: members) := by
  induction members with
  | nil => exact .refl _
  | cons n rest ih =>
    rw [insertByOffset]
    split
    · exact .refl _
    · exact (ih.cons n).trans (.swap ..)

theorem sortByOffset_perm (members : List (Member DataType)) : (sortByOffset members).Perm members := by
  induction members with
  | nil => exact .refl _
  | cons m rest ih => exact (insertByOffset_perm m _).trans (ih.cons m)

namespace LaidOut

/-- Two members share no byte. -/
theorem apart (h : LaidOut members size) :
    members.Pairwise fun m n => m.stop ≤ n.offset ∨ n.stop ≤ m.offset :=
  (sortByOffset_perm members).pairwise (h.sorted.imp .inl) Or.symm

theorem bound_sorted (h : LaidOut members size) : ∀ m ∈ sortByOffset members, m.stop ≤ size := fun m hm =>
  h.bound m ((sortByOffset_perm members).mem_iff.mp hm)

end LaidOut

/-! ### Open bytes -/

theorem sizeUsed_perm {a b : List (Member DataType)} (h : a.Perm b) : sizeUsed a = sizeUsed b := by
  induction h with
  | nil => rfl
  | cons m _ ih => rw [sizeUsed, sizeUsed, ih]
  | swap m n _ => simp only [sizeUsed]; omega
  | trans _ _ iha ihb => exact iha.trans ihb

/-- Members one behind the other between two bounds have room there, and fill it if they take as many bytes. -/
theorem fill_of_pairwise {low : Nat} (hlow : ∀ m ∈ members, low ≤ m.offset)
    (hsize : ∀ m ∈ members, m.stop ≤ size) (hle : low ≤ size)
    (hp : members.Pairwise fun m n => m.stop ≤ n.offset) : sizeUsed members ≤ size - low ∧
      (sizeUsed members = size - low →
        ∀ i, low ≤ i → i < size → ∃ m ∈ members, m.offset ≤ i ∧ i < m.stop) := by
  induction members generalizing low with
  | nil =>
    refine ⟨Nat.zero_le _, fun h i h1 h2 => ?_⟩
    simp only [sizeUsed] at h
    omega
  | cons m rest ih =>
    obtain ⟨hm, hrest⟩ := List.pairwise_cons.mp hp
    have hstop := hsize m List.mem_cons_self
    have hstart := hlow m List.mem_cons_self
    obtain ⟨le, fill⟩ := ih hm (fun n hn => hsize n (List.mem_cons_of_mem _ hn)) hstop hrest
    simp only [sizeUsed, stop] at le hstop ⊢
    refine ⟨by omega, fun he i h1 h2 => ?_⟩
    by_cases hi : i < m.offset + m.size
    · exact ⟨m, List.mem_cons_self, by omega, hi⟩
    · obtain ⟨n, hn, hni⟩ := fill (by simp only [stop]; omega) i (Nat.not_lt.mp hi) h2
      exact ⟨n, List.mem_cons_of_mem _ hn, hni⟩

/-- If the members take as many bytes as the compound has, each byte is one of theirs. -/
theorem LaidOut.cover (h : LaidOut members size) (hs : sizeUsed members = size) {i : Nat} (hi : i < size) :
    ∃ m ∈ members, m.offset ≤ i ∧ i < m.stop := by
  have perm := sortByOffset_perm members
  have fill := (fill_of_pairwise (fun m _ => Nat.zero_le m.offset) h.bound_sorted (Nat.zero_le _) h.sorted).2
  obtain ⟨m, hm, hmi⟩ := fill (by rw [sizeUsed_perm perm, hs, Nat.sub_zero]) i (Nat.zero_le _) hi
  exact ⟨m, perm.mem_iff.mp hm, hmi⟩

/-- Members one behind the other that leave no byte open up to a bound take all bytes up to it. -/
theorem size_le_of_cover {low : Nat} (hp : members.Pairwise fun m n => m.stop ≤ n.offset)
    (cover : ∀ i, low ≤ i → i < size → ∃ m ∈ members, m.offset ≤ i ∧ i < m.stop) :
    size ≤ low + sizeUsed members := by
  induction members generalizing low with
  | nil =>
    by_cases left : low < size
    · obtain ⟨m, mem, -⟩ := cover low (Nat.le_refl _) left
      cases mem
    · exact Nat.le_trans (Nat.not_lt.mp left) (Nat.le_add_right ..)
  | cons m rest ih =>
    obtain ⟨before, tail⟩ := List.pairwise_cons.mp hp
    have later : size ≤ max low m.stop + sizeUsed rest := by
      refine ih tail fun i above below => ?_
      obtain ⟨n, mem, first, last⟩ := cover i (by omega) below
      obtain rfl | mem := List.mem_cons.mp mem
      · omega
      · exact ⟨n, mem, first, last⟩
    by_cases left : low < size
    · -- The member that has the first byte is this one or one behind it.
      have starts : m.offset ≤ low := by
        obtain ⟨n, mem, first, -⟩ := cover low (Nat.le_refl _) left
        obtain rfl | mem := List.mem_cons.mp mem
        · exact first
        · exact Nat.le_trans (offset_le_stop m) (Nat.le_trans (before n mem) first)
      simp only [sizeUsed, stop] at later ⊢
      omega
    · exact Nat.le_trans (Nat.not_lt.mp left) (Nat.le_add_right ..)

/-- If each byte of the compound is one of a member, the members take as many bytes as it has. -/
theorem LaidOut.used_of_cover (h : LaidOut members size)
    (cover : ∀ i < size, ∃ m ∈ members, m.offset ≤ i ∧ i < m.stop) : sizeUsed members = size := by
  have perm := sortByOffset_perm members
  have most := (fill_of_pairwise (fun m _ => Nat.zero_le m.offset) h.bound_sorted (Nat.zero_le _) h.sorted).1
  have least : size ≤ 0 + sizeUsed (sortByOffset members) := size_le_of_cover h.sorted fun i _ hi => by
    obtain ⟨m, mem, within⟩ := cover i hi
    exact ⟨m, perm.mem_iff.mpr mem, within⟩
  rw [sizeUsed_perm perm] at most least
  omega

/-! ### Names -/

theorem mem_of_find? {name : String} (h : find? name members = some m) : m ∈ members ∧ m.name = name := by
  induction members with
  | nil => cases h
  | cons n rest ih =>
    rw [find?] at h
    split at h
    · rename_i hn
      cases h
      exact ⟨List.mem_cons_self, hn⟩
    · exact ⟨List.mem_cons_of_mem _ (ih h).1, (ih h).2⟩

end Member

/-! ### Types -/

namespace DataType
variable {members : List (Member DataType)} {size : Nat} {t : DataType}

theorem laidOut?_eq_ok_iff :
    laidOut? members size = .ok t ↔ Member.LaidOut members size ∧ t = .compound members size := by
  constructor
  · intro h
    simp only [laidOut?] at h
    split at h; · cases h
    split at h; · cases h
    rename_i hne _ hfault
    split at h; · cases h
    rename_i hover
    cases h
    obtain ⟨names, -, fixed, bound⟩ := Member.rules_of_fault?_none hfault
    exact ⟨⟨by simpa using hne, names, fixed, bound, Member.pairwise_of_overlap?_none hover⟩, rfl⟩
  · rintro ⟨h, rfl⟩
    have fault : ∀ seen, (∀ m ∈ members, m.name ∉ seen) → Member.fault? size seen members = none := by
      have names := h.names
      have fixed := h.fixed
      have bound := h.bound
      clear h
      induction members with
      | nil => exact fun _ _ => rfl
      | cons m rest ih =>
        intro seen hseen
        obtain ⟨hne, hrest⟩ := List.nodup_cons.mp names
        rw [Member.fault?, if_neg (hseen m List.mem_cons_self), if_neg (by simp [fixed m List.mem_cons_self]),
          if_neg (Nat.not_lt.mpr (bound m List.mem_cons_self))]
        refine ih hrest (fun n hn => fixed n (List.mem_cons_of_mem _ hn))
          (fun n hn => bound n (List.mem_cons_of_mem _ hn)) _ fun n hn hs => ?_
        rcases List.mem_cons.mp hs with he | hs
        · exact hne (List.mem_map.mpr ⟨n, hn, he⟩)
        · exact hseen n (List.mem_cons_of_mem _ hn) hs
    have overlap : ∀ l : List (Member DataType),
        (l.Pairwise fun m n => m.stop ≤ n.offset) → Member.overlap? l = none := by
      intro l hl
      induction l with
      | nil => rfl
      | cons m rest ih =>
        obtain ⟨hm, hrest⟩ := List.pairwise_cons.mp hl
        cases rest with
        | nil => rfl
        | cons n rest => rw [Member.overlap?, if_neg (Nat.not_lt.mpr (hm n List.mem_cons_self)), ih hrest]
    simp only [laidOut?, List.isEmpty_iff, h.nonempty, ↓reduceIte, fault [] (by simp), overlap _ h.sorted]

/-- The compounds in a type are laid out. Types that are built by `laidOut?` are such types. -/
inductive WellFormed : DataType → Prop where
  | numeric (kind : Numeric) : WellFormed (.numeric kind)
  | compound {members : List (Member DataType)} {size : Nat} (laidOut : Member.LaidOut members size)
      (wellFormed : ∀ m ∈ members, WellFormed m.type) : WellFormed (.compound members size)
  | string (size : Nat) : WellFormed (.string size)
  | varString : WellFormed .varString
  | sequence {base : DataType} (wellFormed : WellFormed base) : WellFormed (.sequence base)
  | reference : WellFormed .reference

instance (members : List (Member DataType)) (size : Nat) : Decidable (Member.LaidOut members size) :=
  decidable_of_iff
    (members ≠ [] ∧ (members.map (·.name)).Nodup ∧ (∀ m ∈ members, m.type.isVariable = false) ∧
      (∀ m ∈ members, m.stop ≤ size) ∧ (Member.sortByOffset members).Pairwise fun m n => m.stop ≤ n.offset)
    ⟨fun ⟨nonempty, names, fixed, bound, sorted⟩ => ⟨nonempty, names, fixed, bound, sorted⟩,
      fun h => ⟨h.nonempty, h.names, h.fixed, h.bound, h.sorted⟩⟩

mutual
def decWellFormed : (t : DataType) → Decidable t.WellFormed
  | .numeric kind => isTrue (.numeric kind)
  | .compound members size =>
    match inferInstanceAs (Decidable (Member.LaidOut members size)), decMembersWellFormed members with
    | isTrue laidOut, isTrue wellFormed => isTrue (.compound laidOut wellFormed)
    | isFalse h, _ => isFalse fun | .compound laidOut _ => h laidOut
    | _, isFalse h => isFalse fun | .compound _ wellFormed => h wellFormed
  | .string size => isTrue (.string size)
  | .varString => isTrue .varString
  | .sequence base =>
    match decWellFormed base with
    | isTrue wellFormed => isTrue (.sequence wellFormed)
    | isFalse h => isFalse fun | .sequence wellFormed => h wellFormed
  | .reference => isTrue .reference
termination_by structural t => t
def decMembersWellFormed : (members : List (Member DataType)) → Decidable (∀ m ∈ members, m.type.WellFormed)
  | [] => isTrue nofun
  | ⟨_, _, t⟩ :: rest =>
    match decWellFormed t, decMembersWellFormed rest with
    | isTrue first, isTrue others => isTrue (List.forall_mem_cons.mpr ⟨first, others⟩)
    | isFalse h, _ => isFalse fun all => h (List.forall_mem_cons.mp all).1
    | _, isFalse h => isFalse fun all => h (List.forall_mem_cons.mp all).2
termination_by structural members => members
end

instance : DecidablePred WellFormed := decWellFormed

/-- A member of a type is well formed, of a fixed size, and within the type. -/
theorem WellFormed.member (h : t.WellFormed) {m : Member DataType} (hm : m ∈ t.members) :
    m.type.WellFormed ∧ m.type.isVariable = false ∧ m.stop ≤ t.size := by
  cases h with
  | compound laidOut wellFormed => exact ⟨wellFormed m hm, laidOut.fixed m hm, laidOut.bound m hm⟩
  | _ => cases hm

theorem WellFormed.names (h : t.WellFormed) : (t.members.map (·.name)).Nodup := by
  cases h with
  | compound laidOut _ => exact laidOut.names
  | _ => exact .nil

theorem size?_eq_some (h : t.isVariable = false) : t.size? = some t.size := by
  cases t <;> first | rfl | cases h

end DataType

end ArrayTransfer
