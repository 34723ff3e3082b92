import ArrayTransfer.Proofs.DataType.Layout

/-! Packed types. Every byte of a packed compound is one of a member. The members of a compound that is put together
    without padding are in sequence and take as many bytes as it has (`Member.pack_eq_ok_iff`), and a type whose
    compounds are all of this kind is packed on every level (`DataType.Consecutive.packed`). -/

namespace ArrayTransfer

namespace Member
variable {members before after : List (Member DataType)} {m : Member DataType} {start stop : Nat}
  {named : List (String × DataType)}

/-- The name and the type of a member, without its place. -/
def declared (m : Member DataType) : String × DataType := (m.name, m.type)

/-- The first member is at `start`, and each other one where the member before it stops. -/
def InSequence : (start : Nat) → List (Member DataType) → Prop
  | _, [] => True
  | start, m :: rest => m.offset = start ∧ InSequence m.stop rest

theorem pack_cons_eq_ok_iff {name : String} {t : DataType} : pack start ((name, t) :: named) = .ok (members, stop) ↔
    t.isVariable = false ∧
      ∃ others, pack (start + t.size) named = .ok (others, stop) ∧ members = ⟨name, start, t⟩ :: others := by
  cases known : t.size? with
  | none => simp [pack, known, DataType.isVariable]
  | some size =>
    have fixed : t.isVariable = false := by rw [DataType.isVariable, known]; rfl
    have whole : t.size = size := by rw [DataType.size, known]; rfl
    simp only [pack, known, whole, fixed, true_and]
    cases pack (start + size) named with
    | error e => simp
    | ok made =>
      constructor
      · intro h
        cases h
        exact ⟨_, rfl, rfl⟩
      · rintro ⟨others, h, rfl⟩
        cases h
        rfl

/-- Putting types one behind the other gives the members in sequence, and fails if one of the types varies in size. -/
theorem pack_eq_ok_iff : pack start named = .ok (members, stop) ↔ members.map declared = named ∧
    (∀ m ∈ members, m.type.isVariable = false) ∧ InSequence start members ∧ stop = start + sizeUsed members := by
  induction named generalizing start members with
  | nil =>
    constructor
    · intro made
      cases made
      exact ⟨rfl, List.forall_mem_nil _, trivial, rfl⟩
    · rintro ⟨names, -, -, used⟩
      obtain rfl := List.map_eq_nil_iff.mp names
      rw [used]
      rfl
  | cons head named ih =>
    obtain ⟨name, t⟩ := head
    rw [pack_cons_eq_ok_iff]
    constructor
    · rintro ⟨fixed, others, packed, rfl⟩
      obtain ⟨names, fixed', sequence, used⟩ := ih.mp packed
      refine ⟨by rw [List.map_cons, names]; rfl, List.forall_mem_cons.mpr ⟨fixed, fixed'⟩, ⟨rfl, sequence⟩, ?_⟩
      rw [used, sizeUsed, Nat.add_assoc]
      rfl
    · rintro ⟨names, fixed, sequence, used⟩
      cases members with
      | nil => cases names
      | cons m others =>
        obtain ⟨own, behind⟩ := List.cons.inj names
        obtain ⟨rfl, rfl⟩ := Prod.mk.inj own
        obtain ⟨rfl, sequence⟩ := sequence
        obtain ⟨fixed, fixed'⟩ := List.forall_mem_cons.mp fixed
        refine ⟨fixed, others, ih.mpr ⟨behind, fixed', sequence, ?_⟩, rfl⟩
        rw [used, sizeUsed, Nat.add_assoc]
        rfl

theorem exists_inSequence (start : Nat) (named : List (String × DataType)) :
    ∃ members, members.map declared = named ∧ InSequence start members := by
  induction named generalizing start with
  | nil => exact ⟨[], rfl, trivial⟩
  | cons head rest ih =>
    obtain ⟨name, t⟩ := head
    obtain ⟨members, names, sequence⟩ := ih (start + t.size)
    exact ⟨⟨name, start, t⟩ :: members, by rw [List.map_cons, names]; rfl, rfl, sequence⟩

namespace InSequence

/-- A member is as far behind the start as the members before it take bytes. -/
theorem offset_eq (h : InSequence start (before ++ m :: after)) : m.offset = start + sizeUsed before := by
  induction before generalizing start with
  | nil => exact h.1
  | cons n before ih =>
    obtain ⟨rfl, rest⟩ := h
    rw [ih rest, sizeUsed, Member.stop, Nat.add_assoc]

theorem within (h : InSequence start members) :
    ∀ m ∈ members, start ≤ m.offset ∧ m.stop ≤ start + sizeUsed members := by
  induction members generalizing start with
  | nil => exact List.forall_mem_nil _
  | cons m members ih =>
    obtain ⟨rfl, rest⟩ := h
    rw [sizeUsed, ← Nat.add_assoc, List.forall_mem_cons]
    refine ⟨⟨Nat.le_refl _, Nat.le_add_right ..⟩, fun n hn => ?_⟩
    obtain ⟨first, last⟩ := ih rest n hn
    exact ⟨Nat.le_trans (offset_le_stop m) first, last⟩

theorem pairwise (h : InSequence start members) : members.Pairwise fun m n => m.stop ≤ n.offset := by
  induction members generalizing start with
  | nil => exact .nil
  | cons m members ih =>
    obtain ⟨-, rest⟩ := h
    exact List.pairwise_cons.mpr ⟨fun n hn => (rest.within n hn).1, ih rest⟩

end InSequence

end Member

/-! ### Types -/

namespace DataType
variable {t : DataType}

/-- No compound in the type has a byte that is none of a member. -/
inductive Packed : DataType → Prop where
  | numeric (kind : Numeric) : Packed (.numeric kind)
  | compound {members : List (Member DataType)} {size : Nat}
      (covered : ∀ i < size, ∃ m ∈ members, m.offset ≤ i ∧ i < m.stop) (packed : ∀ m ∈ members, Packed m.type) :
      Packed (.compound members size)
  | string (size : Nat) : Packed (.string size)
  | varString : Packed .varString
  | sequence {base : DataType} (packed : Packed base) : Packed (.sequence base)
  | reference : Packed .reference

/-- In every compound in the type, a member is as far behind the start as the members declared before it take bytes, and
    the compound has as many bytes as its members take. -/
inductive Consecutive : DataType → Prop where
  | numeric (kind : Numeric) : Consecutive (.numeric kind)
  | compound {members : List (Member DataType)} {size : Nat}
      (offset_eq : ∀ before m after, members = before ++ m :: after → m.offset = Member.sizeUsed before)
      (size_eq : size = Member.sizeUsed members) (each : ∀ m ∈ members, Consecutive m.type) :
      Consecutive (.compound members size)
  | string (size : Nat) : Consecutive (.string size)
  | varString : Consecutive .varString
  | sequence {base : DataType} (each : Consecutive base) : Consecutive (.sequence base)
  | reference : Consecutive .reference

theorem Consecutive.packed (h : t.Consecutive) (wellFormed : t.WellFormed) : t.Packed := by
  induction h with
  | numeric kind => exact .numeric kind
  | compound _ size_eq _ ih =>
    cases wellFormed with
    | compound laidOut each =>
      exact .compound (fun i hi => laidOut.cover size_eq.symm hi) fun m hm => ih m hm (each m hm)
  | string size => exact .string size
  | varString => exact .varString
  | sequence _ ih =>
    cases wellFormed with
    | sequence each => exact .sequence (ih each)
  | reference => exact .reference

end DataType

end ArrayTransfer
