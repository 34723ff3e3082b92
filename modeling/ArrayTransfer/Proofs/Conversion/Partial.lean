import ArrayTransfer.Proofs.Conversion.ByName
import ArrayTransfer.Proofs.DataType.Resolved

/-! Writes that would leave members unset. A packed type has no bytes to leave open, and so a write to it is refused only
    if a member, on some level, has no source of its name (`Conversion.filled_of_lacks`, `Conversion.lacks_of_filled`). A
    type that has the members of another, whatever else it has and in whatever way it has them, is taken where the other
    is (`Offers.convertible`, `Offers.lacks`). -/

namespace ArrayTransfer

namespace Conversion
variable {source target richer plain caller wire : DataType} {n : Nat}

/-- Some member has no source of its name, if the two types are followed by the names of members. -/
inductive Lacks : (source target : DataType) → Prop where
  | here {source target : DataType} {m : Member DataType} (mem : m ∈ target.members)
    (lacking : ∀ s ∈ source.members, s.name ≠ m.name) : Lacks source target
  | within {source target : DataType} {m s : Member DataType} (mem : m ∈ target.members) (own : s ∈ source.members)
    (name : s.name = m.name) (inner : Lacks s.type m.type) : Lacks source target

theorem filled_of_lacks (hs : source.WellFormed) (lacks : Lacks source target) :
    Background.of source target = .filled := by
  induction lacks with
  | @here source target m mem lacking =>
    cases target with
    | compound members n =>
      refine Decidable.byContradiction fun unfilled => ?_
      obtain ⟨s, found, -⟩ := (members_of_background unfilled).2 m mem
      obtain ⟨own, name⟩ := Member.mem_of_find? found
      exact lacking s own name
    | _ => cases mem
  | @within source target m s mem own name inner ih =>
    cases target with
    | compound members n =>
      refine Decidable.byContradiction fun unfilled => ?_
      obtain ⟨s', found, covered⟩ := (members_of_background unfilled).2 m mem
      rw [← name, Member.find?_of_mem hs.names own] at found
      cases found
      exact covered (ih (hs.member own).1)
    | _ => cases mem

theorem lacks_of_filled (ht : target.WellFormed) (packed : target.Packed)
    (filled : Background.of source target = .filled) : Lacks source target := by
  induction ht generalizing source with
  | @compound members n laidOut _ ih =>
    obtain ⟨covered, inner⟩ : (∀ i < n, ∃ m ∈ members, m.offset ≤ i ∧ i < m.stop) ∧
        ∀ m ∈ members, m.type.Packed := by
      cases packed with
      | compound covered inner => exact ⟨covered, inner⟩
    refine Classical.byContradiction fun complete => ?_
    have each : ∀ m ∈ members, ∃ s, Member.find? m.name source.members = some s ∧
        Background.of s.type m.type ≠ .filled := by
      intro m mem
      cases found : Member.find? m.name source.members with
      | none => exact absurd (.here mem (Member.find?_eq_none.mp found)) complete
      | some s =>
        obtain ⟨own, name⟩ := Member.mem_of_find? found
        exact ⟨s, rfl, fun filled => complete (.within mem own name (ih m mem (inner m mem) filled))⟩
    cases source with
    | compound sources _ => exact compound_background_iff.mpr ⟨laidOut.used_of_cover covered, each⟩ filled
    | _ =>
      obtain ⟨m, mem⟩ := List.exists_mem_of_ne_nil members laidOut.nonempty
      obtain ⟨s, found, -⟩ := each m mem
      cases found
  | numeric | string | varString | sequence | reference => cases filled

/-! ### What is planned -/

/-- What converts from a type of fixed size has one. -/
theorem fixed_of_convertibleFrom (fixed : source.isVariable = false)
    (hc : DataType.convertibleFrom source target = true) : target.isVariable = false := by
  cases target with
  | varString | sequence =>
    rw [DataType.convertibleFrom, decide_eq_true_eq] at hc
    rwa [hc] at fixed
  | numeric | compound | string | reference => rfl

/-- A write is refused only for the elements before that it would need. -/
theorem makeWrite_eq (fixed : source.isVariable = false) (hc : DataType.convertibleFrom source target = true) :
    Plan.makeWrite source target n =
      if Background.of source target = .filled then .error (.partialWrite source target)
      else .ok ⟨source.size, target.size, n, .none, Background.of source target⟩ := by
  simp only [Plan.makeWrite, Plan.make, DataType.size?_eq_some fixed,
    DataType.size?_eq_some (fixed_of_convertibleFrom fixed hc), hc, if_true]
  rfl

/-! ### Types that have more -/

/-- A type has, on each level, the members of another. It may have others, in another order and at other offsets, and
    other types of numbers and lengths of strings. -/
inductive Offers : (richer plain : DataType) → Prop where
  | same (t : DataType) : Offers t t
  | number (k l : Numeric) : Offers (.numeric k) (.numeric l)
  | string (m n : Nat) : Offers (.string m) (.string n)
  | compound {own members : List (Member DataType)} {m n : Nat}
    (found : ∀ s ∈ members, ∃ t ∈ own, t.name = s.name)
    (each : ∀ s ∈ members, ∀ t ∈ own, t.name = s.name → Offers t.type s.type) :
    Offers (.compound own m) (.compound members n)

theorem Offers.fixed (offers : Offers richer plain) (fixed : plain.isVariable = false) : richer.isVariable = false := by
  cases offers with
  | same => exact fixed
  | number | string | compound => rfl

/-- What a type of more members lacks, the other one lacks. -/
theorem Offers.lacks (offers : Offers richer plain) (lacks : Lacks richer target) : Lacks plain target := by
  induction lacks generalizing plain with
  | @here richer target m mem lacking =>
    cases offers with
    | same => exact .here mem lacking
    | number | string => exact .here mem nofun
    | compound found _ =>
      refine .here mem fun s own name => ?_
      obtain ⟨t, given, same⟩ := found s own
      exact lacking t given (same.trans name)
  | @within richer target m t mem given name inner ih =>
    cases offers with
    | same => exact .within mem given name inner
    | number | string => cases given
    | @compound _ members _ _ _ each =>
      by_cases there : ∃ s ∈ members, s.name = m.name
      · obtain ⟨s, own, same⟩ := there
        exact .within mem own same (ih (each s own t given (name.trans same.symm)))
      · exact .here mem fun s own same => there ⟨s, own, same⟩

/-- A type of more members converts where the other one does and lacks nothing. -/
theorem Offers.convertible (offers : Offers richer plain) (ht : target.WellFormed)
    (hc : DataType.convertibleFrom plain target = true) (complete : ¬Lacks plain target) :
    DataType.convertibleFrom richer target = true := by
  induction offers generalizing target with
  | same => exact hc
  | number k l =>
    cases target with
    | numeric => simp [DataType.convertibleFrom, DataType.isNumeric]
    | _ => simp [DataType.convertibleFrom] at hc
  | string m n =>
    cases target with
    | string => rfl
    | _ => simp [DataType.convertibleFrom, DataType.isNumeric] at hc
  | @compound own members m n found each ih =>
    cases target with
    | compound targets size =>
      rw [DataType.convertibleFrom, Bool.or_eq_true, membersConvertibleFrom_iff]
      refine .inr fun w mem t given => ?_
      obtain ⟨given, name⟩ := Member.mem_of_find? given
      cases source : Member.find? w.name members with
      | none => exact absurd (.here mem (Member.find?_eq_none.mp source)) complete
      | some s =>
        obtain ⟨mems, same⟩ := Member.mem_of_find? source
        exact ih s mems t given (name.trans same.symm) (ht.member mem).1 (convertibleFrom_found ht hc mem source)
          fun inner => complete (.within mem mems same inner)
    | _ => simp [DataType.convertibleFrom, DataType.isNumeric] at hc

/-! ### Partial writes -/

/-- A write from a type of fixed size to a packed type that it converts to is refused as partial if and only if a member
    has no source of its name, on any level. Otherwise it is planned, also from each type that has the same members among
    others, in whatever order, places and types of numbers. Types that are read from descriptors are packed. -/
theorem partial_write_refused (hs : caller.WellFormed) (ht : wire.WellFormed) (packed : wire.Packed)
    (fixed : caller.isVariable = false) (hc : DataType.convertibleFrom caller wire = true) :
    (Plan.makeWrite caller wire n = .error (.partialWrite caller wire) ↔ Lacks caller wire) ∧
      (¬Lacks caller wire → ∀ richer, Offers richer caller → ∃ plan, Plan.makeWrite richer wire n = .ok plan) ∧
      ∀ v t order, Descriptor.parseType v = .ok (t, order) → t.WellFormed ∧ t.Packed := by
  refine ⟨⟨fun refused => ?_, fun lacks => ?_⟩, fun complete richer offers => ?_,
    fun v t order h => Descriptor.packed_of_parseType h⟩
  · rw [makeWrite_eq fixed hc] at refused
    split at refused
    · rename_i filled
      exact lacks_of_filled ht packed filled
    · cases refused
  · rw [makeWrite_eq fixed hc, if_pos (filled_of_lacks hs lacks)]
  · have unfilled : Background.of richer wire ≠ .filled := fun filled =>
      complete (offers.lacks (lacks_of_filled ht packed filled))
    rw [makeWrite_eq (offers.fixed fixed) (offers.convertible ht hc complete), if_neg unfilled]
    exact ⟨_, rfl⟩

/-- A number with a point in the plane. -/
def numberedPoint : DataType :=
  .compound [⟨"id", 0, .numeric (.signed .w32)⟩,
    ⟨"at", 4, .compound [⟨"x", 0, .numeric .float64⟩, ⟨"y", 8, .numeric .float64⟩] 16⟩] 20

/-- A number with half of a point, and a label. -/
def halfPoint : DataType :=
  .compound [⟨"id", 0, .numeric (.signed .w32)⟩, ⟨"at", 4, .compound [⟨"x", 0, .numeric .float64⟩] 16⟩,
    ⟨"y", 20, .string 4⟩] 24

/-- A number with a point in space, with gaps and in another order and types. -/
def spacePoint : DataType :=
  .compound [⟨"at", 8, .compound [⟨"z", 0, .numeric .float32⟩, ⟨"y", 4, .numeric .float32⟩,
    ⟨"x", 8, .numeric (.signed .w16)⟩] 16⟩, ⟨"id", 0, .numeric (.unsigned .w64)⟩] 32

theorem partial_write_refused_points :
    Lacks halfPoint numberedPoint ∧ Plan.makeWrite halfPoint numberedPoint 2 =
        .error (.partialWrite halfPoint numberedPoint) ∧
      Offers spacePoint numberedPoint ∧ ∃ plan, Plan.makeWrite spacePoint numberedPoint 2 = .ok plan := by
  have ht : numberedPoint.WellFormed := by decide
  have packed : numberedPoint.Packed := by
    have point : numberedPoint.members[1].type.Packed := .compound (by decide) (by simp [DataType.Packed.numeric])
    refine .compound (by decide) (List.forall_mem_cons.mpr ⟨.numeric _, ?_⟩)
    exact List.forall_mem_cons.mpr ⟨point, List.forall_mem_nil _⟩
  have lacks : Lacks halfPoint numberedPoint := by
    refine .within (m := numberedPoint.members[1]) (s := halfPoint.members[1]) (List.getElem_mem _)
      (List.getElem_mem _) rfl ?_
    exact .here (m := ⟨"y", 8, .numeric .float64⟩) (List.mem_cons_of_mem _ List.mem_cons_self) (by decide)
  have point : Offers spacePoint.members[0].type numberedPoint.members[1].type :=
    .compound (by decide) (by simp [Offers.number])
  have offers : Offers spacePoint numberedPoint := .compound (by decide) (by
    simpa [Offers.number, numberedPoint, spacePoint, DataType.members] using point)
  obtain ⟨refused, -, -⟩ := @partial_write_refused halfPoint numberedPoint 2 (by decide) ht packed rfl (by decide)
  obtain ⟨own, taken, -⟩ := @partial_write_refused numberedPoint numberedPoint 2 ht ht packed rfl
    (convertibleFrom_self _)
  have complete : ¬Lacks numberedPoint numberedPoint := fun lacks => by cases own.mpr lacks
  exact ⟨lacks, refused.mpr lacks, offers, taken complete spacePoint offers⟩

end Conversion

end ArrayTransfer
