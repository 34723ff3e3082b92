import ArrayTransfer.Proofs.Conversion.Element

/-! The bytes that a converted element is made from. A compound names members of its source, and if none of it is left to
    the elements before, nothing else of the source matters: elements that agree where they are named convert alike
    (`Conversion.convert_congr`). -/

namespace ArrayTransfer

theorem Member.find?_of_mem {members : List (Member DataType)} (names : (members.map (·.name)).Nodup)
    {m : Member DataType} (hm : m ∈ members) : find? m.name members = some m := by
  induction members with
  | nil => cases hm
  | cons n members ih =>
    obtain ⟨own, names⟩ := List.nodup_cons.mp names
    rw [find?]
    obtain rfl | hm := List.mem_cons.mp hm
    · rw [if_pos rfl]
    · rw [if_neg fun same => own (List.mem_map.mpr ⟨m, hm, same.symm⟩), ih names hm]

theorem Member.find?_eq_none {name : String} {members : List (Member DataType)} :
    find? name members = none ↔ ∀ m ∈ members, m.name ≠ name := by
  induction members with
  | nil => simp [find?]
  | cons m members ih =>
    rw [find?, List.forall_mem_cons, ← ih]
    split <;> simp [*]

/-- Members of one name find each other. -/
theorem Member.find?_find? {sources members : List (Member DataType)} (names : (sources.map (·.name)).Nodup)
    {s t : Member DataType} (mem : s ∈ sources) (found : find? s.name members = some t) :
    t ∈ members ∧ find? t.name sources = some s := by
  obtain ⟨own, name⟩ := mem_of_find? found
  rw [name]
  exact ⟨own, find?_of_mem names mem⟩

namespace Conversion
variable {source target : DataType} {element element' : Bytes} {i : Nat}

/-- The bytes of a source element that its conversion is about: all, unless both are compounds and have members, and then
    those of the members that the target names, as far as their own conversion is about them. -/
inductive Named : DataType → DataType → Nat → Prop where
  | whole {source target : DataType} {i : Nat} (plain : source.members = [] ∨ target.members = [])
    (inside : i < source.size) : Named source target i
  | member {source target : DataType} {i : Nat} {m s : Member DataType} (mem : m ∈ target.members)
    (found : Member.find? m.name source.members = some s) (inside : s.offset ≤ i ∧ i < s.stop)
    (named : Named s.type m.type (i - s.offset)) : Named source target i

/-- A type that leaves no byte to the elements before names all bytes of itself. -/
theorem named_self {t : DataType} (hw : t.WellFormed) (fixed : t.isVariable = false)
    (covered : Background.of t t ≠ .filled) (inside : i < t.size) : Named t t i := by
  induction hw generalizing i with
  | @compound members size laidOut _ ih =>
    obtain ⟨used, each⟩ := members_of_background covered
    obtain ⟨m, mem, low, high⟩ := laidOut.cover used inside
    obtain ⟨s, found, covered⟩ := each m mem
    have own : Member.find? m.name members = some m := Member.find?_of_mem laidOut.names mem
    cases own.symm.trans found
    have within : i - m.offset < m.type.size := by
      unfold Member.stop Member.size at high
      omega
    exact .member mem own ⟨low, high⟩ (ih m mem (laidOut.fixed m mem) covered within)
  | numeric | string | varString | sequence | reference => exact .whole (.inl rfl) inside

theorem eq_of_whole (plain : source.members = [] ∨ target.members = [])
    (he : element.length = source.size) (he' : element'.length = source.size)
    (agree : ∀ i, Named source target i → element[i]? = element'[i]?) : element = element' :=
  Bytes.ext_of_length (he.trans he'.symm) fun i hi => agree i (.whole plain (by rwa [← he]))

theorem convertMembers_congr {sources members : List (Member DataType)}
    (each : ∀ m ∈ members, ∀ s, Member.find? m.name sources = some s → ∀ prior,
      convert s.type m.type (Bytes.slice element s.offset s.size) prior =
        convert s.type m.type (Bytes.slice element' s.offset s.size) prior) (prior : Bytes) :
    convertMembers sources members element prior = convertMembers sources members element' prior := by
  induction members generalizing prior with
  | nil => rfl
  | cons m members ih =>
    have later := ih fun m hm => each m (List.mem_cons_of_mem _ hm)
    have first := each m List.mem_cons_self
    obtain ⟨name, offset, t⟩ := m
    rw [convertMembers, convertMembers]
    cases found : Member.find? name sources with
    | none => exact later prior
    | some s =>
      simp only [first s found]
      exact later _

/-- Elements that agree where they are named convert alike. -/
theorem convert_congr (ht : target.WellFormed) (hs : source.WellFormed)
    (covered : Background.of source target ≠ .filled) (he : element.length = source.size)
    (he' : element'.length = source.size)
    (agree : ∀ i, Named source target i → element[i]? = element'[i]?) (prior : Bytes) :
    convert source target element prior = convert source target element' prior := by
  induction ht generalizing source element element' prior with
  | @compound members size laidOut wellFormed ih =>
    by_cases same : source = .compound members size
    · subst same
      have equal : element = element' := Bytes.ext_of_length (he.trans he'.symm) fun i hi =>
        agree i (named_self hs rfl covered (by rwa [← he]))
      rw [equal]
    · obtain ⟨-, sourced⟩ := members_of_background covered
      rw [convert, if_neg same, convert, if_neg same]
      refine convertMembers_congr (fun m mem s found prior => ?_) prior
      obtain ⟨s', found', covered⟩ := sourced m mem
      cases found.symm.trans found'
      obtain ⟨hwf, -, stop⟩ := hs.member (Member.mem_of_find? found).1
      refine ih m mem hwf covered (Bytes.length_slice _ _ _ (by rw [he]; exact stop))
        (Bytes.length_slice _ _ _ (by rw [he']; exact stop)) (fun i named => ?_) prior
      rw [Bytes.getElem?_slice, Bytes.getElem?_slice]
      split
      · rename_i inside
        refine agree _ (.member mem found ⟨Nat.le_add_right _ _, Nat.add_lt_add_left inside _⟩ ?_)
        rwa [Nat.add_sub_cancel_left]
      · rfl
  | numeric | string | varString | sequence | reference => rw [eq_of_whole (.inr rfl) he he' agree]

end Conversion

end ArrayTransfer
