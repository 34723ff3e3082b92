import ArrayTransfer.Proofs.DataType.Admission
import ArrayTransfer.Proofs.DataType.Declared

/-! What descriptors describe. A descriptor describes a type if all its parts are valid, in whatever byte orders its
    numbers are declared (`Descriptor.Describes`). A type is resolved from what describes it if all the numbers are of
    one byte order, and it is refused for them alone if two are not (`Descriptor.resolve_of_describes`); nothing else is
    resolved (`Descriptor.describes_of_resolve`). -/

namespace ArrayTransfer

namespace DataType

mutual
/-- The numbers in a type in the order of their declaration, also those of which it holds a sequence. -/
def numbers : DataType → List Numeric
  | numeric kind => [kind]
  | compound members _ => memberNumbers members
  | string _ => []
  | varString => []
  | sequence base => base.numbers
  | reference => []
termination_by structural t => t
def memberNumbers : List (Member DataType) → List Numeric
  | [] => []
  | ⟨_, _, t⟩ :: rest => t.numbers ++ memberNumbers rest
termination_by structural members => members
end

theorem memberNumbers_eq (members : List (Member DataType)) :
    memberNumbers members = (members.map Member.declared).flatMap fun item => item.2.numbers := by
  induction members with
  | nil => rfl
  | cons m members ih => rw [memberNumbers, ih, List.map_cons, List.flatMap_cons]; rfl

end DataType

/-! ### Descriptors -/

namespace Descriptor

mutual
/-- The descriptor describes the type: the predefined names in it are known and of the class that is asked for, the
    lengths of strings are lengths, and the fields of compounds have names of their own and fixed sizes. -/
inductive Describes : Descriptor → DataType → Prop where
  | number (kind : Numeric) (order : ByteOrder) : Describes (.predefined (kind.declaredIn order)) (.numeric kind)
  | object : Describes (.predefined "H5T_STD_REF_OBJ") .reference
  | integer {kind : Numeric} (order : ByteOrder) (integer : kind.isInteger = true) :
      Describes (.integer (kind.declaredIn order)) (.numeric kind)
  | float {kind : Numeric} (order : ByteOrder) (float : kind.isInteger = false) :
      Describes (.float (kind.declaredIn order)) (.numeric kind)
  | reference : Describes (.reference "H5T_STD_REF_OBJ") .reference
  | string (bytes : UInt64) : Describes (.string (.fixed bytes)) (.string bytes.toNat)
  | varString : Describes (.string (.word "H5T_VARIABLE")) .varString
  | sequence {base : Descriptor} {t : DataType} (described : Describes base t) :
      Describes (.sequence base) (.sequence t)
  | compound {fields : List (String × Descriptor)} {members : List (Member DataType)}
      (described : FieldsDescribe fields (members.map Member.declared))
      (packable : Member.Packable (members.map Member.declared)) (sequence : Member.InSequence 0 members) :
      Describes (.compound fields) (.compound members (Member.sizeUsed members))
/-- The compound fields describe the named types one by one. -/
inductive FieldsDescribe : List (String × Descriptor) → List (String × DataType) → Prop where
  | nil : FieldsDescribe [] []
  | cons {name : String} {d : Descriptor} {t : DataType} {rest : List (String × Descriptor)}
      {named : List (String × DataType)} (described : Describes d t) (others : FieldsDescribe rest named) :
      FieldsDescribe ((name, d) :: rest) ((name, t) :: named)
end

mutual
/-- The predefined names of the numbers in a descriptor in the order of their declaration. -/
def numberNames : Descriptor → List String
  | predefined name => if name = "H5T_STD_REF_OBJ" then [] else [name]
  | integer base => [base]
  | float base => [base]
  | compound fields => fieldNumberNames fields
  | string _ => []
  | sequence base => base.numberNames
  | reference _ => []
termination_by structural d => d
def fieldNumberNames : List (String × Descriptor) → List String
  | [] => []
  | (_, d) :: rest => d.numberNames ++ fieldNumberNames rest
termination_by structural fields => fields
end

/-- The first descriptor is the second one or a part of it. -/
inductive Part : Descriptor → Descriptor → Prop where
  | self (d : Descriptor) : Part d d
  | base {c base : Descriptor} (part : Part c base) : Part c (.sequence base)
  | field {c d : Descriptor} {name : String} {fields : List (String × Descriptor)} (mem : (name, d) ∈ fields)
      (part : Part c d) : Part c (.compound fields)

/-! ### What is resolved is described -/

theorem resolveBase_eq_ok_iff {tag : DescriptorTag} {cls : DataClass} {base : String} {t : DataType}
    {order : Option ByteOrder} :
    resolveBase tag cls base = .ok (t, order) ↔ resolvePredefined base = .ok (t, order) ∧ t.dataClass = cls := by
  unfold resolveBase
  constructor
  · intro h
    split at h
    · cases h
    · rename_i resolved
      split at h
      · rename_i classed
        cases h
        exact ⟨resolved, classed⟩
      · cases h
  · rintro ⟨resolved, classed⟩
    simp only [resolved, classed, ↓reduceIte]

mutual
theorem describes_of_resolve : ∀ (d : Descriptor) {t : DataType} {order : Option ByteOrder},
    d.resolve = .ok (t, order) → d.Describes t
  | predefined _, _, _, h => by
    obtain ⟨rfl, rfl, -⟩ | ⟨kind, e, rfl, rfl, -⟩ := resolvePredefined_eq_ok_iff.mp h
    · exact .object
    · exact .number kind e
  | integer _, _, _, h => by
    obtain ⟨resolved, classed⟩ := resolveBase_eq_ok_iff.mp h
    obtain ⟨-, rfl, -⟩ | ⟨kind, e, rfl, rfl, -⟩ := resolvePredefined_eq_ok_iff.mp resolved
    · cases classed
    · refine .integer e ?_
      by_contra float
      simp [DataType.dataClass, float] at classed
  | float _, _, _, h => by
    obtain ⟨resolved, classed⟩ := resolveBase_eq_ok_iff.mp h
    obtain ⟨-, rfl, -⟩ | ⟨kind, e, rfl, rfl, -⟩ := resolvePredefined_eq_ok_iff.mp resolved
    · cases classed
    · refine .float e ?_
      by_contra integer
      simp [DataType.dataClass, integer] at classed
  | reference _, _, _, h => by
    obtain ⟨resolved, classed⟩ := resolveBase_eq_ok_iff.mp h
    obtain ⟨rfl, rfl, -⟩ | ⟨kind, e, rfl, rfl, -⟩ := resolvePredefined_eq_ok_iff.mp resolved
    · exact .reference
    · cases integer : kind.isInteger <;> simp [DataType.dataClass, integer] at classed
  | string (.fixed bytes), _, _, h => by
    cases h
    exact .string bytes
  | string (.word _), _, _, h => by
    rw [resolve] at h
    split at h
    · rename_i word
      cases h
      exact word ▸ .varString
    · cases h
  | sequence base, _, _, h => by
    rw [resolve] at h
    split at h
    · cases h
    · rename_i resolved
      cases h
      exact .sequence (describes_of_resolve base resolved)
  | compound fields, _, _, h => by
    rw [resolve] at h
    split at h
    · cases h
    · rename_i resolved
      split at h
      · cases h
      · rename_i made
        cases h
        obtain ⟨packable, members, rfl, sequence, rfl⟩ := DataType.packed?_eq_ok_iff.mp made
        exact .compound (describe_of_resolveFields fields resolved) packable sequence
termination_by structural d => d
theorem describe_of_resolveFields : ∀ (fields : List (String × Descriptor)) {before after : Option ByteOrder}
    {named : List (String × DataType)}, resolveFields before fields = .ok (named, after) → FieldsDescribe fields named
  | [], _, _, _, h => by
    cases h
    exact .nil
  | (_, d) :: rest, _, _, _, h => by
    rw [resolveFields] at h
    split at h
    · cases h
    · rename_i first
      split at h
      · cases h
      · split at h
        · cases h
        · rename_i others
          cases h
          exact .cons (describes_of_resolve d first) (describe_of_resolveFields rest others)
termination_by structural fields => fields
end

/-! ### What is described is resolved -/

/-- What is resolved where all parts are valid: `a` with the byte order of its numbers, or nothing as two of them are
    declared in different orders. -/
def Resolved {α : Type} (result : Except DescriptorError (α × Option ByteOrder)) (a : α) (kinds : List Numeric)
    (names : List String) : Prop :=
  (∃ order, result = .ok (a, order) ∧ DeclaredIn order kinds names) ∨
    (result = .error .mixedByteOrder ∧ MixedOrders names)

theorem resolved_number (kind : Numeric) (order : ByteOrder) :
    resolvePredefined (kind.declaredIn order) = .ok (.numeric kind, some order) :=
  resolvePredefined_eq_ok_iff.mpr (.inr ⟨kind, order, rfl, rfl, rfl⟩)

mutual
theorem resolve_of_describes : ∀ (d : Descriptor) {t : DataType},
    d.Describes t → Resolved d.resolve t t.numbers d.numberNames
  | predefined _, _, h => by
    cases h with
    | number kind order =>
      refine .inl ⟨some order, resolved_number kind order, ?_⟩
      rw [numberNames, if_neg (declaredIn_ne_reference kind order)]
      exact .single kind order
    | object => exact .inl ⟨none, rfl, .empty⟩
  | integer _, _, h => by
    cases h with
    | @integer kind order integer =>
      have classed : (DataType.numeric kind).dataClass = .integer := by simp [DataType.dataClass, integer]
      exact .inl ⟨some order, resolveBase_eq_ok_iff.mpr ⟨resolved_number kind order, classed⟩, .single kind order⟩
  | float _, _, h => by
    cases h with
    | @float kind order float =>
      have classed : (DataType.numeric kind).dataClass = .float := by simp [DataType.dataClass, float]
      exact .inl ⟨some order, resolveBase_eq_ok_iff.mpr ⟨resolved_number kind order, classed⟩, .single kind order⟩
  | reference _, _, h => by
    cases h
    exact .inl ⟨none, rfl, .empty⟩
  | string _, _, h => by
    cases h <;> exact .inl ⟨none, rfl, .empty⟩
  | sequence base, _, h => by
    cases h with
    | sequence described =>
      rw [resolve]
      rcases resolve_of_describes base described with ⟨order, resolved, declared⟩ | ⟨refused, mixed⟩
      · exact .inl ⟨order, by rw [resolved], declared⟩
      · exact .inr ⟨by rw [refused], mixed⟩
  | compound fields, _, h => by
    cases h with
    | compound described packable sequence =>
      have made := DataType.packed?_eq_ok_iff.mpr ⟨packable, _, rfl, sequence, rfl⟩
      rw [resolve, DataType.numbers, DataType.memberNumbers_eq, numberNames]
      rcases resolveFields_of_describe fields described .empty with ⟨order, resolved, declared⟩ | ⟨refused, mixed⟩
      · exact .inl ⟨order, by simp only [resolved, made], declared⟩
      · exact .inr ⟨by rw [refused], mixed⟩
termination_by structural d => d
theorem resolveFields_of_describe : ∀ (fields : List (String × Descriptor)) {named : List (String × DataType)},
    FieldsDescribe fields named → ∀ {before : Option ByteOrder} {kinds : List Numeric} {names : List String},
      DeclaredIn before kinds names → Resolved (resolveFields before fields) named
        (kinds ++ named.flatMap fun item => item.2.numbers) (names ++ fieldNumberNames fields)
  | [], _, h, _, _, _, declared => by
    cases h
    exact .inl ⟨_, rfl, by simpa [fieldNumberNames] using declared⟩
  | (_, d) :: rest, _, h, _, _, _, declared => by
    cases h with
    | cons described others =>
      rw [resolveFields, List.flatMap_cons, fieldNumberNames, ← List.append_assoc, ← List.append_assoc]
      rcases resolve_of_describes d described with ⟨own, resolved, ownDeclared⟩ | ⟨refused, mixed⟩
      · rcases declared.join ownDeclared with ⟨order, joined, declared⟩ | ⟨apart, mixed⟩
        · rcases resolveFields_of_describe rest others declared with ⟨after, behind, declared⟩ | ⟨refused, mixed⟩
          · exact .inl ⟨after, by simp only [resolved, joined, behind], declared⟩
          · exact .inr ⟨by simp only [resolved, joined, refused], mixed⟩
        · exact .inr ⟨by simp only [resolved, apart], mixed.mono (List.subset_append_left ..)⟩
      · refine .inr ⟨by rw [refused], mixed.mono ?_⟩
        exact List.Subset.trans (List.subset_append_right ..) (List.subset_append_left ..)
termination_by structural fields => fields
end

/-! ### Types that are described -/

mutual
/-- What is described is well formed, and its compounds have their members in sequence. -/
theorem consecutive_of_describes : ∀ (d : Descriptor) {t : DataType}, d.Describes t → t.WellFormed ∧ t.Consecutive
  | predefined _, _, h => by cases h with
    | number kind _ => exact ⟨.numeric kind, .numeric kind⟩
    | object => exact ⟨.reference, .reference⟩
  | integer _, _, h => by cases h with
    | @integer kind _ _ => exact ⟨.numeric kind, .numeric kind⟩
  | float _, _, h => by cases h with
    | @float kind _ _ => exact ⟨.numeric kind, .numeric kind⟩
  | reference _, _, h => by cases h with
    | reference => exact ⟨.reference, .reference⟩
  | string _, _, h => by cases h with
    | string bytes => exact ⟨.string _, .string _⟩
    | varString => exact ⟨.varString, .varString⟩
  | sequence base, _, h => by cases h with
    | sequence described =>
      obtain ⟨wellFormed, consecutive⟩ := consecutive_of_describes base described
      exact ⟨.sequence wellFormed, .sequence consecutive⟩
  | compound fields, _, h => by cases h with
    | @compound _ members described packable sequence =>
      have each := List.forall_mem_map.mp (consecutive_of_describe fields described)
      refine ⟨.compound (sequence.laidOut_iff.mpr packable) fun m hm => (each m hm).1, ?_⟩
      refine .compound ?_ rfl fun m hm => (each m hm).2
      rintro before m after rfl
      rw [sequence.offset_eq, Nat.zero_add]
termination_by structural d => d
theorem consecutive_of_describe : ∀ (fields : List (String × Descriptor)) {named : List (String × DataType)},
    FieldsDescribe fields named → ∀ item ∈ named, item.2.WellFormed ∧ item.2.Consecutive
  | [], _, h => by
    cases h
    exact List.forall_mem_nil _
  | (_, d) :: rest, _, h => by cases h with
    | cons described others =>
      exact List.forall_mem_cons.mpr ⟨consecutive_of_describes d described, consecutive_of_describe rest others⟩
termination_by structural fields => fields
end

/-- A type that is read from a descriptor is well formed and packed. -/
theorem packed_of_parseType {v : Json} {t : DataType} {order : ByteOrder} (h : parseType v = .ok (t, order)) :
    t.WellFormed ∧ t.Packed := by
  unfold parseType at h
  split at h
  · cases h
  · rename_i d _
    split at h
    · cases h
    · rename_i resolved
      cases h
      obtain ⟨wellFormed, consecutive⟩ := consecutive_of_describes d (describes_of_resolve d resolved)
      exact ⟨wellFormed, consecutive.packed wellFormed⟩

/-! ### Numbers under one compound -/

theorem numberNames_subset_fields {name : String} {d : Descriptor} {fields : List (String × Descriptor)}
    (mem : (name, d) ∈ fields) : d.numberNames ⊆ fieldNumberNames fields := by
  induction fields with
  | nil => cases mem
  | cons f rest ih =>
    rw [fieldNumberNames]
    rcases List.mem_cons.mp mem with rfl | mem
    · exact List.subset_append_left ..
    · exact List.Subset.trans (ih mem) (List.subset_append_right ..)

theorem numberNames_subset {c d : Descriptor} (h : Part c d) : c.numberNames ⊆ d.numberNames := by
  induction h with
  | self => exact List.Subset.refl _
  | base _ ih => exact ih
  | field mem _ ih => exact List.Subset.trans ih (numberNames_subset_fields mem)

theorem exists_compound_of_mixed : ∀ d : Descriptor, MixedOrders d.numberNames →
    ∃ fields, Part (.compound fields) d ∧ MixedOrders (fieldNumberNames fields)
  | predefined name, mixed => by
    rw [numberNames] at mixed
    split at mixed
    · exact absurd mixed MixedOrders.not_nil
    · exact absurd mixed (MixedOrders.not_single name)
  | integer base, mixed => absurd mixed (MixedOrders.not_single base)
  | float base, mixed => absurd mixed (MixedOrders.not_single base)
  | compound fields, mixed => ⟨fields, .self _, mixed⟩
  | string _, mixed => absurd mixed MixedOrders.not_nil
  | sequence base, mixed => by
    obtain ⟨fields, part, mixed⟩ := exists_compound_of_mixed base mixed
    exact ⟨fields, .base part, mixed⟩
  | reference _, mixed => absurd mixed MixedOrders.not_nil
termination_by structural d => d

/-- Two numbers of different byte orders are numbers of one compound. -/
theorem mixed_iff {d : Descriptor} : MixedOrders d.numberNames ↔
    ∃ fields, Part (.compound fields) d ∧ MixedOrders (fieldNumberNames fields) := by
  constructor
  · exact exists_compound_of_mixed d
  · rintro ⟨fields, part, mixed⟩
    exact mixed.mono (numberNames_subset part)

/-- A type that is resolved is described by the descriptor, its compounds have their members in sequence at every depth,
    and its byte order is that in which each of its numbers is declared, or none if it has no number. Where a descriptor
    describes a type, it is refused for mixed byte orders exactly if two numbers under one compound are declared in
    different orders, and resolved otherwise. -/
theorem resolved_exactly (d : Descriptor) :
    (∀ t order, d.resolve = .ok (t, order) → d.Describes t ∧ t.Consecutive ∧ (order = none ↔ t.numbers = []) ∧
      ∀ e, order = some e → d.numberNames = t.numbers.map (·.declaredIn e)) ∧
    ∀ t, d.Describes t →
      (d.resolve = .error .mixedByteOrder ↔
        ∃ fields, Part (.compound fields) d ∧ MixedOrders (fieldNumberNames fields)) ∧
      ((∃ order, d.resolve = .ok (t, order)) ↔
        ¬∃ fields, Part (.compound fields) d ∧ MixedOrders (fieldNumberNames fields)) := by
  constructor
  · intro t order resolved
    have described := describes_of_resolve d resolved
    refine ⟨described, (consecutive_of_describes d described).2, ?_⟩
    rcases resolve_of_describes d described with ⟨order', resolved', declared⟩ | ⟨refused, -⟩
    · rw [resolved] at resolved'
      cases resolved'
      refine ⟨declared.eq_none_iff, ?_⟩
      rintro e rfl
      exact declared.names_eq
    · rw [resolved] at refused
      cases refused
  · intro t described
    rw [← mixed_iff]
    rcases resolve_of_describes d described with ⟨order, resolved, declared⟩ | ⟨refused, mixed⟩
    · simp [resolved, declared.not_mixed]
    · simp [refused, mixed]

/-- Numbers of two bytes each, in a compound in a sequence of compounds, with a label without a byte order. -/
def labelledPoints : Descriptor :=
  .sequence (.compound [("label", .string (.fixed 6)),
    ("point", .compound [("x", .integer "H5T_STD_I16BE"), ("y", .predefined "H5T_STD_U16BE")])])

/-- A number, and another one with a label in a compound behind it. -/
def taggedPair (first second : ByteOrder) : Descriptor :=
  .compound [("x", .integer (Numeric.declaredIn (.signed .w16) first)),
    ("tagged", .compound [("tag", .string (.fixed 6)), ("y", .float (Numeric.declaredIn .float32 second))])]

/-- The type of a tagged pair. -/
def taggedNumbers : DataType :=
  .compound [⟨"x", 0, .numeric (.signed .w16)⟩,
    ⟨"tagged", 2, .compound [⟨"tag", 0, .string 6⟩, ⟨"y", 6, .numeric .float32⟩] 10⟩] 12

theorem describes_taggedPair (first second : ByteOrder) : (taggedPair first second).Describes taggedNumbers := by
  refine .compound (.cons (.integer first rfl) (.cons (.compound ?_ ?_ ⟨rfl, rfl, trivial⟩) .nil)) ?_ ⟨rfl, rfl, trivial⟩
  · exact .cons (.string 6) (.cons (.float second rfl) .nil)
  all_goals exact ⟨List.cons_ne_nil _ _, by decide, by decide⟩

theorem resolved_exactly_labelledPoints :
    (∃ t, labelledPoints.resolve = .ok (t, some .big) ∧ t.Consecutive ∧
      labelledPoints.numberNames = t.numbers.map (·.declaredIn .big)) ∧
    (taggedPair .little .big).resolve = .error .mixedByteOrder := by
  constructor
  · have resolved : ∃ t, labelledPoints.resolve = .ok (t, some .big) := ⟨_, rfl⟩
    obtain ⟨t, resolved⟩ := resolved
    obtain ⟨-, consecutive, -, names⟩ := (resolved_exactly labelledPoints).1 t _ resolved
    exact ⟨t, resolved, consecutive, names _ rfl⟩
  · obtain ⟨refused, -⟩ := (resolved_exactly (taggedPair .little .big)).2 _ (describes_taggedPair .little .big)
    refine refused.mpr ⟨_, .self _, .signed .w16, .float32, ?_, ?_⟩
    · exact List.mem_cons_self
    · exact List.mem_cons_of_mem _ List.mem_cons_self

end Descriptor

end ArrayTransfer