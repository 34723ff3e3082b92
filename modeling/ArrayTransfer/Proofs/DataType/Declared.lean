import ArrayTransfer.DataType.Descriptor

/-! Numbers as descriptors declare them, by predefined names that end in a byte order. A name declares at most one number
    in one byte order (`Descriptor.resolvePredefined_eq_ok_iff`), and where two lists of numbers are declared each in one
    byte order, `Descriptor.joinOrder?` tells that of both, or that there are two (`DeclaredIn.join`). -/

namespace ArrayTransfer

/-! ### Names of numbers -/

/-- The end of a predefined name that tells the byte order. -/
def ByteOrder.suffix : ByteOrder → String
  | little => "LE"
  | big => "BE"

namespace Numeric

/-- The predefined name of a number, before its byte order. -/
def stem : Numeric → String
  | signed .w8 => "H5T_STD_I8"
  | signed .w16 => "H5T_STD_I16"
  | signed .w32 => "H5T_STD_I32"
  | signed .w64 => "H5T_STD_I64"
  | unsigned .w8 => "H5T_STD_U8"
  | unsigned .w16 => "H5T_STD_U16"
  | unsigned .w32 => "H5T_STD_U32"
  | unsigned .w64 => "H5T_STD_U64"
  | float32 => "H5T_IEEE_F32"
  | float64 => "H5T_IEEE_F64"

/-- The name by which a number is declared in a byte order. -/
def declaredIn (kind : Numeric) (order : ByteOrder) : String := kind.stem ++ order.suffix

end Numeric

namespace Descriptor
variable {name stem : String} {kind : Numeric} {order : ByteOrder}

theorem predefinedNumeric?_eq_some_iff : predefinedNumeric? stem = some kind ↔ stem = kind.stem := by
  constructor
  · intro h
    unfold predefinedNumeric? at h
    split at h <;> cases h <;> rfl
  · rintro rfl
    cases kind with
    | signed w | unsigned w => cases w <;> rfl
    | float32 | float64 => rfl

theorem splitOrder?_eq_some_iff : splitOrder? name = some (stem, order) ↔ name = stem ++ order.suffix := by
  constructor
  · intro h
    unfold splitOrder? at h
    split at h
    case h_3 => cases h
    all_goals
      rename_i reversed
      cases h
      rw [List.reverse_eq_iff] at reversed
      apply String.toList_inj.mp
      rw [reversed]
      simp [ByteOrder.suffix]
  · rintro rfl
    cases order <;> simp [splitOrder?, ByteOrder.suffix]

theorem splitOrder?_declaredIn (kind : Numeric) (order : ByteOrder) :
    splitOrder? (kind.declaredIn order) = some (kind.stem, order) := splitOrder?_eq_some_iff.mpr rfl

theorem declaredIn_ne_reference (kind : Numeric) (order : ByteOrder) : kind.declaredIn order ≠ "H5T_STD_REF_OBJ" := by
  intro same
  have parts := splitOrder?_declaredIn kind order
  rw [same] at parts
  cases parts

theorem order_of_declaredIn {a b : Numeric} {e e' : ByteOrder} (h : a.declaredIn e = b.declaredIn e') : e = e' := by
  have parts := splitOrder?_declaredIn a e
  rw [h, splitOrder?_declaredIn] at parts
  exact (congrArg Prod.snd (Option.some.inj parts)).symm

/-- A predefined name is that of references, or declares a number. -/
theorem resolvePredefined_eq_ok_iff {t : DataType} {order : Option ByteOrder} :
    resolvePredefined name = .ok (t, order) ↔ (name = "H5T_STD_REF_OBJ" ∧ t = .reference ∧ order = none) ∨
      ∃ kind e, name = Numeric.declaredIn kind e ∧ t = .numeric kind ∧ order = some e := by
  unfold resolvePredefined
  constructor
  · intro h
    split at h
    · rename_i reference
      cases h
      exact .inl ⟨reference, rfl, rfl⟩
    · split at h
      · cases h
      · rename_i stem e parts
        split at h
        · rename_i kind known
          cases h
          obtain rfl := predefinedNumeric?_eq_some_iff.mp known
          exact .inr ⟨kind, e, splitOrder?_eq_some_iff.mp parts, rfl, rfl⟩
        · cases h
  · rintro (⟨rfl, rfl, rfl⟩ | ⟨kind, e, rfl, rfl, rfl⟩)
    · rfl
    · rw [if_neg (declaredIn_ne_reference kind e)]
      simp only [splitOrder?_declaredIn, predefinedNumeric?_eq_some_iff.mpr rfl]

end Descriptor

/-! ### Byte orders of many numbers -/

/-- The names declare the numbers one by one in the byte order, and there is none if there are no numbers. -/
inductive DeclaredIn : Option ByteOrder → List Numeric → List String → Prop where
  | empty : DeclaredIn none [] []
  | all (order : ByteOrder) {kinds : List Numeric} (numbers : kinds ≠ []) :
      DeclaredIn (some order) kinds (kinds.map (·.declaredIn order))

/-- Two of the names declare numbers of different byte orders. -/
def MixedOrders (names : List String) : Prop :=
  ∃ a b : Numeric, a.declaredIn .little ∈ names ∧ b.declaredIn .big ∈ names

theorem DeclaredIn.single (kind : Numeric) (order : ByteOrder) :
    DeclaredIn (some order) [kind] [kind.declaredIn order] := .all order (List.cons_ne_nil _ _)

theorem MixedOrders.mono {names names' : List String} (h : MixedOrders names) (sub : names ⊆ names') :
    MixedOrders names' := by
  obtain ⟨a, b, ha, hb⟩ := h
  exact ⟨a, b, sub ha, sub hb⟩

theorem MixedOrders.not_nil : ¬MixedOrders [] := by
  rintro ⟨_, _, ha, -⟩
  cases ha

theorem MixedOrders.not_single (name : String) : ¬MixedOrders [name] := by
  rintro ⟨a, b, ha, hb⟩
  cases Descriptor.order_of_declaredIn ((List.mem_singleton.mp ha).trans (List.mem_singleton.mp hb).symm)

namespace DeclaredIn
variable {before own : Option ByteOrder} {kinds kinds' : List Numeric} {names names' : List String}

/-- Numbers and more numbers, each of one byte order, are of one or mixed as `Descriptor.joinOrder?` says. -/
theorem join (h : DeclaredIn before kinds names) (h' : DeclaredIn own kinds' names') :
    (∃ order, Descriptor.joinOrder? before own = some order ∧ DeclaredIn order (kinds ++ kinds') (names ++ names')) ∨
      (Descriptor.joinOrder? before own = none ∧ MixedOrders (names ++ names')) := by
  cases h with
  | empty => exact .inl ⟨own, rfl, h'⟩
  | all e some =>
    cases h' with
    | empty => exact .inl ⟨_, rfl, by simpa using DeclaredIn.all e some⟩
    | all e' some' =>
      by_cases same : e = e'
      · subst same
        refine .inl ⟨_, if_pos rfl, ?_⟩
        rw [← List.map_append]
        exact .all e fun none => some (List.append_eq_nil_iff.mp none).1
      · refine .inr ⟨if_neg same, ?_⟩
        obtain ⟨a, ha⟩ := List.exists_mem_of_ne_nil _ some
        obtain ⟨b, hb⟩ := List.exists_mem_of_ne_nil _ some'
        have first : a.declaredIn e ∈ kinds.map (·.declaredIn e) ++ kinds'.map (·.declaredIn e') :=
          List.mem_append_left _ (List.mem_map_of_mem ha)
        have second : b.declaredIn e' ∈ kinds.map (·.declaredIn e) ++ kinds'.map (·.declaredIn e') :=
          List.mem_append_right _ (List.mem_map_of_mem hb)
        cases e <;> cases e'
        · exact absurd rfl same
        · exact ⟨a, b, first, second⟩
        · exact ⟨b, a, second, first⟩
        · exact absurd rfl same

theorem not_mixed (h : DeclaredIn own kinds names) : ¬MixedOrders names := by
  rintro ⟨a, b, ha, hb⟩
  cases h with
  | empty => cases ha
  | all e _ =>
    obtain ⟨_, -, little⟩ := List.mem_map.mp ha
    obtain ⟨_, -, big⟩ := List.mem_map.mp hb
    cases (Descriptor.order_of_declaredIn little).symm.trans (Descriptor.order_of_declaredIn big)

theorem eq_none_iff (h : DeclaredIn own kinds names) : own = none ↔ kinds = [] := by
  cases h with
  | empty => exact iff_of_true rfl rfl
  | all e some => exact iff_of_false nofun some

theorem names_eq {e : ByteOrder} (h : DeclaredIn (some e) kinds names) : names = kinds.map (·.declaredIn e) := by
  cases h
  rfl

end DeclaredIn

end ArrayTransfer
