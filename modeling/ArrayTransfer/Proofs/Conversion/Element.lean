import ArrayTransfer.Conversion.Element
import ArrayTransfer.Conversion.Plan
import ArrayTransfer.Proofs.Bytes.Edit
import ArrayTransfer.Proofs.DataType.Layout

/-! One converted element. A compound is built by changing the windows of the members that have a source
    (`convert_compound`), so that what holds of the members holds of the whole: the element keeps its length
    (`length_convert`), and building it twice is building it the second time (`convert_convert`). Unless the plan asks for
    the elements before, the members take all bytes of a compound and have sources (`members_of_background`). -/

namespace ArrayTransfer.Conversion
variable {source target : DataType} {element element' prior prior' : Bytes}

/-! ### Members -/

/-- The members that have a source, each with it. -/
def matched (sources members : List (Member DataType)) : List (Member DataType × Member DataType) :=
  members.filterMap fun m => (Member.find? m.name sources).map fun s => (s, m)

/-- The change that converts a member from its source in the element. -/
def memberEdit (element : Bytes) (pair : Member DataType × Member DataType) : Edit :=
  ⟨pair.2.offset, pair.2.size,
    convert pair.1.type pair.2.type (Bytes.slice element pair.1.offset pair.1.size)⟩

theorem mem_matched {sources members : List (Member DataType)} {s m : Member DataType} :
    (s, m) ∈ matched sources members ↔ m ∈ members ∧ Member.find? m.name sources = some s := by
  simp only [matched, List.mem_filterMap, Option.map_eq_some_iff, Prod.mk.injEq]
  constructor
  · rintro ⟨m', hm, s', hs, rfl, rfl⟩
    exact ⟨hm, hs⟩
  · rintro ⟨hm, hs⟩
    exact ⟨m, hm, s, hs, rfl, rfl⟩

theorem convertMembers_eq (sources members : List (Member DataType)) (element prior : Bytes) :
    convertMembers sources members element prior =
      Edit.run ((matched sources members).map (memberEdit element)) prior := by
  induction members generalizing prior with
  | nil => rfl
  | cons m members ih =>
    obtain ⟨name, offset, t⟩ := m
    rw [convertMembers]
    cases hs : Member.find? name sources with
    | none =>
      simp only [ih, matched, List.filterMap_cons, hs, Option.map_none]
    | some s =>
      simp only [ih, matched, List.filterMap_cons, hs, Option.map_some, List.map_cons, Edit.run_cons]
      rfl

/-- A compound of another type is built by the changes of its matched members. -/
theorem convert_compound {members : List (Member DataType)} {size : Nat} (hne : source ≠ .compound members size) :
    convert source (.compound members size) element prior =
      Edit.run ((matched source.members members).map (memberEdit element)) prior := by
  rw [convert, if_neg hne, convertMembers_eq]

theorem convert_self (t : DataType) (element prior : Bytes) : convert t t element prior = element := by
  cases t <;> simp [convert]

/-- The changes of matched members fit the compound if converting them keeps their lengths. -/
theorem fit_memberEdits {members : List (Member DataType)} {size : Nat} (hs : source.WellFormed)
    (hl : Member.LaidOut members size) (he : element.length = source.size)
    (keeps : ∀ m ∈ members, ∀ {s : DataType}, s.WellFormed → ∀ {e w : Bytes}, e.length = s.size →
      w.length = m.type.size → (convert s m.type e w).length = m.type.size) :
    Edit.Fit size ((matched source.members members).map (memberEdit element)) := by
  refine ⟨?_, ?_, ?_⟩
  · rw [List.forall_mem_map]
    rintro ⟨s, m⟩ hm
    exact hl.bound m (mem_matched.mp hm).1
  · rw [List.forall_mem_map]
    rintro ⟨s, m⟩ hm w hw
    obtain ⟨hm, hf⟩ := mem_matched.mp hm
    obtain ⟨hwf, -, hstop⟩ := hs.member (Member.mem_of_find? hf).1
    exact keeps m hm hwf (Bytes.length_slice _ _ _ (by rw [he]; exact hstop)) hw
  · refine List.pairwise_map.mpr (List.pairwise_filterMap.mpr (hl.apart.imp ?_))
    intro m n hmn p hp q hq
    obtain ⟨s, -, rfl⟩ := Option.map_eq_some_iff.mp hp
    obtain ⟨r, -, rfl⟩ := Option.map_eq_some_iff.mp hq
    exact hmn

/-! ### Lengths -/

theorem convertNumber_eq {kind kind' : Numeric} (he : element.length = kind.size) (hp : prior.length = kind'.size)
    (hp' : prior'.length = kind'.size) :
    convertNumber kind kind' element prior = convertNumber kind kind' element prior' := by
  simp only [convertNumber, NumericValue.read, he, NumericValue.write, hp, hp', ne_eq, not_true_eq_false, ↓reduceIte]
  cases kind <;> rfl

theorem length_convertNumber {kind kind' : Numeric} (hp : prior.length = kind'.size) :
    (convertNumber kind kind' element prior).length = kind'.size := by
  unfold convertNumber
  split
  · simp [NumericValue.write, hp, NumericValue.encode]
  · exact hp

theorem length_convert (ht : target.WellFormed) (hs : source.WellFormed) (he : element.length = source.size)
    (hp : prior.length = target.size) : (convert source target element prior).length = target.size := by
  by_cases heq : source = target
  · rw [heq, convert_self, he, heq]
  induction ht generalizing source element prior with
  | numeric kind =>
    cases source with
    | numeric kind' =>
      simp only [convert]
      rw [if_neg fun h => heq (by rw [h])]
      exact length_convertNumber hp
    | _ => exact hp
  | string size =>
    cases source with
    | string size' =>
      simp only [convert]
      rw [if_neg fun h => heq (by rw [h]), convertString, Bytes.length_fit, hp]
    | _ => exact hp
  | @compound members size hl hm ih =>
    rw [convert_compound heq]
    have keeps : ∀ m ∈ members, ∀ {s : DataType}, s.WellFormed → ∀ {e w : Bytes}, e.length = s.size →
        w.length = m.type.size → (convert s m.type e w).length = m.type.size := by
      intro m hm s hs e w he hw
      by_cases hsm : s = m.type
      · rw [hsm, convert_self, he, hsm]
      · exact ih m hm hs he hw hsm
    have fit := fit_memberEdits hs hl he keeps
    have hp : prior.length = size := hp
    rw [Edit.length_run (hp.symm ▸ fit)]
    exact hp
  | varString => rw [convert, if_neg heq]; exact hp
  | sequence _ _ => rw [convert, if_neg heq]; exact hp
  | reference => rw [convert, if_neg heq]; exact hp

theorem fit_matched {members : List (Member DataType)} {size : Nat} (hs : source.WellFormed)
    (ht : (DataType.compound members size).WellFormed) (he : element.length = source.size) :
    Edit.Fit size ((matched source.members members).map (memberEdit element)) := by
  obtain ⟨hl, hm⟩ : Member.LaidOut members size ∧ ∀ m ∈ members, m.type.WellFormed := by
    cases ht with
    | compound hl hm => exact ⟨hl, hm⟩
  exact fit_memberEdits hs hl he fun m hmem _ hs _ _ he hw => length_convert (hm m hmem) hs he hw

/-! ### What is left of the elements before -/

/-- Where an element is converted twice, the first one leaves nothing. -/
theorem convert_convert (ht : target.WellFormed) (hs : source.WellFormed) (he : element.length = source.size)
    (he' : element'.length = source.size) (hp : prior.length = target.size) :
    convert source target element (convert source target element' prior) = convert source target element prior := by
  by_cases heq : source = target
  · rw [heq, convert_self, convert_self]
  have whole := length_convert ht hs he' hp
  induction ht generalizing source element element' prior with
  | numeric kind =>
    cases source with
    | numeric kind' =>
      simp only [convert] at whole ⊢
      rw [if_neg fun h => heq (by rw [h])] at whole ⊢
      rw [if_neg fun h => heq (by rw [h]), if_neg fun h => heq (by rw [h])]
      exact convertNumber_eq he whole hp
    | _ => rfl
  | string size =>
    cases source with
    | string size' =>
      simp only [convert] at whole ⊢
      rw [if_neg fun h => heq (by rw [h])] at whole ⊢
      rw [if_neg fun h => heq (by rw [h]), if_neg fun h => heq (by rw [h]), convertString, whole, convertString, hp]
    | _ => rfl
  | @compound members size hl hm ih =>
    rw [convert_compound heq] at whole ⊢
    rw [convert_compound heq, convert_compound heq]
    have hp : prior.length = size := hp
    have whole : _ = size := whole
    have ht := DataType.WellFormed.compound hl hm
    have fit := hp.symm ▸ fit_matched hs ht he
    have fit' := hp.symm ▸ fit_matched hs ht he'
    refine Edit.eq_run fit ?_ ?_ ?_
    · rw [Edit.length_run (by rw [whole]; exact fit_matched hs ht he), whole, hp]
    · rw [List.forall_mem_map]
      rintro ⟨s, m⟩ hpair
      obtain ⟨hmem, hf⟩ := mem_matched.mp hpair
      obtain ⟨hwf, -, hstop⟩ := hs.member (Member.mem_of_find? hf).1
      have first := Edit.slice_run fit' (List.mem_map_of_mem hpair)
      rw [Edit.slice_run (by rw [whole]; exact fit_matched hs ht he) (List.mem_map_of_mem hpair)]
      simp only [memberEdit] at first ⊢
      rw [first]
      have hes := Bytes.length_slice element s.offset s.size (by rw [he]; exact hstop)
      have hes' := Bytes.length_slice element' s.offset s.size (by rw [he']; exact hstop)
      have hw := hl.length_slice hmem hp
      by_cases hsm : s.type = m.type
      · rw [hsm, convert_self, convert_self]
      · exact ih m hmem hwf hes hes' hw hsm (length_convert (hm m hmem) hwf hes' hw)
    · intro i hi
      rw [Edit.getElem?_run (by rw [whole]; exact fit_matched hs ht he) hi]
      refine Edit.getElem?_run fit' ?_
      rw [List.forall_mem_map] at hi ⊢
      exact hi
  | varString => simp only [convert, if_neg heq]
  | sequence _ _ => simp only [convert, if_neg heq]
  | reference => simp only [convert, if_neg heq]

/-! ### What the plan asks for -/

theorem ofMembers_iff {sources members : List (Member DataType)} : Background.ofMembers sources members = true ↔
    ∀ m ∈ members, ∃ s, Member.find? m.name sources = some s ∧ Background.of s.type m.type ≠ .filled := by
  induction members with
  | nil => simp [Background.ofMembers]
  | cons m members ih =>
    rw [Background.ofMembers, Bool.and_eq_true, List.forall_mem_cons, ih]
    refine and_congr_left fun _ => ?_
    cases Member.find? m.name sources <;> simp

/-- The background of a compound need not hold the elements before if its members take all bytes, and each has a source
    for which the same is true. -/
theorem compound_background_iff {sources members : List (Member DataType)} {n size : Nat} :
    Background.of (.compound sources n) (.compound members size) ≠ .filled ↔ Member.sizeUsed members = size ∧
      ∀ m ∈ members, ∃ s, Member.find? m.name sources = some s ∧ Background.of s.type m.type ≠ .filled := by
  rw [← ofMembers_iff, Background.of]
  split
  · rename_i h
    rw [Bool.and_eq_true, beq_iff_eq] at h
    simp [h]
  · rename_i h
    rw [Bool.and_eq_true, beq_iff_eq, and_comm] at h
    simp [h]

/-- Members of a compound whose background need not hold the elements before: they take all of its bytes, and each has
    a source for which the same is true. -/
theorem members_of_background {members : List (Member DataType)} {size : Nat}
    (hb : Background.of source (.compound members size) ≠ .filled) : Member.sizeUsed members = size ∧
      ∀ m ∈ members, ∃ s, Member.find? m.name source.members = some s ∧ Background.of s.type m.type ≠ .filled := by
  cases source with
  | compound sources _ => exact compound_background_iff.mp hb
  | _ => exact absurd rfl hb

end ArrayTransfer.Conversion
