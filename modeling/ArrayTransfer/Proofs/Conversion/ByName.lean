import ArrayTransfer.Proofs.Conversion.Named
import ArrayTransfer.Proofs.Number.Value

/-! Compounds are converted by name. Each member that has a source holds the conversion of that source over its own bytes
    before, and no other byte changes (`Conversion.byName_convert`), so that the order in which members are declared does
    not matter (`Conversion.convert_perm`). Followed down to where nothing is looked up any more, every part of an element
    that meets a part of its source is written from it (`Conversion.writes_of_meet`). -/

namespace ArrayTransfer

theorem Member.find?_perm {name : String} {members members' : List (Member DataType)}
    (names : (members.map (·.name)).Nodup) (perm : members'.Perm members) : find? name members' = find? name members := by
  have names' : (members'.map (·.name)).Nodup := (perm.map _).nodup_iff.mpr names
  cases found : find? name members with
  | some m =>
    obtain ⟨mem, rfl⟩ := mem_of_find? found
    exact find?_of_mem names' (perm.mem_iff.mpr mem)
  | none =>
    cases found' : find? name members' with
    | none => rfl
    | some m =>
      obtain ⟨mem, rfl⟩ := mem_of_find? found'
      rw [find?_of_mem names (perm.mem_iff.mp mem)] at found
      cases found

theorem Edit.Fit.perm {size : Nat} {es es' : List Edit} (h : Fit size es) (perm : es'.Perm es) : Fit size es' :=
  ⟨fun e he => h.bound e (perm.mem_iff.mp he), fun e he => h.keeps e (perm.mem_iff.mp he),
    perm.symm.pairwise h.apart Or.symm⟩

/-- The order of changes of windows that lie apart does not matter. -/
theorem Edit.run_perm {es es' : List Edit} {b : Bytes} (h : Fit b.length es) (perm : es'.Perm es) :
    run es' b = run es b := by
  have h' := h.perm perm
  exact eq_run h (length_run h') (fun e he => slice_run h' (perm.mem_iff.mpr he))
    fun i hi => getElem?_run h' fun e he => hi e (perm.mem_iff.mp he)

namespace Conversion
variable {source target : DataType} {sources members : List (Member DataType)} {m n : Nat} {element prior : Bytes}

/-! ### One level -/

/-- An element is built by name over the one before: each member that has a source is converted from it over its own
    bytes before, and nothing else changes. -/
structure ByName (source target : DataType) (element prior result : Bytes) : Prop where
  length : result.length = prior.length
  member : ∀ m ∈ target.members, ∀ s, Member.find? m.name source.members = some s →
    Bytes.slice result m.offset m.size =
      convert s.type m.type (Bytes.slice element s.offset s.size) (Bytes.slice prior m.offset m.size)
  others : ∀ i, (∀ m ∈ target.members, (Member.find? m.name source.members).isSome → i < m.offset ∨ m.stop ≤ i) →
    result[i]? = prior[i]?

theorem byName_convert (hs : source.WellFormed) (ht : (DataType.compound members n).WellFormed)
    (he : element.length = source.size) (hp : prior.length = n) (ne : source ≠ .compound members n) :
    ByName source (.compound members n) element prior (convert source (.compound members n) element prior) := by
  have fit := hp ▸ fit_matched hs ht he
  rw [convert_compound ne]
  refine ⟨Edit.length_run fit, fun m mem s found => ?_, fun i out => ?_⟩
  · exact Edit.slice_run fit (List.mem_map_of_mem (mem_matched.mpr ⟨mem, found⟩))
  · refine Edit.getElem?_run fit ?_
    rw [List.forall_mem_map]
    rintro ⟨s, m⟩ pair
    obtain ⟨mem, found⟩ := mem_matched.mp pair
    exact out m mem (by rw [found]; rfl)

/-- Declaring the members in another order makes no difference, as long as it does not make the types equal or unequal. -/
theorem convert_perm {sources' members' : List (Member DataType)} (hs : (DataType.compound sources m).WellFormed)
    (ht : (DataType.compound members n).WellFormed) (he : element.length = m) (hp : prior.length = n)
    (ne : DataType.compound sources m ≠ .compound members n) (ne' : DataType.compound sources' m ≠ .compound members' n)
    (perm : sources'.Perm sources) (perm' : members'.Perm members) :
    convert (.compound sources' m) (.compound members' n) element prior =
      convert (.compound sources m) (.compound members n) element prior := by
  have found : ∀ name, Member.find? name sources' = Member.find? name sources := fun _ => Member.find?_perm hs.names perm
  have same : matched sources' members' = matched sources members' := by simp only [matched, found]
  rw [convert_compound ne, convert_compound ne']
  refine Edit.run_perm (hp ▸ fit_matched hs ht he) (List.Perm.map _ ?_)
  show (matched sources' members').Perm (matched sources members)
  rw [same]
  exact perm'.filterMap _

/-! ### All levels -/

/-- A part of an element: its first byte and its type. -/
structure Part where
  start : Nat
  type : DataType

namespace Part

/-- The first byte behind the part. -/
def stop (p : Part) : Nat := p.start + p.type.size

/-- The part as it stands in an element that its own one is a member of, from the offset on. -/
def shift (offset : Nat) (p : Part) : Part := ⟨offset + p.start, p.type⟩

def bytes (p : Part) (e : Bytes) : Bytes := Bytes.slice e p.start p.type.size

theorem bytes_shift {p : Part} {size : Nat} (inside : p.stop ≤ size) (e : Bytes) (offset : Nat) :
    (p.shift offset).bytes e = p.bytes (Bytes.slice e offset size) := (Bytes.slice_slice inside).symm

theorem bytes_whole {t : DataType} {e : Bytes} (he : e.length = t.size) : bytes ⟨0, t⟩ e = e := Bytes.slice_whole he

end Part

/-- The parts of two elements that meet: the elements as a whole, if they are of one type or have no members to look up,
    and else what meets in the members of one name. -/
inductive Meet : DataType → DataType → Part → Part → Prop where
  | whole {source target : DataType} (plain : source = target ∨ source.members = [] ∨ target.members = []) :
    Meet source target ⟨0, source⟩ ⟨0, target⟩
  | member {source target : DataType} {m s : Member DataType} {a b : Part} (ne : source ≠ target)
    (mem : m ∈ target.members) (found : Member.find? m.name source.members = some s)
    (inner : Meet s.type m.type a b) : Meet source target (a.shift s.offset) (b.shift m.offset)

/-- What a part is written as from one of another type: a copy, if the types are the same, the number that was read, or
    the string cut or padded. There is no way to leave it as it was. -/
inductive Writes : DataType → DataType → Bytes → Bytes → Prop where
  | copy (t : DataType) (b : Bytes) : Writes t t b b
  | number {k l : Numeric} {b : Bytes} {v : NumericValue} (ne : k ≠ l) (read : NumericValue.read k b = some v) :
    Writes (.numeric k) (.numeric l) b (v.encode l)
  | string {m n : Nat} (ne : m ≠ n) (b : Bytes) : Writes (.string m) (.string n) b (Bytes.fit b n)

theorem Writes.unique {b c c' : Bytes} (h : Writes source target b c) (h' : Writes source target b c') : c = c' := by
  cases h with
  | copy =>
    cases h' with
    | copy => rfl
    | number ne => exact absurd rfl ne
    | string ne => exact absurd rfl ne
  | number ne read =>
    cases h' with
    | copy => exact absurd rfl ne
    | number _ read' => rw [Option.some.inj (read.symm.trans read')]
  | string ne =>
    cases h' with
    | copy => exact absurd rfl ne
    | string => rfl

theorem Meet.bound {a b : Part} (h : Meet source target a b) (hs : source.WellFormed) (ht : target.WellFormed) :
    a.stop ≤ source.size ∧ b.stop ≤ target.size := by
  induction h with
  | whole => exact ⟨Nat.le_of_eq (Nat.zero_add _), Nat.le_of_eq (Nat.zero_add _)⟩
  | member ne mem found inner ih =>
    obtain ⟨hm, -, stop⟩ := ht.member mem
    obtain ⟨hs, -, start⟩ := hs.member (Member.mem_of_find? found).1
    obtain ⟨low, high⟩ := ih hs hm
    unfold Part.stop Part.shift Member.stop Member.size at *
    constructor <;> simp only <;> omega

/-! ### Types that convert -/

theorem convertNumber_of_read {k l : Numeric} {v : NumericValue} (read : NumericValue.read k element = some v)
    (hp : prior.length = l.size) : convertNumber k l element prior = v.encode l := by
  simp only [convertNumber, read, NumericValue.write, if_neg (not_not_intro hp), Option.getD_some]

theorem membersConvertibleFrom_iff : DataType.membersConvertibleFrom sources members = true ↔
    ∀ m ∈ members, ∀ s, Member.find? m.name sources = some s → DataType.convertibleFrom s.type m.type = true := by
  induction members with
  | nil => simp [DataType.membersConvertibleFrom]
  | cons m members ih =>
    rw [DataType.membersConvertibleFrom, Bool.and_eq_true, List.forall_mem_cons, ih]
    refine and_congr_left fun _ => ?_
    cases Member.find? m.name sources <;> simp

theorem convertibleFrom_self (t : DataType) : DataType.convertibleFrom t t = true := by
  cases t <;> simp [DataType.convertibleFrom]

section convertible
variable (hs : source.WellFormed) (ht : target.WellFormed) (hc : DataType.convertibleFrom source target = true)
  (ne : source ≠ target)
include hc ne

/-- A member converts from the source of its name. -/
theorem convertibleFrom_member {m s : Member DataType} (mem : m ∈ target.members)
    (found : Member.find? m.name source.members = some s) : DataType.convertibleFrom s.type m.type = true := by
  cases target with
  | compound members n =>
    cases source with
    | compound sources _ =>
      rw [DataType.convertibleFrom, decide_eq_false ne, Bool.false_or] at hc
      exact membersConvertibleFrom_iff.mp hc m mem s found
    | _ => cases found
  | _ => cases mem

include hs ht

/-- Two types without members to look up are both numeric or both strings. -/
theorem plain_of_convertibleFrom (plain : source.members = [] ∨ target.members = []) :
    (∃ k l, source = .numeric k ∧ target = .numeric l) ∨ ∃ m n, source = .string m ∧ target = .string n := by
  cases ht with
  | numeric l =>
    cases hs with
    | numeric k => exact .inl ⟨k, l, rfl, rfl⟩
    | _ => simp [DataType.convertibleFrom, DataType.isNumeric] at hc
  | string n =>
    cases hs with
    | string m => exact .inr ⟨m, n, rfl, rfl⟩
    | _ => simp [DataType.convertibleFrom] at hc
  | compound laidOut _ =>
    cases hs with
    | compound laidOut' _ => exact (plain.elim laidOut'.nonempty laidOut.nonempty).elim
    | _ => simp [DataType.convertibleFrom] at hc
  | varString | sequence | reference =>
    simp only [DataType.convertibleFrom, decide_eq_true_eq] at hc
    exact absurd hc ne

end convertible

/-- A member converts from the source of its name, also if the types are equal. -/
theorem convertibleFrom_found (ht : target.WellFormed) (hc : DataType.convertibleFrom source target = true)
    {m s : Member DataType} (mem : m ∈ target.members) (found : Member.find? m.name source.members = some s) :
    DataType.convertibleFrom s.type m.type = true := by
  by_cases same : source = target
  · rw [same, Member.find?_of_mem ht.names mem] at found
    cases found
    exact convertibleFrom_self m.type
  · exact convertibleFrom_member hc same mem found

/-- A part that meets another is written from it. -/
theorem writes_of_meet {a b : Part} (h : Meet source target a b) (hs : source.WellFormed) (ht : target.WellFormed)
    (hc : DataType.convertibleFrom source target = true) (he : element.length = source.size)
    (hp : prior.length = target.size) :
    Writes a.type b.type (a.bytes element) (b.bytes (convert source target element prior)) := by
  induction h generalizing element prior with
  | @whole source target plain =>
    rw [Part.bytes_whole he, Part.bytes_whole (length_convert ht hs he hp)]
    by_cases same : source = target
    · subst same
      rw [convert_self]
      exact .copy _ _
    · obtain ⟨k, l, rfl, rfl⟩ | ⟨m, n, rfl, rfl⟩ :=
        plain_of_convertibleFrom hs ht hc same (plain.resolve_left same)
      · have ne : k ≠ l := fun e => same (by rw [e])
        have read := NumericValue.read_eq (show element.length = k.size from he)
        rw [convert]
        simp only [if_neg ne, convertNumber_of_read read hp]
        exact .number ne read
      · have ne : m ≠ n := fun e => same (by rw [e])
        rw [convert]
        simp only [if_neg ne, convertString, show prior.length = n from hp]
        exact .string ne element
  | @member source target m s a b ne mem found inner ih =>
    obtain ⟨wm, -, stop⟩ := ht.member mem
    obtain ⟨ws, -, start⟩ := hs.member (Member.mem_of_find? found).1
    have element' := Bytes.length_slice element s.offset s.size (by rw [he]; exact start)
    have prior' := Bytes.length_slice prior m.offset m.size (by rw [hp]; exact stop)
    obtain ⟨low, high⟩ : a.stop ≤ s.size ∧ b.stop ≤ m.size := inner.bound ws wm
    have named : ByName source target element prior (convert source target element prior) := by
      cases target with
      | compound members n => exact byName_convert hs ht he hp ne
      | _ => cases mem
    rw [Part.bytes_shift low, Part.bytes_shift high, named.member m mem s found]
    exact ih ws wm (convertibleFrom_member hc ne mem found) element' prior'

/-! ### Conversion by name -/

/-- Types that convert do so by name, and nothing else is touched. Between unequal compounds each member that has a source
    is converted from it over its own bytes before and every other byte stays, and the order in which the members of
    either are declared makes no difference while they are unequal. On all levels, each part that meets one of the source
    is written from it. -/
theorem converted_by_name (hs : source.WellFormed) (ht : target.WellFormed)
    (hc : DataType.convertibleFrom source target = true) (he : element.length = source.size)
    (hp : prior.length = target.size) :
    (∀ sources members m n, source = .compound sources m → target = .compound members n → source ≠ target →
      ByName source target element prior (convert source target element prior) ∧
        ∀ sources' members' : List (Member DataType), sources'.Perm sources → members'.Perm members →
          DataType.compound sources' m ≠ .compound members' n →
          convert (.compound sources' m) (.compound members' n) element prior = convert source target element prior) ∧
      ∀ a b, Meet source target a b →
        Writes a.type b.type (a.bytes element) (b.bytes (convert source target element prior)) := by
  refine ⟨?_, fun a b meet => writes_of_meet meet hs ht hc he hp⟩
  rintro sources members m n rfl rfl ne
  exact ⟨byName_convert hs ht he hp ne, fun sources' members' perm perm' ne' =>
    convert_perm hs ht he hp ne ne' perm perm'⟩

/-- A byte and a number of two bytes. -/
def narrowPair : DataType := .compound [⟨"a", 0, .numeric (.unsigned .w8)⟩, ⟨"b", 1, .numeric (.signed .w16)⟩] 3

/-- Both in wider types and in the other order, with a member and a byte between that nothing is converted to. -/
def widePair : DataType :=
  .compound [⟨"b", 4, .numeric (.signed .w32)⟩, ⟨"c", 2, .numeric (.unsigned .w8)⟩, ⟨"a", 0, .numeric (.unsigned .w16)⟩] 8

theorem converted_by_name_widePair :
    DataType.convertibleFrom narrowPair widePair = true ∧
      convert narrowPair widePair [7, 0xFE, 0xFF] (List.replicate 8 9) = [7, 0, 9, 9, 0xFE, 0xFF, 0xFF, 0xFF] ∧
      convert narrowPair (.compound widePair.members.reverse 8) [7, 0xFE, 0xFF] (List.replicate 8 9) =
        [7, 0, 9, 9, 0xFE, 0xFF, 0xFF, 0xFF] ∧
      Writes (.numeric (.signed .w16)) (.numeric (.signed .w32)) [0xFE, 0xFF] [0xFE, 0xFF, 0xFF, 0xFF] := by
  have hs : narrowPair.WellFormed := by decide
  have ht : widePair.WellFormed := by decide
  have hc : DataType.convertibleFrom narrowPair widePair = true := by decide
  have result : convert narrowPair widePair [7, 0xFE, 0xFF] (List.replicate 8 9) =
      [7, 0, 9, 9, 0xFE, 0xFF, 0xFF, 0xFF] := by decide +kernel
  obtain ⟨byName, written⟩ := @converted_by_name narrowPair widePair [7, 0xFE, 0xFF] (List.replicate 8 9) hs ht hc rfl rfl
  have order := (byName _ _ _ _ rfl rfl (by decide)).2 _ widePair.members.reverse (.refl _)
    (List.reverse_perm widePair.members) (by decide)
  have number := written ⟨1, .numeric (.signed .w16)⟩ ⟨4, .numeric (.signed .w32)⟩
    (.member (m := ⟨"b", 4, .numeric (.signed .w32)⟩) (s := ⟨"b", 1, .numeric (.signed .w16)⟩) (by decide)
      List.mem_cons_self rfl (.whole (.inr (.inl rfl))))
  rw [result] at order number
  exact ⟨hc, result, order, number⟩

end Conversion

end ArrayTransfer
