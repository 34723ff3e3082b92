import ArrayTransfer.Proofs.Conversion.ByName
import ArrayTransfer.Proofs.DataType.Leaves
import ArrayTransfer.Proofs.Number.Embedding

/-! Conversions that lose nothing. A type holds another if each number and each string of it has room there, and each
    member a member of its name that holds it (`DataType.Embeds`). An element without NaNs then comes back from the other
    type (`Conversion.convert_back`): what the members do not cover is in no conversion, and has to be there before. -/

namespace ArrayTransfer

namespace DataType

/-- Each element of a type fits in another. -/
inductive Embeds : DataType → DataType → Prop where
  | same (t : DataType) : Embeds t t
  | number {k l : Numeric} (holds : k.Embeds l) : Embeds (.numeric k) (.numeric l)
  | string {m n : Nat} (le : m ≤ n) : Embeds (.string m) (.string n)
  | compound {sources members : List (Member DataType)} {m n : Nat}
    (found : ∀ s ∈ sources, ∃ t, Member.find? s.name members = some t)
    (each : ∀ s ∈ sources, ∀ t, Member.find? s.name members = some t → Embeds s.type t.type) :
    Embeds (.compound sources m) (.compound members n)

/-- A byte of an element that no number and no string is in. -/
inductive Padding : DataType → Nat → Prop where
  | outside {members : List (Member DataType)} {size i : Nat} (inside : i < size)
    (out : ∀ m ∈ members, i < m.offset ∨ m.stop ≤ i) : Padding (.compound members size) i
  | member {members : List (Member DataType)} {size i : Nat} {m : Member DataType} (mem : m ∈ members)
    (inner : Padding m.type i) : Padding (.compound members size) (m.offset + i)

/-- No number in an element is a NaN. -/
def NaNFree (t : DataType) (e : Bytes) : Prop := ∀ l ∈ t.leaves, l.kind.worth? (Bytes.slice e l.start l.kind.size) ≠ none

theorem NaNFree.number {k : Numeric} {e : Bytes} (h : NaNFree (.numeric k) e) (he : e.length = k.size) :
    k.worth? e ≠ none := by
  have number : k.worth? (Bytes.slice e 0 k.size) ≠ none := h ⟨0, k⟩ List.mem_cons_self
  rwa [Bytes.slice_whole he] at number

theorem NaNFree.member {members : List (Member DataType)} {size : Nat} {m : Member DataType} {e : Bytes}
    (h : NaNFree (.compound members size) e) (wellFormed : m.type.WellFormed) (mem : m ∈ members) :
    NaNFree m.type (Bytes.slice e m.offset m.size) := by
  intro l hl
  have inside : l.start + l.kind.size ≤ m.size := wellFormed.leaf_bound hl
  rw [Bytes.slice_slice inside]
  exact h _ (mem_memberLeaves.mpr ⟨m, mem, l, hl, rfl⟩)

end DataType

theorem Member.ext_members {members : List (Member DataType)} {b b' : Bytes} (hl : b.length = b'.length)
    (within : ∀ m ∈ members, Bytes.slice b m.offset m.size = Bytes.slice b' m.offset m.size)
    (outside : ∀ i < b.length, (∀ m ∈ members, i < m.offset ∨ m.stop ≤ i) → b[i]? = b'[i]?) : b = b' := by
  refine Edit.ext_windows (members.map fun m => ⟨m.offset, m.size, id⟩) hl ?_ fun i hi out => outside i hi ?_
  · rw [List.forall_mem_map]
    exact within
  · rw [List.forall_mem_map] at out
    exact out

namespace Conversion
variable {source target : DataType} {element background prior : Bytes}

/-- A number comes back from a type that holds it. -/
theorem convertNumber_back {k l : Numeric} (ne : k ≠ l) (holds : k.Embeds l) (he : element.length = k.size)
    (hb : background.length = l.size) (hp : prior.length = k.size) (number : k.worth? element ≠ none) :
    convertNumber l k (convertNumber k l element background) prior = element := by
  obtain ⟨v, u, read, read', back⟩ := Numeric.encode_back ne holds he number
  rw [convertNumber_of_read read hb, convertNumber_of_read read' hp, back]

/-- Types convert to a type that holds them, and back. -/
theorem convertible_of_embeds (h : source.Embeds target) (hs : source.WellFormed) (ht : target.WellFormed) :
    DataType.convertibleFrom source target = true ∧ DataType.convertibleFrom target source = true := by
  induction h with
  | same t => exact ⟨convertibleFrom_self t, convertibleFrom_self t⟩
  | number | string => simp [DataType.convertibleFrom, DataType.isNumeric]
  | @compound sources members m n found each ih =>
    simp only [DataType.convertibleFrom, Bool.or_eq_true, membersConvertibleFrom_iff]
    refine ⟨.inr fun t mem s source => ?_, .inr fun s mem t target => ?_⟩
    · obtain ⟨mems, own⟩ := Member.find?_find? ht.names mem source
      exact (ih s mems t own (hs.member mems).1 (ht.member mem).1).1
    · obtain ⟨memt, -⟩ := Member.mem_of_find? target
      exact (ih s mem t target (hs.member mem).1 (ht.member memt).1).2

/-- An element without NaNs comes back from a type that holds its own, over anything that has its padding. -/
theorem convert_back (h : source.Embeds target) (hs : source.WellFormed) (ht : target.WellFormed)
    (he : element.length = source.size) (hb : background.length = target.size) (hp : prior.length = source.size)
    (numbers : source.NaNFree element) (padding : ∀ i, source.Padding i → prior[i]? = element[i]?) :
    convert target source (convert source target element background) prior = element := by
  induction h generalizing element background prior with
  | same t => rw [convert_self, convert_self]
  | @number k l holds =>
    by_cases same : k = l
    · rw [same, convert_self, convert_self]
    · rw [convert, convert]
      simp only [if_neg same, if_neg (Ne.symm same)]
      exact convertNumber_back same holds he hb hp (numbers.number he)
  | @string m n le =>
    by_cases same : m = n
    · rw [same, convert_self, convert_self]
    · replace he : element.length = m := he
      replace hb : background.length = n := hb
      replace hp : prior.length = m := hp
      rw [convert, convert]
      simp only [if_neg same, if_neg (Ne.symm same), convertString, hb, hp]
      rw [← he] at le ⊢
      exact Bytes.fit_fit le
  | @compound sources members m n found each ih =>
    by_cases same : DataType.compound sources m = .compound members n
    · rw [same, convert_self, convert_self]
    · -- by name in both directions: what no member holds is padding, and a member comes back from its partner
      have there := length_convert ht hs he hb
      have forth := byName_convert hs ht he hb same
      have back := byName_convert ht hs there hp (Ne.symm same)
      have length := back.length.trans hp
      refine Member.ext_members (length.trans he.symm) (fun s (mem : s ∈ sources) => ?_) fun i hi out => ?_
      · obtain ⟨t, target⟩ := found s mem
        obtain ⟨memt, own⟩ := Member.find?_find? hs.names mem target
        obtain ⟨ws, -, start⟩ := hs.member mem
        obtain ⟨wt, -, stop⟩ := ht.member memt
        rw [back.member s mem t target, forth.member t memt s own]
        refine ih s mem t target ws wt (Bytes.length_slice _ _ _ (by rw [he]; exact start))
          (Bytes.length_slice _ _ _ (by rw [hb]; exact stop)) (Bytes.length_slice _ _ _ (by rw [hp]; exact start))
          (numbers.member ws mem) fun i inner => ?_
        rw [Bytes.getElem?_slice, Bytes.getElem?_slice, padding _ (.member mem inner)]
      · rw [back.others i fun s mem _ => out s mem]
        exact padding i (.outside (by rwa [length] at hi) out)

/-- A type that holds another takes its elements and gives them back: the types convert both ways, and an element without
    NaNs, converted over any background and back over the padding that it had, is the element again. -/
theorem lossless (h : source.Embeds target) (hs : source.WellFormed) (ht : target.WellFormed)
    (he : element.length = source.size) (numbers : source.NaNFree element) :
    DataType.convertibleFrom source target = true ∧ DataType.convertibleFrom target source = true ∧
      ∀ background prior : Bytes, background.length = target.size → prior.length = source.size →
        (∀ i, source.Padding i → prior[i]? = element[i]?) →
          convert target source (convert source target element background) prior = element := by
  obtain ⟨forth, back⟩ := convertible_of_embeds h hs ht
  exact ⟨forth, back, fun background prior hb hp padding => convert_back h hs ht he hb hp numbers padding⟩

/-- A number, two open bytes, and a compound of a number and a label with an open byte between. -/
def sparse : DataType :=
  .compound [⟨"n", 0, .numeric (.signed .w16)⟩,
    ⟨"in", 4, .compound [⟨"p", 0, .numeric (.unsigned .w8)⟩, ⟨"q", 2, .string 2⟩] 4⟩] 8

/-- The same names in wider types and another order, and one more. -/
def roomy : DataType :=
  .compound [⟨"in", 1, .compound [⟨"q", 0, .string 3⟩, ⟨"p", 4, .numeric (.signed .w16)⟩] 6⟩,
    ⟨"x", 0, .numeric (.signed .w8)⟩, ⟨"n", 8, .numeric .float32⟩] 12

theorem lossless_roomy :
    convert sparse roomy [0xFE, 0xFF, 1, 2, 7, 3, 0x68, 0x69] (List.replicate 12 0x55) =
        [0x55, 0x68, 0x69, 0, 0x55, 7, 0, 0x55, 0, 0, 0, 0xC0] ∧
      convert roomy sparse [0x55, 0x68, 0x69, 0, 0x55, 7, 0, 0x55, 0, 0, 0, 0xC0] [9, 9, 1, 2, 9, 3, 9, 9] =
        [0xFE, 0xFF, 1, 2, 7, 3, 0x68, 0x69] := by
  have hs : sparse.WellFormed := by decide
  have ht : roomy.WellFormed := by decide
  have there : convert sparse roomy [0xFE, 0xFF, 1, 2, 7, 3, 0x68, 0x69] (List.replicate 12 0x55) =
      [0x55, 0x68, 0x69, 0, 0x55, 7, 0, 0x55, 0, 0, 0, 0xC0] := by decide +kernel
  have holds : sparse.Embeds roomy := by
    refine .compound (by simp [Member.find?]) (List.forall_mem_cons.mpr ⟨?_, List.forall_mem_singleton.mpr ?_⟩)
    · rintro t ⟨⟩
      exact .number (by decide)
    · rintro t ⟨⟩
      refine .compound (by simp [Member.find?]) (List.forall_mem_cons.mpr ⟨?_, List.forall_mem_singleton.mpr ?_⟩)
      · rintro t ⟨⟩
        exact .number (by decide)
      · rintro t ⟨⟩
        exact .string (by decide)
  have numbers : sparse.NaNFree [0xFE, 0xFF, 1, 2, 7, 3, 0x68, 0x69] := by
    unfold DataType.NaNFree
    decide
  have padding : ∀ i, sparse.Padding i →
      ([9, 9, 1, 2, 9, 3, 9, 9] : Bytes)[i]? = ([0xFE, 0xFF, 1, 2, 7, 3, 0x68, 0x69] : Bytes)[i]? := by
    rintro i (⟨inside, out⟩ | ⟨mem, inner⟩)
    · have first : i < 0 ∨ 2 ≤ i := out _ List.mem_cons_self
      have second : i < 4 ∨ 8 ≤ i := out _ (List.mem_cons_of_mem _ List.mem_cons_self)
      obtain rfl | rfl : i = 2 ∨ i = 3 := by omega
      · rfl
      · rfl
    · obtain rfl | rfl := List.mem_pair.mp mem
      · cases inner
      · obtain ⟨inside, out⟩ | ⟨mem, inner⟩ := inner
        · rename_i i
          have first : i < 0 ∨ 1 ≤ i := out _ List.mem_cons_self
          have second : i < 2 ∨ 4 ≤ i := out _ (List.mem_cons_of_mem _ List.mem_cons_self)
          obtain rfl : i = 1 := by omega
          rfl
        · obtain rfl | rfl := List.mem_pair.mp mem <;> cases inner
  have back := (lossless holds hs ht rfl numbers).2.2 (List.replicate 12 0x55) [9, 9, 1, 2, 9, 3, 9, 9] rfl rfl padding
  rw [there] at back
  exact ⟨there, back⟩

end Conversion

end ArrayTransfer
