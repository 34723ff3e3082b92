import ArrayTransfer.Proofs.Text.Utf8
import ArrayTransfer.Wire.Reference

/-! References, their texts and their slots. A reference is read from its own text and no other
    (`Reference.parse_eq_ok_iff`), and from the slots that hold this text before their first zero
    (`Reference.ofSlot_eq_some_iff`). So there is one text and, but for what stands behind the first zero, one slot for
    each reference (`Reference.slots_correspond`). -/

namespace ArrayTransfer

theorem Collection.slash_not_mem_name (c : Collection) : '/' ∉ c.name.toList := by cases c <;> decide

theorem Collection.zero_not_mem_name (c : Collection) : '\x00' ∉ c.name.toList := by cases c <;> decide

theorem Collection.find?_name (c : Collection) : all.find? (·.name.toList = c.name.toList) = some c := by
  cases c <;> decide

namespace Reference

theorem toList_text (r : Reference) : r.text.toList = r.collection.name.toList ++ '/' :: r.id.toList := by
  simp [text, textOf]

theorem text_ne_nil (r : Reference) : r.text.toList ≠ [] := by simp [toList_text]

theorem make_eq_ok_iff {collection : Collection} {id : String} {r : Reference} :
    make collection id = .ok r ↔ r.collection = collection ∧ r.id = id := by
  unfold make
  constructor
  · intro h
    split at h
    · cases h
      exact ⟨rfl, rfl⟩
    · cases h
  · rintro ⟨rfl, rfl⟩
    exact dif_pos r.admissible

theorem parse?_text (r : Reference) : parse? r.text = some r := by
  have name : ∀ a ∈ r.collection.name.toList, decide (a ≠ '/') = true := fun a ha =>
    decide_eq_true fun h => r.collection.slash_not_mem_name (h ▸ ha)
  have before : r.text.toList.takeWhile (· ≠ '/') = r.collection.name.toList := by
    rw [toList_text, List.takeWhile_append_of_pos name, List.takeWhile_cons_of_neg (by simp), List.append_nil]
  have after : r.text.toList.dropWhile (· ≠ '/') = '/' :: r.id.toList := by
    rw [toList_text, List.dropWhile_append_of_pos name, List.dropWhile_cons_of_neg (by simp)]
  have made : make r.collection (String.ofList r.id.toList) = .ok r :=
    make_eq_ok_iff.mpr ⟨rfl, String.ofList_toList.symm⟩
  unfold parse?
  simp only [before, after, r.collection.find?_name, made]
  rfl

theorem parse_text (r : Reference) : parse r.text = .ok r := by
  unfold parse
  rw [parse?_text]

theorem zero_not_mem_text (r : Reference) : '\x00' ∉ r.text.toList := by
  rw [toList_text, List.mem_append, List.mem_cons]
  rintro (h | h | h)
  · exact r.collection.zero_not_mem_name h
  · exact absurd h (by decide)
  · exact r.admissible.2.1 h

/-- A reference is read from its own text only. -/
theorem text_of_parse {s : String} {r : Reference} (h : parse s = .ok r) : r.text = s := by
  unfold parse at h
  split at h; rotate_left
  · cases h
  rename_i read
  cases h
  unfold parse? at read
  split at read
  · cases read
  rename_i slash id after
  split at read
  · cases read
  rename_i collection found
  obtain ⟨rfl, hid⟩ : r.collection = collection ∧ r.id = String.ofList id := by
    cases made : make collection (String.ofList id) with
    | error e =>
      rw [made] at read
      cases read
    | ok r' =>
      rw [made] at read
      cases read
      exact make_eq_ok_iff.mp made
  have name : r.collection.name.toList = s.toList.takeWhile (· ≠ '/') := by
    simpa using List.find?_some found
  have slash : slash = '/' := by
    have head := List.head?_dropWhile_not (· ≠ '/') s.toList
    rw [after] at head
    simpa using head
  subst slash
  apply String.toList_inj.mp
  rw [toList_text, hid, String.toList_ofList, name, ← after, List.takeWhile_append_dropWhile]

/-- A reference is read from its own text and from no other. -/
theorem parse_eq_ok_iff {s : String} {r : Reference} : parse s = .ok r ↔ r.text = s := by
  constructor
  · exact text_of_parse
  · rintro rfl
    exact parse_text r

/-! ### Slots -/

variable {slot : Bytes} {r : Reference}

/-- A reference is read from the slots that hold its text before their first zero. -/
theorem ofSlot_eq_some_iff : ofSlot slot = .ok (some r) ↔ Bytes.beforeZero slot = Utf8.encode r.text := by
  unfold ofSlot
  constructor
  · intro h
    split at h
    · cases h
    rename_i s text
    rw [← Utf8.decode?_eq_some_iff.mp text]
    split at h
    · cases h
    cases parsed : parse s with
    | error e =>
      rw [parsed] at h
      cases h
    | ok r' =>
      rw [parsed] at h
      cases h
      rw [text_of_parse parsed]
  · intro stem
    rw [stem, Utf8.decode?_encode]
    simp only [if_neg r.text_ne_nil, parse_text]
    rfl

/-- A null reference is read from the slots that have nothing before their first zero. -/
theorem ofSlot_eq_none_iff : ofSlot slot = .ok none ↔ Bytes.beforeZero slot = [] := by
  unfold ofSlot
  constructor
  · intro h
    split at h
    · cases h
    rename_i s text
    rw [← Utf8.decode?_eq_some_iff.mp text]
    split at h
    · rename_i empty
      rw [Utf8.encode, empty, List.flatMap_nil]
    · cases parsed : parse s <;> rw [parsed] at h <;> cases h
  · intro stem
    rw [stem]
    rfl

theorem beforeZero_toSlot (r : Reference) : Bytes.beforeZero r.toSlot = Utf8.encode r.text :=
  Utf8.beforeZero_fit r.zero_not_mem_text r.admissible.2.2

theorem ofSlot_toSlot (r : Reference) : ofSlot r.toSlot = .ok (some r) := ofSlot_eq_some_iff.mpr r.beforeZero_toSlot

theorem ofSlot_zeros : ofSlot (Bytes.zeros DataType.referenceSize) = .ok none := ofSlot_eq_none_iff.mpr (by decide)

/-- What is read from a slot is the text before the first zero, and fills a slot with it. -/
theorem fillSlot_of_ofSlot {r : Option Reference} (h : ofSlot slot = .ok r) (n : Nat) :
    fillSlot r n = Bytes.fit (Bytes.beforeZero slot) n := by
  cases r with
  | none => simp [ofSlot_eq_none_iff.mp h, fillSlot, Bytes.fit]
  | some r => rw [ofSlot_eq_some_iff.mp h, fillSlot]

theorem length_toSlot (r : Reference) : r.toSlot.length = DataType.referenceSize := Bytes.length_fit _ _

/-- A slot holds a reference exactly if it is the slot of the reference but for what stands behind the first zero. -/
theorem ofSlot_eq_some_iff_clearTail (hs : slot.length = DataType.referenceSize) :
    ofSlot slot = .ok (some r) ↔ r.toSlot = Bytes.clearTail slot := by
  rw [ofSlot_eq_some_iff]
  constructor
  · intro stem
    rw [Bytes.clearTail_eq_fit, stem, hs, toSlot, fillSlot]
  · intro same
    rw [← Bytes.beforeZero_clearTail, ← same, beforeZero_toSlot]

/-- A text is read exactly if it is that of a collection and an id that make a reference. -/
theorem exists_parse_iff {s : String} : (∃ r, parse s = .ok r) ↔ ∃ (collection : Collection) (id : String),
    s = collection.name ++ "/" ++ id ∧ id ≠ "" ∧ '\x00' ∉ id.toList ∧ (Utf8.encode s).length ≤ 48 := by
  simp only [parse_eq_ok_iff]
  constructor
  · rintro ⟨⟨collection, id, nonempty, noZero, room⟩, rfl⟩
    exact ⟨collection, id, rfl, fun empty => nonempty (String.toList_eq_nil_iff.mpr empty), noZero, room⟩
  · rintro ⟨collection, id, rfl, nonempty, noZero, room⟩
    exact ⟨⟨collection, id, fun empty => nonempty (String.toList_eq_nil_iff.mp empty), noZero, room⟩, rfl⟩

/-- References, their texts and their slots correspond: a reference that is made comes back from its text and from its
    slot. A slot of 48 bytes holds a reference exactly if the reference fills one with the same bytes and zeros from the
    first zero on, and a null reference exactly if it begins with a zero. A text is read exactly if it is a collection, a
    slash, and an id with something but no zero in it, in at most 48 bytes. -/
theorem slots_correspond :
    (∀ collection id r, make collection id = .ok r → r.text = collection.name ++ "/" ++ id ∧ parse r.text = .ok r ∧
      r.toSlot.length = 48 ∧ ofSlot r.toSlot = .ok (some r)) ∧
    (∀ slot : Bytes, slot.length = 48 →
      (∀ r, ofSlot slot = .ok (some r) ↔ r.toSlot = Bytes.clearTail slot) ∧
      (ofSlot slot = .ok none ↔ slot.head? = some 0)) ∧
    ∀ s, (∃ r, parse s = .ok r) ↔ ∃ (collection : Collection) (id : String),
      s = collection.name ++ "/" ++ id ∧ id ≠ "" ∧ '\x00' ∉ id.toList ∧ (Utf8.encode s).length ≤ 48 := by
  refine ⟨fun collection id r made => ?_, fun slot hs => ⟨fun r => ?_, ?_⟩, fun s => exists_parse_iff⟩
  · obtain ⟨rfl, rfl⟩ := make_eq_ok_iff.mp made
    exact ⟨rfl, parse_text r, length_toSlot r, ofSlot_toSlot r⟩
  · exact ofSlot_eq_some_iff_clearTail hs
  · have some : slot ≠ [] := by
      rintro rfl
      cases hs
    rw [ofSlot_eq_none_iff, Bytes.beforeZero_eq_nil_iff some]

/-- A reference that leaves no byte of its slot free, with slashes and letters of more than one byte in its id. -/
def full : Reference := ⟨.datasets, "2024/été/pression-à-la-mer/00017/n°", by decide⟩

/-- A slot with a shorter reference and other bytes behind the zero. -/
def usedSlot : Bytes := Utf8.encode "groups/g-1" ++ 0 :: List.replicate 37 0xFF

theorem slots_correspond_full :
    full.toSlot = Utf8.encode full.text ∧ parse full.text = .ok full ∧ ofSlot full.toSlot = .ok (some full) ∧
      ofSlot usedSlot = .ok (some ⟨.groups, "g-1", by decide⟩) := by
  obtain ⟨made, slots, -⟩ := slots_correspond
  obtain ⟨-, parsed, -, held⟩ := made .datasets full.id full (dif_pos full.admissible)
  exact ⟨by decide, parsed, held, ((slots usedSlot (by decide)).1 _).mpr (by decide)⟩

end Reference

end ArrayTransfer
