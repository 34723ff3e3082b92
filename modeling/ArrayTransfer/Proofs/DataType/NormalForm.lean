import ArrayTransfer.DataType.Descriptor
import ArrayTransfer.Proofs.Json.Text

/-! Descriptors and their normal form. A descriptor can be written in many ways: with fields in any order and others
    beside them, and as arrays of the fields (`Descriptor.WrittenAs`). The reader takes exactly these
    (`Descriptor.ofJson?_eq_some_iff`), and the normal form is one of them, so that reading it gives the descriptor again
    (`Descriptor.normal_form_reads_back`). -/

namespace ArrayTransfer

namespace DescriptorTag
variable {t : DescriptorTag}

/-- The field beside the class that belongs to a described type. -/
def key : DescriptorTag → String
  | integer => "base"
  | float => "base"
  | compound => "fields"
  | string => "length"
  | sequence => "base"
  | reference => "base"

theorem ofJson?_name (t : DescriptorTag) : ofJson? (.string t.name) = some t := by
  cases t <;> decide

theorem class_ne_key (t : DescriptorTag) : "class" ≠ t.key := by
  cases t <;> decide

end DescriptorTag

theorem StringLength.ofJson?_eq_some_iff {l : StringLength} {v : Json} : ofJson? v = some l ↔ v = l.toJson := by
  constructor
  · intro h
    unfold ofJson? at h
    split at h
    · cases h
      rfl
    · cases h
      rfl
    · cases h
  · rintro rfl
    cases l <;> rfl

theorem Json.text?_eq_some_iff {v : Json} {s : String} : v.text? = some s ↔ v = .string s := by
  constructor
  · intro h
    unfold Json.text? at h
    split at h
    · cases h
      rfl
    · cases h
  · rintro rfl
    rfl

namespace Descriptor

/-! ### Ways of writing -/

/-- A JSON value says that its class is `t` and what belongs to it is `value`: an object in these two of its fields, or an
    array of the two. -/
def Tells (v : Json) (t : DescriptorTag) (value : Json) : Prop :=
  (∃ fields, v = .object fields ∧ (Json.lookup "class" fields).bind DescriptorTag.ofJson? = some t ∧
    Json.lookup t.key fields = some value) ∨
  ∃ tag, v = .array [tag, value] ∧ DescriptorTag.ofJson? tag = some t

/-- A JSON value says that a compound field has this name and this type, likewise. -/
def TellsField (v : Json) (name : String) (type : Json) : Prop :=
  (∃ fields, v = .object fields ∧ Json.lookup "name" fields = some (.string name) ∧
    Json.lookup "type" fields = some type) ∨
  v = .array [.string name, type]

mutual
/-- A JSON value is a way of writing the descriptor. -/
def WrittenAs : Descriptor → Json → Prop
  | predefined name, v => v = .string name
  | integer base, v => Tells v .integer (.string base)
  | float base, v => Tells v .float (.string base)
  | compound fields, v => ∃ items, Tells v .compound (.array items) ∧ FieldsWrittenAs fields items
  | string length, v => Tells v .string length.toJson
  | sequence base, v => ∃ value, Tells v .sequence value ∧ base.WrittenAs value
  | reference base, v => Tells v .reference (.string base)
termination_by structural d => d
/-- JSON values are ways of writing the compound fields, one by one. -/
def FieldsWrittenAs : List (String × Descriptor) → List Json → Prop
  | [], items => items = []
  | (name, d) :: rest, items => ∃ item type tail, items = item :: tail ∧ TellsField item name type ∧ d.WrittenAs type ∧
      FieldsWrittenAs rest tail
termination_by structural fields => fields
end

/-! ### What the reader takes -/

/-- Reads what belongs to a class. -/
def content? (v : Json) : DescriptorTag → Option Descriptor
  | .integer => v.text?.map .integer
  | .float => v.text?.map .float
  | .compound => (fieldsOf? v).map .compound
  | .string => (StringLength.ofJson? v).map .string
  | .sequence => (ofJson? v).map .sequence
  | .reference => v.text?.map .reference

theorem descriptorNamed?_eq (key : String) (fields : List (String × Json)) :
    descriptorNamed? key fields = (Json.lookup key fields).bind ofJson? := by
  induction fields with
  | nil => rfl
  | cons f fields ih =>
    rw [descriptorNamed?, Json.lookup]
    split
    · rfl
    · exact ih

theorem fieldsNamed?_eq (fields : List (String × Json)) :
    fieldsNamed? fields = (Json.lookup "fields" fields).bind fieldsOf? := by
  induction fields with
  | nil => rfl
  | cons f fields ih =>
    rw [fieldsNamed?, Json.lookup]
    split
    · rfl
    · exact ih

theorem ofJson?_object (fields : List (String × Json)) :
    ofJson? (.object fields) = ((Json.lookup "class" fields).bind DescriptorTag.ofJson?).bind fun t =>
      (Json.lookup t.key fields).bind fun value => content? value t := by
  rw [ofJson?]
  cases (Json.lookup "class" fields).bind DescriptorTag.ofJson? with
  | none => rfl
  | some t =>
    cases t <;> simp only [Option.bind_some, DescriptorTag.key, content?, Json.textField?, fieldsNamed?_eq,
      descriptorNamed?_eq, Option.map_bind] <;> rfl

theorem ofJson?_pair (tag value : Json) :
    ofJson? (.array [tag, value]) = (DescriptorTag.ofJson? tag).bind (content? value) := by
  rw [ofJson?]
  cases DescriptorTag.ofJson? tag with
  | none => rfl
  | some t => cases t <;> rfl

/-- The reader takes a name, or what tells a class and what belongs to it. -/
theorem ofJson?_eq_some {v : Json} {d : Descriptor} :
    ofJson? v = some d ↔ (∃ name, v = .string name ∧ d = .predefined name) ∨
      ∃ t value, Tells v t value ∧ content? value t = some d := by
  constructor
  · intro h
    unfold ofJson? at h
    split at h
    · cases h
      exact .inl ⟨_, rfl, rfl⟩
    · rename_i fields
      rw [← ofJson?, ofJson?_object] at h
      obtain ⟨t, hclass, h⟩ := Option.bind_eq_some_iff.mp h
      obtain ⟨value, hvalue, h⟩ := Option.bind_eq_some_iff.mp h
      exact .inr ⟨t, value, .inl ⟨fields, rfl, hclass, hvalue⟩, h⟩
    · rename_i tag value
      rw [← ofJson?, ofJson?_pair] at h
      obtain ⟨t, htag, h⟩ := Option.bind_eq_some_iff.mp h
      exact .inr ⟨t, value, .inr ⟨tag, rfl, htag⟩, h⟩
    · cases h
  · rintro (⟨name, rfl, rfl⟩ | ⟨t, value, ⟨fields, rfl, hclass, hvalue⟩ | ⟨tag, rfl, htag⟩, h⟩)
    · rfl
    · rw [ofJson?_object, hclass, Option.bind_some, hvalue, Option.bind_some, h]
    · rw [ofJson?_pair, htag, Option.bind_some, h]

/-- A described type is read from what tells its class, if what belongs to it is taken for it alone. -/
theorem ofJson?_eq_some_of_class {v : Json} {d : Descriptor} {t : DescriptorTag} {P : Json → Prop}
    (described : ∀ name, d ≠ .predefined name) (content : ∀ value u, content? value u = some d ↔ u = t ∧ P value) :
    ofJson? v = some d ↔ ∃ value, Tells v t value ∧ P value := by
  rw [ofJson?_eq_some]
  constructor
  · rintro (⟨name, -, h⟩ | ⟨u, value, tells, h⟩)
    · exact absurd h (described name)
    · obtain ⟨rfl, h⟩ := (content value u).mp h
      exact ⟨value, tells, h⟩
  · rintro ⟨value, tells, h⟩
    exact .inr ⟨t, value, tells, (content value t).mpr ⟨rfl, h⟩⟩

theorem ofJson?_eq_some_of_value {v : Json} {d : Descriptor} {t : DescriptorTag} {c : Json}
    (described : ∀ name, d ≠ .predefined name) (content : ∀ value u, content? value u = some d ↔ u = t ∧ value = c) :
    ofJson? v = some d ↔ Tells v t c := by
  rw [ofJson?_eq_some_of_class described content]
  simp only [exists_eq_right]

theorem fieldList?_cons_eq_some {item : Json} {items : List Json} {fields : List (String × Descriptor)} :
    fieldList? (item :: items) = some fields ↔ ∃ name type d tail, fields = (name, d) :: tail ∧
      TellsField item name type ∧ ofJson? type = some d ∧ fieldList? items = some tail := by
  constructor
  · intro h
    unfold fieldList? at h
    split at h
    · rename_i heq
      cases heq
    · rename_i fields rest heq
      cases heq
      split at h
      · rename_i hname htype htail
        obtain ⟨text, hfound, htext⟩ := Option.bind_eq_some_iff.mp hname
        obtain ⟨type, hlookup, hd⟩ := Option.bind_eq_some_iff.mp ((descriptorNamed?_eq ..).symm.trans htype)
        cases Json.text?_eq_some_iff.mp htext
        cases h
        exact ⟨_, type, _, _, rfl, .inl ⟨_, rfl, hfound, hlookup⟩, hd, htail⟩
      · cases h
    · rename_i name type rest heq
      cases heq
      split at h
      · rename_i hd htail
        cases h
        exact ⟨_, _, _, _, rfl, .inr rfl, hd, htail⟩
      · cases h
    · cases h
  · rintro ⟨name, type, d, tail, rfl, ⟨fields, rfl, hname, htype⟩ | rfl, hd, htail⟩
    · have read : descriptorNamed? "type" fields = some d := by rw [descriptorNamed?_eq, htype, Option.bind_some, hd]
      have text : Json.textField? "name" fields = some name := by rw [Json.textField?, hname]; rfl
      simp only [fieldList?, text, read, htail]
    · simp only [fieldList?, hd, htail]

theorem fieldsOf?_eq_some {v : Json} {fields : List (String × Descriptor)} :
    fieldsOf? v = some fields ↔ ∃ items, v = .array items ∧ fieldList? items = some fields := by
  cases v <;> simp [fieldsOf?]

mutual
/-- The reader takes the ways of writing a descriptor, and nothing else for it. -/
theorem ofJson?_eq_some_iff : ∀ (d : Descriptor) (v : Json), ofJson? v = some d ↔ d.WrittenAs v
  | predefined name, v => by
    rw [ofJson?_eq_some, WrittenAs]
    constructor
    · rintro (⟨_, rfl, h⟩ | ⟨t, value, _, h⟩)
      · rw [predefined.inj h]
      · cases t <;> simp [content?] at h
    · rintro rfl
      exact .inl ⟨name, rfl, rfl⟩
  | integer base, v => by
    rw [WrittenAs]
    exact ofJson?_eq_some_of_value (by simp) fun value u => by cases u <;> simp [content?, Json.text?_eq_some_iff]
  | float base, v => by
    rw [WrittenAs]
    exact ofJson?_eq_some_of_value (by simp) fun value u => by cases u <;> simp [content?, Json.text?_eq_some_iff]
  | compound fields, v => by
    rw [WrittenAs, ofJson?_eq_some_of_class (t := .compound)
      (P := fun value => ∃ items, value = .array items ∧ FieldsWrittenAs fields items) (by simp)]
    · constructor
      · rintro ⟨_, tells, items, rfl, written⟩
        exact ⟨items, tells, written⟩
      · rintro ⟨items, tells, written⟩
        exact ⟨_, tells, items, rfl, written⟩
    · intro value u
      cases u <;> simp [content?, fieldsOf?_eq_some, fieldList?_eq_some_iff fields]
  | string length, v => by
    rw [WrittenAs]
    exact ofJson?_eq_some_of_value (by simp) fun value u => by
      cases u <;> simp [content?, StringLength.ofJson?_eq_some_iff]
  | sequence base, v => by
    rw [WrittenAs, ofJson?_eq_some_of_class (t := .sequence) (P := base.WrittenAs) (by simp)]
    intro value u
    cases u <;> simp [content?, ofJson?_eq_some_iff base]
  | reference base, v => by
    rw [WrittenAs]
    exact ofJson?_eq_some_of_value (by simp) fun value u => by cases u <;> simp [content?, Json.text?_eq_some_iff]
termination_by structural d => d
theorem fieldList?_eq_some_iff : ∀ (fields : List (String × Descriptor)) (items : List Json),
    fieldList? items = some fields ↔ FieldsWrittenAs fields items
  | [], items => by
    rw [FieldsWrittenAs]
    cases items with
    | nil => simp [fieldList?]
    | cons item items => simp [fieldList?_cons_eq_some]
  | (name, d) :: rest, items => by
    rw [FieldsWrittenAs]
    cases items with
    | nil => simp [fieldList?]
    | cons item items =>
      rw [fieldList?_cons_eq_some]
      constructor
      · rintro ⟨_, type, _, _, heq, tells, hd, htail⟩
        cases heq
        exact ⟨item, type, items, rfl, tells, (ofJson?_eq_some_iff d type).mp hd,
          (fieldList?_eq_some_iff rest items).mp htail⟩
      · rintro ⟨_, type, _, heq, tells, written, others⟩
        cases heq
        exact ⟨name, type, d, rest, rfl, tells, (ofJson?_eq_some_iff d type).mpr written,
          (fieldList?_eq_some_iff rest items).mpr others⟩
termination_by structural fields => fields
end

/-! ### The normal form -/

theorem tells_tagged (t : DescriptorTag) (value : Json) : Tells (tagged t [(t.key, value)]) t value := by
  refine .inl ⟨_, rfl, ?_, ?_⟩
  · rw [Json.lookup, if_pos rfl, Option.bind_some, DescriptorTag.ofJson?_name]
  · rw [Json.lookup, if_neg t.class_ne_key, Json.lookup, if_pos rfl]

mutual
/-- The normal form is a way of writing the descriptor. -/
theorem writtenAs_toJson : ∀ d : Descriptor, d.WrittenAs d.toJson
  | predefined _ => rfl
  | integer _ => tells_tagged .integer _
  | float _ => tells_tagged .float _
  | compound fields => ⟨fieldsToJson fields, tells_tagged .compound _, fieldsWrittenAs_fieldsToJson fields⟩
  | string _ => tells_tagged .string _
  | sequence base => ⟨base.toJson, tells_tagged .sequence _, writtenAs_toJson base⟩
  | reference _ => tells_tagged .reference _
termination_by structural d => d
theorem fieldsWrittenAs_fieldsToJson : ∀ fields : List (String × Descriptor), FieldsWrittenAs fields (fieldsToJson fields)
  | [] => rfl
  | (_, d) :: rest =>
    ⟨_, d.toJson, fieldsToJson rest, rfl, .inl ⟨_, rfl, rfl, rfl⟩, writtenAs_toJson d, fieldsWrittenAs_fieldsToJson rest⟩
termination_by structural fields => fields
end

open Json (Valid)

theorem valid_tagged (t : DescriptorTag) {value : Json} (h : Valid value) : Valid (tagged t [(t.key, value)]) := by
  refine .object ?_ ?_
  · simp [t.class_ne_key]
  · simpa using ⟨.string _, h⟩

mutual
theorem valid_toJson : ∀ d : Descriptor, Valid d.toJson
  | predefined name => .string name
  | integer base => valid_tagged .integer (.string base)
  | float base => valid_tagged .float (.string base)
  | compound fields => valid_tagged .compound (.array (valid_fieldsToJson fields))
  | string (.fixed _) => valid_tagged .string (.number trivial)
  | string (.word text) => valid_tagged .string (.string text)
  | sequence base => valid_tagged .sequence (valid_toJson base)
  | reference base => valid_tagged .reference (.string base)
termination_by structural d => d
theorem valid_fieldsToJson : ∀ fields : List (String × Descriptor), ∀ v ∈ fieldsToJson fields, Valid v
  | [] => by simp [fieldsToJson]
  | (name, d) :: rest => by
    rw [fieldsToJson, List.forall_mem_cons]
    refine ⟨.object (by simp) ?_, valid_fieldsToJson rest⟩
    simpa using ⟨.string name, valid_toJson d⟩
termination_by structural fields => fields
end

/-- The normal form of what a JSON value describes. -/
def normalForm? (v : Json) : Option Json := (ofJson? v).map toJson

/-- The normal form of a descriptor is read as the descriptor, and so is its text if it nests no deeper than the reader
    of responses goes. The reader takes the descriptor from what is a way of writing it, and from nothing else; for each
    of these the normal form stands for the same element type and byte order, or for the same error, and it is its own
    normal form. -/
theorem normal_form_reads_back (d : Descriptor) :
    ofJson? d.toJson = some d ∧
      (Json.ofBytes? (Utf8.encode d.toJson.render)).bind ofJson? =
        (if d.toJson.depth ≤ Json.nestingLimit then some d else none) ∧
      (∀ v, ofJson? v = some d ↔ d.WrittenAs v) ∧
      ∀ v, ofJson? v = some d → parseType d.toJson = parseType v ∧ normalForm? v = some d.toJson ∧
        normalForm? d.toJson = some d.toJson := by
  have back : ofJson? d.toJson = some d := (ofJson?_eq_some_iff d _).mpr d.writtenAs_toJson
  refine ⟨back, ?_, ofJson?_eq_some_iff d, fun v hv => ⟨?_, ?_, ?_⟩⟩
  · rw [d.valid_toJson.ofBytes?_render]
    split
    · rw [Option.bind_some, back]
    · rfl
  · simp only [parseType, back, hv]
  · rw [normalForm?, hv, Option.map_some]
  · rw [normalForm?, back, Option.map_some]

/-- A label of six bytes and a row of numbers. -/
def labelledRow : Descriptor :=
  .compound [("label", .string (.fixed 6)), ("row", .sequence (.predefined "H5T_IEEE_F64BE"))]

/-- The same, with a field that is not known, the class after the fields, and arrays in place of objects. -/
def labelledRowLoosely : Json :=
  .object [("note", .null),
    ("fields", .array [.array [.string "label", .object [("strPad", .bool true), ("length", .number (.unsigned 6)),
        ("class", .string "H5T_STRING")]],
      .object [("type", .array [.string "H5T_VLEN", .string "H5T_IEEE_F64BE"]), ("name", .string "row")]]),
    ("class", .string "H5T_COMPOUND")]

theorem normal_form_reads_back_labelledRow : ofJson? labelledRowLoosely = some labelledRow ∧
    parseType labelledRow.toJson = parseType labelledRowLoosely ∧
    normalForm? labelledRowLoosely = some labelledRow.toJson := by
  have read : ofJson? labelledRowLoosely = some labelledRow := by rfl
  obtain ⟨-, -, -, same⟩ := normal_form_reads_back labelledRow
  obtain ⟨type, normal, -⟩ := same labelledRowLoosely read
  exact ⟨read, type, normal⟩

end Descriptor

end ArrayTransfer
