import ArrayTransfer.Http.Request
import ArrayTransfer.Proofs.Selection.Encoding
import ArrayTransfer.Proofs.Text.Base64
import ArrayTransfer.Proofs.Wire.Body
import ArrayTransfer.Text.Split

/-! Requests that write, read by the grammar of the store. The readers know the mode, and the type, byte order and number
    of the elements, and nothing of the array, of the selection or of the form that was chosen for the elements. A
    selection is looked for in each parameter of the URL and in the fields of the body, and the elements are looked for
    in both forms. -/

namespace ArrayTransfer

/-- A selection as a request carries it. -/
inductive Carried where
  | ranges (ranges : List IndexRange)
  | points (points : List (List UInt64))
  deriving DecidableEq

namespace Carried

/-- The coordinates that a carried selection denotes in an array of the shape, in order: all of them if none is
    carried. -/
def coordinates (shape : List UInt64) : Option Carried → List (List Nat)
  | none => grid (shape.map fun extent => List.range extent.toNat)
  | some (.ranges rs) => grid (rs.map IndexRange.indices)
  | some (.points ps) => ps.map fun p => p.map UInt64.toNat

/-- The indices that a carried selection denotes. -/
def indices (shape : List UInt64) (carried : Option Carried) : List UInt64 :=
  (coordinates shape carried).map fun p => UInt64.ofNat (offset shape p)

/-- What stands in a URL before its query, and the parameters of the query. What follows a number sign is not read. -/
def splitUrl (url : String) : List Char × List (List Char) :=
  let (address, _) := Text.cut (· = '#') url.toList
  match Text.cut (· = '?') address with
  | (path, []) => (path, [])
  | (path, _ :: query) => (path, query.splitOn '&')

def selectKey : List Char := ['s', 'e', 'l', 'e', 'c', 't', '=']

/-- The selections in a URL: those of the parameters that select. -/
def inUrl? (url : String) : Option (List Carried) :=
  ((splitUrl url).2.filter selectKey.isPrefixOf).mapM fun parameter =>
    (Selection.readQuery? (String.ofList (parameter.drop selectKey.length))).map ranges

/-- The selections in the fields of a body: ranges if a field of theirs is there, and points if theirs is. -/
def inFields? (fields : List (String × Json)) : Option (List Carried) := do
  let inRanges := ["start", "stop", "step"].any fun key => (Json.lookup key fields).isSome
  let ranges ← if inRanges then (Selection.readRanges? fields).map fun rs => [.ranges rs] else some []
  let points ← if (Json.lookup "points" fields).isSome then (Selection.readPoints? fields).map fun ps => [.points ps]
    else some []
  return ranges ++ points

end Carried

namespace Body

/-- The fields of a JSON body. -/
def fields? (body : Bytes) : Option (List (String × Json)) :=
  match Json.read? body with
  | some (.object fields) => some fields
  | _ => none

/-- The packed elements in the fields of a body, in one of the two forms. -/
def inFields? (t : DataType) (order : ByteOrder) (count : Nat) (fields : List (String × Json)) : Option Bytes :=
  match Json.lookup "value_base64" fields, Json.lookup "value" fields with
  | some (.string s), none => (Base64.decode? s).bind fun b => (decodeBinary b t order count).toOption
  | none, some v => (Elements.decode v t count).toOption
  | _, _ => none

end Body

namespace Request

/-- The path that a request goes to. -/
def path (r : Request) : String := String.ofList (Carried.splitUrl r.url).1

/-- All selections that a request carries. -/
def carried? (mode : TransferMode) (r : Request) : Option (List Carried) := do
  let inUrl ← Carried.inUrl? r.url
  let inBody ← match mode with
    | .binary => some []
    | .json => (Body.fields? r.body).bind Carried.inFields?
  return inUrl ++ inBody

/-- The packed elements that a request carries. -/
def elements? (mode : TransferMode) (t : DataType) (order : ByteOrder) (count : Nat) (r : Request) : Option Bytes :=
  match mode with
  | .binary => (Body.decodeBinary r.body t order count).toOption
  | .json => (Body.fields? r.body).bind (Body.inFields? t order count)

end Request

/-! ### Selections -/

namespace Carried
variable {path query : String} {slab : Hyperslab} {d : Dataspace}

/-- A text that leaves the parts of a URL where they are. -/
def Plain (text : String) : Prop := ∀ c ∈ text.toList, c ≠ '?' ∧ c ≠ '#'

instance (text : String) : Decidable (Plain text) := List.decidableBAll (fun c => c ≠ '?' ∧ c ≠ '#') text.toList

theorem Plain.append {front back : String} (hf : Plain front) (hb : Plain back) : Plain (front ++ back) := by
  unfold Plain
  rw [String.toList_append, List.forall_mem_append]
  exact ⟨hf, hb⟩

theorem cut_plain (plain : Plain path) {rest : List Char} (starts : ∀ c ∈ rest.head?, c = '?') :
    Text.cut (· = '?') (path.toList ++ rest) = (path.toList, rest) :=
  Text.cut_append (fun c hc => decide_eq_false (plain c hc).1) fun c hc => decide_eq_true (starts c hc)

theorem cut_unmarked {text : List Char} (unmarked : '#' ∉ text) : Text.cut (· = '#') text = (text, []) := by
  have whole : Text.cut (· = '#') (text ++ []) = (text, []) :=
    Text.cut_append (fun c hc => decide_eq_false fun same => unmarked (same ▸ hc)) nofun
  rwa [List.append_nil] at whole

theorem splitUrl_path (plain : Plain path) : splitUrl path = (path.toList, []) := by
  have bare : Text.cut (· = '?') (path.toList ++ []) = _ := cut_plain plain nofun
  rw [List.append_nil] at bare
  unfold splitUrl
  simp only [cut_unmarked fun marked => (plain '#' marked).2 rfl, bare]

theorem splitUrl_query (plain : Plain path) (unmarked : '#' ∉ query.toList) :
    splitUrl (path ++ "?select=" ++ query) = (path.toList, (selectKey ++ query.toList).splitOn '&') := by
  have text : (path ++ "?select=" ++ query).toList = path.toList ++ '?' :: (selectKey ++ query.toList) := by
    simp [String.toList_append, selectKey]
  have clear : '#' ∉ (path ++ "?select=" ++ query).toList := by
    rw [text]
    simp [unmarked, selectKey, show '#' ∉ path.toList from fun marked => (plain '#' marked).2 rfl]
  have parted : Text.cut (· = '?') (path.toList ++ '?' :: (selectKey ++ query.toList)) = _ :=
    cut_plain plain fun c hc => (Option.some.inj hc).symm
  unfold splitUrl
  rw [cut_unmarked clear, text]
  simp only [parted]

theorem inUrl?_path (plain : Plain path) : inUrl? path = some [] := by
  rw [inUrl?, splitUrl_path plain]
  rfl

theorem inUrl?_query (plain : Plain path) (unmarked : '#' ∉ query.toList) (single : '&' ∉ query.toList)
    {ranges : List IndexRange} (read : Selection.readQuery? query = some ranges) :
    inUrl? (path ++ "?select=" ++ query) = some [.ranges ranges] := by
  have one : (selectKey ++ query.toList).splitOn '&' = [selectKey ++ query.toList] :=
    List.splitOn_eq_singleton (by simp [single, selectKey])
  have selects : selectKey.isPrefixOf (selectKey ++ query.toList) = true :=
    List.isPrefixOf_iff_prefix.mpr (List.prefix_append ..)
  rw [inUrl?, splitUrl_query plain unmarked, one]
  simp [selects, read]

/-- Everything, row by row, is every place of the array. -/
theorem offset_everything (shape : List UInt64) :
    (coordinates shape none).map (offset shape) = List.range (volume shape) := by
  induction shape with
  | nil => rfl
  | cons extent shape ih =>
    rw [coordinates, List.map_cons, grid, volume, List.map_flatMap]
    rw [coordinates] at ih
    have row : ∀ k, ((grid (shape.map fun e => List.range e.toNat)).map (k :: ·)).map (offset (extent :: shape)) =
        (List.range (volume shape)).map (k * volume shape + ·) := by
      intro k
      rw [List.map_map, ← ih, List.map_map]
      rfl
    simp only [row]
    generalize extent.toNat = n
    induction n with
    | zero => simp
    | succ n ihn =>
      rw [List.range_succ, List.flatMap_append, ihn, List.flatMap_singleton, Nat.succ_mul, List.range_add]

theorem indices_all (hs : d.selection = .all) (hc : d.count < UInt64.size) : indices d.shape none = d.indices := by
  rw [indices, Dataspace.indices_all hs hc, ← offset_everything, List.map_map]
  rfl

theorem indices_points {p : Points} (hs : d.selection = .points p) (hc : d.count < UInt64.size) :
    indices d.shape (some (.points p.points)) = d.indices := by
  rw [indices, Dataspace.indices_points hs hc, coordinates, List.map_map]
  rfl

theorem indices_hyperslab (hs : d.selection = .hyperslab slab) (hc : Selection.checkRanges slab = .ok ()) :
    indices d.shape (some (.ranges (slab.axes.map Axis.range))) = d.indices := by
  rw [indices, Dataspace.indices_hyperslab hs, coordinates, (Selection.ranges_spec hc).2]
  rfl

/-- A selection with the one that its fields carry. -/
inductive Written : Selection → Option Carried → List (String × Json) → Prop where
  | all : Written .all none []
  | points (p : Points) :
    Written (.points p) (some (.points p.points)) [("points", .array (p.points.map Selection.pointJson))]
  | hyperslab {h : Hyperslab} (checked : Selection.checkRanges h = .ok ()) :
    Written (.hyperslab h) (some (.ranges (h.axes.map Axis.range)))
      [("start", Selection.numbersJson (h.axes.map (·.start))), ("stop", Selection.numbersJson h.stop),
        ("step", Selection.numbersJson h.step)]

theorem written_of_bodyFields {s : Selection} {fields : List (String × Json)} (hs : s.kind ≠ .none)
    (h : s.bodyFields = .ok fields) : ∃ carried, Written s carried fields := by
  cases s with
  | all =>
    cases h
    exact ⟨_, .all⟩
  | none => exact absurd rfl hs
  | points p =>
    cases h
    exact ⟨_, .points p⟩
  | hyperslab slab =>
    rw [Selection.bodyFields] at h
    cases hc : Selection.checkRanges slab with
    | error e =>
      rw [hc] at h
      cases h
    | ok =>
      rw [hc] at h
      cases h
      exact ⟨_, .hyperslab hc⟩

/-- The fields of any selection are those of one that carries something. -/
theorem exists_written {s : Selection} {fields : List (String × Json)} (h : s.bodyFields = .ok fields) :
    ∃ s' carried, Written s' carried fields := by
  by_cases hs : s.kind = .none
  · cases s with
    | none =>
      cases h
      exact ⟨.all, _, .all⟩
    | _ => cases hs
  · obtain ⟨carried, written⟩ := written_of_bodyFields hs h
    exact ⟨s, carried, written⟩

section written
variable {s : Selection} {carried : Option Carried} {fields : List (String × Json)} (h : Written s carried fields)
include h

theorem Written.eq_none_iff : carried = none ↔ s = .all := by
  cases h <;> simp

theorem Written.indices_eq (hs : d.selection = s) (hc : d.count < UInt64.size) : indices d.shape carried = d.indices := by
  cases h with
  | all => exact indices_all hs hc
  | points p => exact indices_points hs hc
  | hyperslab checked => exact indices_hyperslab hs checked

/-- The fields are read whatever field of elements follows them. -/
theorem Written.inFields?_append {f : String × Json} (hf : f.1 = "value" ∨ f.1 = "value_base64") :
    inFields? (fields ++ [f]) = some carried.toList := by
  obtain ⟨name, v⟩ := f
  cases h with
  | all => rcases hf with rfl | rfl <;> rfl
  | points p =>
    have read := Selection.readPoints?_fields p.points [(name, v)]
    simp only [List.cons_append, List.nil_append] at read ⊢
    rcases hf with rfl | rfl <;> simp [inFields?, Json.lookup, read]
  | @hyperslab slab checked =>
    have read := Selection.readRanges?_fields slab [(name, v)]
    simp only [List.cons_append, List.nil_append] at read ⊢
    rcases hf with rfl | rfl <;> simp [inFields?, Json.lookup, read]

theorem Written.lookup_append {key : String} (hk : key = "value" ∨ key = "value_base64") (f : String × Json) :
    Json.lookup key (fields ++ [f]) = Json.lookup key [f] := by
  cases h <;> rcases hk with rfl | rfl <;> simp [Json.lookup]

theorem Written.valid {f : String × Json} (hf : f.1 = "value" ∨ f.1 = "value_base64") (hv : Json.Valid f.2) :
    Json.Valid (.object (fields ++ [f])) := by
  have words : ∀ ns, Json.Valid (Selection.numbersJson ns) := fun ns => by
    refine .array ?_
    rw [List.forall_mem_map]
    exact fun n _ => .number trivial
  have points : ∀ point, Json.Valid (Selection.pointJson point) := fun point => by
    unfold Selection.pointJson
    split
    · exact .number trivial
    · exact words _
  obtain ⟨name, v⟩ := f
  cases h with
  | all => exact .object (by simp) (by simpa using hv)
  | points p =>
    refine .object (by rcases hf with rfl | rfl <;> simp) ?_
    rw [List.cons_append, List.nil_append, List.forall_mem_cons, List.forall_mem_singleton]
    refine ⟨.array ?_, hv⟩
    rw [List.forall_mem_map]
    exact fun point _ => points point
  | hyperslab checked =>
    refine .object (by rcases hf with rfl | rfl <;> simp) ?_
    rw [List.cons_append, List.cons_append, List.cons_append, List.nil_append, List.forall_mem_cons, List.forall_mem_cons,
      List.forall_mem_cons, List.forall_mem_singleton]
    exact ⟨words _, words _, words _, hv⟩

end written

end Carried

/-! ### Elements -/

namespace Body
variable {t : DataType} {order : ByteOrder} {es : List Bytes} {f : String × Json} {base64 : Bool} {s : Selection}
  {body : RequestBody}

/-- The form of the elements: base64 if it is asked for and the type has no references. -/
theorem valueField_eq_ok {elements : Bytes} {count : Nat} (h : valueField t order elements count base64 = .ok f) :
    (f.1 = "value" ∨ f.1 = "value_base64") ∧ Json.Valid f.2 := by
  unfold valueField at h
  split at h
  · cases h
    exact ⟨.inr rfl, .string _⟩
  · cases hv : Elements.encode elements t count with
    | error e =>
      rw [hv] at h
      cases h
    | ok v =>
      rw [hv] at h
      cases h
      obtain ⟨items, rfl, valid⟩ := Elements.encode_eq_ok hv
      exact ⟨.inl rfl, .array valid⟩

/-- The elements that a reader of the field finds: as they are in base64, and as `viaJson` says in values. -/
theorem inFields?_valueField (hw : t.WellFormed) (hf : t.isVariable = false) (sizes : ∀ e ∈ es, e.length = t.size)
    (h : valueField t order es.flatten es.length base64 = .ok f) : inFields? t order es.length [f] =
      some (if base64 = true ∧ t.holdsReference = false then es else es.map (WireValue.viaJson t)).flatten := by
  unfold valueField at h
  split at h
  · rename_i raw
    rw [if_pos (by simpa using raw)]
    cases h
    have raw := decodeBinary_map hw hf order sizes
    rw [← hw.toNative_flatten order sizes] at raw
    simp [inFields?, Json.lookup, Base64.decode?_encode, raw, Except.toOption]
  · rename_i plain
    rw [if_neg (by simpa using plain)]
    cases hr : Elements.readAll t es with
    | error e =>
      rw [Elements.encode_eq_readAll hf sizes, hr] at h
      cases h
    | ok vs =>
      obtain ⟨items, encoded, -, -, decode⟩ := Elements.decode_viaJson hf sizes hw (Elements.readable_of_readAll hr)
      rw [encoded] at h
      cases h
      simp [inFields?, Json.lookup, decode _ (Elements.Nests.refl items).whole, Except.toOption]

theorem fields?_render {fields : List (String × Json)} (h : Json.Valid (.object fields)) :
    fields? (Utf8.encode (Json.object fields).render) = some fields := by
  rw [fields?, h.read?_render]

theorem isSome_lookup_valueField {elements : Bytes} {count : Nat}
    (h : valueField t order elements count base64 = .ok f) :
    (Json.lookup "value_base64" [f]).isSome ↔ base64 = true ∧ t.holdsReference = false := by
  unfold valueField at h
  split at h
  · rename_i raw
    cases h
    exact iff_of_true rfl (by simpa using raw)
  · rename_i plain
    cases hv : Elements.encode elements t count with
    | error e =>
      rw [hv] at h
      cases h
    | ok v =>
      rw [hv] at h
      cases h
      exact iff_of_false (by simp [Json.lookup]) (by simpa using plain)

/-- A reader of a body in JSON finds the elements, whatever selection stands beside them. -/
theorem inFields?_encodeWrite (hw : t.WellFormed) (hf : t.isVariable = false) (sizes : ∀ e ∈ es, e.length = t.size)
    (hn : es.length ≠ 0) (h : encodeWrite .json s t order es.flatten es.length base64 = .ok body) :
    ∃ fields, fields? body.toBytes = some fields ∧
      ((Json.lookup "value_base64" fields).isSome ↔ base64 = true ∧ t.holdsReference = false) ∧
      inFields? t order es.length fields =
        some (if base64 = true ∧ t.holdsReference = false then es else es.map (WireValue.viaJson t)).flatten := by
  obtain ⟨-, ⟨json, -⟩ | ⟨-, fields, f, selected, valued, rfl⟩⟩ := encodeWrite_eq_ok h hn
  · cases json
  obtain ⟨s', carried, written⟩ := Carried.exists_written selected
  obtain ⟨name, valid⟩ := valueField_eq_ok valued
  refine ⟨fields ++ [f], fields?_render (written.valid name valid), ?_, ?_⟩
  · rw [written.lookup_append (.inr rfl)]
    exact isSome_lookup_valueField valued
  · rw [inFields?, written.lookup_append (.inr rfl), written.lookup_append (.inl rfl)]
    exact inFields?_valueField hw hf sizes valued

end Body

end ArrayTransfer
