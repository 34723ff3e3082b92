import ArrayTransfer.Proofs.Selection.IndexRange
import ArrayTransfer.Proofs.Selection.Indices
import ArrayTransfer.Proofs.Text.Digits
import ArrayTransfer.Selection.Encoding

/-! Reading encoded selections back. The readers take a query text or the fields of a body for what its grammar says,
    and know nothing of the selection that was written. What is written for a hyperslab reads back as one range for
    each dimension, in both forms; what is written for points reads back as the points. A hyperslab is refused
    exactly if some dimension has the indices of no range. -/

namespace ArrayTransfer

/-! ### Readers -/

/-- A range `start:stop:step`. -/
def IndexRange.ofText? (cs : List Char) : Option IndexRange :=
  match cs.splitOn ':' with
  | [start, stop, step] =>
    match Text.decimal? start, Text.decimal? stop, Text.decimal? step with
    | some start, some stop, some step => some ⟨start, stop, step⟩
    | _, _, _ => none
  | _ => none

/-- The ranges of three lists of words of one length. -/
def IndexRange.zip? : (start stop step : List UInt64) → Option (List IndexRange)
  | [], [], [] => some []
  | a :: start, b :: stop, c :: step => (zip? start stop step).map (⟨a.toNat, b.toNat, c.toNat⟩ :: ·)
  | _, _, _ => none

namespace Selection

/-- The ranges of a query, between brackets and with commas between them. -/
def readQuery? (text : String) : Option (List IndexRange) :=
  match text.toList with
  | '[' :: rest => if rest.getLast? = some ']' then (rest.dropLast.splitOn ',').mapM IndexRange.ofText? else .none
  | _ => .none

/-- A whole number that is a word. -/
def readWord? : Json → Option UInt64
  | .number (.unsigned n) => some n
  | _ => .none

/-- An array of words. -/
def readWords? : Json → Option (List UInt64)
  | .array items => items.mapM readWord?
  | _ => .none

/-- A point: its coordinates, or its only coordinate. -/
def readPoint? (v : Json) : Option (List UInt64) :=
  match readWord? v with
  | some i => some [i]
  | .none => readWords? v

/-- The ranges in the fields of a body. -/
def readRanges? (fields : List (String × Json)) : Option (List IndexRange) := do
  let start ← (Json.lookup "start" fields).bind readWords?
  let stop ← (Json.lookup "stop" fields).bind readWords?
  let step ← (Json.lookup "step" fields).bind readWords?
  IndexRange.zip? start stop step

/-- The points in the fields of a body. -/
def readPoints? (fields : List (String × Json)) : Option (List (List UInt64)) :=
  match Json.lookup "points" fields with
  | some (.array items) => items.mapM readPoint?
  | _ => .none

/-! ### Queries -/

theorem toList_rangeText (a : Axis) : (rangeText a).toList =
    [':'].intercalate [Nat.toDigits 10 a.start.toNat, Nat.toDigits 10 a.stop.toNat, Nat.toDigits 10 a.step.toNat] := by
  simp [rangeText, Text.toList_toString_word]

theorem not_mem_toDigits {c : Char} (hc : c.isDigit = false) (n : Nat) : c ∉ Nat.toDigits 10 n := fun h => by
  rw [Text.isDigit_of_mem_toDigits h] at hc
  cases hc

theorem ofText?_rangeText (a : Axis) : IndexRange.ofText? (rangeText a).toList = some a.range := by
  have pieces : (rangeText a).toList.splitOn ':' =
      [Nat.toDigits 10 a.start.toNat, Nat.toDigits 10 a.stop.toNat, Nat.toDigits 10 a.step.toNat] := by
    rw [toList_rangeText]
    refine List.splitOn_intercalate ':' ?_ (by simp)
    simp [not_mem_toDigits]
  simp only [IndexRange.ofText?, pieces, Text.decimal?_toDigits]
  rfl

theorem not_mem_rangeText {c : Char} (word : c.isDigit = false) (apart : c ≠ ':') (a : Axis) :
    c ∉ (rangeText a).toList := by
  rw [toList_rangeText]
  simp [not_mem_toDigits word, apart]

theorem readQuery?_rangeTexts {axes : List Axis} (hne : axes ≠ []) :
    readQuery? ("[" ++ ",".intercalate (axes.map rangeText) ++ "]") = some (axes.map Axis.range) := by
  have split : ([','].intercalate (axes.map fun a => (rangeText a).toList)).splitOn ',' =
      axes.map fun a => (rangeText a).toList := by
    refine List.splitOn_intercalate ',' ?_ (by simpa using hne)
    simp [not_mem_rangeText]
  simp only [readQuery?, String.toList_append, String.toList_intercalate, List.map_map, Function.comp_def,
    String.reduceToList, List.cons_append, List.nil_append, List.getLast?_concat, List.dropLast_concat, ↓reduceIte,
    split]
  rw [List.mapM_map, Function.comp_def]
  exact mapM_eq_some fun a _ => ofText?_rangeText a

theorem not_mem_intercalate {c separator : Char} (apart : c ≠ separator) {pieces : List (List Char)}
    (clear : ∀ p ∈ pieces, c ∉ p) : c ∉ [separator].intercalate pieces := by
  induction pieces with
  | nil => simp
  | cons p pieces ih =>
    obtain ⟨here, rest⟩ := List.forall_mem_cons.mp clear
    cases pieces with
    | nil => simpa using here
    | cons q pieces =>
      rw [List.intercalate_cons_cons]
      simp [here, apart, ih rest]

/-- A query is written with digits and four other characters. -/
theorem not_mem_queryText {s : Selection} {text : String} (h : s.queryText = .ok text) {c : Char}
    (word : c.isDigit = false) (apart : c ∉ ['[', ':', ',', ']']) : c ∉ text.toList := by
  simp only [List.mem_cons, List.not_mem_nil, or_false, not_or] at apart
  obtain ⟨opening, colon, comma, closing⟩ := apart
  cases s with
  | all =>
    cases h
    exact List.not_mem_nil
  | none =>
    cases h
    exact List.not_mem_nil
  | points => cases h
  | hyperslab slab =>
    unfold queryText at h
    cases checked : checkRanges slab with
    | error e =>
      simp only [checked] at h
      cases h
    | ok =>
      simp only [checked] at h
      cases h
      have ranges : c ∉ [','].intercalate (slab.axes.map fun a => (rangeText a).toList) :=
        not_mem_intercalate comma (List.forall_mem_map.mpr fun a _ => not_mem_rangeText word colon a)
      simpa [String.toList_intercalate, Function.comp_def, opening, closing] using ranges

/-! ### Fields -/

theorem readWords?_numbersJson (ns : List UInt64) : readWords? (numbersJson ns) = some ns := by
  have words : (ns.map Json.ofUInt64).mapM readWord? = some (ns.map id) :=
    List.mapM_map.trans (mapM_eq_some fun _ _ => rfl)
  rw [numbersJson, readWords?, words, List.map_id]

theorem readPoint?_pointJson (point : List UInt64) : readPoint? (pointJson point) = some point := by
  unfold pointJson
  split
  · rfl
  · exact readWords?_numbersJson point

theorem zip?_axes (axes : List Axis) :
    IndexRange.zip? (axes.map (·.start)) (axes.map Axis.stop) (axes.map Axis.step) = some (axes.map Axis.range) := by
  induction axes with
  | nil => rfl
  | cons a axes ih => simp [IndexRange.zip?, ih, Axis.range]

theorem readRanges?_fields (h : Hyperslab) (more : List (String × Json)) :
    readRanges? (("start", numbersJson (h.axes.map (·.start))) :: ("stop", numbersJson h.stop) ::
      ("step", numbersJson h.step) :: more) = some (h.axes.map Axis.range) := by
  simp [readRanges?, Json.lookup, readWords?_numbersJson, Hyperslab.stop, Hyperslab.step, zip?_axes]

theorem readPoints?_fields (points : List (List UInt64)) (more : List (String × Json)) :
    readPoints? (("points", .array (points.map pointJson)) :: more) = some points := by
  simp only [readPoints?, Json.lookup, ↓reduceIte]
  have lists : (points.map pointJson).mapM readPoint? = some (points.map id) :=
    List.mapM_map.trans (mapM_eq_some fun p _ => readPoint?_pointJson p)
  rw [lists, List.map_id]

end Selection

/-! ### Hyperslabs that are refused -/

namespace Hyperslab
variable {h : Hyperslab} {k : Nat}

/-- No range has the indices that are selected in dimension `k`. -/
def Unaddressable (h : Hyperslab) (k : Nat) : Prop :=
  ∃ a, h.axes[k]? = some a ∧ ∀ r : IndexRange, ¬r.Addresses a

/-- The first dimension that no range can address. -/
def RefusedAt (h : Hyperslab) (k : Nat) : Prop := h.Unaddressable k ∧ ∀ j < k, ¬h.Unaddressable j

theorem unaddressable_iff : h.Unaddressable k ↔ ∃ a, h.axes[k]? = some a ∧ a.isRange = false := by
  constructor
  · rintro ⟨a, ha, hr⟩
    refine ⟨a, ha, ?_⟩
    cases hs : a.isRange with
    | false => rfl
    | true =>
      have hi := (h.valid a (List.mem_of_getElem? ha)).indices_range hs
      exact absurd (fun n => by rw [hi]) (hr a.range)
  · rintro ⟨a, ha, hr⟩
    refine ⟨a, ha, fun r hra => ?_⟩
    rw [(h.valid a (List.mem_of_getElem? ha)).isRange_of_addresses hra] at hr
    cases hr

theorem firstNonRange?_eq_some_iff : h.firstNonRange? = some k ↔ h.RefusedAt k := by
  simp only [firstNonRange?, List.findIdx?_eq_some_iff_getElem, RefusedAt, unaddressable_iff, Bool.not_eq_eq_eq_not,
    Bool.not_true]
  constructor
  · rintro ⟨hk, hr, hj⟩
    refine ⟨⟨_, List.getElem?_eq_getElem hk, hr⟩, ?_⟩
    rintro j hjk ⟨a, ha, hra⟩
    obtain ⟨hjl, rfl⟩ := List.getElem?_eq_some_iff.mp ha
    exact hj j hjk hra
  · rintro ⟨⟨a, ha, hra⟩, hj⟩
    obtain ⟨hk, rfl⟩ := List.getElem?_eq_some_iff.mp ha
    refine ⟨hk, hra, fun j hjk hf => ?_⟩
    have hjl := Nat.lt_trans hjk hk
    exact hj j hjk ⟨_, List.getElem?_eq_getElem hjl, hf⟩

theorem isRange_of_firstNonRange?_none (hn : h.firstNonRange? = none) : ∀ a ∈ h.axes, a.isRange = true := by
  intro a ha
  have := List.findIdx?_eq_none_iff.mp hn a ha
  simpa using this

theorem checkRanges_eq_error_iff {e : SelectionError} :
    Selection.checkRanges h = .error e ↔ ∃ k, h.RefusedAt k ∧ e = .unrepresentable h.render k := by
  simp only [← firstNonRange?_eq_some_iff, Selection.checkRanges]
  cases h.firstNonRange? with
  | none => simp
  | some k => simp [eq_comm]

theorem exists_refusedAt_iff : (∃ k, h.RefusedAt k) ↔ ∃ k, h.Unaddressable k := by
  constructor
  · rintro ⟨k, hk, -⟩
    exact ⟨k, hk⟩
  · rintro ⟨k, hk⟩
    induction k using Nat.strongRecOn with
    | ind k ih =>
      by_cases hj : ∃ j < k, h.Unaddressable j
      · obtain ⟨j, hjk, hj⟩ := hj
        exact ih j hjk hj
      · exact ⟨k, hk, fun j hjk hu => hj ⟨j, hjk, hu⟩⟩

end Hyperslab

/-! ### Both forms -/

namespace Selection

theorem isRange_of_checkRanges {h : Hyperslab} (hc : checkRanges h = .ok ()) : ∀ a ∈ h.axes, a.isRange = true := by
  rw [checkRanges] at hc
  split at hc
  · cases hc
  · rename_i hn
    exact Hyperslab.isRange_of_firstNonRange?_none hn

theorem queryText_eq_error_iff {h : Hyperslab} {e : SelectionError} :
    (hyperslab h).queryText = .error e ↔ checkRanges h = .error e := by
  simp only [queryText]
  cases checkRanges h <;> simp [Except.map]

theorem bodyFields_eq_error_iff {h : Hyperslab} {e : SelectionError} :
    (hyperslab h).bodyFields = .error e ↔ checkRanges h = .error e := by
  simp only [bodyFields]
  cases checkRanges h <;> simp [Except.map]

/-- What is written of a hyperslab reads back as its ranges in both forms. -/
theorem read_hyperslab {h : Hyperslab} (hc : checkRanges h = .ok ()) :
    (∃ text, (hyperslab h).queryText = .ok text ∧ readQuery? text = some (h.axes.map Axis.range)) ∧
      ∃ fields, (hyperslab h).bodyFields = .ok fields ∧
        ∀ more, readRanges? (fields ++ more) = some (h.axes.map Axis.range) := by
  refine ⟨⟨_, by rw [queryText, hc]; rfl, readQuery?_rangeTexts h.nonempty⟩, _, by rw [bodyFields, hc]; rfl, ?_⟩
  exact readRanges?_fields h

theorem ranges_spec {h : Hyperslab} (hc : checkRanges h = .ok ()) :
    (∀ r ∈ h.axes.map Axis.range, 1 ≤ r.step) ∧
      grid ((h.axes.map Axis.range).map IndexRange.indices) = h.coordinates := by
  have ha := isRange_of_checkRanges hc
  constructor
  · intro r hr
    obtain ⟨a, hm, rfl⟩ := List.mem_map.mp hr
    exact (h.valid a hm).one_le_step
  · have indices : h.axes.map (fun a => a.range.indices) = h.axes.map Axis.indices :=
      List.map_congr_left fun a hm => (h.valid a hm).indices_range (ha a hm)
    rw [List.map_map, Function.comp_def, indices, Hyperslab.coordinates]

theorem checkRanges_of_queryText {h : Hyperslab} {text : String} (ht : (hyperslab h).queryText = .ok text) :
    checkRanges h = .ok () := by
  cases hc : checkRanges h with
  | ok => rfl
  | error e =>
    rw [queryText_eq_error_iff.mpr hc] at ht
    cases ht

theorem checkRanges_of_bodyFields {h : Hyperslab} {fields : List (String × Json)}
    (hf : (hyperslab h).bodyFields = .ok fields) : checkRanges h = .ok () := by
  cases hc : checkRanges h with
  | ok => rfl
  | error e =>
    rw [bodyFields_eq_error_iff.mpr hc] at hf
    cases hf

/-- The query that is written of a hyperslab reads back as its ranges. -/
theorem readQuery?_of_queryText {h : Hyperslab} {text : String} (ht : (hyperslab h).queryText = .ok text) :
    checkRanges h = .ok () ∧ readQuery? text = some (h.axes.map Axis.range) := by
  have hc := checkRanges_of_queryText ht
  obtain ⟨⟨text', ht', read⟩, -⟩ := read_hyperslab hc
  obtain rfl : text' = text := Except.ok.inj (ht'.symm.trans ht)
  exact ⟨hc, read⟩

/-- Encodings of selections read back. If a hyperslab is encoded, both forms hold the same ranges, their steps are
    positive, and their indices are the coordinates of the hyperslab in the order in which it is walked. It is refused,
    in both forms and for one dimension, exactly if no range has the indices of that dimension, the first such one.
    Points read back as they are, and never go into a query. -/
theorem encoding_round_trip :
    (∀ (h : Hyperslab) (text : String), (hyperslab h).queryText = .ok text →
      ∃ fields ranges, (hyperslab h).bodyFields = .ok fields ∧ readQuery? text = some ranges ∧
        readRanges? fields = some ranges ∧ (∀ r ∈ ranges, 1 ≤ r.step) ∧
        grid (ranges.map IndexRange.indices) = h.coordinates ∧
        ∀ d : Dataspace, d.selection = .hyperslab h →
          d.indices = (grid (ranges.map IndexRange.indices)).map fun p => UInt64.ofNat (offset d.shape p)) ∧
    (∀ (h : Hyperslab) (e : SelectionError),
      ((hyperslab h).queryText = .error e ↔ ∃ k, h.RefusedAt k ∧ e = .unrepresentable h.render k) ∧
      ((hyperslab h).bodyFields = .error e ↔ ∃ k, h.RefusedAt k ∧ e = .unrepresentable h.render k)) ∧
    (∀ h : Hyperslab, (∃ e, (hyperslab h).queryText = .error e) ↔ ∃ k, h.Unaddressable k) ∧
    ∀ p : Points, (points p).queryText = .error .pointsInQuery ∧
      ∃ fields, (points p).bodyFields = .ok fields ∧ readPoints? fields = some p.points := by
  refine ⟨fun h text ht => ?_, fun h e => ?_, fun h => ?_, fun p => ⟨rfl, _, rfl, readPoints?_fields p.points []⟩⟩
  · obtain ⟨hc, hq⟩ := readQuery?_of_queryText ht
    obtain ⟨-, fields, hf, hb⟩ := read_hyperslab hc
    obtain ⟨hstep, hgrid⟩ := ranges_spec hc
    have hb := hb []
    rw [List.append_nil] at hb
    refine ⟨fields, _, hf, hq, hb, hstep, hgrid, fun d hd => ?_⟩
    rw [Dataspace.indices_hyperslab hd, hgrid, Hyperslab.coordinates]
  · exact ⟨queryText_eq_error_iff.trans Hyperslab.checkRanges_eq_error_iff,
      bodyFields_eq_error_iff.trans Hyperslab.checkRanges_eq_error_iff⟩
  · simp only [queryText_eq_error_iff, Hyperslab.checkRanges_eq_error_iff, ← Hyperslab.exists_refusedAt_iff]
    constructor
    · rintro ⟨_, k, hk, -⟩
      exact ⟨k, hk⟩
    · rintro ⟨k, hk⟩
      exact ⟨_, k, hk, rfl⟩

/-- Every other index from ten on, five of them. -/
def everyOther : Hyperslab where
  axes := [⟨10, 2, 5, 1⟩]
  nonempty := by decide
  valid := by decide
  product_lt := by decide

theorem encoding_round_trip_everyOther : (hyperslab everyOther).queryText = .ok "[10:19:2]" ∧
    ∃ fields ranges, (hyperslab everyOther).bodyFields = .ok fields ∧ readQuery? "[10:19:2]" = some ranges ∧
      readRanges? fields = some ranges ∧ grid (ranges.map IndexRange.indices) = [[10], [12], [14], [16], [18]] := by
  have text : (hyperslab everyOther).queryText = .ok "[10:19:2]" := by rfl
  obtain ⟨fields, ranges, hf, hq, hb, -, hg, -⟩ := encoding_round_trip.1 everyOther _ text
  exact ⟨text, fields, ranges, hf, hq, hb, hg.trans (by decide)⟩

end Selection

end ArrayTransfer
