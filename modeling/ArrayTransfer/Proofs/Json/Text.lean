import ArrayTransfer.Proofs.Json.Number
import ArrayTransfer.Proofs.Text.Utf8

/-! JSON text reads back. The text printed for a document, with fields of different names and numbers of their kinds, is
    read as the document if it nests no deeper than the reader goes, and else refused (`Valid.ofBytes?_render`). The proof
    follows the printer: each piece of text is read up to what stands behind it, with fuel for twice its length. -/

namespace ArrayTransfer.Json
variable {v : Json} {items : List Json} {fields : List (String × Json)} {rest : List Char} {fuel room : Nat}

mutual
/-- How deep a value nests. -/
def depth : Json → Nat
  | .null => 0
  | .bool _ => 0
  | .number _ => 0
  | .string _ => 0
  | .array items => depthItems items + 1
  | .object fields => depthFields fields + 1
termination_by structural v => v
/-- How deep items nest. -/
def depthItems : List Json → Nat
  | [] => 0
  | v :: rest => max v.depth (depthItems rest)
termination_by structural items => items
/-- How deep the values of fields nest. -/
def depthFields : List (String × Json) → Nat
  | [] => 0
  | (_, v) :: rest => max v.depth (depthFields rest)
termination_by structural fields => fields
end

/-- A document that a reader can give: the fields of an object have different names, and numbers are of their kinds. -/
inductive Valid : Json → Prop where
  | null : Valid .null
  | bool (b : Bool) : Valid (.bool b)
  | number {n : JsonNumber} (valid : n.IsValid) : Valid (.number n)
  | string (s : String) : Valid (.string s)
  | array {items : List Json} (valid : ∀ v ∈ items, Valid v) : Valid (.array items)
  | object {fields : List (String × Json)} (names : (fields.map (·.1)).Nodup) (valid : ∀ f ∈ fields, Valid f.2) :
    Valid (.object fields)

/-! ### Strings -/

theorem digit?_digitChar : ∀ d < 16, Text.digit? 16 (Nat.digitChar d) = some d := by decide

theorem readString_numeric {c : Char} (hc : c.toNat < 0x20) (rest : List Char) :
    readString .plain
        ('\\' :: 'u' :: '0' :: '0' :: Nat.digitChar (c.toNat / 16) :: Nat.digitChar (c.toNat % 16) :: rest) =
      (readString .plain rest).map fun p => (c :: p.1, p.2) := by
  have high := digit?_digitChar (c.toNat / 16) (by omega)
  have low := digit?_digitChar (c.toNat % 16) (by omega)
  have zero : Text.digit? 16 '0' = some 0 := by decide
  have code : ((0 * 16 + 0) * 16 + 0) * 16 + c.toNat / 16 = c.toNat / 16 := by omega
  have whole : c.toNat / 16 * 16 + c.toNat % 16 = c.toNat := by omega
  have close : closeEscape? none c.toNat = some (.inl c) := by
    unfold closeEscape?
    simp only
    rw [if_neg (by omega), if_neg (by omega), Char.ofNat_toNat]
  simp [readString, high, low, zero, whole, close]

theorem readString_escapeChar (c : Char) (rest : List Char) :
    readString .plain (escapeChar c ++ rest) = (readString .plain rest).map fun p => (c :: p.1, p.2) := by
  unfold escapeChar
  split
  · subst_vars; rfl
  split
  · subst_vars; rfl
  split
  · subst_vars; rfl
  split
  · subst_vars; rfl
  split
  · subst_vars; rfl
  split
  · subst_vars; rfl
  split
  · subst_vars; rfl
  split
  · rename_i h
    exact readString_numeric h rest
  · rename_i h1 h2 h3 h4 h5 h6 h7 h8
    simp only [List.cons_append, List.nil_append, readString]
    rw [if_neg h1, if_neg h2, if_neg h8]

theorem readString_stringChars (s : String) (rest : List Char) :
    readString .plain (s.toList.flatMap escapeChar ++ '\"' :: rest) = some (s.toList, rest) := by
  generalize s.toList = cs
  induction cs with
  | nil => simp [readString]
  | cons c cs ih => rw [List.flatMap_cons, List.append_assoc, readString_escapeChar, ih, Option.map_some]

/-! ### Values -/

theorem skipBlanks_cons {c : Char} (hc : isBlank c = false) (rest : List Char) : skipBlanks (c :: rest) = c :: rest :=
  List.dropWhile_cons_of_neg (by simp [hc])

/-- What stands behind a value: a comma, a closing bracket, or nothing. -/
def Closes (rest : List Char) : Prop := rest = [] ∨ ∃ c cs, rest = c :: cs ∧ (c = ',' ∨ c = ']' ∨ c = '\x7d')

theorem Closes.stops (h : Closes rest) : Stops rest := by
  rcases h with rfl | ⟨c, cs, rfl, rfl | rfl | rfl⟩
  · exact stops_nil
  · exact stops_cons (by decide)
  · exact stops_cons (by decide)
  · exact stops_cons (by decide)

theorem isBlank_of_digit {a : Char} (ha : isDigit a = true) : isBlank a = false := by
  rw [Bool.eq_false_iff]
  intro h
  simp only [isBlank, Bool.or_eq_true, beq_iff_eq] at h
  rcases h with ((rfl | rfl) | rfl) | rfl <;> exact absurd ha (by decide)

theorem readValue_number {a : Char} {as : List Char} (ha : isDigit a = true ∨ a = '-') :
    readValue (fuel + 1) room (a :: as) = (readNumber (a :: as)).map fun p => (.number p.1, p.2) := by
  have plain : isBlank a = false ∧ a ≠ 'n' ∧ a ≠ 't' ∧ a ≠ 'f' ∧ a ≠ '\"' ∧ a ≠ '[' ∧ a ≠ '\x7b' := by
    rcases ha with ha | rfl
    · refine ⟨isBlank_of_digit ha, ?_, ?_, ?_, ?_, ?_, ?_⟩ <;> (rintro rfl; exact absurd ha (by decide))
    · decide
  obtain ⟨blank, h1, h2, h3, h4, h5, h6⟩ := plain
  rw [readValue, skipBlanks_cons blank]
  split <;> simp_all

/-- The value is read up to what stands behind it if there is room for it, with fuel for twice its text. -/
def ReadsBack (v : Json) : Prop := ∀ (fuel room : Nat) (rest : List Char), 2 * v.chars.length ≤ fuel → Closes rest →
  readValue fuel room (v.chars ++ rest) = if v.depth ≤ room then some (v, rest) else none

theorem chars_eq_cons (v : Json) : ∃ c cs, v.chars = c :: cs ∧ isBlank c = false ∧ c ≠ ']' := by
  cases v with
  | null => exact ⟨'n', _, by rw [chars]; rfl, by decide, by decide⟩
  | bool b => cases b <;> exact ⟨_, _, by rw [chars]; rfl, by decide, by decide⟩
  | number n =>
    obtain ⟨a, as, ha, digit | rfl⟩ := render_number_eq_cons n
    · refine ⟨a, as, by rw [chars, ha], isBlank_of_digit digit, ?_⟩
      rintro rfl
      exact absurd digit (by decide)
    · exact ⟨'-', as, by rw [chars, ha], by decide, by decide⟩
  | string s => exact ⟨'\"', _, by rw [chars]; rfl, by decide, by decide⟩
  | array items => exact ⟨'[', _, by rw [chars]; rfl, by decide, by decide⟩
  | object fields => exact ⟨'\x7b', _, by rw [chars]; rfl, by decide, by decide⟩

theorem length_chars_pos (v : Json) : 0 < v.chars.length := by
  obtain ⟨c, cs, h, -⟩ := chars_eq_cons v
  rw [h]
  exact Nat.succ_pos _

theorem closes_comma (rest : List Char) : Closes (',' :: rest) := .inr ⟨',', rest, rfl, .inl rfl⟩

theorem closes_bracket (rest : List Char) : Closes (']' :: rest) := .inr ⟨']', rest, rfl, .inr (.inl rfl)⟩

theorem closes_brace (rest : List Char) : Closes ('\x7d' :: rest) := .inr ⟨'\x7d', rest, rfl, .inr (.inr rfl)⟩

theorem itemChars_cons (v w : Json) (items : List Json) :
    itemChars (v :: w :: items) = v.chars ++ ',' :: itemChars (w :: items) := by
  rw [itemChars]
  simp

theorem readItems_chars (hne : items ≠ []) (hv : ∀ v ∈ items, ReadsBack v)
    (hf : 2 * (itemChars items).length + 1 ≤ fuel) : readItems fuel room (itemChars items ++ ']' :: rest) =
      if depthItems items ≤ room then some (items, rest) else none := by
  induction items generalizing fuel with
  | nil => exact absurd rfl hne
  | cons v items ih =>
    obtain ⟨fuel, rfl⟩ := Nat.exists_eq_succ_of_ne_zero (show fuel ≠ 0 by omega)
    have back := hv v List.mem_cons_self
    rw [depthItems]
    cases items with
    | nil =>
      rw [itemChars] at hf ⊢
      rw [readItems, back _ _ _ (by omega) (closes_bracket _), depthItems, Nat.max_zero]
      by_cases here : v.depth ≤ room
      · rw [if_pos here, if_pos here]
        rfl
      · rw [if_neg here, if_neg here]
    | cons w items =>
      rw [itemChars_cons, List.length_append, List.length_cons] at hf
      have tail := ih (by simp) (fun v h => hv v (List.mem_cons_of_mem _ h)) (show _ ≤ fuel by omega)
      rw [itemChars_cons, List.append_assoc, List.cons_append, readItems, back _ _ _ (by omega) (closes_comma _)]
      by_cases here : v.depth ≤ room
      · rw [if_pos here]
        simp only
        rw [skipBlanks_cons (by decide)]
        simp only
        rw [tail]
        by_cases there : depthItems (w :: items) ≤ room
        · rw [if_pos there, if_pos (Nat.max_le.mpr ⟨here, there⟩)]
          rfl
        · rw [if_neg there, if_neg fun h => there (Nat.max_le.mp h).2]
          rfl
      · rw [if_neg here, if_neg fun h => here (Nat.max_le.mp h).1]

theorem setField_append {key : String} {before : List (String × Json)} (h : key ∉ before.map (·.1)) (v : Json) :
    setField key v before = before ++ [(key, v)] := by
  induction before with
  | nil => rfl
  | cons f before ih =>
    rw [List.map_cons, List.mem_cons, not_or] at h
    rw [setField, if_neg (Ne.symm h.1), ih h.2]
    rfl

theorem fieldChars_cons (f g : String × Json) (fields : List (String × Json)) :
    fieldChars (f :: g :: fields) = stringChars f.1 ++ ':' :: (f.2.chars ++ ',' :: fieldChars (g :: fields)) := by
  rw [fieldChars]
  · simp
  · simp

theorem fieldChars_single (f : String × Json) : fieldChars [f] = stringChars f.1 ++ ':' :: f.2.chars := by
  rw [fieldChars]

/-- A field is read, and then the next one or the closing brace. -/
theorem readFields_field {key : String} {v : Json} {before : List (String × Json)} (hk : key ∉ before.map (·.1))
    (hv : ReadsBack v) (hf : 2 * v.chars.length ≤ fuel) (hd : v.depth ≤ room) :
    readFields (fuel + 1) room before (stringChars key ++ ':' :: (v.chars ++ ',' :: rest)) =
        readFields fuel room (before ++ [(key, v)]) rest ∧
      readFields (fuel + 1) room before (stringChars key ++ ':' :: (v.chars ++ '\x7d' :: rest)) =
        some (before ++ [(key, v)], rest) := by
  have quote : ∀ cs, skipBlanks ('\"' :: cs) = '\"' :: cs := fun _ => rfl
  have colon : ∀ cs, skipBlanks (':' :: cs) = ':' :: cs := fun _ => rfl
  have comma : ∀ cs, skipBlanks (',' :: cs) = ',' :: cs := fun _ => rfl
  have brace : ∀ cs, skipBlanks ('\x7d' :: cs) = '\x7d' :: cs := fun _ => rfl
  have next := (hv _ _ _ hf (closes_comma rest)).trans (if_pos hd)
  have last := (hv _ _ _ hf (closes_brace rest)).trans (if_pos hd)
  constructor <;> rw [readFields] <;> simp only [stringChars, List.cons_append, List.append_assoc, List.nil_append,
    quote, readString_stringChars, colon, next, last, comma, brace, String.ofList_toList, setField_append hk]

/-- A field with no room for its value is refused. -/
theorem readFields_deep {key : String} {v : Json} {before : List (String × Json)} (hv : ReadsBack v)
    (hf : 2 * v.chars.length ≤ fuel) (hd : ¬v.depth ≤ room) (hr : Closes rest) :
    readFields (fuel + 1) room before (stringChars key ++ ':' :: (v.chars ++ rest)) = none := by
  have quote : ∀ cs, skipBlanks ('\"' :: cs) = '\"' :: cs := fun _ => rfl
  have colon : ∀ cs, skipBlanks (':' :: cs) = ':' :: cs := fun _ => rfl
  have refused := (hv _ _ _ hf hr).trans (if_neg hd)
  rw [readFields]
  simp only [stringChars, List.cons_append, List.append_assoc, List.nil_append, quote, readString_stringChars, colon,
    refused]

theorem readFields_chars {before : List (String × Json)} (hne : fields ≠ [])
    (hn : ((before ++ fields).map (·.1)).Nodup) (hv : ∀ f ∈ fields, ReadsBack f.2)
    (hf : 2 * (fieldChars fields).length + 1 ≤ fuel) : readFields fuel room before (fieldChars fields ++ '\x7d' :: rest) =
      if depthFields fields ≤ room then some (before ++ fields, rest) else none := by
  induction fields generalizing fuel before with
  | nil => exact absurd rfl hne
  | cons f fields ih =>
    obtain ⟨fuel, rfl⟩ := Nat.exists_eq_succ_of_ne_zero (show fuel ≠ 0 by omega)
    have back := hv f List.mem_cons_self
    have fresh : f.1 ∉ before.map (·.1) := by
      rw [List.map_append, List.map_cons] at hn
      exact fun h => (List.nodup_append.mp hn).2.2 _ h _ List.mem_cons_self rfl
    rw [depthFields]
    cases fields with
    | nil =>
      rw [fieldChars_single, List.length_append, List.length_cons] at hf
      rw [fieldChars_single, List.append_assoc, List.cons_append, depthFields, Nat.max_zero]
      by_cases here : f.2.depth ≤ room
      · rw [(readFields_field fresh back (by omega) here).2, if_pos here]
      · rw [readFields_deep back (by omega) here (closes_brace _), if_neg here]
    | cons g fields =>
      rw [fieldChars_cons, List.length_append, List.length_cons, List.length_append, List.length_cons] at hf
      rw [fieldChars_cons, List.append_assoc, List.cons_append, List.append_assoc, List.cons_append]
      by_cases here : f.2.depth ≤ room
      · rw [(readFields_field fresh back (by omega) here).1,
          ih (by simp) (by rwa [List.append_assoc, List.singleton_append])
            (fun f h => hv f (List.mem_cons_of_mem _ h)) (by omega), List.append_assoc, List.singleton_append]
        by_cases there : depthFields (g :: fields) ≤ room
        · rw [if_pos there, if_pos (Nat.max_le.mpr ⟨here, there⟩)]
        · rw [if_neg there, if_neg fun h => there (Nat.max_le.mp h).2]
      · rw [readFields_deep back (by omega) here (closes_comma _), if_neg fun h => here (Nat.max_le.mp h).1]

theorem itemChars_eq_cons (hne : items ≠ []) :
    ∃ c cs, itemChars items = c :: cs ∧ isBlank c = false ∧ c ≠ ']' := by
  cases items with
  | nil => exact absurd rfl hne
  | cons v items =>
    obtain ⟨c, cs, h, head⟩ := chars_eq_cons v
    cases items with
    | nil => exact ⟨c, cs, by rw [itemChars, h], head⟩
    | cons w items => exact ⟨c, _, by rw [itemChars_cons, h]; rfl, head⟩

theorem readsBack_array (hv : ∀ v ∈ items, ReadsBack v) : ReadsBack (.array items) := by
  intro fuel room rest hf hr
  rw [chars, List.length_append, List.length_cons] at hf
  obtain ⟨fuel, rfl⟩ := Nat.exists_eq_succ_of_ne_zero (show fuel ≠ 0 by omega)
  have start : ∀ cs, skipBlanks ('[' :: cs) = '[' :: cs := fun _ => rfl
  rw [chars, readValue, depth]
  simp only [List.cons_append, List.append_assoc, List.nil_append, start]
  cases room with
  | zero => rw [if_neg (Nat.not_succ_le_zero _)]
  | succ room =>
    by_cases hne : items = []
    · subst hne
      rw [itemChars, depthItems, if_pos (Nat.succ_le_succ (Nat.zero_le _))]
      rfl
    · have back : readItems fuel room (itemChars items ++ ']' :: rest) = _ := readItems_chars hne hv (by omega)
      obtain ⟨c, cs, h, blank, bracket⟩ := itemChars_eq_cons hne
      rw [h, List.cons_append] at back ⊢
      simp only [skipBlanks_cons blank]
      split
      · rename_i h
        exact absurd (List.cons.inj h).1 bracket
      · rw [back]
        by_cases there : depthItems items ≤ room
        · rw [if_pos there, if_pos (Nat.succ_le_succ there)]
          rfl
        · rw [if_neg there, if_neg fun h => there (Nat.le_of_succ_le_succ h)]
          rfl

theorem fieldChars_eq_cons (hne : fields ≠ []) : ∃ cs, fieldChars fields = '\"' :: cs := by
  cases fields with
  | nil => exact absurd rfl hne
  | cons f fields =>
    cases fields with
    | nil => exact ⟨_, by rw [fieldChars_single, stringChars]; rfl⟩
    | cons g fields => exact ⟨_, by rw [fieldChars_cons, stringChars]; rfl⟩

theorem readsBack_object (hn : (fields.map (·.1)).Nodup) (hv : ∀ f ∈ fields, ReadsBack f.2) :
    ReadsBack (.object fields) := by
  intro fuel room rest hf hr
  rw [chars, List.length_append, List.length_cons] at hf
  obtain ⟨fuel, rfl⟩ := Nat.exists_eq_succ_of_ne_zero (show fuel ≠ 0 by omega)
  have start : ∀ cs, skipBlanks ('\x7b' :: cs) = '\x7b' :: cs := fun _ => rfl
  have quote : ∀ cs, skipBlanks ('\"' :: cs) = '\"' :: cs := fun _ => rfl
  rw [chars, readValue, depth]
  simp only [List.cons_append, List.append_assoc, List.nil_append, start]
  cases room with
  | zero => rw [if_neg (Nat.not_succ_le_zero _)]
  | succ room =>
    by_cases hne : fields = []
    · subst hne
      rw [fieldChars, depthFields, if_pos (Nat.succ_le_succ (Nat.zero_le _))]
      rfl
    · have back : readFields fuel room [] (fieldChars fields ++ '\x7d' :: rest) = _ :=
        readFields_chars hne hn hv (by omega)
      obtain ⟨cs, h⟩ := fieldChars_eq_cons hne
      rw [h, List.cons_append] at back ⊢
      simp only [quote]
      show (readFields fuel room [] ('\"' :: (cs ++ '\x7d' :: rest))).map _ = _
      rw [back]
      by_cases there : depthFields fields ≤ room
      · rw [if_pos there, if_pos (Nat.succ_le_succ there)]
        rfl
      · rw [if_neg there, if_neg fun h => there (Nat.le_of_succ_le_succ h)]
        rfl

/-- A valid document is read up to what stands behind it. -/
theorem Valid.readsBack (h : Valid v) : ReadsBack v := by
  induction h with
  | null =>
    intro fuel room rest hf _
    obtain ⟨fuel, rfl⟩ := Nat.exists_eq_succ_of_ne_zero (show fuel ≠ 0 by rintro rfl; simp [chars] at hf)
    rw [chars, readValue]
    rfl
  | bool b =>
    intro fuel room rest hf _
    obtain ⟨fuel, rfl⟩ := Nat.exists_eq_succ_of_ne_zero (show fuel ≠ 0 by rintro rfl; cases b <;> simp [chars] at hf)
    cases b <;> rw [chars, readValue] <;> rfl
  | @number n valid =>
    intro fuel room rest hf hr
    have pos := length_chars_pos (.number n)
    obtain ⟨fuel, rfl⟩ := Nat.exists_eq_succ_of_ne_zero (show fuel ≠ 0 by omega)
    obtain ⟨a, as, ha, digit⟩ := render_number_eq_cons n
    have back := readNumber_render valid hr.stops
    rw [ha, List.cons_append] at back
    rw [chars, ha, List.cons_append, readValue_number digit, back, depth, if_pos (Nat.zero_le _)]
    rfl
  | string s =>
    intro fuel room rest hf _
    have pos := length_chars_pos (.string s)
    obtain ⟨fuel, rfl⟩ := Nat.exists_eq_succ_of_ne_zero (show fuel ≠ 0 by omega)
    have quote : ∀ cs, skipBlanks ('\"' :: cs) = '\"' :: cs := fun _ => rfl
    rw [chars, stringChars, readValue, depth, if_pos (Nat.zero_le _)]
    simp only [List.cons_append, List.append_assoc, List.nil_append, quote, readString_stringChars, Option.map_some,
      String.ofList_toList]
  | array valid ih => exact readsBack_array ih
  | object names valid ih => exact readsBack_object names ih

/-! ### Whole texts -/

/-- The value that the whole text writes, if there is room for it. -/
def parseWithin? (room : Nat) (cs : List Char) : Option Json :=
  match readValue (2 * cs.length + 1) room cs with
  | some (v, rest) => if skipBlanks rest = [] then some v else none
  | none => none

/-- The value that UTF-8 bytes write, nested in any way. Each array and each object takes a character, so that there is
    room for all of them. -/
def read? (b : Bytes) : Option Json := (Utf8.decode? b).bind fun s => parseWithin? s.toList.length s.toList

theorem Valid.parseWithin?_chars (h : Valid v) (room : Nat) :
    parseWithin? room v.chars = if v.depth ≤ room then some v else none := by
  have back := h.readsBack (2 * v.chars.length + 1) room [] (by omega) (.inl rfl)
  rw [List.append_nil] at back
  rw [parseWithin?, back]
  by_cases hd : v.depth ≤ room
  · rw [if_pos hd, if_pos hd]
    rfl
  · rw [if_neg hd, if_neg hd]

theorem depthItems_le (h : ∀ v ∈ items, v.depth ≤ v.chars.length) : depthItems items ≤ (itemChars items).length := by
  induction items with
  | nil => exact Nat.zero_le _
  | cons v items ih =>
    have first := h v List.mem_cons_self
    have rest := ih fun v hv => h v (List.mem_cons_of_mem _ hv)
    cases items with
    | nil =>
      rw [depthItems, depthItems, itemChars, Nat.max_zero]
      exact first
    | cons w items =>
      rw [depthItems, itemChars_cons, List.length_append, List.length_cons]
      omega

theorem depthFields_le (h : ∀ f ∈ fields, f.2.depth ≤ f.2.chars.length) :
    depthFields fields ≤ (fieldChars fields).length := by
  induction fields with
  | nil => exact Nat.zero_le _
  | cons f fields ih =>
    have first := h f List.mem_cons_self
    have rest := ih fun f hf => h f (List.mem_cons_of_mem _ hf)
    cases fields with
    | nil =>
      rw [depthFields, depthFields, fieldChars_single, List.length_append, List.length_cons]
      omega
    | cons g fields =>
      rw [depthFields, fieldChars_cons, List.length_append, List.length_cons, List.length_append, List.length_cons]
      omega

theorem Valid.depth_le (h : Valid v) : v.depth ≤ v.chars.length := by
  induction h with
  | array valid ih =>
    have inner := depthItems_le ih
    rw [depth, chars, List.length_append, List.length_cons, List.length_singleton]
    omega
  | object names valid ih =>
    have inner := depthFields_le ih
    rw [depth, chars, List.length_append, List.length_cons, List.length_singleton]
    omega
  | _ => exact Nat.zero_le _

/-- A valid document is read back from its bytes. -/
theorem Valid.read?_render (h : Valid v) : read? (Utf8.encode v.render) = some v := by
  rw [read?, Utf8.decode?_encode, Option.bind_some, render, String.toList_ofList, h.parseWithin?_chars, if_pos h.depth_le]

/-- The reader of responses gives up what nests deeper than it goes, and nothing else. -/
theorem Valid.ofBytes?_render (h : Valid v) :
    ofBytes? (Utf8.encode v.render) = if v.depth ≤ nestingLimit then some v else none := by
  rw [ofBytes?, Utf8.decode?_encode, Option.bind_some, parse?, render, String.toList_ofList]
  exact h.parseWithin?_chars nestingLimit

end ArrayTransfer.Json
