import ArrayTransfer.Proofs.Bytes.Edit
import ArrayTransfer.Proofs.DataType.Layout
import ArrayTransfer.Proofs.Number.Value
import ArrayTransfer.Proofs.Wire.Reference

/-! Single elements and their JSON. An element is read exactly if its references are (`Readable`), into a value whose
    JSON has its shape, and is written back from it over zeros as `viaJson` says (`carries_viaJson`).
    `WireValue.Canonical` are the elements whose JSON says everything about them: their strings are UTF-8 before their
    zeros, their references are null or zero padded, their NaNs are the canonical one, and no byte is set between the
    members of a compound. They come back as they were (`Canonical.viaJson_eq`). -/

namespace ArrayTransfer.WireValue
variable {t : DataType} {b : Bytes} {members : List (Member DataType)}

/-- Elements that their JSON gives back. -/
inductive Canonical : DataType → Bytes → Prop where
  | numeric {kind : Numeric} {b : Bytes} (length : b.length = kind.size) (canonical : kind.IsCanonical b) :
    Canonical (.numeric kind) b
  | string (s : String) {size : Nat} (noZero : '\x00' ∉ s.toList) (room : (Utf8.encode s).length ≤ size) :
    Canonical (.string size) (Bytes.fit (Utf8.encode s) size)
  | null : Canonical .reference (Bytes.zeros DataType.referenceSize)
  | reference (r : Reference) : Canonical .reference r.toSlot
  | compound {members : List (Member DataType)} {size : Nat} {b : Bytes} (length : b.length = size)
    (canonical : ∀ m ∈ members, Canonical m.type (Bytes.slice b m.offset m.size))
    (padding : ∀ i < size, (∀ m ∈ members, i < m.offset ∨ m.stop ≤ i) → b[i]? = some 0) :
    Canonical (.compound members size) b

theorem Canonical.length_eq (h : Canonical t b) : b.length = t.size := by
  cases h with
  | numeric length canonical => exact length
  | string s noZero room => simp [DataType.size, DataType.size?]
  | null => simp [DataType.size, DataType.size?]
  | reference r => simp [DataType.size, DataType.size?, Reference.toSlot, Reference.fillSlot]
  | compound length canonical padding => exact length

/-! ### What comes back -/

mutual
/-- What an element is written as from its JSON. A NaN is the canonical one, a string or a reference ends at its first
    zero, every malformed piece of a string is U+FFFD, and no byte is set between members. -/
def viaJson : DataType → Bytes → Bytes
  | .numeric kind, b => kind.canonicalize b
  | .string size, b => Bytes.fit (Utf8.encode (Utf8.decodeLossy (Bytes.beforeZero b))) size
  | .reference, b => Bytes.fit (Bytes.beforeZero b) DataType.referenceSize
  | .compound members size, b => viaJsonMembers members b (Bytes.zeros size)
  | .varString, b => b
  | .sequence _, b => b
termination_by structural t => t
/-- Puts what the members are written as in their places. -/
def viaJsonMembers : List (Member DataType) → (b acc : Bytes) → Bytes
  | [], _, acc => acc
  | ⟨_, offset, t⟩ :: members, b, acc =>
    viaJsonMembers members b (Bytes.patch acc offset (viaJson t (Bytes.slice b offset t.size)))
termination_by structural members => members
end

/-- The change that puts what a member is written as in its place. -/
def viaJsonEdit (b : Bytes) (m : Member DataType) : Edit :=
  ⟨m.offset, m.size, fun _ => viaJson m.type (Bytes.slice b m.offset m.size)⟩

theorem viaJsonMembers_eq (members : List (Member DataType)) (b acc : Bytes) :
    viaJsonMembers members b acc = Edit.run (members.map (viaJsonEdit b)) acc := by
  induction members generalizing acc with
  | nil => rfl
  | cons m members ih =>
    rw [viaJsonMembers, ih, List.map_cons, Edit.run_cons]
    rfl

theorem fit_viaJsonEdits {size : Nat} (laidOut : Member.LaidOut members size) (hl : b.length = size)
    (keeps : ∀ m ∈ members, ∀ w : Bytes, w.length = m.size → (viaJson m.type w).length = m.size) :
    Edit.Fit (Bytes.zeros size).length (members.map (viaJsonEdit b)) := by
  rw [Bytes.length_zeros]
  refine ⟨?_, ?_, List.pairwise_map.mpr laidOut.apart⟩
  · rw [List.forall_mem_map]
    exact laidOut.bound
  · rw [List.forall_mem_map]
    exact fun m hm _ _ => keeps m hm _ (laidOut.length_slice hm hl)

theorem length_viaJson (hw : t.WellFormed) (hl : b.length = t.size) : (viaJson t b).length = t.size := by
  induction hw generalizing b with
  | numeric kind => exact Numeric.length_canonicalize hl
  | @compound members size laidOut _ ih =>
    have fit := fit_viaJsonEdits laidOut hl fun m hm _ => ih m hm
    rw [viaJson, viaJsonMembers_eq, Edit.length_run fit, Bytes.length_zeros]
    rfl
  | string size => exact Bytes.length_fit _ _
  | varString | sequence => exact hl
  | reference => exact Bytes.length_fit _ _

theorem length_of_mem_map_viaJson {es : List Bytes} (hw : t.WellFormed) (sizes : ∀ e ∈ es, e.length = t.size) :
    ∀ e ∈ es.map (viaJson t), e.length = t.size := by
  rw [List.forall_mem_map]
  exact fun e he => length_viaJson hw (sizes e he)

section compound
variable {size : Nat} (laidOut : Member.LaidOut members size) (wellFormed : ∀ m ∈ members, m.type.WellFormed)
  (hl : b.length = size)
include laidOut wellFormed hl

theorem fit_members : Edit.Fit (Bytes.zeros size).length (members.map (viaJsonEdit b)) :=
  fit_viaJsonEdits laidOut hl fun m hm _ => length_viaJson (wellFormed m hm)

/-- Each member comes back for itself. -/
theorem slice_viaJson {m : Member DataType} (hm : m ∈ members) :
    Bytes.slice (viaJson (.compound members size) b) m.offset m.size =
      viaJson m.type (Bytes.slice b m.offset m.size) := by
  rw [viaJson, viaJsonMembers_eq]
  exact Edit.slice_run (fit_members laidOut wellFormed hl) (List.mem_map_of_mem hm)

end compound

/-! ### What is read -/

/-- What holds of each string and of each reference in an element. -/
inductive Throughout (string reference : Bytes → Prop) : DataType → Bytes → Prop where
  | numeric (kind : Numeric) (b : Bytes) : Throughout string reference (.numeric kind) b
  | string (size : Nat) {b : Bytes} (h : string b) : Throughout string reference (.string size) b
  | reference {b : Bytes} (h : reference b) : Throughout string reference .reference b
  | compound (size : Nat) {members : List (Member DataType)} {b : Bytes}
    (each : ∀ m ∈ members, Throughout string reference m.type (Bytes.slice b m.offset m.size)) :
    Throughout string reference (.compound members size) b

/-- All references in the element are null or well formed. -/
def Readable : DataType → Bytes → Prop := Throughout (fun _ => True) fun slot => ∃ r, Reference.ofSlot slot = .ok r

theorem readable_of_readMembers {whole : DataType} {vs : List (String × WireValue)}
    (each : ∀ m ∈ members, ∀ b v, read m.type b = .ok v → Readable m.type b)
    (h : readMembers whole members b = .ok vs) :
    ∀ m ∈ members, Readable m.type (Bytes.slice b m.offset m.size) := by
  induction members generalizing vs with
  | nil => exact fun m hm => nomatch hm
  | cons m members ih =>
    obtain ⟨name, offset, t⟩ := m
    rw [List.forall_mem_cons] at each ⊢
    rw [readMembers] at h
    split at h
    · cases h
    split at h
    · cases h
    rename_i v first
    split at h
    · cases h
    rename_i rest others
    exact ⟨each.1 _ v first, ih each.2 others⟩

theorem readable_of_read {v : WireValue} (h : read t b = .ok v) : Readable t b := by
  induction t using DataType.induct generalizing b v with
  | numeric kind => exact .numeric kind b
  | compound members size ih =>
    rw [read] at h
    cases hm : readMembers (.compound members size) members b with
    | error e =>
      rw [hm] at h
      cases h
    | ok vs => exact .compound size (readable_of_readMembers (fun m hm b v => ih m hm) hm)
  | string size => exact .string size trivial
  | varString => cases h
  | sequence base => cases h
  | reference =>
    rw [read] at h
    cases hr : Reference.ofSlot b with
    | error e =>
      rw [hr] at h
      cases h
    | ok r => exact .reference ⟨r, hr⟩

/-- A value between an element and what its JSON is written as: the value is read from the one, its JSON has the shape
    of the type, and over zeros it is written as the other. -/
structure Carries (t : DataType) (v : WireValue) (b c : Bytes) : Prop where
  read : read t b = .ok v
  shape : isElement t v.toJson = true
  back : ∃ u, ofJson t v.toJson = .ok u ∧ write t u (Bytes.zeros t.size) = ⟨c, none⟩

/-- Members that are carried one by one are so together. -/
theorem carries_members (whole : DataType) (hb : ∀ m ∈ members, m.stop ≤ b.length)
    (h : ∀ m ∈ members, ∃ v, Carries m.type v (Bytes.slice b m.offset m.size)
      (viaJson m.type (Bytes.slice b m.offset m.size))) :
    ∃ vs, readMembers whole members b = .ok vs ∧ (membersToJson vs).length = members.length ∧
      areElements members (membersToJson vs) = true ∧ ∃ us, membersOfJson members (membersToJson vs) = .ok us ∧
        us.length = members.length ∧ ∀ acc, Edit.Fit acc.length (members.map (viaJsonEdit b)) →
          (∀ m ∈ members, Bytes.slice acc m.offset m.size = Bytes.zeros m.size) →
            writeMembers members us acc = ⟨viaJsonMembers members b acc, none⟩ := by
  induction members with
  | nil => exact ⟨[], rfl, rfl, rfl, [], rfl, rfl, fun _ _ _ => rfl⟩
  | cons m members ih =>
    obtain ⟨v, read, shape, u, json, written⟩ := h m List.mem_cons_self
    obtain ⟨vs, reads, length, shapes, us, jsons, lengths, writes⟩ :=
      ih (fun n hn => hb n (List.mem_cons_of_mem _ hn)) fun n hn => h n (List.mem_cons_of_mem _ hn)
    have stop : ¬b.length < m.offset + m.type.size := Nat.not_lt.mpr (hb m List.mem_cons_self)
    obtain ⟨name, offset, t⟩ := m
    refine ⟨(name, v) :: vs, ?_, ?_, ?_, (name, u) :: us, ?_, ?_, ?_⟩
    · rw [readMembers, if_neg stop]
      simp only [Member.size] at read
      simp only [read, reads]
    · simp [membersToJson, length]
    · simp [membersToJson, areElements, shape, shapes]
    · simp only [membersToJson, membersOfJson, json, jsons]
    · simp [lengths]
    · intro acc fit clear
      have own := clear _ List.mem_cons_self
      simp only [Member.size] at own written
      have placed := Edit.length_apply fit.head.1 fit.head.2.1
      rw [writeMembers]
      simp only [own, written]
      refine (writes _ ?_ ?_).trans rfl
      · rw [← placed] at fit
        exact fit.tail
      · intro n hn
        have apart := fit.head.2.2 _ (List.mem_map.mpr ⟨n, hn, rfl⟩)
        exact (Edit.slice_apply_apart fit.head.1 fit.head.2.1 apart).trans (clear n (List.mem_cons_of_mem _ hn))

theorem carries_numeric {kind : Numeric} (hl : b.length = kind.size) :
    ∃ v, Carries (.numeric kind) v b (viaJson (.numeric kind) b) := by
  obtain ⟨v, u, read, json, encode⟩ := NumericValue.json_canonicalize hl
  have flat : (numberToJson v).isArray = false := by
    cases v with
    | float x =>
      simp only [numberToJson]
      split <;> rfl
    | _ => rfl
  refine ⟨.number v, ?_, ?_, .number u, json, ?_⟩
  · rw [WireValue.read]
    simp only [read]
  · rw [toJson, isElement, flat]
    rfl
  · rw [write, if_neg (by simp [DataType.size, DataType.size?])]
    simp only [encode, viaJson]

theorem carries_string (size : Nat) (b : Bytes) : ∃ v, Carries (.string size) v b (viaJson (.string size) b) := by
  refine ⟨.string (Utf8.decodeLossy (Bytes.beforeZero b)), rfl, rfl, _, rfl, ?_⟩
  rw [write, if_neg (by simp [DataType.size, DataType.size?])]
  rfl

theorem carries_reference {r : Option Reference} (h : Reference.ofSlot b = .ok r) :
    ∃ v, Carries .reference v b (viaJson .reference b) := by
  refine ⟨.reference r, ?_, ?_, .reference r, ?_, ?_⟩
  · rw [read, h]
    rfl
  · cases r <;> rfl
  · cases r with
    | none => rfl
    | some r =>
      show referenceOfJson (.string r.text) = _
      simp only [referenceOfJson, if_neg r.text_ne_nil, Reference.parse_text]
      rfl
  · rw [viaJson, ← Reference.fillSlot_of_ofSlot h]
    rfl

theorem carries_compound {size : Nat} (laidOut : Member.LaidOut members size)
    (wellFormed : ∀ m ∈ members, m.type.WellFormed) (hl : b.length = size)
    (h : ∀ m ∈ members, ∃ v, Carries m.type v (Bytes.slice b m.offset m.size)
      (viaJson m.type (Bytes.slice b m.offset m.size))) :
    ∃ v, Carries (.compound members size) v b (viaJson (.compound members size) b) := by
  obtain ⟨vs, reads, length, shapes, us, jsons, lengths, writes⟩ :=
    carries_members (.compound members size) (by rw [hl]; exact laidOut.bound) h
  have clear : ∀ m ∈ members, Bytes.slice (Bytes.zeros size) m.offset m.size = Bytes.zeros m.size := fun m hm =>
    Bytes.slice_zeros (laidOut.bound m hm)
  refine ⟨.compound vs, ?_, ?_, .compound us, ?_, ?_⟩
  · rw [read, reads]
    rfl
  · simp [toJson, isElement, length, shapes]
  · simp only [toJson, ofJson, length, if_true, jsons]
    rfl
  · show write (.compound members size) (.compound us) (Bytes.zeros size) = _
    rw [write, if_neg (by simp)]
    simp only [lengths, if_true]
    exact writes _ (fit_members laidOut wellFormed hl) clear

/-- An element whose references can be read is, and comes back from its JSON as `viaJson` says. -/
theorem carries_viaJson (hw : t.WellFormed) (hl : b.length = t.size) (hr : Readable t b) :
    ∃ v, Carries t v b (viaJson t b) := by
  induction hw generalizing b with
  | numeric kind => exact carries_numeric hl
  | compound laidOut wellFormed ih =>
    cases hr with
    | compound _ each =>
      exact carries_compound laidOut wellFormed hl fun m hm => ih m hm (laidOut.length_slice hm hl) (each m hm)
  | string size => exact carries_string size b
  | varString | sequence => cases hr
  | reference =>
    cases hr with
    | reference h =>
      obtain ⟨r, h⟩ := h
      exact carries_reference h

/-! ### Canonical elements -/

theorem Canonical.readable (h : Canonical t b) : Readable t b := by
  induction h with
  | numeric length canonical => exact .numeric _ _
  | string s noZero room => exact .string _ trivial
  | null => exact .reference ⟨_, Reference.ofSlot_zeros⟩
  | reference r => exact .reference ⟨_, Reference.ofSlot_toSlot r⟩
  | compound length canonical padding ih => exact .compound _ ih

/-- A canonical element comes back from its JSON. -/
theorem Canonical.viaJson_eq (hw : t.WellFormed) (h : Canonical t b) : viaJson t b = b := by
  induction h with
  | numeric length canonical => exact canonical.canonicalize_eq length
  | string s noZero room => rw [viaJson, Utf8.beforeZero_fit noZero room, Utf8.decodeLossy_encode]
  | null => exact (Reference.fillSlot_of_ofSlot Reference.ofSlot_zeros _).symm
  | reference r => exact (Reference.fillSlot_of_ofSlot (Reference.ofSlot_toSlot r) _).symm
  | @compound members size b length canonical padding ih =>
    cases hw with
    | compound laidOut wellFormed =>
      rw [viaJson, viaJsonMembers_eq]
      refine (Edit.eq_run (fit_members laidOut wellFormed length) (by rw [length, Bytes.length_zeros]) ?_ ?_).symm
      · rw [List.forall_mem_map]
        exact fun m hm => (ih m hm (wellFormed m hm)).symm
      · intro i outside
        rw [List.forall_mem_map] at outside
        rcases Nat.lt_or_ge i size with below | above
        · rw [padding i below outside, Bytes.zeros, List.getElem?_replicate_of_lt below]
        · rw [List.getElem?_eq_none (by omega), List.getElem?_eq_none (by rwa [Bytes.length_zeros])]

theorem map_viaJson_of_canonical {es : List Bytes} (hw : t.WellFormed) (hc : ∀ e ∈ es, Canonical t e) :
    es.map (viaJson t) = es :=
  (List.map_congr_left fun e he => show viaJson t e = id e from (hc e he).viaJson_eq hw).trans (List.map_id es)

end ArrayTransfer.WireValue
