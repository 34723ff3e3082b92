import ArrayTransfer.Proofs.Conversion.ByName

/-! What the plan says of the elements before. If it does not ask for them, each byte of the target is in a part that meets
    one of the source (`Conversion.meet_of_background`), at every depth, since the members of a compound that take all of
    its bytes leave none open. Such parts are written from the source alone, so that nothing of what was in the place of an
    element is left (`Conversion.convert_of_background`). -/

namespace ArrayTransfer.Conversion
variable {source target : DataType} {element prior prior' : Bytes} {i : Nat}

/-- Unless the background has to hold the elements before, every byte is in a part that meets one of the source. -/
theorem meet_of_background (ht : target.WellFormed) (hb : Background.of source target ≠ .filled) (hi : i < target.size) :
    ∃ a b, Meet source target a b ∧ b.start ≤ i ∧ i < b.stop := by
  induction ht generalizing source i with
  | @compound members n laidOut _ ih =>
    by_cases same : source = .compound members n
    · exact ⟨_, _, .whole (.inl same), Nat.zero_le _, by rwa [Part.stop, Nat.zero_add]⟩
    · obtain ⟨used, sourced⟩ := members_of_background hb
      obtain ⟨m, mem, low, high⟩ := laidOut.cover used hi
      obtain ⟨s, found, unfilled⟩ := sourced m mem
      have within : i - m.offset < m.type.size := by
        unfold Member.stop Member.size at high
        omega
      obtain ⟨a, b, inner, start, stop⟩ := ih m mem unfilled within
      refine ⟨_, _, .member same mem found inner, ?_, ?_⟩
      · show m.offset + b.start ≤ i
        omega
      · show i < m.offset + b.start + b.type.size
        unfold Part.stop at stop
        omega
  | _ => exact ⟨_, _, .whole (.inr (.inr rfl)), Nat.zero_le _, by rwa [Part.stop, Nat.zero_add]⟩

/-- Unless the background has to hold them, an element depends on nothing that was in its place. -/
theorem convert_of_background (ht : target.WellFormed) (hs : source.WellFormed)
    (hc : DataType.convertibleFrom source target = true) (hb : Background.of source target ≠ .filled)
    (he : element.length = source.size) (hp : prior.length = target.size) (hp' : prior'.length = target.size) :
    convert source target element prior = convert source target element prior' := by
  have length := length_convert ht hs he hp
  refine Bytes.ext_of_length (length.trans (length_convert ht hs he hp').symm) fun i hi => ?_
  obtain ⟨a, b, meet, start, stop⟩ := meet_of_background ht hb (by rwa [← length])
  have same := (writes_of_meet meet hs ht hc he hp).unique (writes_of_meet meet hs ht hc he hp')
  have byte := Bytes.getElem?_of_slice_eq (i := i - b.start) same (by unfold Part.stop at stop; omega)
  rwa [Nat.add_sub_cancel' start] at byte

/-- If the plan does not ask for the elements before, the source decides every byte of an element: each is in a part that
    is written from the source, and any two backgrounds give the same element. -/
theorem background_unread (hs : source.WellFormed) (ht : target.WellFormed)
    (hc : DataType.convertibleFrom source target = true) (hb : Background.of source target ≠ .filled)
    (he : element.length = source.size) :
    (∀ i < target.size, ∃ a b, Meet source target a b ∧ (b.start ≤ i ∧ i < b.stop) ∧ ∀ prior : Bytes,
      prior.length = target.size →
        Writes a.type b.type (a.bytes element) (b.bytes (convert source target element prior))) ∧
      ∀ prior prior' : Bytes, prior.length = target.size → prior'.length = target.size →
        convert source target element prior = convert source target element prior' := by
  refine ⟨fun i hi => ?_, fun prior prior' hp hp' => convert_of_background ht hs hc hb he hp hp'⟩
  obtain ⟨a, b, meet, within⟩ := meet_of_background ht hb hi
  exact ⟨a, b, meet, within, fun prior hp => writes_of_meet meet hs ht hc he hp⟩

/-- A byte, and two bytes behind it a compound of a number and a label. -/
def openNested : DataType :=
  .compound [⟨"a", 0, .numeric (.unsigned .w8)⟩,
    ⟨"in", 2, .compound [⟨"p", 0, .numeric (.signed .w16)⟩, ⟨"q", 2, .string 2⟩] 5⟩] 8

/-- The same members one behind the other, on both levels. -/
def packedNested : DataType :=
  .compound [⟨"in", 0, .compound [⟨"q", 0, .string 3⟩, ⟨"p", 3, .numeric .float32⟩] 7⟩,
    ⟨"a", 7, .numeric (.unsigned .w16)⟩] 9

theorem background_unread_packedNested :
    Background.of openNested packedNested = .blank ∧ DataType.convertibleFrom openNested packedNested = true ∧
      convert openNested packedNested [1, 0, 0xFE, 0xFF, 0x68, 0x69, 0, 0] (Bytes.zeros 9) =
        convert openNested packedNested [1, 0, 0xFE, 0xFF, 0x68, 0x69, 0, 0] (List.replicate 9 0xAA) := by
  have hs : openNested.WellFormed := by decide
  have ht : packedNested.WellFormed := by decide
  have hb : Background.of openNested packedNested = .blank := by decide
  have hc : DataType.convertibleFrom openNested packedNested = true := by decide
  obtain ⟨-, same⟩ := background_unread hs ht hc (by rw [hb]; decide)
    (show ([1, 0, 0xFE, 0xFF, 0x68, 0x69, 0, 0] : Bytes).length = openNested.size from rfl)
  exact ⟨hb, hc, same _ _ rfl rfl⟩

end ArrayTransfer.Conversion
