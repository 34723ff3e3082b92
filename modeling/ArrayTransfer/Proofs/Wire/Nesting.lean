import ArrayTransfer.Proofs.Wire.Elements

/-! The array of element values, nested row by row. One level of arrays for each dimension is one way of nesting
    (`nests_rows`), so that canonical elements come back from the rows of any dimensions that have as many
    (`decode_encode_rows`). Arrays that are elements are told from rows by how deep they go. -/

namespace ArrayTransfer.Elements
open WireValue
variable {t : DataType} {es es' items vs vs' : List Json}

/-! ### Rows -/

/-- The first `n` stretches of `size` items. -/
def stretches (size : Nat) : Nat → List Json → List (List Json)
  | 0, _ => []
  | n + 1, items => items.take size :: stretches size n (items.drop size)

/-- The number of items that dimensions hold. -/
def room : List Nat → Nat
  | [] => 1
  | n :: dims => n * room dims

/-- The items in arrays of the dimensions, row by row. Without a dimension there is one item, and no array. -/
def rows : List Nat → List Json → Json
  | [], items => items.headD .null
  | n :: dims, items => .array ((stretches (room dims) n items).map (rows dims))

theorem Nests.append (h : Nests es vs) (h' : Nests es' vs') : Nests (es ++ es') (vs ++ vs') := by
  induction h with
  | nil => exact h'
  | element v rest ih => exact .element v ih
  | array inner rest ih ih' =>
    rw [List.append_assoc]
    exact .array inner ih'

/-- Stretches that are nested one by one are so together. -/
theorem nests_stretches {size n : Nat} {nest : List Json → Json}
    (h : ∀ items, items.length = size → Nests items [nest items]) (hl : items.length = n * size) :
    Nests items ((stretches size n items).map nest) := by
  induction n generalizing items with
  | zero =>
    obtain rfl : items = [] := List.eq_nil_of_length_eq_zero (hl.trans (Nat.zero_mul size))
    exact .nil
  | succ n ih =>
    rw [Nat.succ_mul] at hl
    have first : (items.take size).length = size := by rw [List.length_take]; omega
    have others : (items.drop size).length = n * size := by rw [List.length_drop]; omega
    have both := (h _ first).append (ih others)
    rwa [List.take_append_drop] at both

theorem nests_rows {dims : List Nat} (h : items.length = room dims) : Nests items [rows dims items] := by
  induction dims generalizing items with
  | nil =>
    obtain ⟨v, rfl⟩ := List.length_eq_one_iff.mp h
    exact .refl _
  | cons n dims ih => exact (nests_stretches (fun _ => ih) h).whole

example (a b c d e f : Json) : rows [2, 3] [a, b, c, d, e, f] = .array [.array [a, b, c], .array [d, e, f]] := rfl

/-! ### Back from the rows -/

/-- Any number is a canonical element. -/
theorem canonical_of_number {kind : Numeric} {e : Bytes} (hl : e.length = kind.size)
    (hn : ∀ f, kind.format? = some f → f.decode (Bytes.toNat e) ≠ .nan) : Canonical (.numeric kind) e :=
  .numeric hl fun f hf => Format.isCanonical_of_decode (hn f hf)

/-- Packed elements of which each is canonical are encoded as a flat array of as many values. They come back from it,
    from the values nested row by row in any dimensions that have as many elements, and from the bare value if there is
    one. All numbers are canonical elements: every integer, and every floating point pattern that is no NaN. -/
theorem decode_encode_rows {b : Bytes} {n : Nat} (hw : t.WellFormed) (hf : t.isVariable = false)
    (hl : b.length = n * t.size) (hc : ∀ k < n, Canonical t (Bytes.element b t.size k)) :
    (∃ items, encode b t n = .ok (.array items) ∧ items.length = n ∧ (∀ v ∈ items, isElement t v = true) ∧
      decode (.array items) t n = .ok b ∧ (∀ dims, room dims = n → decode (rows dims items) t n = .ok b) ∧
      ∀ v, items = [v] → decode v t n = .ok b) ∧
    ∀ (kind : Numeric) (e : Bytes), e.length = kind.size →
      (∀ f, kind.format? = some f → f.decode (Bytes.toNat e) ≠ .nan) → Canonical (.numeric kind) e := by
  refine ⟨?_, fun kind e => canonical_of_number⟩
  have whole : (Bytes.split t.size n b).flatten = b := by
    rw [Bytes.flatten_split, List.take_of_length_le (Nat.le_of_eq hl)]
  have canonical : ∀ e ∈ Bytes.split t.size n b, Canonical t e := by
    rw [Bytes.split_eq_map, List.forall_mem_map]
    exact fun k hk => hc k (List.mem_range.mp hk)
  obtain ⟨items, encoded, length, shapes, back⟩ := decode_of_nests hw hf canonical
  rw [whole, Bytes.length_split] at encoded back
  rw [Bytes.length_split] at length
  refine ⟨items, encoded, length, shapes, back _ (Nests.refl items).whole,
    fun dims hd => back _ (nests_rows (length.trans hd.symm)), ?_⟩
  rintro v rfl
  exact back v (.refl _)

/-- A floating point number of each size, which stand apart. -/
def floats : DataType := .compound [⟨"wide", 0, .numeric .float64⟩, ⟨"narrow", 12, .numeric .float32⟩] 16

/-- Two integers of 64 bits with floating point numbers behind them. -/
def extremes : DataType :=
  .compound [⟨"low", 0, .numeric (.signed .w64)⟩, ⟨"high", 8, .numeric (.unsigned .w64)⟩, ⟨"floats", 16, floats⟩] 32

/-- The least signed and the greatest unsigned integer, with minus zero and a subnormal number, and minus one and zero,
    with minus infinity and the canonical NaN. -/
def extremeElements : Bytes :=
  [0, 0, 0, 0, 0, 0, 0, 128, 255, 255, 255, 255, 255, 255, 255, 255,
    0, 0, 0, 0, 0, 0, 0, 128, 0, 0, 0, 0, 1, 0, 0, 0,
    255, 255, 255, 255, 255, 255, 255, 255, 0, 0, 0, 0, 0, 0, 0, 0,
    0, 0, 0, 0, 0, 0, 240, 255, 0, 0, 0, 0, 0, 0, 192, 127]

/-- The extremes come back from a column of them. -/
theorem decode_encode_extremes : extremes.WellFormed ∧ extremes.isVariable = false ∧
    extremeElements.length = 2 * extremes.size ∧
    (∀ k < 2, Canonical extremes (Bytes.element extremeElements extremes.size k)) ∧
    ∃ items, encode extremeElements extremes 2 = .ok (.array items) ∧ items.length = 2 ∧
      decode (rows [2, 1] items) extremes 2 = .ok extremeElements := by
  have inner : floats.WellFormed := by
    refine .compound ⟨by simp, by decide, by decide, by decide, by decide⟩ ?_
    exact List.forall_mem_cons.mpr ⟨.numeric _, List.forall_mem_singleton.mpr (.numeric _)⟩
  have outer : extremes.WellFormed := by
    refine .compound ⟨by simp, by decide, by decide, by decide, by decide⟩ ?_
    exact List.forall_mem_cons.mpr ⟨.numeric _, List.forall_mem_cons.mpr ⟨.numeric _,
      List.forall_mem_singleton.mpr inner⟩⟩
  have integer : ∀ {kind : Numeric} {e : Bytes}, kind.format? = none → e.length = kind.size →
      Canonical (.numeric kind) e := fun whole hl => canonical_of_number hl fun f hf => by cases whole.symm.trans hf
  have float : ∀ {kind : Numeric} {f : Format} {e : Bytes}, kind.format? = some f → e.length = kind.size →
      f.IsCanonical (Bytes.toNat e) → Canonical (.numeric kind) e := fun format hl hc =>
    .numeric hl fun f hf => Option.some.inj (format.symm.trans hf) ▸ hc
  have canonical : ∀ k < 2, Canonical extremes (Bytes.element extremeElements extremes.size k) := by
    intro k hk
    obtain rfl | rfl : k = 0 ∨ k = 1 := by omega
    all_goals
      refine .compound rfl (List.forall_mem_cons.mpr ⟨integer rfl rfl, List.forall_mem_cons.mpr ⟨integer rfl rfl,
        List.forall_mem_singleton.mpr (.compound rfl (List.forall_mem_cons.mpr ⟨?_, List.forall_mem_singleton.mpr ?_⟩)
          (by decide))⟩⟩) (by decide)
    · exact float rfl rfl (.inl (by decide))
    · exact float rfl rfl (.inl (by decide))
    · exact float rfl rfl (.inl (by decide))
    · exact float rfl rfl (.inr (by decide))
  obtain ⟨⟨items, encoded, length, -, -, back, -⟩, -⟩ := decode_encode_rows outer rfl rfl canonical
  exact ⟨outer, rfl, rfl, canonical, items, encoded, length, back [2, 1] rfl⟩

end ArrayTransfer.Elements
