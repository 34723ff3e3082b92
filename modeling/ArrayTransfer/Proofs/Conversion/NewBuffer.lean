import ArrayTransfer.Proofs.Bytes.Packed
import ArrayTransfer.Proofs.Conversion.Reuse

/-! Converting into a new buffer. Each element is converted over zeros (`convertToNew_packed`), so that the buffer is what
    a memory of zeros would be after converting into it, in each way of reusing that memory (`new_buffer_as_memory`). Only
    from elements without bytes to such as have some there is no buffer, while the memory gets its elements
    (`no_new_buffer_of_nothing`). -/

namespace ArrayTransfer

namespace Conversion

open Bytes (element)

variable {source target : DataType} {es : List Bytes} {elements : Bytes} {plan : Plan} {n : Nat} {reusable : Bool}
  {d : Dataspace}

/-- Elements converted one by one over zeros. -/
def convertedOverZeros (source target : DataType) (es : List Bytes) : List Bytes :=
  es.map fun e => convert source target e (Bytes.zeros target.size)

theorem length_convertedOverZeros (ht : target.WellFormed) (hs : source.WellFormed)
    (sizes : ∀ e ∈ es, e.length = source.size) : ∀ e ∈ convertedOverZeros source target es, e.length = target.size := by
  rw [convertedOverZeros, List.forall_mem_map]
  exact fun e he => length_convert ht hs (sizes e he) (Bytes.length_zeros _)

theorem convertPacked_flatten (sizes : ∀ e ∈ es, e.length = source.size) :
    convertPacked source target source.size target.size es.length es.flatten =
      (convertedOverZeros source target es).flatten := by
  induction es with
  | nil => rfl
  | cons e es ih =>
    have he := sizes e List.mem_cons_self
    rw [List.flatten_cons, List.length_cons, convertPacked, List.take_left' he, List.drop_left' he,
      ih fun x hx => sizes x (List.mem_cons_of_mem _ hx)]
    rfl

/-- A new buffer gets each element converted over zeros, unless elements without bytes would have to give some. -/
theorem convertToNew_packed (ht : target.WellFormed) (hs : source.WellFormed)
    (hplan : Plan.make source target n reusable = .ok plan) (hn : es.length = n)
    (sizes : ∀ e ∈ es, e.length = source.size) :
    convertToNew plan source target es.flatten =
      if source.size = 0 ∧ target.size ≠ 0 then .error (.emptySource target)
      else .ok (convertedOverZeros source target es).flatten := by
  subst hn
  obtain ⟨-, rfl⟩ := plan_spec hplan
  have length : es.flatten.length = source.size * es.length := by rw [Bytes.length_flatten_of_size sizes, Nat.mul_comm]
  simp only [convertToNew, length, checkLength_eq_ok]
  by_cases zero : target.size = 0
  · have empty : (convertedOverZeros source target es).flatten = [] := by
      apply List.eq_nil_of_length_eq_zero
      rw [Bytes.length_flatten_of_size (length_convertedOverZeros ht hs sizes), zero, Nat.mul_zero]
    simp [zero, empty]
  · by_cases none : source.size = 0
    · simp [zero, none]
    · simp [zero, none, convertPacked_flatten sizes]

/-! ### A memory of zeros -/

/-- What a memory of zeros has at the places of a selection. -/
theorem selected_zeros (hd : d.Exact) (size : Nat) :
    Memory.selected d size (Bytes.zeros (volume d.shape * size)) = List.replicate d.count (Bytes.zeros size) := by
  rw [List.eq_replicate_iff]
  refine ⟨Memory.length_selected hd, ?_⟩
  rw [Memory.selected, List.forall_mem_map]
  exact fun k hk => Bytes.slice_zeros (Bytes.element_bound (hd.place_lt hk))

/-- A selection of all places in a row starts at the first. -/
theorem start_of_whole (hd : d.Exact) (whole : volume d.shape = d.count) (h0 : d.count ≠ 0) {r : Run}
    (hr : d.region? = some r) : r.start.toNat = 0 := by
  obtain none | bound := (Memory.places_of_region hd hr).2
  · exact absurd none h0
  · omega

/-- The loop over a memory of zeros leaves there the elements converted over zeros. -/
theorem convertEach_zeros (ht : target.WellFormed) (hs : source.WellFormed) (hd : d.Exact)
    (whole : volume d.shape = d.count) (contiguous : d.Contiguous) (hn : es.length = d.count)
    (sizes : ∀ e ∈ es, e.length = source.size) :
    convertEach source target (assigned d source.size es.flatten) (Bytes.zeros (volume d.shape * target.size)) =
      (convertedOverZeros source target es).flatten := by
  have packed : es.flatten.length = source.size * d.count := by
    rw [Bytes.length_flatten_of_size sizes, hn, Nat.mul_comm]
  have elementwise : converted source target d es.flatten (Bytes.zeros (volume d.shape * target.size)) =
      convertedOverZeros source target es := by
    rw [converted, selected_zeros hd, ← hn, Bytes.split_flatten sizes]
    apply List.ext_getElem (by simp [convertedOverZeros])
    intro k hk hk'
    simp [convertedOverZeros]
  obtain ⟨r, hr⟩ := Option.isSome_iff_exists.mp (hd.isSome_region?_iff.mpr contiguous)
  have length : (convertedOverZeros source target es).flatten.length = volume d.shape * target.size := by
    rw [Bytes.length_flatten_of_size (length_convertedOverZeros ht hs sizes), convertedOverZeros, List.length_map,
      hn, whole]
  rw [← patch_converted ht hs hd packed (Bytes.length_zeros _) hr, elementwise]
  by_cases h0 : d.count = 0
  · have nothing : (convertedOverZeros source target es).flatten = [] :=
      List.eq_nil_of_length_eq_zero (by rw [length, whole, h0, Nat.zero_mul])
    rw [nothing, Bytes.patch_nil, whole, h0, Nat.zero_mul]
    rfl
  · rw [start_of_whole hd whole h0 hr, Nat.zero_mul, Bytes.patch_whole (by rw [length, Bytes.length_zeros])]

/-! ### The two ways to convert -/

/-- A new buffer gets what a memory of zeros gets, which is each element converted over zeros, in every way of reusing a
    memory that is one window and, where elements are put to it first, has room for them. Elements without bytes cannot be
    told apart in a buffer, and no new one is made of them if the converted ones take bytes. -/
theorem new_buffer_as_memory (hs : source.WellFormed) (ht : target.WellFormed)
    (hplan : Plan.make source target n reusable = .ok plan) (he : elements.length = source.size * n) :
    ∃ sent : Bytes, sent.length = target.size * n ∧
      (∀ k < n, element sent target.size k =
        convert source target (element elements source.size k) (Bytes.zeros target.size)) ∧
      convertToNew plan source target elements =
        (if source.size = 0 ∧ target.size ≠ 0 then .error (.emptySource target) else .ok sent) ∧
      ∀ (d : Dataspace) (reuse : Reuse), d.Exact → d.Contiguous → d.count = n → volume d.shape = n →
        (reuse = .conversion → source.size ≤ target.size) →
        convertInto { plan with reuse := reuse } source target elements (Bytes.zeros (target.size * n)) d = .ok sent := by
  obtain ⟨es, hn, sizes, rfl⟩ := Bytes.exists_packed he
  have converted := length_convertedOverZeros ht hs sizes
  have count : (convertedOverZeros source target es).length = n := by rw [convertedOverZeros, List.length_map, hn]
  refine ⟨(convertedOverZeros source target es).flatten, ?_, fun k hk => ?_, convertToNew_packed ht hs hplan hn sizes, ?_⟩
  · rw [Bytes.length_flatten_of_size converted, count, Nat.mul_comm]
  · rw [Bytes.element_flatten converted (count.symm ▸ hk), Bytes.element_flatten sizes (hn.symm ▸ hk)]
    simp only [convertedOverZeros, List.getElem_map]
  · intro d reuse hd contiguous many whole room
    subst many
    rw [Nat.mul_comm target.size, ← whole]
    have window := hd.isSome_region?_iff.mpr contiguous
    rw [convertInto_reused ht hs (plan_spec hplan).1 hd he (Bytes.length_zeros _) hplan (fun _ => window) room,
      convertEach_zeros ht hs hd whole contiguous hn sizes]

theorem new_buffer_as_memory_widePair :
    let plan : Plan := ⟨3, 8, 2, .none, .filled⟩
    let bothInOrder : Dataspace := ⟨[2], .points ⟨1, [[0], [1]], by decide, by decide⟩, by decide⟩
    Plan.make narrowPair widePair 2 false = .ok plan ∧
      convertToNew plan narrowPair widePair [7, 0xFE, 0xFF, 8, 1, 0] =
        .ok [7, 0, 0, 0, 0xFE, 0xFF, 0xFF, 0xFF, 8, 0, 0, 0, 1, 0, 0, 0] ∧
      ∀ reuse, convertInto { plan with reuse := reuse } narrowPair widePair [7, 0xFE, 0xFF, 8, 1, 0] (Bytes.zeros 16)
        bothInOrder = .ok [7, 0, 0, 0, 0xFE, 0xFF, 0xFF, 0xFF, 8, 0, 0, 0, 1, 0, 0, 0] := by
  intro plan bothInOrder
  have hplan : Plan.make narrowPair widePair 2 false = .ok plan := by rfl
  obtain ⟨sent, -, -, new, memory⟩ := new_buffer_as_memory (by decide) (by decide) hplan
    (show ([7, 0xFE, 0xFF, 8, 1, 0] : Bytes).length = narrowPair.size * 2 from rfl)
  rw [if_neg (by decide)] at new
  have own : convertToNew plan narrowPair widePair [7, 0xFE, 0xFF, 8, 1, 0] =
      .ok (convertPacked narrowPair widePair 3 8 2 [7, 0xFE, 0xFF, 8, 1, 0]) := by rfl
  have value : sent = [7, 0, 0, 0, 0xFE, 0xFF, 0xFF, 0xFF, 8, 0, 0, 0, 1, 0, 0, 0] :=
    (Except.ok.inj (new.symm.trans own)).trans (by decide +kernel)
  subst value
  refine ⟨hplan, new, fun reuse =>
    memory bothInOrder reuse ⟨by decide, by decide⟩ ⟨0, by decide⟩ (by decide) (by decide) ?_⟩
  exact fun _ => by decide

/-- From strings without bytes no strings of three bytes are made in a new buffer, though a memory gets one. -/
theorem no_new_buffer_of_nothing :
    ∃ plan, Plan.make (.string 0) (.string 3) 1 false = .ok plan ∧
      (¬∃ sent, convertToNew plan (.string 0) (.string 3) [] = .ok sent) ∧
      convertInto plan (.string 0) (.string 3) [] (Bytes.zeros 3) ⟨[1], .all, rfl⟩ = .ok [0, 0, 0] := by
  refine ⟨⟨0, 3, 1, .none, .unneeded⟩, rfl, ?_, rfl⟩
  rintro ⟨sent, made⟩
  cases made

end Conversion

end ArrayTransfer
