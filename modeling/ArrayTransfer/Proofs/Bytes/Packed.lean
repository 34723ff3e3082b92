import ArrayTransfer.Proofs.Bytes.Window

/-! Byte strings as packed elements. Those of the right length are elements (`Bytes.exists_packed`), and any others are
    elements and a rest that is too short for one (`Bytes.exists_packed_rest`), which `mapChunks` leaves alone. -/

namespace ArrayTransfer.Bytes
variable {size n : Nat} {f : Bytes → Bytes} {es : List Bytes} {b rest : Bytes}

/-- Bytes of the length of `n` elements are `n` elements. -/
theorem exists_packed (h : b.length = size * n) :
    ∃ es : List Bytes, es.length = n ∧ (∀ e ∈ es, e.length = size) ∧ es.flatten = b := by
  have room : n * size ≤ b.length := Nat.le_of_eq (by rw [h, Nat.mul_comm])
  refine ⟨split size n b, length_split b, fun e he => length_of_mem_split room he, ?_⟩
  rw [flatten_split, Nat.mul_comm, ← h, List.take_length]

/-- Bytes are elements and a rest that is too short for one. Of no size there may be any number of elements. -/
theorem exists_packed_rest (size : Nat) (b : Bytes) :
    ∃ (es : List Bytes) (rest : Bytes), (∀ e ∈ es, e.length = size) ∧ (rest.length < size ∨ size = 0) ∧
      b = es.flatten ++ rest := by
  obtain rfl | pos := Nat.eq_zero_or_pos size
  · exact ⟨[], b, List.forall_mem_nil _, .inr rfl, rfl⟩
  · have whole : b.length / size * size ≤ b.length := Nat.div_mul_le_self ..
    refine ⟨split size (b.length / size) b, b.drop (b.length / size * size), fun e he => length_of_mem_split whole he,
      .inl ?_, ?_⟩
    · have := Nat.mod_lt b.length pos
      have := Nat.div_add_mod b.length size
      rw [List.length_drop, Nat.mul_comm]
      omega
    · rw [flatten_split, List.take_append_drop]

theorem mapFirstChunks_append (he : ∀ e ∈ es, e.length = size) (rest : Bytes) :
    mapFirstChunks size f es.length (es.flatten ++ rest) = (es.map f).flatten ++ rest := by
  induction es with
  | nil => rfl
  | cons e es ih =>
    have hs := he e List.mem_cons_self
    rw [List.length_cons, mapFirstChunks, List.flatten_cons, List.append_assoc, List.take_left' hs,
      List.drop_left' hs, ih fun x hx => he x (List.mem_cons_of_mem _ hx), List.map_cons, List.flatten_cons,
      List.append_assoc]

/-- Each element is changed on its own, and the rest stays. -/
theorem mapChunks_append (hf : ∀ e : Bytes, e.length = size → (f e).length = size) (he : ∀ e ∈ es, e.length = size)
    (short : rest.length < size ∨ size = 0) :
    mapChunks size f (es.flatten ++ rest) = (es.map f).flatten ++ rest := by
  obtain short | rfl := short
  · have chunks : (es.flatten ++ rest).length / size = es.length := by
      rw [List.length_append, length_flatten_of_size he, Nat.mul_comm, Nat.mul_add_div (by omega),
        Nat.div_eq_of_lt short, Nat.add_zero]
    rw [mapChunks, chunks, mapFirstChunks_append he]
  · -- Elements of no size are not told apart, but there is nothing to change in them.
    have none : ∀ l : List Bytes, (∀ e ∈ l, e.length = 0) → l.flatten = [] := fun l hl =>
      List.flatten_eq_nil_iff.mpr fun e hm => List.eq_nil_of_length_eq_zero (hl e hm)
    have changed : ∀ e ∈ es.map f, e.length = 0 := by
      rw [List.forall_mem_map]
      exact fun e hm => hf e (he e hm)
    rw [none es he, none _ changed, mapChunks, Nat.div_zero]
    rfl

end ArrayTransfer.Bytes
