import ArrayTransfer.Bytes

/-! Windows of byte strings. Everything about `slice` and `patch` follows from the bytes that they hold one by one
    (`getElem?_slice`, `getElem?_patch`): what is patched reads back, and a window that shares no byte with the patch
    stays. Packed elements are adjacent windows of one size. -/

namespace ArrayTransfer.Bytes
variable {b w : Bytes} {i m n s size start : Nat}

/-! ### One window -/

theorem getElem?_slice : (slice b start n)[i]? = if i < n then b[start + i]? else none := by
  simp [slice, List.getElem?_take]

theorem getElem?_patch (h : start + w.length ≤ b.length) :
    (patch b start w)[i]? = if start ≤ i ∧ i < start + w.length then w[i - start]? else b[i]? := by
  have hs : (b.take start).length = start := by simp; omega
  rw [patch, List.append_assoc, List.getElem?_append, hs]
  split
  · rename_i hi
    rw [if_neg (by omega), List.getElem?_take, if_pos hi]
  · rw [List.getElem?_append]
    split
    · rw [if_pos (by omega)]
    · rw [if_neg (by omega), List.getElem?_drop]
      congr 1
      omega

theorem getElem?_patch_of_mem (h : start + w.length ≤ b.length) (hi : start ≤ i) (hn : i < start + w.length) :
    (patch b start w)[i]? = w[i - start]? := by
  rw [getElem?_patch h, if_pos ⟨hi, hn⟩]

theorem getElem?_patch_of_not_mem (h : start + w.length ≤ b.length) (hi : i < start ∨ start + w.length ≤ i) :
    (patch b start w)[i]? = b[i]? := by
  rw [getElem?_patch h, if_neg (by omega)]

theorem slice_patch_same (h : start + w.length ≤ b.length) : slice (patch b start w) start w.length = w := by
  apply List.ext_getElem?
  intro i
  rw [getElem?_slice]
  split
  · rw [getElem?_patch_of_mem h (by omega) (by omega), Nat.add_sub_cancel_left]
  · rw [List.getElem?_eq_none (by omega)]

theorem slice_patch_disjoint (h : start + w.length ≤ b.length) (hd : s + n ≤ start ∨ start + w.length ≤ s) :
    slice (patch b start w) s n = slice b s n := by
  apply List.ext_getElem?
  intro i
  rw [getElem?_slice, getElem?_slice]
  split
  · rw [getElem?_patch_of_not_mem h (by omega)]
  · rfl

theorem patch_slice (h : start + n ≤ b.length) : patch b start (slice b start n) = b := by
  have hl := length_slice b start n h
  apply List.ext_getElem?
  intro i
  by_cases hi : start ≤ i ∧ i < start + n
  · rw [getElem?_patch_of_mem (by omega) hi.1 (by omega), getElem?_slice, if_pos (by omega), Nat.add_sub_cancel' hi.1]
  · rw [getElem?_patch_of_not_mem (by omega) (by omega)]

@[simp] theorem patch_nil (b : Bytes) (start : Nat) : patch b start [] = b := by simp [patch]

theorem take_eq_slice (b : Bytes) (n : Nat) : b.take n = slice b 0 n := by simp [slice]

theorem slice_whole {n : Nat} (h : b.length = n) : slice b 0 n = b := by
  rw [← take_eq_slice, ← h, List.take_length]

theorem patch_whole (h : w.length = b.length) : patch b 0 w = w := by simp [patch, h]

theorem slice_zeros (h : s + m ≤ n) : slice (zeros n) s m = zeros m := by
  rw [slice, zeros, zeros, List.drop_replicate, List.take_replicate, Nat.min_eq_left (by omega)]

theorem slice_append (b : Bytes) (start m n : Nat) :
    slice b start (m + n) = slice b start m ++ slice b (start + m) n := by
  rw [slice, slice, slice, List.take_add, List.drop_drop]

theorem slice_slice {k : Nat} (inside : s + k ≤ n) : slice (slice b start n) s k = slice b (start + s) k := by
  unfold slice
  rw [List.drop_take, List.take_take, List.drop_drop, Nat.min_eq_left (by omega)]

theorem patch_append {d : Bytes} (h : start + w.length + d.length ≤ b.length) :
    patch b start (w ++ d) = patch (patch b start w) (start + w.length) d := by
  have hl : (patch b start w).length = b.length := length_patch b start w (by omega)
  apply List.ext_getElem?
  intro i
  rw [getElem?_patch (by simp; omega), getElem?_patch (by omega), getElem?_patch (by omega), List.length_append,
    List.getElem?_append]
  by_cases h1 : start ≤ i ∧ i < start + w.length
  · rw [if_pos ⟨h1.1, by omega⟩, if_pos (by omega), if_neg (by omega), if_pos h1]
  · by_cases h2 : start + w.length ≤ i ∧ i < start + w.length + d.length
    · rw [if_pos (by omega), if_neg (by omega), if_pos h2, Nat.sub_add_eq]
    · rw [if_neg (by omega), if_neg h2, if_neg h1]

theorem slice_append_left (h : s + n ≤ b.length) : slice (b ++ w) s n = slice b s n := by
  rw [slice, slice, List.drop_append_of_le_length (by omega), List.take_append_of_le_length (by simp; omega)]

theorem slice_fit (hn : b.length ≤ m) (h : s + n ≤ b.length) : slice (fit b m) s n = slice b s n := by
  rw [fit, List.take_of_length_le hn, slice_append_left h]

/-- A string that is padded and cut to its length again is the string. -/
theorem fit_fit (h : b.length ≤ n) : fit (fit b n) b.length = b := by
  unfold fit
  rw [List.take_of_length_le h, List.take_left, Nat.sub_eq_zero_of_le (by simp)]
  exact List.append_nil b

theorem zero_not_mem_beforeZero (b : Bytes) : 0 ∉ beforeZero b := fun h => by
  simpa using List.all_eq_true.mp (List.all_takeWhile (p := (· != 0)) (l := b)) 0 h

theorem length_beforeZero_le (b : Bytes) : (beforeZero b).length ≤ b.length := (List.takeWhile_sublist _).length_le

/-- Padding with zeros is taken off again. -/
theorem beforeZero_fit (h : 0 ∉ b) (hn : b.length ≤ n) : beforeZero (fit b n) = b := by
  have text : ∀ x ∈ b, (x != 0) = true := fun x hx => by simpa using fun e : x = 0 => h (e ▸ hx)
  rw [beforeZero, fit, List.take_of_length_le hn, List.takeWhile_append_of_pos text, zeros]
  cases n - b.length <;> simp [List.replicate_succ]

theorem beforeZero_fit_beforeZero (h : b.length ≤ n) : beforeZero (fit (beforeZero b) n) = beforeZero b :=
  beforeZero_fit (zero_not_mem_beforeZero b) (Nat.le_trans (length_beforeZero_le b) h)

/-- The bytes with zeros in place of all that stands behind the first zero. -/
def clearTail : Bytes → Bytes
  | [] => []
  | x :: rest => if x = 0 then zeros (rest.length + 1) else x :: clearTail rest

theorem clearTail_eq_fit (b : Bytes) : clearTail b = fit (beforeZero b) b.length := by
  induction b with
  | nil => rfl
  | cons x rest ih =>
    rw [clearTail]
    by_cases zero : x = 0
    · simp [zero, beforeZero, fit]
    · have front : beforeZero (x :: rest) = x :: beforeZero rest := List.takeWhile_cons_of_pos (by simpa using zero)
      rw [if_neg zero, ih, front]
      simp [fit]

theorem beforeZero_clearTail (b : Bytes) : beforeZero (clearTail b) = beforeZero b := by
  rw [clearTail_eq_fit, beforeZero_fit_beforeZero (Nat.le_refl _)]

theorem beforeZero_eq_nil_iff (h : b ≠ []) : beforeZero b = [] ↔ b.head? = some 0 := by
  cases b with
  | nil => exact absurd rfl h
  | cons x rest => by_cases zero : x = 0 <;> simp [beforeZero, zero]

theorem slice_patch_zero (h : s + n ≤ w.length) : slice (patch b 0 w) s n = slice w s n := by
  rw [patch, List.take_zero, List.nil_append, slice_append_left h]

/-! ### Byte strings of one size -/

theorem ext_of_length (hl : b.length = w.length) (h : ∀ i < b.length, b[i]? = w[i]?) : b = w := by
  apply List.ext_getElem?
  intro i
  by_cases hi : i < b.length
  · exact h i hi
  · rw [List.getElem?_eq_none (by omega), List.getElem?_eq_none (by omega)]

theorem getElem?_of_slice_eq (h : slice b start n = slice w s n) (hi : i < n) : b[start + i]? = w[s + i]? := by
  have := congrArg (fun w : Bytes => w[i]?) h
  simpa only [getElem?_slice, if_pos hi] using this

/-! ### Packed elements -/

/-- Packed element number `k`. -/
abbrev element (b : Bytes) (size k : Nat) : Bytes := slice b (k * size) size

theorem element_bound {k : Nat} (hk : k < n) : k * size + size ≤ n * size := by
  rw [← Nat.succ_mul]
  exact Nat.mul_le_mul_right _ hk

theorem length_element {k : Nat} (hl : n * size ≤ b.length) (hk : k < n) : (element b size k).length = size :=
  length_slice b _ _ (Nat.le_trans (element_bound hk) hl)

theorem element_zero (b : Bytes) (size : Nat) : element b size 0 = b.take size := by
  rw [element, Nat.zero_mul, take_eq_slice]

theorem element_succ (b : Bytes) (size k : Nat) : element b size (k + 1) = element (b.drop size) size k := by
  rw [element, element, slice, slice, List.drop_drop, Nat.succ_mul, Nat.add_comm (k * size)]

theorem split_eq_map (b : Bytes) : split size n b = (List.range n).map (element b size) := by
  induction n generalizing b with
  | zero => rfl
  | succ n ih =>
    rw [split, ih, List.range_succ_eq_map, List.map_cons, List.map_map, element_zero]
    simp only [Function.comp_def, element_succ]

@[simp] theorem length_split (b : Bytes) : (split size n b).length = n := by simp [split_eq_map]

theorem length_of_mem_split (hl : n * size ≤ b.length) {e : Bytes} (he : e ∈ split size n b) : e.length = size := by
  rw [split_eq_map] at he
  obtain ⟨k, hk, rfl⟩ := List.mem_map.mp he
  exact length_element hl (List.mem_range.mp hk)

theorem flatten_split (b : Bytes) : (split size n b).flatten = b.take (n * size) := by
  induction n generalizing b with
  | zero => simp [split]
  | succ n ih => rw [split, List.flatten_cons, ih, Nat.succ_mul, Nat.add_comm, List.take_add]

theorem slice_eq_flatten_elements (b : Bytes) (start n : Nat) :
    slice b (start * size) (n * size) = ((List.range' start n).map (element b size)).flatten := by
  induction n generalizing start with
  | zero => simp [slice]
  | succ n ih =>
    rw [List.range'_succ, List.map_cons, List.flatten_cons, ← ih, Nat.succ_mul, Nat.add_comm, slice_append,
      Nat.succ_mul]

/-- Packed elements are told apart again. -/
theorem split_flatten {es : List Bytes} (h : ∀ e ∈ es, e.length = size) : split size es.length es.flatten = es := by
  induction es with
  | nil => rfl
  | cons e es ih =>
    have he := h e List.mem_cons_self
    rw [List.length_cons, split, List.flatten_cons, List.take_left' he, List.drop_left' he,
      ih fun x hx => h x (List.mem_cons_of_mem _ hx)]

theorem element_flatten {es : List Bytes} (h : ∀ e ∈ es, e.length = size) {k : Nat} (hk : k < es.length) :
    element es.flatten size k = es[k] := by
  have cut := split_flatten h
  rw [split_eq_map] at cut
  have own := congrArg (fun l : List Bytes => l[k]?) cut
  simpa [hk] using own

theorem length_flatten_of_size {es : List Bytes} (h : ∀ e ∈ es, e.length = size) :
    es.flatten.length = es.length * size := by
  induction es with
  | nil => simp
  | cons e es ih =>
    rw [List.flatten_cons, List.length_append, h e List.mem_cons_self, ih fun x hx => h x (List.mem_cons_of_mem _ hx),
      List.length_cons, Nat.succ_mul, Nat.add_comm]

end ArrayTransfer.Bytes
