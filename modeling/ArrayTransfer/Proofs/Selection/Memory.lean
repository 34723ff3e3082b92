import ArrayTransfer.Proofs.Bytes.Window
import ArrayTransfer.Proofs.Selection.Indices
import ArrayTransfer.Selection.Memory

/-! Packed elements and memory, element by element. In exact arithmetic `gather` takes the elements at the places of the
    selection in their order (`Memory.gather_eq`), and `scatter` puts one element after the other to its place
    (`Memory.scatter_eq`), whether the selection is one window or many runs. -/

namespace ArrayTransfer

open Bytes (element)

/-! ### Places -/

/-- The places of the selected elements, as numbers. -/
def Dataspace.places (d : Dataspace) : List Nat := d.indices.map UInt64.toNat

namespace Dataspace.Exact
variable {d : Dataspace} (h : d.Exact)
include h

theorem length_places : d.places.length = d.count := by
  rw [places, List.length_map, length_indices h.count_lt]

theorem place_lt {k : Nat} (hk : k ∈ d.places) : k < volume d.shape := by
  obtain ⟨i, hi, rfl⟩ := List.mem_map.mp hk
  exact h.lt_volume hi

end Dataspace.Exact

theorem Run.toNat_indices {r : Run} {v : Nat} (hv : v < UInt64.size) (hi : ∀ i ∈ r.indices, i.toNat < v) :
    r.indices.map UInt64.toNat = List.range' r.start.toNat r.length.toNat := by
  rw [indices, List.map_map, List.range'_eq_map_range]
  refine List.map_congr_left fun k hk => ?_
  have hk := List.mem_range.mp hk
  have hstop := stop_le hv (Nat.zero_lt_of_lt hk) hi
  have small : (UInt64.ofNat k).toNat = k := by
    rw [UInt64.toNat_ofNat', Nat.mod_eq_of_lt (Nat.lt_trans hk r.length.toNat_lt)]
  rw [Function.comp_apply, UInt64.toNat_add, small, Nat.mod_eq_of_lt (by simp only [UInt64.size] at hv; omega)]

theorem Run.stop_le_of_indices {r : Run} {v : Nat} (hv : v < UInt64.size) (hi : ∀ i ∈ r.indices, i.toNat < v) :
    r.length.toNat = 0 ∨ r.start.toNat + r.length.toNat ≤ v := by
  by_cases hl : r.length.toNat = 0
  · exact .inl hl
  · exact .inr (stop_le hv (Nat.pos_of_ne_zero hl) hi)

namespace Memory
variable {memory : Bytes} {size v : Nat} {items : List (Nat × Bytes)} {es : List Bytes}

/-! ### Elements at places -/

/-- Puts elements to their places, one after the other. -/
def place (size : Nat) (items : List (Nat × Bytes)) (memory : Bytes) : Bytes :=
  items.foldl (fun b (k, e) => Bytes.patch b (k * size) e) memory

@[simp] theorem place_nil (size : Nat) (memory : Bytes) : place size [] memory = memory := rfl

@[simp] theorem place_cons (size k : Nat) (e : Bytes) (items : List (Nat × Bytes)) (memory : Bytes) :
    place size ((k, e) :: items) memory = place size items (Bytes.patch memory (k * size) e) := rfl

theorem place_append (size : Nat) (items more : List (Nat × Bytes)) (memory : Bytes) :
    place size (items ++ more) memory = place size more (place size items memory) := List.foldl_append

/-- Each element is of the size, and its place is one of `v`. -/
def Placed (size v : Nat) (items : List (Nat × Bytes)) : Prop := ∀ item ∈ items, item.1 < v ∧ item.2.length = size

theorem placed_cons {item : Nat × Bytes} :
    Placed size v (item :: items) ↔ (item.1 < v ∧ item.2.length = size) ∧ Placed size v items :=
  List.forall_mem_cons

theorem placed_zip {ks : List Nat} (hk : ∀ k ∈ ks, k < v) (he : ∀ e ∈ es, e.length = size) :
    Placed size v (ks.zip es) := fun _ hi =>
  ⟨hk _ (List.of_mem_zip hi).1, he _ (List.of_mem_zip hi).2⟩

theorem patch_bound {k : Nat} {e : Bytes} (hk : k < v) (he : e.length = size) (hm : v * size ≤ memory.length) :
    k * size + e.length ≤ memory.length := by
  rw [he]
  exact Nat.le_trans (Bytes.element_bound hk) hm

theorem length_patch_element {k : Nat} {e : Bytes} (hk : k < v) (he : e.length = size)
    (hm : v * size ≤ memory.length) : (Bytes.patch memory (k * size) e).length = memory.length :=
  Bytes.length_patch memory _ _ (patch_bound hk he hm)

theorem length_place (hi : Placed size v items) (hm : v * size ≤ memory.length) :
    (place size items memory).length = memory.length := by
  induction items generalizing memory with
  | nil => rfl
  | cons item items ih =>
    obtain ⟨⟨hk, he⟩, rest⟩ := placed_cons.mp hi
    have hl := length_patch_element hk he hm
    rw [place_cons, ih rest (Nat.le_trans hm (Nat.le_of_eq hl.symm)), hl]

/-- A byte of no element's place stays. -/
theorem getElem?_place (hi : Placed size v items) (hm : v * size ≤ memory.length) {i : Nat}
    (ho : ∀ item ∈ items, i < item.1 * size ∨ item.1 * size + size ≤ i) :
    (place size items memory)[i]? = memory[i]? := by
  induction items generalizing memory with
  | nil => rfl
  | cons item items ih =>
    obtain ⟨⟨hk, he⟩, rest⟩ := placed_cons.mp hi
    obtain ⟨out, others⟩ := List.forall_mem_cons.mp ho
    have hl := length_patch_element hk he hm
    rw [place_cons, ih rest (Nat.le_trans hm (Nat.le_of_eq hl.symm)) others]
    exact Bytes.getElem?_patch_of_not_mem (patch_bound hk he hm) (by rw [he]; exact out)

theorem element_patch_same {k : Nat} {e : Bytes} (hk : k < v) (he : e.length = size) (hm : v * size ≤ memory.length) :
    element (Bytes.patch memory (k * size) e) size k = e := by
  have := Bytes.slice_patch_same (patch_bound hk he hm)
  rwa [he] at this

theorem element_patch_ne {j k : Nat} {e : Bytes} (hk : k < v) (he : e.length = size) (hm : v * size ≤ memory.length)
    (hj : j ≠ k) : element (Bytes.patch memory (k * size) e) size j = element memory size j := by
  refine Bytes.slice_patch_disjoint (patch_bound hk he hm) ?_
  rw [he]
  rcases Nat.lt_or_gt_of_ne hj with hlt | hgt
  · exact .inl (Bytes.element_bound hlt)
  · exact .inr (Bytes.element_bound hgt)

theorem element_place_of_not_mem {k : Nat} (hi : Placed size v items) (hm : v * size ≤ memory.length)
    (ho : ∀ item ∈ items, item.1 ≠ k) : element (place size items memory) size k = element memory size k := by
  induction items generalizing memory with
  | nil => rfl
  | cons item items ih =>
    obtain ⟨⟨hk, he⟩, rest⟩ := placed_cons.mp hi
    obtain ⟨hne, others⟩ := List.forall_mem_cons.mp ho
    have hl := length_patch_element hk he hm
    rw [place_cons, ih rest (Nat.le_trans hm (Nat.le_of_eq hl.symm)) others, element_patch_ne hk he hm hne.symm]

/-- The last of the elements for a place is the one that ends there. -/
theorem element_place_last {n k : Nat} {e : Bytes} (hi : Placed size v items) (hm : v * size ≤ memory.length)
    (hn : items[n]? = some (k, e)) (later : ∀ m > n, ∀ item, items[m]? = some item → item.1 ≠ k) :
    element (place size items memory) size k = e := by
  induction items generalizing n memory with
  | nil => cases hn
  | cons item items ih =>
    obtain ⟨⟨hk, he⟩, rest⟩ := placed_cons.mp hi
    have room := Nat.le_trans hm (Nat.le_of_eq (length_patch_element hk he hm).symm)
    rw [place_cons]
    cases n with
    | zero =>
      obtain rfl : item = (k, e) := Option.some.inj hn
      have others : ∀ x ∈ items, x.1 ≠ k := fun x hx => by
        obtain ⟨m, hm⟩ := List.mem_iff_getElem?.mp hx
        exact later (m + 1) (Nat.succ_pos m) x hm
      rw [element_place_of_not_mem rest room others, element_patch_same hk he hm]
    | succ n => exact ih rest room hn fun m hmn x hx => later (m + 1) (Nat.succ_lt_succ hmn) x hx

/-- Putting elements to where they are changes nothing. -/
theorem place_elements {ks : List Nat} (hk : ∀ k ∈ ks, k < v) (hm : v * size ≤ memory.length) :
    place size (ks.zip (ks.map (element memory size))) memory = memory := by
  induction ks with
  | nil => rfl
  | cons k ks ih =>
    obtain ⟨hkv, hk⟩ := List.forall_mem_cons.mp hk
    rw [List.map_cons, List.zip_cons_cons, place_cons, Bytes.patch_slice (Nat.le_trans (Bytes.element_bound hkv) hm),
      ih hk]

theorem patch_flatten {start : Nat} (he : ∀ e ∈ es, e.length = size)
    (hm : (start + es.length) * size ≤ memory.length ∨ es = []) :
    Bytes.patch memory (start * size) es.flatten = place size ((List.range' start es.length).zip es) memory := by
  induction es generalizing start memory with
  | nil => simp
  | cons e es ih =>
    have hm := hm.resolve_right (List.cons_ne_nil _ _)
    have hs := he e List.mem_cons_self
    have hes : ∀ x ∈ es, x.length = size := fun x hx => he x (List.mem_cons_of_mem _ hx)
    rw [List.length_cons, Nat.add_mul, Nat.succ_mul] at hm
    have room : start * size + e.length + es.flatten.length ≤ memory.length := by
      rw [hs, Bytes.length_flatten_of_size hes]
      omega
    have hl := Bytes.length_patch memory (start * size) e (by omega)
    rw [List.flatten_cons, Bytes.patch_append room, hs, ← Nat.succ_mul, ih hes, List.length_cons, List.range'_succ,
      List.zip_cons_cons, place_cons]
    left
    rw [hl, Nat.add_mul, Nat.succ_mul]
    omega

/-! ### Runs -/

variable {runs : List Run}

theorem scatterRuns_eq (hv : v < UInt64.size) (hi : ∀ i ∈ runs.flatMap Run.indices, i.toNat < v)
    (he : ∀ e ∈ es, e.length = size) (hl : es.length = (runs.flatMap Run.indices).length)
    (hm : memory.length = v * size) :
    scatterRuns size runs es.flatten memory =
      place size (((runs.flatMap Run.indices).map UInt64.toNat).zip es) memory := by
  induction runs generalizing es memory with
  | nil => rfl
  | cons r runs ih =>
    rw [List.flatMap_cons] at hi hl
    rw [List.length_append, Run.length_indices] at hl
    have hr : ∀ i ∈ r.indices, i.toNat < v := fun i h => hi i (List.mem_append_left _ h)
    have split : es = es.take r.length.toNat ++ es.drop r.length.toNat := (List.take_append_drop ..).symm
    have hfirst : ∀ e ∈ es.take r.length.toNat, e.length = size := fun e h => he e (List.mem_of_mem_take h)
    have hlfirst : (es.take r.length.toNat).length = r.length.toNat := by rw [List.length_take]; omega
    have hbytes : (es.take r.length.toNat).flatten.length = r.length.toNat * size := by
      rw [Bytes.length_flatten_of_size hfirst, hlfirst]
    have window : Bytes.patch memory (r.start.toNat * size) (es.take r.length.toNat).flatten =
        place size ((r.indices.map UInt64.toNat).zip (es.take r.length.toNat)) memory := by
      rw [Run.toNat_indices hv hr, patch_flatten hfirst, hlfirst]
      rw [hlfirst, hm]
      rcases Run.stop_le_of_indices hv hr with h0 | hle
      · exact .inr (by rw [h0]; rfl)
      · exact .inl (Nat.mul_le_mul_right _ hle)
    have placed : Placed size v ((r.indices.map UInt64.toNat).zip (es.take r.length.toNat)) := by
      refine placed_zip ?_ hfirst
      rw [List.forall_mem_map]
      exact hr
    have hlength := length_place placed (Nat.le_of_eq hm.symm)
    calc scatterRuns size (r :: runs) es.flatten memory
      _ = scatterRuns size runs (es.drop r.length.toNat).flatten
            (Bytes.patch memory (r.start.toNat * size) (es.take r.length.toNat).flatten) := by
        rw [scatterRuns]
        congr 1
        · conv => lhs; rw [split, List.flatten_append, List.drop_left' hbytes]
        · congr 1
          conv => lhs; rw [split, List.flatten_append, List.take_left' hbytes]
      _ = place size (((runs.flatMap Run.indices).map UInt64.toNat).zip (es.drop r.length.toNat))
            (place size ((r.indices.map UInt64.toNat).zip (es.take r.length.toNat)) memory) := by
        rw [window, ih (fun i h => hi i (List.mem_append_right _ h)) (fun e h => he e (List.mem_of_mem_drop h))
          (by rw [List.length_drop]; omega) (by rw [hlength, hm])]
      _ = _ := by
        rw [← place_append, ← List.zip_append (by rw [List.length_map, Run.length_indices, hlfirst]), ← List.map_append,
          ← split, List.flatMap_cons]

theorem runBytes_eq {r : Run} (hv : v < UInt64.size) (hi : ∀ i ∈ r.indices, i.toNat < v) :
    runBytes memory size r = ((r.indices.map UInt64.toNat).map (element memory size)).flatten := by
  rw [runBytes, Bytes.slice_eq_flatten_elements, Run.toNat_indices hv hi]

theorem flatMap_runBytes (hv : v < UInt64.size) (hi : ∀ i ∈ runs.flatMap Run.indices, i.toNat < v) :
    runs.flatMap (runBytes memory size) =
      (((runs.flatMap Run.indices).map UInt64.toNat).map (element memory size)).flatten := by
  induction runs with
  | nil => rfl
  | cons r runs ih =>
    rw [List.flatMap_cons] at hi
    rw [List.flatMap_cons, runBytes_eq hv fun i h => hi i (List.mem_append_left _ h),
      ih fun i h => hi i (List.mem_append_right _ h), List.flatMap_cons, List.map_append, List.map_append,
      List.flatten_append]

/-! ### Selected elements -/

variable {d : Dataspace}

theorem checkLengths_eq_ok (h : d.Exact) {packed : Nat} (hp : packed = d.count * size)
    (hm : memory.length = volume d.shape * size) : checkLengths packed memory.length d size = .ok () := by
  simp [checkLengths, LengthMismatch.check, Dataspace.toNat_extent h.volume_lt, Dataspace.toNat_elementCount h.count_lt,
    hm, hp]

theorem places_of_region (h : d.Exact) {r : Run} (hr : d.region? = some r) :
    d.places = List.range' r.start.toNat d.count ∧ (d.count = 0 ∨ r.start.toNat + d.count ≤ volume d.shape) := by
  have hi := Dataspace.indices_of_region hr
  have hlt : ∀ i ∈ r.indices, i.toNat < volume d.shape := fun i hm => h.lt_volume (by rwa [hi])
  have hc : r.length.toNat = d.count := by
    rw [← Dataspace.length_indices h.count_lt, hi, Run.length_indices]
  rw [Dataspace.places, hi, ← hc]
  exact ⟨Run.toNat_indices h.volume_lt hlt, Run.stop_le_of_indices h.volume_lt hlt⟩

/-- The elements of the memory at the places of the selection, in their order. -/
def selected (d : Dataspace) (size : Nat) (memory : Bytes) : List Bytes := d.places.map (element memory size)

theorem length_selected (h : d.Exact) : (selected d size memory).length = d.count := by
  rw [selected, List.length_map, h.length_places]

theorem length_of_mem_selected (h : d.Exact) (hm : memory.length = volume d.shape * size) :
    ∀ e ∈ selected d size memory, e.length = size := by
  rw [selected, List.forall_mem_map]
  exact fun k hk => Bytes.length_element (Nat.le_of_eq hm.symm) (h.place_lt hk)

theorem slice_region (h : d.Exact) {r : Run} (hr : d.region? = some r) :
    Bytes.slice memory (r.start.toNat * size) (d.count * size) = (selected d size memory).flatten := by
  rw [Bytes.slice_eq_flatten_elements, selected, (places_of_region h hr).1]

/-- Gathering takes the selected elements, in their order. -/
theorem gather_eq (h : d.Exact) (hm : memory.length = volume d.shape * size) :
    gather memory d size = .ok ⟨(selected d size memory).flatten, d.region?.isSome⟩ := by
  simp only [gather, Dataspace.toNat_elementCount h.count_lt, checkLengths_eq_ok h rfl hm]
  cases hr : d.region? with
  | none =>
    simp only [Option.isSome_none]
    rw [flatMap_runBytes h.volume_lt fun i => h.lt_volume]
    rfl
  | some r =>
    simp only [Option.isSome_some]
    rw [slice_region h hr]

/-- Scattering puts each element to its place, in their order. -/
theorem scatter_eq (h : d.Exact) (hm : memory.length = volume d.shape * size) (he : ∀ e ∈ es, e.length = size)
    (hl : es.length = d.count) : scatter es.flatten memory d size = .ok (place size (d.places.zip es) memory) := by
  have hp : es.flatten.length = d.count * size := by rw [Bytes.length_flatten_of_size he, hl]
  simp only [scatter, checkLengths_eq_ok h hp hm]
  rw [scatterRuns_eq h.volume_lt (fun i => h.lt_volume) he (hl.trans (Dataspace.length_indices h.count_lt).symm) hm]
  rfl

theorem patch_region (h : d.Exact) (hm : memory.length = volume d.shape * size) (he : ∀ e ∈ es, e.length = size)
    (hl : es.length = d.count) {r : Run} (hr : d.region? = some r) :
    Bytes.patch memory (r.start.toNat * size) es.flatten = place size (d.places.zip es) memory := by
  obtain ⟨hplaces, hstop⟩ := places_of_region h hr
  rw [hplaces, ← hl, patch_flatten he]
  rw [hl, hm]
  rcases hstop with h0 | hle
  · exact .inr (List.eq_nil_of_length_eq_zero (hl.trans h0))
  · exact .inl (Nat.mul_le_mul_right _ hle)

end Memory

end ArrayTransfer
