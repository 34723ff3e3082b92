import Mathlib.Data.List.Nodup
import ArrayTransfer.Proofs.Selection.Order
import ArrayTransfer.Proofs.Selection.Store

/-! Scattering and gathering as inverses. Behind `scatter` each place of the selection has the last packed element for
    it, and the others are as they were (`Memory.Scattered`). So what was gathered scatters back without a change, and
    what was scattered gathers back if no element is selected twice, which only points can do
    (`Dataspace.Exact.nodup_places_iff`). Elements of no bytes need no exact numbers: whatever their places are, there
    is nothing to put there. -/

namespace ArrayTransfer

/-! ### Selecting an element twice -/

/-- No point is listed twice. -/
def Selection.Distinct : Selection → Prop
  | all => True
  | none => True
  | points p => p.points.Nodup
  | hyperslab _ => True

theorem offset_inj {shape : List UInt64} {p q : List Nat} (hp : InShape shape p) (hq : InShape shape q)
    (h : offset shape p = offset shape q) : p = q := by
  refine List.le_antisymm (fun hlt => ?_) fun hlt => ?_
  · exact Nat.ne_of_gt (offset_lt_offset hq hp hlt) h
  · exact Nat.ne_of_lt (offset_lt_offset hp hq hlt) h

namespace Dataspace
variable {d : Dataspace}

/-- An element is selected twice only as a point that is listed twice. -/
theorem Exact.nodup_places_iff (h : d.Exact) : d.places.Nodup ↔ d.selection.Distinct := by
  cases hs : d.selection with
  | all =>
    rw [places_all h.volume_lt hs]
    exact iff_of_true List.nodup_range trivial
  | none =>
    rw [places_none hs]
    exact iff_of_true List.nodup_nil trivial
  | points p =>
    rw [places_points h.volume_lt hs h.count_lt]
    refine ⟨List.Nodup.of_map _, List.Nodup.map_on fun q hq r hr same => ?_⟩
    have point := offset_inj (inShape_of_mem_points hs hq) (inShape_of_mem_points hs hr) same
    exact (List.map_inj_right fun _ _ => UInt64.toNat_inj.mp).mp point
  | hyperslab slab =>
    exact iff_of_true ((places_ascend h.volume_lt hs).imp Nat.ne_of_lt) trivial

end Dataspace

namespace Memory
variable {d : Dataspace} {size : Nat} {packed memory after : Bytes}

open Bytes (element)

/-! ### Behind scattering -/

/-- The memory behind scattering: each element is the last packed one that is put to its place, or what it was if none
    is. -/
structure Scattered (d : Dataspace) (size : Nat) (packed memory after : Bytes) : Prop where
  length : after.length = memory.length
  last : ∀ n k, d.places[n]? = some k → (∀ m > n, d.places[m]? ≠ some k) → element after size k = element packed size n
  others : ∀ k, k ∉ d.places → element after size k = element memory size k

theorem scatter_exact (h : d.Exact) (hm : memory.length = volume d.shape * size)
    (hp : packed.length = d.count * size) :
    ∃ after, scatter packed memory d size = .ok after ∧ Scattered d size packed memory after := by
  have sizes : ∀ e ∈ Bytes.split size d.count packed, e.length = size :=
    fun _ => Bytes.length_of_mem_split (Nat.le_of_eq hp.symm)
  have done := scatter_eq h hm sizes (Bytes.length_split packed)
  rw [Bytes.flatten_split, List.take_of_length_le (Nat.le_of_eq hp)] at done
  have placed : Placed size (volume d.shape) (d.places.zip (Bytes.split size d.count packed)) :=
    placed_zip (fun _ => h.place_lt) sizes
  have room := Nat.le_of_eq hm.symm
  refine ⟨_, done, length_place placed room, fun n k hn later => ?_, fun k hk => ?_⟩
  · have hlt : n < d.count := by
      rw [← h.length_places]
      exact (List.getElem?_eq_some_iff.mp hn).1
    have own : (Bytes.split size d.count packed)[n]? = some (element packed size n) := by simp [Bytes.split_eq_map, hlt]
    refine element_place_last placed room (List.getElem?_zip_eq_some.mpr ⟨hn, own⟩) fun m hm item hi same => ?_
    exact later m hm (same ▸ (List.getElem?_zip_eq_some.mp hi).1)
  · exact element_place_of_not_mem placed room fun item hi same => hk (same ▸ (List.of_mem_zip hi).1)

/-- If no element is selected twice, the selected elements are the packed ones. -/
theorem Scattered.selected (hs : Scattered d size packed memory after) (h : d.Exact) (hd : d.places.Nodup) :
    selected d size after = Bytes.split size d.count packed := by
  rw [Memory.selected, Bytes.split_eq_map]
  apply List.ext_getElem (by simp [h.length_places])
  intro n hn _
  have hn : n < d.places.length := by simpa using hn
  rw [List.getElem_map, List.getElem_map, List.getElem_range]
  refine hs.last n _ (List.getElem?_eq_getElem hn) fun m hm same => Nat.ne_of_lt hm ?_
  exact (List.getElem?_inj hn hd).mp ((List.getElem?_eq_getElem hn).trans same.symm)

/-! ### Elements of no bytes -/

theorem element_empty (b : Bytes) (k : Nat) : element b 0 k = [] := List.take_zero

theorem selected_empty (d : Dataspace) (memory : Bytes) : (selected d 0 memory).flatten = [] := by
  rw [List.flatten_eq_nil_iff, selected, List.forall_mem_map]
  exact fun k _ => element_empty memory k

theorem gather_empty (d : Dataspace) : gather [] d 0 = .ok ⟨[], d.region?.isSome⟩ := by
  unfold gather
  simp only [checkLengths, LengthMismatch.check, List.length_nil]
  cases d.region? with
  | none => simp [runBytes, Bytes.slice]
  | some r => simp [Bytes.slice]

theorem scatter_empty (d : Dataspace) : scatter [] [] d 0 = .ok [] := by
  have still : ∀ runs : List Run, scatterRuns 0 runs [] [] = [] := fun runs => by
    induction runs with
    | nil => rfl
    | cons r runs ih => simpa [scatterRuns, Bytes.patch] using ih
  simp only [scatter, checkLengths, LengthMismatch.check, List.length_nil, Nat.mul_zero, if_true, still]

/-! ### Elements of any size -/

section sized
variable (hs : volume d.shape * size < UInt64.size) (hh : d.selection.Held)
include hs hh

theorem exact_of_sized (h0 : 0 < size) : d.Exact :=
  Dataspace.Kept.exact ⟨rfl, hh⟩ (Nat.lt_of_le_of_lt (Nat.le_mul_of_pos_right _ h0) hs)

/-- The lengths that are checked are exact ones. -/
theorem sized_lengths : d.extent.toNat * size = volume d.shape * size ∧
    d.elementCount.toNat * size = d.places.length * size := by
  rcases Nat.eq_zero_or_pos size with rfl | h0
  · exact ⟨rfl, rfl⟩
  · have h := exact_of_sized hs hh h0
    rw [Dataspace.toNat_extent h.volume_lt, Dataspace.toNat_elementCount h.count_lt, h.length_places]
    exact ⟨rfl, rfl⟩

theorem checkLengths_memory {packed memory : Nat} (hm : memory ≠ volume d.shape * size) :
    checkLengths packed memory d size = .error ⟨memory, volume d.shape * size⟩ := by
  simp only [checkLengths, LengthMismatch.check, (sized_lengths hs hh).1, if_neg hm]

theorem checkLengths_packed {packed memory : Nat} (hm : memory = volume d.shape * size)
    (hp : packed ≠ d.places.length * size) :
    checkLengths packed memory d size = .error ⟨packed, d.places.length * size⟩ := by
  obtain ⟨extent, count⟩ := sized_lengths hs hh
  simp only [checkLengths, LengthMismatch.check, extent, count, if_pos hm, if_neg hp]

theorem gather_wrong (hm : memory.length ≠ volume d.shape * size) :
    gather memory d size = .error ⟨memory.length, volume d.shape * size⟩ := by
  simp only [gather, checkLengths_memory hs hh hm]

theorem scatter_wrong_memory (packed : Bytes) (hm : memory.length ≠ volume d.shape * size) :
    scatter packed memory d size = .error ⟨memory.length, volume d.shape * size⟩ := by
  simp only [scatter, checkLengths_memory hs hh hm]

theorem scatter_wrong_packed (hm : memory.length = volume d.shape * size)
    (hp : packed.length ≠ d.places.length * size) :
    scatter packed memory d size = .error ⟨packed.length, d.places.length * size⟩ := by
  simp only [scatter, checkLengths_packed hs hh hm hp]

/-! With elements of no bytes both buffers are empty, and elsewhere the numbers are exact. -/

theorem gather_selected (hm : memory.length = volume d.shape * size) :
    gather memory d size = .ok ⟨(selected d size memory).flatten, d.region?.isSome⟩ := by
  rcases Nat.eq_zero_or_pos size with rfl | h0
  · obtain rfl : memory = [] := List.eq_nil_of_length_eq_zero hm
    rw [gather_empty, selected_empty]
  · exact gather_eq (exact_of_sized hs hh h0) hm

theorem scatter_scattered (hm : memory.length = volume d.shape * size) (hp : packed.length = d.places.length * size) :
    ∃ after, scatter packed memory d size = .ok after ∧ Scattered d size packed memory after := by
  rcases Nat.eq_zero_or_pos size with rfl | h0
  · obtain rfl : memory = [] := List.eq_nil_of_length_eq_zero hm
    obtain rfl : packed = [] := List.eq_nil_of_length_eq_zero hp
    exact ⟨[], scatter_empty d, rfl, fun _ _ _ _ => by rw [element_empty, element_empty], fun _ _ => rfl⟩
  · have h := exact_of_sized hs hh h0
    exact scatter_exact h hm (by rwa [h.length_places] at hp)

/-- What was gathered scatters back without a change. -/
theorem scatter_selected (hm : memory.length = volume d.shape * size) :
    scatter (selected d size memory).flatten memory d size = .ok memory := by
  rcases Nat.eq_zero_or_pos size with rfl | h0
  · obtain rfl : memory = [] := List.eq_nil_of_length_eq_zero hm
    rw [selected_empty, scatter_empty]
  · have h := exact_of_sized hs hh h0
    rw [scatter_eq h hm (length_of_mem_selected h hm) (length_selected h), selected,
      place_elements (fun _ => h.place_lt) (Nat.le_of_eq hm.symm)]

/-- What was scattered gathers back if no element is selected twice. -/
theorem Scattered.gather (scattered : Scattered d size packed memory after)
    (hm : memory.length = volume d.shape * size) (hp : packed.length = d.places.length * size)
    (hd : d.places.Nodup ∨ d.selection.Distinct) : gather after d size = .ok ⟨packed, d.region?.isSome⟩ := by
  rw [gather_selected hs hh (scattered.length.trans hm)]
  rcases Nat.eq_zero_or_pos size with rfl | h0
  · obtain rfl : packed = [] := List.eq_nil_of_length_eq_zero hp
    rw [selected_empty]
  · have h := exact_of_sized hs hh h0
    rw [h.length_places] at hp
    rw [scattered.selected h (hd.elim id h.nodup_places_iff.mpr), Bytes.flatten_split,
      List.take_of_length_le (Nat.le_of_eq hp)]

end sized

/-- Gathering takes the elements of the memory at the places of the selection in their order, as a window or as a copy.
    Scattering leaves at each place the last packed element for it, and every other element as it was. What was gathered
    scatters back without a change, and what was scattered gathers back if no element is selected twice. A buffer of
    another length is an error, and no byte of the memory was written by then. -/
theorem gather_scatter_elements (hs : volume d.shape * size < UInt64.size) (hh : d.selection.Held)
    (packed memory : Bytes) :
    (memory.length = volume d.shape * size →
      gather memory d size = .ok ⟨(d.places.map (element memory size)).flatten, d.region?.isSome⟩ ∧
      scatter (d.places.map (element memory size)).flatten memory d size = .ok memory ∧
      (packed.length = d.places.length * size → ∃ after,
        scatter packed memory d size = .ok after ∧ (store packed d size).run.run memory = (.ok (), after) ∧
        Scattered d size packed memory after ∧
        (d.places.Nodup ∨ d.selection.Distinct → gather after d size = .ok ⟨packed, d.region?.isSome⟩)) ∧
      (packed.length ≠ d.places.length * size →
        scatter packed memory d size = .error ⟨packed.length, d.places.length * size⟩ ∧
        (store packed d size).run.run memory = (.error ⟨packed.length, d.places.length * size⟩, memory))) ∧
    (memory.length ≠ volume d.shape * size →
      gather memory d size = .error ⟨memory.length, volume d.shape * size⟩ ∧
      scatter packed memory d size = .error ⟨memory.length, volume d.shape * size⟩ ∧
      (store packed d size).run.run memory = (.error ⟨memory.length, volume d.shape * size⟩, memory)) ∧
    (0 < size → (d.places.Nodup ↔ d.selection.Distinct)) := by
  have leaves : ∀ r, scatter packed memory d size = r → InPlace.Leaves (store packed d size) memory r :=
    fun r hr => hr ▸ store_leaves packed memory d size
  refine ⟨fun hm => ⟨gather_selected hs hh hm, scatter_selected hs hh hm, fun hp => ?_, fun hp => ?_⟩, fun hm => ?_,
    fun h0 => (exact_of_sized hs hh h0).nodup_places_iff⟩
  · obtain ⟨after, done, scattered⟩ := scatter_scattered hs hh hm hp
    exact ⟨after, done, leaves _ done, scattered, scattered.gather hs hh hm hp⟩
  · have wrong := scatter_wrong_packed hs hh hm hp
    exact ⟨wrong, leaves _ wrong⟩
  · have wrong := scatter_wrong_memory hs hh packed hm
    exact ⟨gather_wrong hs hh hm, wrong, leaves _ wrong⟩

/-- The second of four pairs of bytes, the last, and the second again. -/
def repeated : Points := ⟨1, [[1], [3], [1]], Nat.one_pos, by decide⟩

/-- The second pair ends as the last one that is put there, and what was gathered is put back where it was. -/
theorem gather_scatter_repeated : let d : Dataspace := ⟨[4], .points repeated, by decide⟩
    let memory : Bytes := [0, 1, 2, 3, 4, 5, 6, 7]
    volume d.shape * 2 < UInt64.size ∧ d.selection.Held ∧
      gather memory d 2 = .ok ⟨[2, 3, 6, 7, 2, 3], d.region?.isSome⟩ ∧
      scatter [2, 3, 6, 7, 2, 3] memory d 2 = .ok memory ∧
      ∃ after, scatter [10, 11, 12, 13, 14, 15] memory d 2 = .ok after ∧ element after 2 1 = [14, 15] ∧
        element after 2 2 = [4, 5] := by
  intro d memory
  have small : volume d.shape * 2 < UInt64.size := by decide
  have held : d.selection.Held := show 3 < Dataspace.addressLimit by decide
  have listed : d.places = [1, 3, 1] := by decide
  obtain ⟨right, -⟩ := gather_scatter_elements small held [10, 11, 12, 13, 14, 15] memory
  rw [listed] at right
  obtain ⟨gathered, back, put, -⟩ := right rfl
  obtain ⟨after, done, -, scattered, -⟩ := put rfl
  refine ⟨small, held, gathered, back, after, done, ?_, ?_⟩
  · refine scattered.last 2 1 (by rw [listed]; rfl) fun m hm => ?_
    rw [listed, List.getElem?_eq_none (show 3 ≤ m from hm)]
    exact (Option.some_ne_none 1).symm
  · exact scattered.others 2 (by simp [listed])

end Memory

end ArrayTransfer
