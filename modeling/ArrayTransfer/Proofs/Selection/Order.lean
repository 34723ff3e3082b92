import Mathlib.Data.List.Forall2
import ArrayTransfer.Proofs.Selection.Checked
import ArrayTransfer.Proofs.Selection.Selecting

/-! The places of a selection in order. The coordinates of a hyperslab are all that its axes select, in lexicographic
    order (`Hyperslab.mem_coordinates`, `Hyperslab.coordinates_ascend`), and a place grows with its coordinates
    (`offset_lt_offset`), so that the places of a hyperslab ascend. Points stand where the list has them. -/

namespace ArrayTransfer

/-! ### Coordinates -/

theorem mem_grid {ls : List (List Nat)} {p : List Nat} : p ∈ grid ls ↔ List.Forall₂ (fun k l => k ∈ l) p ls := by
  induction ls generalizing p with
  | nil => simp [grid]
  | cons l ls ih =>
    simp only [grid, List.mem_flatMap, List.mem_map, List.forall₂_cons_right_iff, ih]
    constructor
    · rintro ⟨k, hk, q, hq, rfl⟩
      exact ⟨k, q, hk, hq, rfl⟩
    · rintro ⟨k, q, hk, hq, rfl⟩
      exact ⟨k, hk, q, hq, rfl⟩

/-- Lists that ascend make a grid that does, in lexicographic order. -/
theorem grid_ascends {ls : List (List Nat)} (h : ∀ l ∈ ls, l.Pairwise (· < ·)) : (grid ls).Pairwise (· < ·) := by
  induction ls with
  | nil => exact List.pairwise_singleton _ _
  | cons l ls ih =>
    rw [List.forall_mem_cons] at h
    have inner := ih h.2
    rw [grid, List.pairwise_flatMap]
    refine ⟨fun k _ => ?_, h.1.imp fun {j k} hjk p hp q hq => ?_⟩
    · rw [List.pairwise_map]
      exact inner.imp fun hpq => List.cons_lt_cons_iff.mpr (.inr ⟨rfl, hpq⟩)
    · obtain ⟨p, -, rfl⟩ := List.mem_map.mp hp
      obtain ⟨q, -, rfl⟩ := List.mem_map.mp hq
      exact List.cons_lt_cons_iff.mpr (.inl hjk)

/-- Blocks that do not overlap ascend. -/
theorem Axis.Valid.indices_ascend {a : Axis} (h : a.Valid) : a.indices.Pairwise (· < ·) := by
  rw [indices, List.pairwise_flatMap]
  refine ⟨fun i _ => List.pairwise_lt_range', ?_⟩
  rw [List.pairwise_iff_getElem]
  intro i j hi hj hij k hk n hn
  simp only [List.length_range, List.getElem_range, List.mem_range', Nat.one_mul] at hi hj hk hn
  obtain ⟨u, hu, rfl⟩ := hk
  obtain ⟨v, -, rfl⟩ := hn
  have block := h.block_le_stride (by omega)
  calc a.start.toNat + i * a.stride.toNat + u
    _ < a.start.toNat + i * a.stride.toNat + a.stride.toNat := by omega
    _ = a.start.toNat + (i + 1) * a.stride.toNat := by rw [Nat.succ_mul, Nat.add_assoc]
    _ ≤ a.start.toNat + j * a.stride.toNat := Nat.add_le_add_left (Nat.mul_le_mul_right _ hij) _
    _ ≤ a.start.toNat + j * a.stride.toNat + v := Nat.le_add_right _ _

namespace Hyperslab
variable {h : Hyperslab}

/-- The coordinates of a hyperslab are the lists that take an index of some block along each axis. -/
theorem mem_coordinates {p : List Nat} : p ∈ h.coordinates ↔ List.Forall₂ (fun (k : Nat) (a : Axis) =>
    ∃ i < a.count.toNat, ∃ j < a.block.toNat, k = a.start.toNat + i * a.stride.toNat + j) p h.axes := by
  rw [coordinates, mem_grid, List.forall₂_map_right_iff]
  simp only [Axis.mem_indices]

theorem coordinates_ascend (h : Hyperslab) : h.coordinates.Pairwise (· < ·) :=
  grid_ascends (List.forall_mem_map.mpr fun a ha => (h.valid a ha).indices_ascend)

end Hyperslab

/-! ### Places -/

/-- The number of elements that one step along each dimension of the shape passes over. -/
def rowStrides : List UInt64 → List Nat
  | [] => []
  | _ :: shape => volume shape :: rowStrides shape

theorem offset_eq_sum (shape : List UInt64) (p : List Nat) :
    offset shape p = (List.zipWith (· * ·) p (rowStrides shape)).foldr (· + ·) 0 := by
  induction shape generalizing p with
  | nil => simp [offset, rowStrides]
  | cons extent shape ih =>
    cases p with
    | nil => simp [offset]
    | cons k p => simp [offset, rowStrides, ih]

/-- The places of a shape grow with the coordinates. -/
theorem offset_lt_offset {shape : List UInt64} {p q : List Nat} (hp : InShape shape p) (hq : InShape shape q)
    (h : p < q) : offset shape p < offset shape q := by
  induction shape generalizing p q with
  | nil =>
    cases p with
    | cons j p => exact hp.elim
    | nil =>
      cases q with
      | cons k q => exact hq.elim
      | nil => exact absurd h (List.lt_irrefl _)
  | cons extent shape ih =>
    cases p with
    | nil => exact hp.elim
    | cons j p =>
      cases q with
      | nil => exact hq.elim
      | cons k q =>
        rcases List.cons_lt_cons_iff.mp h with hjk | ⟨rfl, hpq⟩
        · calc offset (extent :: shape) (j :: p)
            _ = j * volume shape + offset shape p := rfl
            _ < j * volume shape + volume shape := Nat.add_lt_add_left (offset_lt_volume hp.2) _
            _ = (j + 1) * volume shape := (Nat.succ_mul ..).symm
            _ ≤ k * volume shape := Nat.mul_le_mul_right _ hjk
            _ ≤ offset (extent :: shape) (k :: q) := Nat.le_add_right _ _
        · exact Nat.add_lt_add_left (ih hp.2 hq.2 hpq) _

namespace Dataspace
variable {d : Dataspace} (hv : volume d.shape < UInt64.size)
include hv

theorem map_toNat_ofNat {α : Type} {f : α → Nat} {l : List α} (h : ∀ a ∈ l, f a < volume d.shape) :
    (l.map fun a => UInt64.ofNat (f a)).map UInt64.toNat = l.map f := by
  rw [List.map_map]
  refine List.map_congr_left fun a ha => ?_
  rw [Function.comp_apply, UInt64.toNat_ofNat', Nat.mod_eq_of_lt (Nat.lt_trans (h a ha) hv)]

theorem places_hyperslab {h : Hyperslab} (hs : d.selection = .hyperslab h) :
    d.places = h.coordinates.map (offset d.shape) := by
  rw [places, indices_hyperslab hs]
  exact map_toNat_ofNat hv fun p hp => offset_lt_volume (inShape_of_mem_coordinates hs hp)

/-- The places of a hyperslab ascend. -/
theorem places_ascend {h : Hyperslab} (hs : d.selection = .hyperslab h) : d.places.Pairwise (· < ·) := by
  rw [places_hyperslab hv hs, List.pairwise_map]
  refine h.coordinates_ascend.imp_of_mem fun hp hq => ?_
  exact offset_lt_offset (inShape_of_mem_coordinates hs hp) (inShape_of_mem_coordinates hs hq)

theorem places_points {p : Points} (hs : d.selection = .points p) (hc : d.count < UInt64.size) :
    d.places = p.points.map fun q => offset d.shape (q.map UInt64.toNat) := by
  rw [places, indices_points hs hc]
  exact map_toNat_ofNat hv fun q hq => offset_lt_volume (inShape_of_mem_points hs hq)

theorem places_all (hs : d.selection = .all) : d.places = List.range (volume d.shape) := by
  rw [places, indices_all hs (count_all hs ▸ hv)]
  refine (map_toNat_ofNat hv fun k hk => List.mem_range.mp hk).trans ?_
  rw [List.map_id']

omit hv in
theorem places_none (hs : d.selection = .none) : d.places = [] := by
  rw [places, indices_none hs, List.map_nil]

omit hv

/-- The indices of a dataspace in order. For a hyperslab they are the places, coordinate times stride summed up, of all
    coordinates that its axes select, in lexicographic order, and they ascend. For points they are the places of the
    points as listed, for everything all places, for nothing none. If there is any, no sum and no product on the way to
    them is past the words. -/
theorem indices_in_order (hv : volume d.shape < UInt64.size) (hh : d.selection.Held) :
    (∀ h, d.selection = .hyperslab h →
      d.places = h.coordinates.map (fun p => (List.zipWith (· * ·) p (rowStrides d.shape)).foldr (· + ·) 0) ∧
      (∀ p, p ∈ h.coordinates ↔ List.Forall₂ (fun (k : Nat) (a : Axis) =>
        ∃ i < a.count.toNat, ∃ j < a.block.toNat, k = a.start.toNat + i * a.stride.toNat + j) p h.axes) ∧
      h.coordinates.Pairwise (· < ·) ∧ d.places.Pairwise (· < ·)) ∧
    (∀ p, d.selection = .points p →
      d.places = p.points.map fun q =>
        (List.zipWith (· * ·) (q.map UInt64.toNat) (rowStrides d.shape)).foldr (· + ·) 0) ∧
    (d.selection = .all → d.places = List.range (volume d.shape)) ∧
    (d.selection = .none → d.places = []) ∧
    (d.places ≠ [] → Checked.indices d = some d.indices) := by
  have exact : d.Exact := Kept.exact ⟨rfl, hh⟩ hv
  refine ⟨fun h hs => ⟨?_, fun p => h.mem_coordinates, h.coordinates_ascend, places_ascend hv hs⟩, fun p hs => ?_,
    places_all hv, places_none, fun hne => ?_⟩
  · simp only [← offset_eq_sum]
    exact places_hyperslab hv hs
  · simp only [← offset_eq_sum]
    exact places_points hv hs exact.count_lt
  · obtain ⟨k, hk⟩ := List.exists_mem_of_ne_nil _ hne
    exact exact.checked_indices (Nat.zero_lt_of_lt (exact.place_lt hk))

/-- The pairs of columns in their rows. -/
theorem indices_in_order_pairs : let d : Dataspace := ⟨[4, 5], .hyperslab pairs, by decide⟩
    volume d.shape < UInt64.size ∧ d.selection.Held ∧ d.places = [0, 1, 3, 4, 10, 11, 13, 14] ∧
      Checked.indices d = some [0, 1, 3, 4, 10, 11, 13, 14] := by
  intro d
  have small : volume d.shape < UInt64.size := by decide
  obtain ⟨slab, -, -, -, checked⟩ := indices_in_order small (show d.selection.Held from trivial)
  have listed : d.places = [0, 1, 3, 4, 10, 11, 13, 14] := (slab pairs rfl).1.trans (by decide)
  exact ⟨small, trivial, listed, (checked (by rw [listed]; decide)).trans (by decide)⟩

end Dataspace

end ArrayTransfer
