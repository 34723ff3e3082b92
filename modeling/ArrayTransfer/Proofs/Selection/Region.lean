import ArrayTransfer.Proofs.Selection.Runs
import ArrayTransfer.Proofs.Selection.Selecting

/-! Selections that are one window of memory. `Dataspace.region?` finds the window exactly if the selected places are
    consecutive (`Dataspace.Exact.isSome_region?_iff`), since then there is no place to cut them. Runs and window are the
    same for all selections of the same places (`Dataspace.runs_of_places`). -/

namespace ArrayTransfer

namespace Dataspace
variable {d : Dataspace}

/-- The selected places are consecutive. -/
def Contiguous (d : Dataspace) : Prop := ∃ start, d.places = List.range' start d.count

/-- A selection of no element has no runs. -/
theorem runs_of_count_zero (h0 : d.count = 0) : d.runs = [] := by
  suffices none : d.runSource.count = 0 by
    unfold runs
    simp only [none]
    rfl
  cases hs : d.selection with
  | all =>
    have none : d.extent.toNat = 0 := by
      rw [toNat_extent (count_all hs ▸ h0 ▸ by decide), ← count_all hs, h0]
    simp only [runSource, hs, UInt64.toNat_inj.mp (none.trans UInt64.toNat_zero.symm), if_true]
    rfl
  | none =>
    simp only [runSource, hs]
    rfl
  | points p =>
    have none : p.points = [] := List.eq_nil_of_length_eq_zero (count_points hs ▸ h0)
    simp only [runSource, hs, none]
    rfl
  | hyperslab h => exact absurd (count_hyperslab hs ▸ h0) (Nat.ne_of_gt (Axis.product_pos h.valid))

theorem region?_of_count_zero (h0 : d.count = 0) : d.region? = some ⟨0, 0⟩ := by
  rw [region?_eq, runs_of_count_zero h0]

namespace Exact
variable (h : d.Exact)
include h

/-- There is nowhere to cut consecutive places. -/
theorem length_runs_le_of_contiguous (hc : d.Contiguous) : d.runs.length ≤ 1 := by
  obtain ⟨start, consecutive⟩ := hc
  rw [← List.length_map Run.places, h.map_places_runs, consecutive]
  by_cases empty : List.range' start d.count = []
  · rw [empty]
    exact Nat.zero_le 1
  · rw [List.splitBy_of_isChain empty (Run.isChain_range' ..)]
    exact Nat.le_refl 1

/-- The selection is found to be one window exactly if its places are consecutive. -/
theorem isSome_region?_iff : d.region?.isSome ↔ d.Contiguous := by
  constructor
  · intro hs
    obtain ⟨r, hr⟩ := Option.isSome_iff_exists.mp hs
    exact ⟨_, (Memory.places_of_region h hr).1⟩
  · intro hc
    have few := h.length_runs_le_of_contiguous hc
    rw [region?_eq]
    match hr : d.runs with
    | [] => rfl
    | [_] => rfl
    | _ :: _ :: _ => simp [hr] at few

theorem region?_of_empty (hn : d.places = []) : d.region? = some ⟨0, 0⟩ :=
  region?_of_count_zero (by rw [← h.length_places, hn, List.length_nil])

/-- The window of a selection that is not empty has its places. -/
theorem region?_eq_some_iff (hne : d.places ≠ []) {r : Run} : d.region? = some r ↔ d.places = r.places := by
  constructor
  · intro hr
    have whole := indices_of_region hr
    rw [places, whole]
    exact Run.toNat_indices h.volume_lt fun i hi => h.lt_volume (whole ▸ hi)
  · intro hr
    have one : d.runs = [r] := by
      refine Run.eq_of_map_places (fun q hq => h.length_pos_of_mem_runs hq) ?_
      rw [h.map_places_runs, hr]
      exact List.splitBy_of_isChain (hr ▸ hne) (Run.isChain_range' ..)
    rw [region?_eq, one]

theorem region?_congr {e : Dataspace} (he : e.Exact) (same : d.places = e.places) : d.region? = e.region? := by
  rw [region?_eq, region?_eq, h.runs_congr he same]

end Exact

/-- The runs of a selection, which its places alone decide. None is empty, none starts where the one before stops, and
    one behind the other they are the places; no other runs with these places are as few. A selection of nothing is the
    empty window, one of something the window that has its places in order, if there is one, and any other is none.
    Gathering makes no copy exactly of a window. Any selection of the same places, of whatever kind and in whatever
    shape, has the same runs and the same window. -/
theorem runs_of_places (hv : volume d.shape < UInt64.size) (hh : d.selection.Held) :
    (∀ r ∈ d.runs, 0 < r.length.toNat) ∧
    (d.runs.IsChain fun r q => q.start.toNat ≠ r.start.toNat + r.length.toNat) ∧
    (d.runs.map Run.places).flatten = d.places ∧
    (∀ rs : List Run, (∀ r ∈ rs, 0 < r.length.toNat) → (rs.map Run.places).flatten = d.places →
      d.runs.length ≤ rs.length ∧ (rs.length = d.runs.length → rs = d.runs)) ∧
    (d.places = [] → d.region? = some ⟨0, 0⟩) ∧
    (d.places ≠ [] → ∀ r : Run, d.region? = some r ↔ d.places = r.places) ∧
    (d.region? = none ↔ ¬∃ start, d.places = List.range' start d.places.length) ∧
    (∀ (memory : Bytes) (size : Nat), memory.length = volume d.shape * size →
      ∃ g, Memory.gather memory d size = .ok g ∧
        (g.isWindow = true ↔ ∃ start, d.places = List.range' start d.places.length)) ∧
    ∀ e : Dataspace, volume e.shape < UInt64.size → e.selection.Held → e.places = d.places →
      e.runs = d.runs ∧ e.region? = d.region? := by
  have exact : d.Exact := Kept.exact ⟨rfl, hh⟩ hv
  have window : d.region?.isSome ↔ ∃ start, d.places = List.range' start d.places.length := by
    rw [exact.length_places]
    exact exact.isSome_region?_iff
  refine ⟨fun r => exact.length_pos_of_mem_runs, exact.isChain_runs, exact.flatten_runs, fun rs => exact.runs_shortest,
    exact.region?_of_empty, fun hne r => exact.region?_eq_some_iff hne, ?_, fun memory size length => ?_,
    fun e small held same => ?_⟩
  · rw [← window, Option.not_isSome_iff_eq_none]
  · exact ⟨_, Memory.gather_eq exact length, window⟩
  · have other : e.Exact := Kept.exact ⟨rfl, held⟩ small
    exact ⟨other.runs_congr exact same, other.region?_congr exact same⟩

/-- The second and third row, listed point by point. -/
def listedRows : Points := ⟨2, [[1, 0], [1, 1], [1, 2], [2, 0], [2, 1], [2, 2]], Nat.two_pos, by decide⟩

/-- As many elements from the same place on, in two adjacent blocks along a line. -/
def tiledRows : Hyperslab := ⟨[⟨3, 3, 2, 3⟩], by decide, by decide, by decide⟩

/-- Two rows are one window, by points in a square as by blocks along a line. -/
theorem runs_of_places_rows :
    let d : Dataspace := ⟨[4, 3], .points listedRows, by decide⟩
    let e : Dataspace := ⟨[12], .hyperslab tiledRows, by decide⟩
    volume d.shape < UInt64.size ∧ d.selection.Held ∧ d.places = [3, 4, 5, 6, 7, 8] ∧ d.runs = [⟨3, 6⟩] ∧
      d.region? = some ⟨3, 6⟩ ∧ volume e.shape < UInt64.size ∧ e.selection.Held ∧ e.places = d.places ∧
      e.runs = [⟨3, 6⟩] ∧ ∃ g, Memory.gather [0, 1, 2, 3, 4, 5, 6, 7, 8, 9, 10, 11] d 1 = .ok g ∧ g.isWindow = true := by
  intro d e
  have small : volume d.shape < UInt64.size := by decide
  have held : d.selection.Held := show 6 < addressLimit by decide
  have listed : d.places = [3, 4, 5, 6, 7, 8] := by decide
  obtain ⟨-, -, -, shortest, -, region, -, gather, same⟩ := runs_of_places small held
  have runs : [⟨3, 6⟩] = d.runs := (shortest [⟨3, 6⟩] (by decide) (listed ▸ by decide)).2 (by decide)
  have tiled : e.places = d.places := by decide
  obtain ⟨g, taken, window⟩ := gather [0, 1, 2, 3, 4, 5, 6, 7, 8, 9, 10, 11] 1 rfl
  have whole : d.region? = some ⟨3, 6⟩ := (region (by rw [listed]; decide) ⟨3, 6⟩).mpr (listed ▸ by decide)
  exact ⟨small, held, listed, runs.symm, whole, by decide, trivial, tiled,
    (same e (by decide) trivial tiled).1.trans runs.symm, g, taken, window.mpr ⟨3, listed ▸ by decide⟩⟩

end Dataspace

end ArrayTransfer
