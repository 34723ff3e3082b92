import ArrayTransfer.Proofs.Selection.Memory
import Mathlib.Data.List.SplitBy

/-! Maximal runs. Cutting a list wherever two neighbours are not related gives the fewest pieces in which all are, and
    no other pieces are as few (`Pieces.length_le`). The joined runs of a selection are its places, cut wherever one is
    not the next behind the other (`Dataspace.Exact.map_places_runs`), so that the places alone decide them. -/

namespace ArrayTransfer

/-! ### Pieces of a list -/

/-- Pieces of a list: none is empty, and in each of them neighbours are related. -/
structure Pieces {α : Type} (r : α → α → Bool) (l : List α) (pieces : List (List α)) : Prop where
  whole : pieces.flatten = l
  nonempty : [] ∉ pieces
  chain : ∀ piece ∈ pieces, piece.IsChain fun a b => r a b = true

namespace Pieces
variable {α : Type} {r : α → α → Bool} {l piece : List α} {pieces : List (List α)}

/-- A chain in front of a list is a piece of its own, or goes on into the first piece of the list. -/
theorem splitBy_append (hne : piece ≠ []) (hc : piece.IsChain fun a b => r a b = true) (l : List α) :
    (piece ++ l).splitBy r = piece :: l.splitBy r ∨
      ∃ first rest, l.splitBy r = first :: rest ∧ (piece ++ l).splitBy r = (piece ++ first) :: rest := by
  obtain ⟨whole, nonempty, chain, cut⟩ := List.splitBy_eq_iff.mp (rfl : l.splitBy r = l.splitBy r)
  cases hs : l.splitBy r with
  | nil =>
    obtain rfl := List.splitBy_eq_nil.mp hs
    rw [List.append_nil]
    exact .inl (List.splitBy_of_isChain hne hc)
  | cons first rest =>
    rw [hs] at whole nonempty chain cut
    rw [List.mem_cons, not_or] at nonempty
    rw [List.forall_mem_cons] at chain
    have filled : first ≠ [] := Ne.symm nonempty.1
    cases related : r (piece.getLast hne) (first.head filled) with
    | false =>
      left
      rw [List.splitBy_eq_iff]
      refine ⟨by rw [whole]; rfl, by simp [hne.symm, nonempty], ?_, cut.cons_cons ⟨hne, filled, related⟩⟩
      exact List.forall_mem_cons.mpr ⟨hc, List.forall_mem_cons.mpr chain⟩
    | true =>
      right
      refine ⟨first, rest, rfl, ?_⟩
      rw [List.splitBy_eq_iff]
      refine ⟨by rw [whole]; simp, by simp [hne, nonempty.2], List.forall_mem_cons.mpr ⟨?_, chain.2⟩, ?_⟩
      · refine List.isChain_append.mpr ⟨hc, chain.1, fun a ha b hb => ?_⟩
        rwa [← List.getLast_of_mem_getLast? ha, ← List.head_of_mem_head? hb]
      · rw [List.isChain_cons] at cut ⊢
        refine ⟨fun next hn => ?_, cut.2⟩
        obtain ⟨_, hb, apart⟩ := cut.1 next hn
        have last := List.getLast_append_of_ne_nil (List.append_ne_nil_of_left_ne_nil hne first) filled
        exact ⟨List.append_ne_nil_of_left_ne_nil hne first, hb, (congrArg (r · _) last).trans apart⟩

/-- No pieces are fewer than those of cutting between any two neighbours that are not related, and none but they are as
    few. -/
theorem length_le (h : Pieces r l pieces) :
    (l.splitBy r).length ≤ pieces.length ∧ (pieces.length = (l.splitBy r).length → pieces = l.splitBy r) := by
  obtain ⟨rfl, nonempty, chain⟩ := h
  induction pieces with
  | nil => exact ⟨Nat.le_refl _, fun _ => rfl⟩
  | cons piece pieces ih =>
    rw [List.mem_cons, not_or] at nonempty
    rw [List.forall_mem_cons] at chain
    obtain ⟨le, eq⟩ := ih nonempty.2 chain.2
    rw [List.flatten_cons]
    obtain apart | ⟨first, rest, cut, joined⟩ := splitBy_append (Ne.symm nonempty.1) chain.1 pieces.flatten
    · rw [apart, List.length_cons, List.length_cons]
      exact ⟨Nat.succ_le_succ le, fun same => by rw [← eq (Nat.succ.inj same)]⟩
    · rw [cut, List.length_cons] at le
      rw [joined, List.length_cons, List.length_cons]
      exact ⟨by omega, fun same => absurd same (by omega)⟩

end Pieces

/-! ### Joined runs -/

namespace RunSource
variable {s : RunSource}

theorem start_join (s : RunSource) (fuel k : Nat) (r : Run) : (s.join fuel k r).1.start = r.start := by
  induction fuel generalizing k r with
  | zero => rfl
  | succ fuel ih =>
    rw [join]
    split
    · exact ih _ _
    · rfl

/-- The first joined run starts where the first run does. -/
theorem start_of_take {n k : Nat} {r : Run} (h : r ∈ (s.take n k).head?) :
    k < s.count ∧ r.start = (s.run k).start := by
  cases n with
  | zero => cases h
  | succ n =>
    rw [take] at h
    split at h
    · rename_i hk
      cases h
      exact ⟨hk, start_join ..⟩
    · cases h

/-- No joined run starts where the one before stops. -/
theorem isChain_take (s : RunSource) (n k : Nat) : (s.take n k).IsChain fun r q => q.start ≠ r.stop := by
  induction n generalizing k with
  | zero => exact .nil
  | succ n ih =>
    rw [take]
    split
    · refine List.isChain_cons.mpr ⟨fun q hq => ?_, ih _⟩
      obtain ⟨more, start⟩ := start_of_take hq
      rw [start]
      exact join_stop (by omega) more
    · exact .nil

/-- Joining leaves no run empty. -/
theorem positive_take {n k : Nat} (hp : s.Positive) (hl : (s.indicesFrom k).length < UInt64.size) :
    ∀ r ∈ s.take n k, 0 < r.length.toNat := by
  induction n generalizing k with
  | zero => exact List.forall_mem_nil _
  | succ n ih =>
    rw [take]
    split
    · rename_i hk
      rw [indicesFrom_of_lt hk, List.length_append, Run.length_indices] at hl
      obtain ⟨he, -, longer⟩ := @join_indices s (s.count - (k + 1)) _ (s.run k) (by omega) hl
      have rest := congrArg List.length he
      simp only [List.length_append, Run.length_indices] at rest
      exact List.forall_mem_cons.mpr ⟨Nat.lt_of_lt_of_le (hp k hk) longer, ih (by omega)⟩
    · exact List.forall_mem_nil _

end RunSource

namespace Run
variable {r q : Run}

/-- The places of a run: one by one from its start. -/
def places (r : Run) : List Nat := List.range' r.start.toNat r.length.toNat

/-- Whether place `k` follows place `i`. -/
def isNext (i k : Nat) : Bool := k == i + 1

theorem isChain_range' (start count : Nat) : (List.range' start count).IsChain fun i k => isNext i k = true :=
  (List.isChain_range' start count 1).imp fun _ _ h => beq_iff_eq.mpr h

theorem places_ne_nil (h : 0 < r.length.toNat) : r.places ≠ [] := by
  simp [places, Nat.ne_of_gt h]

/-- A run that is not empty is known from its places. -/
theorem eq_of_places (h : 0 < r.length.toNat) (he : r.places = q.places) : r = q := by
  have length := congrArg List.length he
  have first := congrArg List.head? he
  simp only [places, List.length_range', List.head?_range'] at length first
  rw [if_neg (Nat.ne_of_gt h), if_neg (by omega)] at first
  obtain ⟨start, count⟩ := r
  obtain ⟨start', count'⟩ := q
  exact congrArg₂ Run.mk (UInt64.toNat_inj.mp (Option.some.inj first)) (UInt64.toNat_inj.mp length)

theorem eq_of_map_places {rs qs : List Run} (h : ∀ r ∈ rs, 0 < r.length.toNat)
    (he : rs.map places = qs.map places) : rs = qs := by
  induction rs generalizing qs with
  | nil => exact (List.map_eq_nil_iff.mp he.symm).symm
  | cons r rs ih =>
    rw [List.forall_mem_cons] at h
    obtain ⟨q, qs, rfl, first, rest⟩ := List.map_eq_cons_iff.mp he.symm
    rw [eq_of_places h.1 first.symm, ih h.2 rest.symm]

/-- Runs that are not empty are pieces of their places. -/
theorem pieces_places {rs : List Run} (h : ∀ r ∈ rs, 0 < r.length.toNat) :
    Pieces isNext (rs.map places).flatten (rs.map places) where
  whole := rfl
  nonempty hm := by
    obtain ⟨r, hr, empty⟩ := List.mem_map.mp hm
    exact places_ne_nil (h r hr) empty
  chain := List.forall_mem_map.mpr fun r _ => isChain_range' ..

end Run

namespace Dataspace
variable {d : Dataspace}

theorem runSource_positive (d : Dataspace) : d.runSource.Positive := by
  unfold runSource
  split
  · split
    · intro k hk
      cases hk
    · rename_i he
      intro k _
      exact Nat.pos_of_ne_zero fun h0 => he (UInt64.toNat_inj.mp h0)
  · intro k hk
    cases hk
  · intro k _
    exact Nat.one_pos
  · rename_i h _
    exact RunSource.positive_ofAxes h.valid _

namespace Exact
variable (h : d.Exact)
include h

theorem length_pos_of_mem_runs {r : Run} (hr : r ∈ d.runs) : 0 < r.length.toNat := by
  refine RunSource.positive_take d.runSource_positive ?_ r hr
  rw [RunSource.indicesFrom_zero, length_runSource_indices h.count_lt]
  exact h.count_lt

/-- Each run ends within the shape. -/
theorem stop_le_of_mem_runs {r : Run} (hr : r ∈ d.runs) : r.start.toNat + r.length.toNat ≤ volume d.shape :=
  Run.stop_le h.volume_lt (h.length_pos_of_mem_runs hr) fun _ hi => h.lt_volume (List.mem_flatMap.mpr ⟨r, hr, hi⟩)

theorem toNat_stop_of_mem_runs {r : Run} (hr : r ∈ d.runs) : r.stop.toNat = r.start.toNat + r.length.toNat := by
  rw [Run.stop, UInt64.toNat_add, Nat.mod_eq_of_lt (Nat.lt_of_le_of_lt (h.stop_le_of_mem_runs hr) h.volume_lt)]

theorem flatten_runs : (d.runs.map Run.places).flatten = d.places := by
  rw [places, indices, List.map_flatMap, ← List.flatMap_def]
  refine List.flatMap_congr fun r hr => ?_
  exact (Run.toNat_indices h.volume_lt fun i hi => h.lt_volume (List.mem_flatMap.mpr ⟨r, hr, hi⟩)).symm

/-- No run starts where the one before stops. -/
theorem isChain_runs : d.runs.IsChain fun r q => q.start.toNat ≠ r.start.toNat + r.length.toNat := by
  refine (d.runSource.isChain_take _ 0).imp_of_mem_imp fun r q hr _ apart same => apart ?_
  exact UInt64.toNat_inj.mp (same.trans (h.toNat_stop_of_mem_runs hr).symm)

/-- The runs are the places, cut wherever one does not follow the other. -/
theorem map_places_runs : d.runs.map Run.places = d.places.splitBy Run.isNext := by
  obtain ⟨-, nonempty, chain⟩ := Run.pieces_places fun r hr => h.length_pos_of_mem_runs hr
  refine (List.splitBy_eq_iff.mpr ⟨h.flatten_runs.symm, nonempty, chain, ?_⟩).symm
  rw [List.isChain_map]
  refine h.isChain_runs.imp_of_mem_imp fun r q hr hq apart => ?_
  have filled := h.length_pos_of_mem_runs hr
  refine ⟨Run.places_ne_nil filled, Run.places_ne_nil (h.length_pos_of_mem_runs hq), ?_⟩
  simp only [Run.places, Run.isNext, List.getLast_range', List.head_range', beq_eq_false_iff_ne]
  omega

/-- No other runs with the places of the selection are as few. -/
theorem runs_shortest {rs : List Run} (positive : ∀ r ∈ rs, 0 < r.length.toNat)
    (whole : (rs.map Run.places).flatten = d.places) :
    d.runs.length ≤ rs.length ∧ (rs.length = d.runs.length → rs = d.runs) := by
  obtain ⟨fewest, only⟩ := (Run.pieces_places positive).length_le
  rw [whole, ← h.map_places_runs, List.length_map, List.length_map] at fewest only
  exact ⟨fewest, fun same => Run.eq_of_map_places positive (only same)⟩

/-- Dataspaces with the same places have the same runs. -/
theorem runs_congr {e : Dataspace} (he : e.Exact) (same : d.places = e.places) : d.runs = e.runs := by
  refine Run.eq_of_map_places (fun r hr => h.length_pos_of_mem_runs hr) ?_
  rw [h.map_places_runs, he.map_places_runs, same]

end Exact

end Dataspace

end ArrayTransfer
