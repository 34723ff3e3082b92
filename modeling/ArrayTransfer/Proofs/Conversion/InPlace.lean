import ArrayTransfer.Conversion.Buffer
import ArrayTransfer.Proofs.Conversion.Element
import ArrayTransfer.Proofs.Selection.Memory

/-! Conversion in one buffer. Source elements and converted elements share the bytes of the buffer, and the order of the
    visits is such that no source element is overwritten before its turn (`safe_order`). So the buffer ends with each
    element converted as if it stood in a buffer of its own (`convertInPlace_eq`), and what is behind the converted elements
    stays (`in_place_as_apart`). -/

namespace ArrayTransfer.Conversion

open Bytes (element)

variable {source target : DataType} {background : Option Bytes} {buffer : Bytes} {count k : Nat}

/-- What an element of the buffer is built over. -/
def priorAt (target : DataType) (background : Option Bytes) (k : Nat) : Bytes :=
  match background with
  | some b => element b target.size k
  | none => Bytes.zeros target.size

theorem convertAt_eq (source target : DataType) (background : Option Bytes) (buffer : Bytes) (k : Nat) :
    convertAt source target background buffer k = Bytes.patch buffer (k * target.size)
      (convert source target (element buffer source.size k) (priorAt target background k)) := by
  cases background <;> rfl

/-- Writing the converted element `i` spares the source element `j`. -/
def Spares (source target : DataType) (i j : Nat) : Prop :=
  i ≠ j ∧ (i * target.size + target.size ≤ j * source.size ∨ j * source.size + source.size ≤ i * target.size)

/-- The order in which the elements are visited. -/
def order (source target : DataType) (count : Nat) : List Nat :=
  if target.size ≤ source.size then List.range count else (List.range count).reverse

/-- Each visit spares the source elements of later visits. -/
theorem safe_order (source target : DataType) (count : Nat) :
    (order source target count).Pairwise (Spares source target) := by
  rw [order]
  split
  · rename_i hle
    refine List.pairwise_lt_range.imp fun {i j} hij => ⟨Nat.ne_of_lt hij, .inl ?_⟩
    exact Nat.le_trans (Bytes.element_bound hij) (Nat.mul_le_mul_left _ hle)
  · rename_i hle
    refine List.pairwise_reverse.mpr (List.pairwise_lt_range.imp fun {j i} hji => ⟨Nat.ne_of_gt hji, .inr ?_⟩)
    exact Nat.le_trans (Bytes.element_bound hji) (Nat.mul_le_mul_left _ (by omega))

theorem mem_order : k ∈ order source target count ↔ k < count := by
  rw [order]
  split <;> simp

section visits
variable (ht : target.WellFormed) (hs : source.WellFormed)
  (hb : ∀ b, background = some b → count * target.size ≤ b.length)
include ht hs hb

theorem length_converted (hk : k < count) {e : Bytes} (he : e.length = source.size) :
    (convert source target e (priorAt target background k)).length = target.size := by
  refine length_convert ht hs he ?_
  cases background with
  | none => exact Bytes.length_zeros _
  | some b => exact Bytes.length_element (hb b rfl) hk

theorem length_convertAt (hsource : count * source.size ≤ buffer.length) (htarget : count * target.size ≤ buffer.length)
    (hk : k < count) : (convertAt source target background buffer k).length = buffer.length := by
  rw [convertAt_eq]
  exact Memory.length_patch_element hk (length_converted ht hs hb hk (Bytes.length_element hsource hk)) htarget

/-- After visits of which each spares the source elements of later ones, the elements visited are converted and the
    others are as they were. -/
theorem visits_spec {visits : List Nat} (hv : ∀ k ∈ visits, k < count) (hsafe : visits.Pairwise (Spares source target))
    (hsource : count * source.size ≤ buffer.length) (htarget : count * target.size ≤ buffer.length) :
    (visits.foldl (convertAt source target background) buffer).length = buffer.length ∧
      (∀ k ∈ visits, element (visits.foldl (convertAt source target background) buffer) target.size k =
        convert source target (element buffer source.size k) (priorAt target background k)) ∧
      ∀ k, k ∉ visits → element (visits.foldl (convertAt source target background) buffer) target.size k =
        element buffer target.size k := by
  induction visits generalizing buffer with
  | nil => simp
  | cons i visits ih =>
    obtain ⟨hi, hvisits⟩ := List.forall_mem_cons.mp hv
    obtain ⟨hspare, hrest⟩ := List.pairwise_cons.mp hsafe
    have hconv := length_converted ht hs hb hi (Bytes.length_element hsource hi)
    have bound := Memory.patch_bound hi hconv htarget
    have hl := length_convertAt ht hs hb hsource htarget hi
    obtain ⟨length, visited, others⟩ := ih hvisits hrest (by rw [hl]; exact hsource) (by rw [hl]; exact htarget)
    rw [List.foldl_cons]
    refine ⟨length.trans hl, ?_, ?_⟩
    · rw [List.forall_mem_cons]
      constructor
      · rw [others i fun h => (hspare i h).1 rfl, convertAt_eq, Memory.element_patch_same hi hconv htarget]
      · intro k hk
        obtain ⟨-, hd⟩ := hspare k hk
        have spared : element (convertAt source target background buffer i) source.size k =
            element buffer source.size k := by
          rw [convertAt_eq]
          exact Bytes.slice_patch_disjoint bound (by rw [hconv]; exact hd.symm)
        rw [visited k hk, spared]
    · intro k hk
      rw [List.mem_cons, not_or] at hk
      rw [others k hk.2, convertAt_eq, Memory.element_patch_ne hi hconv htarget hk.1]

/-- Each element of the buffer is converted as if it stood alone. -/
theorem convertInPlace_eq (hsource : count * source.size ≤ buffer.length)
    (htarget : count * target.size ≤ buffer.length) :
    (convertInPlace source target count background buffer).length = buffer.length ∧
      (convertInPlace source target count background buffer).take (count * target.size) =
        ((List.range count).map fun k =>
          convert source target (element buffer source.size k) (priorAt target background k)).flatten := by
  obtain ⟨length, visited, -⟩ := visits_spec ht hs hb (fun _ => mem_order.mp) (safe_order source target count)
    hsource htarget
  refine ⟨length, ?_⟩
  rw [← Bytes.flatten_split, Bytes.split_eq_map]
  congr 1
  exact List.map_congr_left fun k hk => visited k (mem_order.mpr (List.mem_range.mp hk))

/-- Visits change nothing behind the converted elements. -/
theorem visits_frame {visits : List Nat} (hv : ∀ k ∈ visits, k < count)
    (hsource : count * source.size ≤ buffer.length) (htarget : count * target.size ≤ buffer.length) {i : Nat}
    (hi : count * target.size ≤ i) : (visits.foldl (convertAt source target background) buffer)[i]? = buffer[i]? := by
  induction visits generalizing buffer with
  | nil => rfl
  | cons k visits ih =>
    obtain ⟨hk, hvisits⟩ := List.forall_mem_cons.mp hv
    have hconv := length_converted ht hs hb hk (Bytes.length_element hsource hk)
    have bound := Memory.patch_bound hk hconv htarget
    have behind : k * target.size + target.size ≤ i := Nat.le_trans (Bytes.element_bound hk) hi
    have length := length_convertAt ht hs hb hsource htarget hk
    rw [List.foldl_cons, ih hvisits (by rwa [length]) (by rwa [length]), convertAt_eq]
    exact Bytes.getElem?_patch_of_not_mem bound (.inr (by rwa [hconv]))

end visits

/-- Converting in one buffer is converting apart, whichever of the elements are larger. The buffer ends with the source
    elements that it held at first, each converted over its element of the background or over zeros, and behind them it is
    as it was. -/
theorem in_place_as_apart {n : Nat} (hs : source.WellFormed) (ht : target.WellFormed)
    (hb : ∀ b, background = some b → b.length = target.size * n)
    (room : max source.size target.size * n ≤ buffer.length) :
    convertInPlace source target n background buffer =
        ((List.range n).map fun k =>
          convert source target (element buffer source.size k) (priorAt target background k)).flatten ++
        buffer.drop (target.size * n) ∧
      ∀ k < n, (convert source target (element buffer source.size k) (priorAt target background k)).length =
        target.size := by
  have hsource : n * source.size ≤ buffer.length := by
    rw [Nat.mul_comm]
    exact Nat.le_trans (Nat.mul_le_mul_right n (Nat.le_max_left _ _)) room
  have htarget : n * target.size ≤ buffer.length := by
    rw [Nat.mul_comm]
    exact Nat.le_trans (Nat.mul_le_mul_right n (Nat.le_max_right _ _)) room
  have covered : ∀ b, background = some b → n * target.size ≤ b.length := fun b h =>
    Nat.le_of_eq (by rw [hb b h, Nat.mul_comm])
  obtain ⟨-, front⟩ := convertInPlace_eq ht hs covered hsource htarget
  have behind : (convertInPlace source target n background buffer).drop (n * target.size) =
      buffer.drop (n * target.size) := by
    apply List.ext_getElem?
    intro i
    rw [List.getElem?_drop, List.getElem?_drop]
    exact visits_frame ht hs covered (fun _ => mem_order.mp) hsource htarget (Nat.le_add_right _ _)
  refine ⟨?_, fun k hk => length_converted ht hs covered hk (Bytes.length_element hsource hk)⟩
  rw [← front, Nat.mul_comm target.size, ← behind, List.take_append_drop]

/-- A number that grows to two bytes behind a member without a source, and that shrinks again. -/
theorem in_place_as_apart_growing :
    let narrow : DataType := .compound [⟨"a", 0, .numeric (.unsigned .w8)⟩] 1
    let wide : DataType := .compound [⟨"k", 0, .numeric (.unsigned .w8)⟩, ⟨"a", 1, .numeric (.unsigned .w16)⟩] 3
    convertInPlace narrow wide 2 (some [10, 11, 12, 20, 21, 22]) [1, 2, 3, 4, 5, 6, 7] = [10, 1, 0, 20, 2, 0, 7] ∧
      convertInPlace wide narrow 2 none [10, 1, 0, 20, 2, 1, 7] = [1, 0xFF, 0, 20, 2, 1, 7] := by
  intro narrow wide
  have hn : narrow.WellFormed := by decide
  have hw : wide.WellFormed := by decide
  have grown := (@in_place_as_apart narrow wide (some [10, 11, 12, 20, 21, 22]) [1, 2, 3, 4, 5, 6, 7] 2 hn hw
    (fun b h => by rw [← Option.some.inj h]; rfl) (by decide)).1
  have shrunk := (@in_place_as_apart wide narrow none [10, 1, 0, 20, 2, 1, 7] 2 hw hn nofun (by decide)).1
  exact ⟨grown.trans (by decide +kernel), shrunk.trans (by decide +kernel)⟩

end ArrayTransfer.Conversion
