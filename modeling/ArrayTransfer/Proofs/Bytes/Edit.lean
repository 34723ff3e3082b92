import ArrayTransfer.Proofs.Bytes.Window

/-! Changing several windows of a byte string. The members of a compound are converted, reversed and written in this
    way. If the windows lie apart, the order of the changes does not matter: each window ends as its own change of what
    it held at first (`Edit.slice_run`), and every other byte stays (`Edit.getElem?_run`). -/

namespace ArrayTransfer

/-- A change of one window. -/
structure Edit where
  start : Nat
  length : Nat
  change : Bytes → Bytes

namespace Edit

/-- The first byte behind the window. -/
def stop (e : Edit) : Nat := e.start + e.length

/-- Makes one change. -/
def apply (e : Edit) (b : Bytes) : Bytes := Bytes.patch b e.start (e.change (Bytes.slice b e.start e.length))

/-- Makes the changes one after the other. -/
def run (es : List Edit) (b : Bytes) : Bytes := es.foldl (fun b e => e.apply b) b

/-- The windows lie within `size` bytes and apart from each other, and the changes keep their lengths. -/
structure Fit (size : Nat) (es : List Edit) : Prop where
  bound : ∀ e ∈ es, e.stop ≤ size
  keeps : ∀ e ∈ es, ∀ w, w.length = e.length → (e.change w).length = e.length
  apart : es.Pairwise fun e f => e.stop ≤ f.start ∨ f.stop ≤ e.start

variable {e : Edit} {es : List Edit} {b b' : Bytes} {i : Nat}

@[simp] theorem run_cons (e : Edit) (es : List Edit) (b : Bytes) : run (e :: es) b = run es (e.apply b) := rfl

theorem Fit.head {size : Nat} (h : Fit size (e :: es)) :
    e.stop ≤ size ∧ (∀ w, w.length = e.length → (e.change w).length = e.length) ∧
      ∀ f ∈ es, e.stop ≤ f.start ∨ f.stop ≤ e.start :=
  ⟨h.bound e List.mem_cons_self, h.keeps e List.mem_cons_self, (List.pairwise_cons.mp h.apart).1⟩

theorem Fit.tail {size : Nat} (h : Fit size (e :: es)) : Fit size es :=
  ⟨fun f hf => h.bound f (List.mem_cons_of_mem _ hf), fun f hf => h.keeps f (List.mem_cons_of_mem _ hf),
    (List.pairwise_cons.mp h.apart).2⟩

section apply
variable (hs : e.stop ≤ b.length) (hk : ∀ w, w.length = e.length → (e.change w).length = e.length)
include hs hk

theorem length_change : (e.change (Bytes.slice b e.start e.length)).length = e.length :=
  hk _ (Bytes.length_slice b _ _ hs)

theorem length_apply : (e.apply b).length = b.length := by
  apply Bytes.length_patch
  rw [length_change hs hk]
  exact hs

theorem slice_apply_same : Bytes.slice (e.apply b) e.start e.length = e.change (Bytes.slice b e.start e.length) := by
  have hl := length_change hs hk
  have bound : e.start + (e.change (Bytes.slice b e.start e.length)).length ≤ b.length := by
    rw [hl]
    exact hs
  have same := Bytes.slice_patch_same bound
  rwa [hl] at same

theorem slice_apply_apart {s n : Nat} (hd : e.stop ≤ s ∨ s + n ≤ e.start) :
    Bytes.slice (e.apply b) s n = Bytes.slice b s n := by
  have hl := length_change hs hk
  exact Bytes.slice_patch_disjoint (by rw [hl]; exact hs) (by rw [hl]; exact hd.symm)

theorem getElem?_apply (hi : i < e.start ∨ e.stop ≤ i) : (e.apply b)[i]? = b[i]? := by
  have hl := length_change hs hk
  exact Bytes.getElem?_patch_of_not_mem (by rw [hl]; exact hs) (by rw [hl]; exact hi)

end apply

theorem length_run (h : Fit b.length es) : (run es b).length = b.length := by
  induction es generalizing b with
  | nil => rfl
  | cons e es ih =>
    have hl := length_apply h.head.1 h.head.2.1
    rw [run_cons, ih (by rw [hl]; exact h.tail), hl]

/-- A window that lies apart from those that are changed stays. -/
theorem slice_run_apart (h : Fit b.length es) {s n : Nat} (hd : ∀ e ∈ es, e.stop ≤ s ∨ s + n ≤ e.start) :
    Bytes.slice (run es b) s n = Bytes.slice b s n := by
  induction es generalizing b with
  | nil => rfl
  | cons e es ih =>
    have hl := length_apply h.head.1 h.head.2.1
    rw [run_cons, ih (by rw [hl]; exact h.tail) fun f hf => hd f (List.mem_cons_of_mem _ hf),
      slice_apply_apart h.head.1 h.head.2.1 (hd e List.mem_cons_self)]

theorem slice_run (h : Fit b.length es) (he : e ∈ es) :
    Bytes.slice (run es b) e.start e.length = e.change (Bytes.slice b e.start e.length) := by
  induction es generalizing b with
  | nil => cases he
  | cons f es ih =>
    have hl := length_apply h.head.1 h.head.2.1
    have tail : Fit (f.apply b).length es := by
      rw [hl]
      exact h.tail
    rw [run_cons]
    rcases List.mem_cons.mp he with rfl | he
    · rw [slice_run_apart tail fun g hg => (h.head.2.2 g hg).symm, slice_apply_same h.head.1 h.head.2.1]
    · rw [ih tail he, slice_apply_apart h.head.1 h.head.2.1 (h.head.2.2 e he)]

theorem getElem?_run (h : Fit b.length es) (hi : ∀ e ∈ es, i < e.start ∨ e.stop ≤ i) : (run es b)[i]? = b[i]? := by
  induction es generalizing b with
  | nil => rfl
  | cons e es ih =>
    have hl := length_apply h.head.1 h.head.2.1
    rw [run_cons, ih (by rw [hl]; exact h.tail) fun f hf => hi f (List.mem_cons_of_mem _ hf),
      getElem?_apply h.head.1 h.head.2.1 (hi e List.mem_cons_self)]

/-- Byte strings of one length are equal if they agree in windows and in each byte that no window holds. -/
theorem ext_windows (es : List Edit) (hl : b.length = b'.length)
    (hw : ∀ e ∈ es, Bytes.slice b e.start e.length = Bytes.slice b' e.start e.length)
    (ho : ∀ i < b.length, (∀ e ∈ es, i < e.start ∨ e.stop ≤ i) → b[i]? = b'[i]?) : b = b' := by
  refine Bytes.ext_of_length hl fun i hi => ?_
  by_cases hin : ∃ e ∈ es, e.start ≤ i ∧ i < e.stop
  · obtain ⟨e, he, h1, h2⟩ := hin
    have := Bytes.getElem?_of_slice_eq (i := i - e.start) (hw e he) (by unfold stop at h2; omega)
    rwa [Nat.add_sub_cancel' h1] at this
  · refine ho i hi fun e he => ?_
    by_cases h1 : i < e.start
    · exact .inl h1
    · exact .inr (Nat.not_lt.mp fun h2 => hin ⟨e, he, by omega, h2⟩)

/-- What holds each change of `b`, and `b` elsewhere, is what the changes make of `b`. -/
theorem eq_run (h : Fit b.length es) (hl : b'.length = b.length)
    (hw : ∀ e ∈ es, Bytes.slice b' e.start e.length = e.change (Bytes.slice b e.start e.length))
    (ho : ∀ i, (∀ e ∈ es, i < e.start ∨ e.stop ≤ i) → b'[i]? = b[i]?) : b' = run es b :=
  ext_windows es (hl.trans (length_run h).symm) (fun e he => (hw e he).trans (slice_run h he).symm)
    fun i _ hi => (ho i hi).trans (getElem?_run h hi).symm

end Edit

end ArrayTransfer
