import ArrayTransfer.Proofs.Conversion.Background
import ArrayTransfer.Proofs.Conversion.InMemory
import ArrayTransfer.Proofs.Conversion.InPlace
import ArrayTransfer.Proofs.Selection.Region

/-! Converting into selected places of a memory. The result is that of a plain loop over the elements (`convertEach`),
    which looks at nothing but the element and the place where it goes; the ways of reusing the memory cannot be told
    apart (`reuse_unobservable`). A place that is selected twice makes no difference either: the loop that sees its own
    results (`convertLoop`) does the same. -/

namespace ArrayTransfer.Conversion

open Bytes (element)

/-! ### The loop -/

/-- An element with its place, converted over what the memory has there. -/
def convertedAt (source target : DataType) (memory : Bytes) (item : Nat × Bytes) : Nat × Bytes :=
  (item.1, convert source target item.2 (element memory target.size item.1))

/-- The memory with each element converted over what was at its place before all of them. -/
def convertEach (source target : DataType) (items : List (Nat × Bytes)) (memory : Bytes) : Bytes :=
  Memory.place target.size (items.map (convertedAt source target memory)) memory

/-- The memory after converting one element after the other over what is at its place then. -/
def convertLoop (source target : DataType) (items : List (Nat × Bytes)) (memory : Bytes) : Bytes :=
  items.foldl (fun b item => Memory.place target.size [convertedAt source target b item] b) memory

variable {source target : DataType} {items : List (Nat × Bytes)} {elements memory : Bytes} {v n : Nat}

section loop
variable (ht : target.WellFormed) (hs : source.WellFormed)
include ht hs

theorem placed_converted (hi : Memory.Placed source.size v items) (hm : v * target.size ≤ memory.length) :
    Memory.Placed target.size v (items.map (convertedAt source target memory)) := by
  intro item hmem
  obtain ⟨item, hitem, rfl⟩ := List.mem_map.mp hmem
  obtain ⟨hk, he⟩ := hi item hitem
  exact ⟨hk, length_convert ht hs he (Bytes.length_element hm hk)⟩

/-- Seeing its own results makes no difference to the loop. -/
theorem convertLoop_eq (hi : Memory.Placed source.size v items) (hm : v * target.size ≤ memory.length) :
    convertLoop source target items memory = convertEach source target items memory := by
  -- What the loop finds at a place is what was there before, or an element that it converted over that.
  suffices general : ∀ now : Bytes, now.length = memory.length →
      (∀ k < v, ∀ e : Bytes, e.length = source.size → convert source target e (element now target.size k) =
        convert source target e (element memory target.size k)) →
      convertLoop source target items now =
        Memory.place target.size (items.map (convertedAt source target memory)) now from
    general memory rfl fun _ _ _ _ => rfl
  induction items with
  | nil => exact fun _ _ _ => rfl
  | cons item items ih =>
    intro now hl hnow
    obtain ⟨⟨hk, he⟩, rest⟩ := Memory.placed_cons.mp hi
    have same : convertedAt source target now item = convertedAt source target memory item := by
      rw [convertedAt, convertedAt, hnow item.1 hk item.2 he]
    have hconv := length_convert ht hs he (Bytes.length_element hm hk)
    have hm' : v * target.size ≤ now.length := by rwa [hl]
    rw [convertLoop, List.foldl_cons, List.map_cons, same]
    refine ih rest _ ((Memory.length_patch_element hk hconv hm').trans hl) fun k hkv e hes => ?_
    by_cases hki : k = item.1
    · have here := Memory.element_patch_same hk hconv hm'
      rw [hki]
      exact (congrArg (convert source target e) here).trans
        (convert_convert ht hs hes he (Bytes.length_element hm hk))
    · have there := Memory.element_patch_ne hk hconv hm' hki
      exact (congrArg (convert source target e) there).trans (hnow k hkv e hes)

end loop

theorem convertEach_self (t : DataType) (items : List (Nat × Bytes)) (memory : Bytes) :
    convertEach t t items memory = Memory.place t.size items memory := by
  have copy : items.map (convertedAt t t memory) = items := by
    conv => rhs; rw [← List.map_id items]
    exact List.map_congr_left fun item _ => by rw [convertedAt, convert_self]; rfl
  rw [convertEach, copy]

/-! ### The elements before -/

/-- What the elements are built over is the elements before, or it is not looked at. -/
def Backs (source target : DataType) (olds : List Bytes) (background : Option Bytes) : Prop :=
  background = some olds.flatten ∨
    Background.of source target ≠ .filled ∧
      ∀ b, background = some b → olds.length * target.size ≤ b.length

section backs
variable {olds : List Bytes} {background : Option Bytes} (ht : target.WellFormed) (hs : source.WellFormed)
  (hc : DataType.convertibleFrom source target = true) (ho : ∀ o ∈ olds, o.length = target.size)
  (hb : Backs source target olds background)
include ho hb

theorem length_background {b : Bytes} (h : background = some b) : olds.length * target.size ≤ b.length := by
  rcases hb with hb | ⟨-, hb⟩
  · rw [hb] at h
    have hl : b.length = olds.length * target.size := by rw [← Option.some.inj h, Bytes.length_flatten_of_size ho]
    exact Nat.le_of_eq hl.symm
  · exact hb b h

include ht hs hc

theorem convert_priorAt {k : Nat} (hk : k < olds.length) {e : Bytes} (he : e.length = source.size) :
    convert source target e (priorAt target background k) = convert source target e olds[k] := by
  rcases hb with hb | ⟨hn, hb⟩
  · rw [hb, priorAt, Bytes.element_flatten ho hk]
  · refine convert_of_background ht hs hc hn he ?_ (ho _ (List.getElem_mem hk))
    cases background with
    | none => exact Bytes.length_zeros _
    | some b => exact Bytes.length_element (hb b rfl) hk

/-- Converting in a buffer that holds the packed source elements converts each over the element before it. -/
theorem convertInPlace_over (hn : olds.length = n) {buffer : Bytes} (hsource : n * source.size ≤ buffer.length)
    (htarget : n * target.size ≤ buffer.length)
    (hbuffer : ∀ k < n, element buffer source.size k = element elements source.size k)
    (he : elements.length = source.size * n) :
    (convertInPlace source target n background buffer).length = buffer.length ∧
      (convertInPlace source target n background buffer).take (n * target.size) =
        (List.zipWith (fun old e => convert source target e old) olds (Bytes.split source.size n elements)).flatten := by
  subst hn
  obtain ⟨length, front⟩ := convertInPlace_eq ht hs (fun b h => length_background ho hb h) hsource htarget
  refine ⟨length, ?_⟩
  rw [front]
  congr 1
  apply List.ext_getElem (by simp)
  intro k hk _
  have hk : k < olds.length := by simpa using hk
  have hes : (element elements source.size k).length = source.size :=
    Bytes.length_element (Nat.le_of_eq (by rw [he, Nat.mul_comm])) hk
  simp only [List.getElem_map, List.getElem_range, List.getElem_zipWith, Bytes.split_eq_map]
  rw [hbuffer k hk, convert_priorAt ht hs hc ho hb hk hes]

end backs

/-! ### Plans -/

theorem plan_spec {count : Nat} {reusable : Bool} {plan : Plan} (h : Plan.make source target count reusable = .ok plan) :
    DataType.convertibleFrom source target = true ∧ plan = ⟨source.size, target.size, count,
      Plan.chooseReuse source.size target.size count (Background.of source target) reusable,
      Background.of source target⟩ := by
  unfold Plan.make at h
  split at h
  · cases h
  · cases h
  · rename_i hs ht
    split at h
    · rename_i hc
      refine ⟨hc, ?_⟩
      rw [DataType.size, DataType.size, hs, ht]
      exact (Except.ok.inj h).symm
    · cases h

/-- Elements are planned to be sent only if nothing of them depends on what they are built over. -/
theorem makeWrite_eq_ok {n : Nat} {plan : Plan} (h : Plan.makeWrite source target n = .ok plan) :
    Plan.make source target n false = .ok plan ∧ Background.of source target ≠ .filled := by
  unfold Plan.makeWrite at h
  cases hp : Plan.make source target n false with
  | error e =>
    simp only [hp] at h
    cases h
  | ok p =>
    simp only [hp] at h
    split at h
    · cases h
    · rename_i hb
      cases h
      obtain ⟨-, hplan⟩ := plan_spec hp
      rw [hplan] at hb
      exact ⟨rfl, hb⟩

/-- The ways of reusing the memory that a plan may take: for conversion if the elements do not shrink, and as the
    background if there is one and they do, and both if the selection is found to be one window. -/
def Usable (plan : Plan) (d : Dataspace) : Reuse → Prop
  | .none => True
  | .conversion => plan.sourceSize ≤ plan.targetSize ∧ d.region?.isSome = true
  | .background => plan.background ≠ .unneeded ∧ plan.targetSize < plan.sourceSize ∧ d.region?.isSome = true

/-! ### Selected places -/

/-- The packed elements with the places that the selection gives them. -/
def assigned (d : Dataspace) (size : Nat) (elements : Bytes) : List (Nat × Bytes) :=
  d.places.zip (Bytes.split size d.count elements)

/-- The packed elements, each converted over the selected element whose place it takes. -/
def converted (source target : DataType) (d : Dataspace) (elements memory : Bytes) : List Bytes :=
  List.zipWith (fun old e => convert source target e old) (Memory.selected d target.size memory)
    (Bytes.split source.size d.count elements)

variable {d : Dataspace}

/-- The converted elements at their places are what the loop leaves. -/
theorem place_converted : Memory.place target.size (d.places.zip (converted source target d elements memory)) memory =
    convertEach source target (assigned d source.size elements) memory := by
  have zip : ∀ (ks : List Nat) (es : List Bytes), (ks.zip es).map (convertedAt source target memory) =
      ks.zip (List.zipWith (fun old e => convert source target e old) (ks.map (element memory target.size)) es) := by
    intro ks
    induction ks with
    | nil => exact fun _ => rfl
    | cons k ks ih =>
      intro es
      cases es with
      | nil => rfl
      | cons e es => simp [ih, convertedAt]
  rw [convertEach, assigned, zip]
  rfl

theorem length_converted_elements (hd : d.Exact) : (converted source target d elements memory).length = d.count := by
  rw [converted, List.length_zipWith, Memory.length_selected hd, Bytes.length_split, Nat.min_self]

theorem size_converted_elements (ht : target.WellFormed) (hs : source.WellFormed) (hd : d.Exact)
    (he : elements.length = source.size * d.count) (hm : memory.length = volume d.shape * target.size) :
    ∀ e ∈ converted source target d elements memory, e.length = target.size := by
  intro e hmem
  rw [converted] at hmem
  obtain ⟨k, hk, rfl⟩ := List.getElem_of_mem hmem
  rw [List.getElem_zipWith]
  refine length_convert ht hs ?_ (Memory.length_of_mem_selected hd hm _ (List.getElem_mem _))
  exact Bytes.length_of_mem_split (Nat.le_of_eq (by rw [he, Nat.mul_comm])) (List.getElem_mem _)

@[simp] theorem checkLength_eq_ok (n : Nat) : checkLength n n = .ok () := by
  rw [checkLength, LengthMismatch.check, if_pos rfl]
  rfl

theorem mapError_ok {ε ε' α : Type} (f : ε → ε') (a : α) : (Except.ok a : Except ε α).mapError f = .ok a := rfl

/-- What the elements of a background of the kind are: those before, or zeros, or nothing. -/
def backgroundOf (kind : Background) (before : Bytes) (size : Nat) : Option Bytes :=
  match kind with
  | .filled => some before
  | .blank => some (Bytes.zeros size)
  | .unneeded => none

theorem backs_backgroundOf (hd : d.Exact) : Backs source target (Memory.selected d target.size memory)
    (backgroundOf (Background.of source target) (Memory.selected d target.size memory).flatten
      (target.size * d.count)) := by
  cases hk : Background.of source target with
  | filled => exact .inl rfl
  | blank =>
    refine .inr ⟨by simp [hk], fun b hb => ?_⟩
    have hl : b.length = target.size * d.count := by rw [← Option.some.inj hb, Bytes.length_zeros]
    exact Nat.le_of_eq (by rw [hl, Memory.length_selected hd, Nat.mul_comm])
  | unneeded => exact .inr ⟨by simp [hk], fun b hb => by cases hb⟩

theorem length_of_mem_assigned {size : Nat} (he : elements.length = size * d.count) :
    ∀ item ∈ assigned d size elements, item.2.length = size := fun _ hitem =>
  Bytes.length_of_mem_split (Nat.le_of_eq (by rw [he, Nat.mul_comm])) (List.of_mem_zip hitem).2

theorem convertEach_of_empty (h0 : d.count = 0) :
    convertEach source target (assigned d source.size elements) memory = memory := by
  have none : assigned d source.size elements = [] := by rw [assigned, h0, Bytes.split, List.zip_nil_right]
  rw [none]
  rfl

section into
variable {reusable : Bool} {plan : Plan} (ht : target.WellFormed) (hs : source.WellFormed)
  (hc : DataType.convertibleFrom source target = true) (hd : d.Exact)
  (he : elements.length = source.size * d.count) (hm : memory.length = volume d.shape * target.size)
include ht hs hd he hm

theorem scatter_converted : Memory.scatter (converted source target d elements memory).flatten memory d target.size =
    .ok (convertEach source target (assigned d source.size elements) memory) := by
  rw [Memory.scatter_eq hd hm (size_converted_elements ht hs hd he hm) (length_converted_elements hd), place_converted]

theorem patch_converted {r : Run} (hr : d.region? = some r) :
    Bytes.patch memory (r.start.toNat * target.size) (converted source target d elements memory).flatten =
      convertEach source target (assigned d source.size elements) memory := by
  rw [Memory.patch_region hd hm (size_converted_elements ht hs hd he hm) (length_converted_elements hd) hr,
    place_converted]

include hc

/-- A buffer of its own ends with the converted elements at its front. -/
theorem convertInPlace_fit {background : Option Bytes}
    (hb : Backs source target (Memory.selected d target.size memory) background) :
    (convertInPlace source target d.count background
      (Bytes.fit elements (max source.size target.size * d.count))).take (target.size * d.count) =
        (converted source target d elements memory).flatten := by
  have room : source.size * d.count ≤ max source.size target.size * d.count := Nat.mul_le_mul_right _ (Nat.le_max_left ..)
  rw [Nat.mul_comm target.size]
  refine (convertInPlace_over ht hs hc (Memory.length_of_mem_selected hd hm) hb (Memory.length_selected hd) ?_ ?_ ?_
    he).2
  · rw [Bytes.length_fit, Nat.mul_comm]
    exact room
  · rw [Bytes.length_fit, Nat.mul_comm]
    exact Nat.mul_le_mul_right _ (Nat.le_max_right ..)
  · intro k hk
    refine Bytes.slice_fit (by rw [he]; exact room) ?_
    rw [he, Nat.mul_comm source.size]
    exact Bytes.element_bound hk

theorem convertInPlace_window (hle : source.size ≤ target.size) {background : Option Bytes} {region : Bytes}
    (hb : Backs source target (Memory.selected d target.size memory) background)
    (hl : region.length = target.size * d.count) :
    convertInPlace source target d.count background (Bytes.patch region 0 elements) =
      (converted source target d elements memory).flatten := by
  have fits : elements.length ≤ region.length := by
    rw [he, hl]
    exact Nat.mul_le_mul_right _ hle
  have hwindow : (Bytes.patch region 0 elements).length = target.size * d.count := by
    rw [Bytes.length_patch _ _ _ (by rwa [Nat.zero_add]), hl]
  have hsource : d.count * source.size ≤ (Bytes.patch region 0 elements).length := by
    rw [hwindow, Nat.mul_comm]
    exact Nat.mul_le_mul_right _ hle
  have htarget : (Bytes.patch region 0 elements).length = d.count * target.size := by rw [hwindow, Nat.mul_comm]
  have hbuffer : ∀ k < d.count, element (Bytes.patch region 0 elements) source.size k = element elements source.size k := by
    intro k hk
    refine Bytes.slice_patch_zero ?_
    rw [he, Nat.mul_comm source.size]
    exact Bytes.element_bound hk
  obtain ⟨length, front⟩ := convertInPlace_over ht hs hc (Memory.length_of_mem_selected hd hm) hb
    (Memory.length_selected hd) hsource (Nat.le_of_eq htarget.symm) hbuffer he
  rwa [List.take_of_length_le (Nat.le_of_eq (length.trans htarget))] at front

variable (h0 : d.count ≠ 0)
include h0

theorem convertInto_none :
    convertInto ⟨source.size, target.size, d.count, .none, Background.of source target⟩ source target elements memory d =
      .ok (convertEach source target (assigned d source.size elements) memory) := by
  have scattered := scatter_converted ht hs hd he hm
  rw [← convertInPlace_fit ht hs hc hd he hm (backs_backgroundOf hd)] at scattered
  simp only [convertInto, checkLength_eq_ok, he, Dataspace.toNat_elementCount hd.count_lt, h0,
    ↓reduceIte, mapError_ok, Memory.gather_eq hd hm, Plan.targetBytes, Plan.bufferSize]
  cases hk : Background.of source target <;> rw [hk] at scattered <;> exact congrArg (Except.mapError _) scattered

theorem convertInto_conversion (hle : source.size ≤ target.size) {r : Run} (hr : d.region? = some r) :
    convertInto ⟨source.size, target.size, d.count, .conversion, Background.of source target⟩ source target elements
        memory d = .ok (convertEach source target (assigned d source.size elements) memory) := by
  have region : Bytes.slice memory (r.start.toNat * target.size) (target.size * d.count) =
      (Memory.selected d target.size memory).flatten := by rw [Nat.mul_comm target.size, Memory.slice_region hd hr]
  have length : (Memory.selected d target.size memory).flatten.length = target.size * d.count := by
    rw [Bytes.length_flatten_of_size (Memory.length_of_mem_selected hd hm), Memory.length_selected hd, Nat.mul_comm]
  have patched := patch_converted ht hs hd he hm hr
  rw [← convertInPlace_window ht hs hc hd he hm hle (backs_backgroundOf hd) length, ← region] at patched
  simp only [convertInto, checkLength_eq_ok, he, Dataspace.toNat_elementCount hd.count_lt, h0,
    ↓reduceIte, window, hr, Dataspace.toNat_extent hd.volume_lt, hm, Plan.targetBytes]
  exact congrArg Except.ok patched

theorem convertInto_background {r : Run} (hr : d.region? = some r) :
    convertInto ⟨source.size, target.size, d.count, .background, Background.of source target⟩ source target elements
        memory d = .ok (convertEach source target (assigned d source.size elements) memory) := by
  have region : Bytes.slice memory (r.start.toNat * target.size) (target.size * d.count) =
      (Memory.selected d target.size memory).flatten := by rw [Nat.mul_comm target.size, Memory.slice_region hd hr]
  have patched := patch_converted ht hs hd he hm hr
  rw [← convertInPlace_fit ht hs hc hd he hm (.inl rfl), ← region] at patched
  simp only [convertInto, checkLength_eq_ok, he, Dataspace.toNat_elementCount hd.count_lt, h0,
    ↓reduceIte, window, hr, Dataspace.toNat_extent hd.volume_lt, hm, Plan.targetBytes,
    Plan.bufferSize]
  exact congrArg Except.ok patched

omit h0

/-- A planned conversion leaves what the loop does if a memory that is reused is one window, and one that the elements
    are put to has room for them. -/
theorem convertInto_reused {reusable : Bool} {plan : Plan}
    (hplan : Plan.make source target d.count reusable = .ok plan) {reuse : Reuse}
    (window : reuse ≠ .none → d.region?.isSome = true) (room : reuse = .conversion → source.size ≤ target.size) :
    convertInto { plan with reuse := reuse } source target elements memory d =
      .ok (convertEach source target (assigned d source.size elements) memory) := by
  obtain ⟨-, rfl⟩ := plan_spec hplan
  by_cases h0 : d.count = 0
  · rw [convertEach_of_empty h0]
    simp only [convertInto, checkLength_eq_ok, he, Dataspace.toNat_elementCount hd.count_lt, h0,
      ↓reduceIte]
    rfl
  cases reuse with
  | none => exact convertInto_none ht hs hc hd he hm h0
  | conversion =>
    obtain ⟨r, hr⟩ := Option.isSome_iff_exists.mp (window nofun)
    exact convertInto_conversion ht hs hc hd he hm h0 (room rfl) hr
  | background =>
    obtain ⟨r, hr⟩ := Option.isSome_iff_exists.mp (window nofun)
    exact convertInto_background ht hs hc hd he hm h0 hr

/-- A planned conversion leaves what the loop does, in each usable way of reusing the memory. -/
theorem convertInto_eq {reusable : Bool} {plan : Plan}
    (hplan : Plan.make source target d.count reusable = .ok plan) {reuse : Reuse} (hu : Usable plan d reuse) :
    convertInto { plan with reuse := reuse } source target elements memory d =
      .ok (convertEach source target (assigned d source.size elements) memory) := by
  obtain ⟨-, rfl⟩ := plan_spec hplan
  refine convertInto_reused ht hs hc hd he hm hplan (fun ne => ?_) fun same => ?_
  · cases reuse with
    | none => exact absurd rfl ne
    | conversion => exact hu.2
    | background => exact hu.2.2
  · subst same
    exact hu.1

end into

/-- A memory that is not one window cannot be reused. -/
theorem convertInto_scattered {n : Nat} {reusable : Bool} {plan : Plan} (hn : d.count = n) (few : n < UInt64.size)
    (he : elements.length = source.size * n) (hplan : Plan.make source target n reusable = .ok plan)
    (hr : d.region? = none) {reuse : Reuse} (hreuse : reuse ≠ .none) :
    convertInto { plan with reuse := reuse } source target elements memory d = .error (.scatteredReuse reuse) := by
  subst hn
  obtain ⟨-, rfl⟩ := plan_spec hplan
  have h0 : d.count ≠ 0 := fun h0 => nomatch hr.symm.trans (Dataspace.region?_of_count_zero h0)
  cases reuse with
  | none => exact absurd rfl hreuse
  | conversion =>
    simp only [convertInto, checkLength_eq_ok, he, Dataspace.toNat_elementCount few, h0, ↓reduceIte, window, hr]
    rfl
  | background =>
    simp only [convertInto, checkLength_eq_ok, he, Dataspace.toNat_elementCount few, h0, ↓reduceIte, window, hr]
    rfl

/-- A plan that is told whether the selection is one window reuses the memory in a usable way. -/
theorem usable_of_plan {n : Nat} {plan : Plan} (hplan : Plan.make source target n d.region?.isSome = .ok plan) :
    Usable plan d plan.reuse := by
  obtain ⟨-, rfl⟩ := plan_spec hplan
  simp only [Plan.chooseReuse]
  split
  · trivial
  · rename_i h
    have window : d.region?.isSome = true := by
      cases hr : d.region?.isSome with
      | true => rfl
      | false => simp [hr] at h
    split
    · rename_i hle
      exact ⟨hle, window⟩
    · rename_i hle
      split
      · trivial
      · rename_i hb
        exact ⟨hb, Nat.not_le.mp hle, window⟩

theorem scatter_eq_convertEach (t : DataType) (hd : d.Exact) (he : elements.length = t.size * d.count)
    (hm : memory.length = volume d.shape * t.size) :
    Memory.scatter elements memory d t.size = .ok (convertEach t t (assigned d t.size elements) memory) := by
  have hl : elements.length = d.count * t.size := by rw [he, Nat.mul_comm]
  have packed : (Bytes.split t.size d.count elements).flatten = elements := by
    rw [Bytes.flatten_split, List.take_of_length_le (Nat.le_of_eq hl)]
  have sizes : ∀ e ∈ Bytes.split t.size d.count elements, e.length = t.size := fun e =>
    Bytes.length_of_mem_split (Nat.le_of_eq hl.symm)
  have scattered := Memory.scatter_eq hd hm sizes (Bytes.length_split elements)
  rw [packed] at scattered
  rw [scattered, convertEach_self]
  rfl

/-! ### Elements without bytes -/

section sizeless
variable {n : Nat} (ht : target.WellFormed) (hs : source.WellFormed) (hz : target.size = 0)

theorem scatterRuns_sizeless (runs : List Run) (packed : Bytes) : Memory.scatterRuns 0 runs packed [] = [] := by
  induction runs generalizing packed with
  | nil => rfl
  | cons r runs ih => exact ih _

theorem scatter_sizeless (d : Dataspace) : Memory.scatter [] [] d 0 = .ok [] := by
  have checked : Memory.checkLengths 0 0 d 0 = .ok () := by
    simp only [Memory.checkLengths, LengthMismatch.check, Nat.mul_zero, if_true]
  simp only [Memory.scatter, List.length_nil, checked, scatterRuns_sizeless]

theorem gather_sizeless (d : Dataspace) : ∃ g, Memory.gather [] d 0 = .ok g := by
  have checked : Memory.checkLengths 0 0 d 0 = .ok () := by
    simp only [Memory.checkLengths, LengthMismatch.check, Nat.mul_zero, if_true]
  simp only [Memory.gather, Nat.mul_zero, List.length_nil, checked]
  cases d.region? with
  | none => exact ⟨_, rfl⟩
  | some r => exact ⟨_, rfl⟩

theorem place_sizeless {items : List (Nat × Bytes)} (none : ∀ item ∈ items, item.2 = []) :
    Memory.place 0 items [] = [] := by
  induction items with
  | nil => rfl
  | cons item items ih =>
    obtain ⟨here, rest⟩ := List.forall_mem_cons.mp none
    obtain ⟨k, e⟩ := item
    cases here
    exact ih rest

include ht hs hz

theorem convertEach_sizeless (sizes : ∀ item ∈ items, item.2.length = source.size) :
    convertEach source target items [] = [] := by
  rw [convertEach, hz]
  refine place_sizeless (List.forall_mem_map.mpr fun item hitem => List.eq_nil_of_length_eq_zero ?_)
  have prior : (element [] target.size item.1).length = target.size := by rw [hz]; rfl
  exact (length_convert ht hs (sizes item hitem) prior).trans hz

theorem convertInPlace_sizeless (he : source.size = 0) (background : Option Bytes) :
    convertInPlace source target n background [] = [] := by
  refine List.eq_nil_of_length_eq_zero (convertInPlace_eq ht hs (fun b _ => ?_) ?_ ?_).1
  · rw [hz]
    exact Nat.zero_le _
  · rw [he]
    exact Nat.zero_le _
  · rw [hz]
    exact Nat.zero_le _

/-- Elements without bytes leave nothing, in each usable way of reusing the memory. -/
theorem convertInto_sizeless {reusable : Bool} {plan : Plan} (hn : d.count = n) (few : n < UInt64.size)
    (he : elements.length = source.size * n) (hplan : Plan.make source target n reusable = .ok plan) {reuse : Reuse}
    (hu : Usable plan d reuse) : convertInto { plan with reuse := reuse } source target elements [] d = .ok [] := by
  subst hn
  obtain ⟨-, rfl⟩ := plan_spec hplan
  by_cases h0 : d.count = 0
  · simp only [convertInto, checkLength_eq_ok, he, Dataspace.toNat_elementCount few, h0, ↓reduceIte]
    rfl
  simp only [convertInto, checkLength_eq_ok, he, Dataspace.toNat_elementCount few, h0, ↓reduceIte, hz,
    Plan.targetBytes, Nat.zero_mul, List.take_zero, scatter_sizeless]
  cases reuse with
  | none =>
    obtain ⟨g, gathered⟩ := gather_sizeless d
    rw [gathered]
    cases Background.of source target <;> rfl
  | conversion =>
    obtain ⟨r, hr⟩ := Option.isSome_iff_exists.mp hu.2
    have small : source.size = 0 := Nat.le_zero.mp (hz ▸ hu.1)
    obtain rfl : elements = [] := List.eq_nil_of_length_eq_zero (by rw [he, small, Nat.zero_mul])
    simp only [window, hr, Nat.mul_zero, List.length_nil, checkLength_eq_ok]
    have none := fun background => convertInPlace_sizeless (n := d.count) ht hs hz small background
    show Except.ok (Bytes.patch [] 0 (convertInPlace source target d.count _ [])) = _
    rw [none]
    rfl
  | background =>
    obtain ⟨r, hr⟩ := Option.isSome_iff_exists.mp hu.2.2
    simp only [window, hr, Nat.mul_zero, List.length_nil, checkLength_eq_ok]
    rfl

end sizeless

/-! ### The ways of reusing the memory -/

/-- How a memory of all elements is reused cannot be seen in the result. In every usable way, in place as apart, it is that
    of the plain loop, and for elements of one type that of scattering them. A memory that is not one window is not reused
    but left as it is. Where elements take bytes, the selection is one window exactly if its places are consecutive. -/
theorem reuse_unobservable {source target : DataType} {elements memory : Bytes} {d : Dataspace} {n : Nat}
    {reusable : Bool} {plan : Plan} (hs : source.WellFormed) (ht : target.WellFormed)
    (hplan : Plan.make source target n reusable = .ok plan) (hn : d.count = n) (few : n < UInt64.size)
    (he : elements.length = source.size * n) (hm : memory.length = volume d.shape * target.size)
    (fits : memory.length < UInt64.size) :
    (∀ reuse, Usable plan d reuse →
      convertInto { plan with reuse := reuse } source target elements memory d =
        .ok (convertEach source target (assigned d source.size elements) memory) ∧
      (convertInMemory { plan with reuse := reuse } source target elements d).run.run memory =
        (.ok (), convertEach source target (assigned d source.size elements) memory)) ∧
    (source = target → Memory.scatter elements memory d target.size =
      .ok (convertEach source target (assigned d source.size elements) memory)) ∧
    (d.region? = none → ∀ reuse, reuse ≠ .none →
      convertInto { plan with reuse := reuse } source target elements memory d = .error (.scatteredReuse reuse) ∧
      (convertInMemory { plan with reuse := reuse } source target elements d).run.run memory =
        (.error (.scatteredReuse reuse), memory)) ∧
    (target.size ≠ 0 → (d.region?.isSome = true ↔ d.Contiguous)) := by
  subst hn
  have exact : target.size ≠ 0 → d.Exact := fun sized =>
    ⟨Nat.lt_of_le_of_lt (Nat.le_mul_of_pos_right _ (Nat.pos_of_ne_zero sized)) (hm ▸ fits), few⟩
  have empty : target.size = 0 → memory = [] ∧
      convertEach source target (assigned d source.size elements) [] = [] := fun sizeless =>
    ⟨List.eq_nil_of_length_eq_zero (by rw [hm, sizeless, Nat.mul_zero]),
      convertEach_sizeless ht hs sizeless (length_of_mem_assigned he)⟩
  have converts : ∀ reuse, Usable plan d reuse → convertInto { plan with reuse := reuse } source target elements memory d =
      .ok (convertEach source target (assigned d source.size elements) memory) := by
    intro reuse hu
    by_cases sizeless : target.size = 0
    · obtain ⟨rfl, none⟩ := empty sizeless
      rw [none, convertInto_sizeless ht hs sizeless rfl few he hplan hu]
    · exact convertInto_eq ht hs (plan_spec hplan).1 (exact sizeless) he hm hplan hu
  refine ⟨fun reuse hu => ⟨converts reuse hu, run_convertInMemory_of_ok (converts reuse hu)⟩, ?_,
    fun hr reuse hreuse => ?_, fun sized => (exact sized).isSome_region?_iff⟩
  · rintro rfl
    by_cases sizeless : source.size = 0
    · obtain ⟨rfl, none⟩ := empty sizeless
      obtain rfl : elements = [] := List.eq_nil_of_length_eq_zero (by rw [he, sizeless, Nat.zero_mul])
      rw [none, sizeless, scatter_sizeless]
    · exact scatter_eq_convertEach source (exact sizeless) he hm
  · have refused : convertInto { plan with reuse := reuse } source target elements memory d = _ :=
      convertInto_scattered rfl few he hplan hr hreuse
    exact ⟨refused, run_convertInMemory_of_error refused⟩

/-- Two elements, the later one for the earlier place. -/
def swapped : Dataspace := ⟨[3], .points ⟨1, [[2], [0]], by decide, by decide⟩, by decide⟩

theorem reuse_unobservable_swapped :
    let byte : DataType := .compound [⟨"a", 0, .numeric (.unsigned .w8)⟩] 1
    let wider : DataType := .compound [⟨"a", 0, .numeric (.unsigned .w16)⟩, ⟨"b", 2, .numeric (.unsigned .w8)⟩] 3
    let plan : Plan := ⟨1, 3, 2, .none, .filled⟩
    Plan.make byte wider 2 false = .ok plan ∧
      convertInto plan byte wider [1, 2] [10, 11, 12, 13, 14, 15, 16, 17, 18] swapped =
        .ok [2, 0, 12, 13, 14, 15, 1, 0, 18] ∧
      (convertInMemory { plan with reuse := .conversion } byte wider [1, 2] swapped).run.run
          [10, 11, 12, 13, 14, 15, 16, 17, 18] =
        (.error (.scatteredReuse .conversion), [10, 11, 12, 13, 14, 15, 16, 17, 18]) := by
  intro byte wider plan
  have hbyte : byte.WellFormed :=
    .compound ⟨by decide, by decide, by decide, by decide, by decide⟩ (by simp [DataType.WellFormed.numeric])
  have hwider : wider.WellFormed :=
    .compound ⟨by decide, by decide, by decide, by decide, by decide⟩ (by simp [DataType.WellFormed.numeric])
  have hplan : Plan.make byte wider 2 false = .ok plan := by rfl
  have hmemory : ([10, 11, 12, 13, 14, 15, 16, 17, 18] : Bytes).length = volume swapped.shape * wider.size := by decide
  obtain ⟨each, -, scattered, -⟩ := reuse_unobservable hbyte hwider hplan (by decide) (by decide)
    (show ([1, 2] : Bytes).length = byte.size * 2 by decide) hmemory (by decide)
  refine ⟨hplan, (each .none trivial).1.trans (congrArg Except.ok (by decide +kernel)), ?_⟩
  exact (scattered (by decide) .conversion nofun).2

end ArrayTransfer.Conversion
