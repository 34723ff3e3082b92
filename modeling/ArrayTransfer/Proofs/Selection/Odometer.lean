import ArrayTransfer.Proofs.Selection.Indices

/-! The runs of a hyperslab, one after the other. An `Odometer` stands at an index along each dimension but the last. It
    gives the runs along the last dimension, moved by where it stands, then turns its wheels to the next row, with a
    carry from the last wheel to the ones before it, and stops when all are back at their first index. What a turn leaves
    of the rows is in `Wheel.turn_spec`, what a step leaves of the runs in `Odometer.Ready.next_spec`; from a hyperslab
    come the runs that `RunSource.ofAxes` gives by number (`Dataspace.odometer_yields`). -/

namespace ArrayTransfer

/-- A dimension before the last: its indices, the stride along it, and the position of the index that it stands at. -/
structure Wheel where
  indices : List UInt64
  stride : UInt64
  position : Nat

namespace Wheel

/-- How far behind the first element the index is that the wheel stands at. -/
def reach (w : Wheel) : UInt64 := w.indices.getD w.position 0 * w.stride

/-- Where the row begins that the wheels stand at. -/
def base : List Wheel → UInt64
  | [] => 0
  | w :: wheels => w.reach + base wheels

def forward (w : Wheel) : Wheel := { w with position := w.position + 1 }

def back (w : Wheel) : Wheel := { w with position := 0 }

/-- The wheels at the next row, and whether they all went back to their first index: the last wheel goes on, and a wheel
    that is at its end goes back and has the wheel before it go on. -/
def turn : List Wheel → List Wheel × Bool
  | [] => ([], true)
  | w :: wheels =>
    match turn wheels with
    | (wheels, false) => (w :: wheels, false)
    | (wheels, true) =>
      if w.position + 1 < w.indices.length then (w.forward :: wheels, false) else (w.back :: wheels, true)

variable {w : Wheel} {wheels turned : List Wheel} {carry : Bool}

/-- A wheel stays if the wheels behind it did not all go back, and else goes on, or goes back itself. -/
theorem turn_cases (h : turn (w :: wheels) = (turned, carry)) : ∃ inner,
    turn wheels = (inner, false) ∧ turned = w :: inner ∧ carry = false ∨
    turn wheels = (inner, true) ∧ (w.position + 1 < w.indices.length ∧ turned = w.forward :: inner ∧ carry = false ∨
      w.indices.length ≤ w.position + 1 ∧ turned = w.back :: inner ∧ carry = true) := by
  rcases ht : turn wheels with ⟨inner, _ | _⟩ <;> simp only [turn, ht] at h
  · cases h
    exact ⟨inner, .inl ⟨rfl, rfl, rfl⟩⟩
  · split at h
    · rename_i more
      cases h
      exact ⟨inner, .inr ⟨rfl, .inl ⟨more, rfl, rfl⟩⟩⟩
    · rename_i last
      cases h
      exact ⟨inner, .inr ⟨rfl, .inr ⟨Nat.not_lt.mp last, rfl, rfl⟩⟩⟩

/-! ### Turns come to an end -/

def room : List Wheel → Nat
  | [] => 1
  | w :: wheels => (w.indices.length + 1) * room wheels

/-- A bound on the turns before all wheels are back. -/
def turnsLeft : List Wheel → Nat
  | [] => 0
  | w :: wheels => (w.indices.length - w.position) * room wheels + turnsLeft wheels

theorem turnsLeft_lt_room (wheels : List Wheel) : turnsLeft wheels < room wheels := by
  induction wheels with
  | nil => exact Nat.one_pos
  | cons w wheels ih =>
    have := Nat.mul_le_mul_right (room wheels) (Nat.sub_le w.indices.length w.position)
    rw [turnsLeft, room, Nat.succ_mul]
    omega

theorem room_turn (h : turn wheels = (turned, carry)) : room turned = room wheels := by
  induction wheels generalizing turned carry with
  | nil =>
    cases h
    rfl
  | cons w wheels ih =>
    obtain ⟨inner, ⟨ht, rfl, rfl⟩ | ⟨ht, ⟨-, rfl, rfl⟩ | ⟨-, rfl, rfl⟩⟩⟩ := turn_cases h
    · rw [room, room, ih ht]
    all_goals
      rw [room, room, ih ht]
      rfl

theorem turnsLeft_turn_lt (h : turn wheels = (turned, false)) : turnsLeft turned < turnsLeft wheels := by
  induction wheels generalizing turned with
  | nil => cases h
  | cons w wheels ih =>
    obtain ⟨inner, ⟨ht, rfl, -⟩ | ⟨ht, ⟨more, rfl, -⟩ | ⟨-, -, ⟨⟩⟩⟩⟩ := turn_cases h
    · rw [turnsLeft, turnsLeft, room_turn ht]
      exact Nat.add_lt_add_left (ih ht) _
    · have below : turnsLeft inner < room wheels := room_turn ht ▸ turnsLeft_lt_room inner
      have step : w.indices.length - w.position = w.indices.length - w.forward.position + 1 :=
        (Nat.sub_add_cancel (Nat.sub_pos_of_lt (Nat.lt_of_succ_lt more))).symm
      calc turnsLeft (w.forward :: inner)
        _ = (w.indices.length - w.forward.position) * room wheels + turnsLeft inner := by
          rw [turnsLeft, room_turn ht]
          rfl
        _ < (w.indices.length - w.forward.position) * room wheels + room wheels := Nat.add_lt_add_left below _
        _ = (w.indices.length - w.position) * room wheels := by rw [step, Nat.succ_mul]
        _ ≤ turnsLeft (w :: wheels) := Nat.le_add_right ..

/-! ### Rows -/

/-- Whether the wheel stands at one of its indices. -/
def Within (w : Wheel) : Prop := w.position < w.indices.length

/-- Where the rows begin, with a row for each index of each wheel. -/
def rows : List Wheel → List UInt64
  | [] => [0]
  | w :: wheels => w.indices.flatMap fun i => (rows wheels).map (i * w.stride + ·)

/-- Where the rows begin from the one that the wheels stand at on. -/
def rowsLeft : List Wheel → List UInt64
  | [] => [0]
  | w :: wheels => (rowsLeft wheels).map (w.reach + ·) ++
      (w.indices.drop (w.position + 1)).flatMap fun i => (rows wheels).map (i * w.stride + ·)

/-- With the wheels behind it at their first index, a wheel has all rows left of the index it stands at. -/
theorem rowsLeft_cons (hw : w.Within) (h : rowsLeft wheels = rows wheels) : rowsLeft (w :: wheels) =
    (w.indices.drop w.position).flatMap fun i => (rows wheels).map (i * w.stride + ·) := by
  rw [rowsLeft, h, List.drop_eq_getElem_cons hw, List.flatMap_cons, reach,
    List.getD_eq_getElem?_getD, List.getElem?_eq_getElem hw, Option.getD_some]

theorem rowsLeft_of_start (hw : ∀ w ∈ wheels, w.Within) (hs : ∀ w ∈ wheels, w.position = 0) :
    rowsLeft wheels = rows wheels := by
  induction wheels with
  | nil => rfl
  | cons w wheels ih =>
    rw [List.forall_mem_cons] at hw hs
    rw [rowsLeft_cons hw.1 (ih hw.2 hs.2), hs.1, List.drop_zero, rows]

/-- A turn leaves the rows behind the one that the wheels stood at, and if there are none, the wheels are back. -/
theorem turn_spec (hw : ∀ w ∈ wheels, w.Within) (ht : turn wheels = (turned, carry)) :
    (∀ w ∈ turned, w.Within) ∧ rows turned = rows wheels ∧
      rowsLeft wheels = base wheels :: (if carry then [] else rowsLeft turned) ∧
      (carry = true → rowsLeft turned = rows turned) := by
  induction wheels generalizing turned carry with
  | nil =>
    cases ht
    exact ⟨hw, rfl, rfl, fun _ => rfl⟩
  | cons w wheels ih =>
    rw [List.forall_mem_cons] at hw
    obtain ⟨inner, ⟨h, rfl, rfl⟩ | ⟨h, turned⟩⟩ := turn_cases ht
    · obtain ⟨within, same, left, -⟩ := ih hw.2 h
      refine ⟨List.forall_mem_cons.mpr ⟨hw.1, within⟩, by rw [rows, rows, same], ?_, nofun⟩
      simp [rowsLeft, left, same, base]
    · obtain ⟨within, same, left, atStart⟩ := ih hw.2 h
      have here : rowsLeft (w :: wheels) = base (w :: wheels) ::
          (w.indices.drop (w.position + 1)).flatMap fun i => (rows wheels).map (i * w.stride + ·) := by
        simp [rowsLeft, left, base]
      obtain ⟨more, rfl, rfl⟩ | ⟨last, rfl, rfl⟩ := turned
      · -- The wheel goes on, and has the rows of its further indices left.
        have on : w.forward.Within := more
        refine ⟨List.forall_mem_cons.mpr ⟨on, within⟩, by rw [rows, rows, same]; rfl, ?_, nofun⟩
        rw [here, if_neg Bool.false_ne_true, rowsLeft_cons on (atStart rfl), same]
        rfl
      · -- The wheel goes back, and had no index left.
        have first : w.back.Within := Nat.zero_lt_of_lt hw.1
        refine ⟨List.forall_mem_cons.mpr ⟨first, within⟩, by rw [rows, rows, same]; rfl, ?_, fun _ => ?_⟩
        · rw [here, if_pos rfl, List.drop_of_length_le last, List.flatMap_nil]
        · rw [rowsLeft_cons first (atStart rfl), rows]
          rfl

/-- The row that the wheels stand at is the first that they have left. -/
theorem rowsLeft_eq (hw : ∀ w ∈ wheels, w.Within) : rowsLeft wheels = base wheels :: (rowsLeft wheels).tail := by
  obtain ⟨-, -, left, -⟩ := turn_spec hw (Prod.eta _).symm
  rw [left, List.tail_cons]

end Wheel

/-- The run `n` elements further on. -/
def Run.shift (n : UInt64) (r : Run) : Run := ⟨n + r.start, r.length⟩

/-- A walk over the runs of axes: the wheels of all axes but the last, the runs along the last axis, where the row
    begins, the next run of the row, and whether the walk is over. -/
structure Odometer where
  wheels : List Wheel
  row : List Run
  base : UInt64
  segment : Nat
  finished : Bool

namespace Odometer

def ofAxes (axes : List Axis) (nonempty : axes ≠ []) (strides : List UInt64) : Odometer :=
  let wheels := (axes.dropLast.zip strides).map fun (a, stride) => ⟨a.segments.flatMap Run.indices, stride, 0⟩
  { wheels, row := (axes.getLast nonempty).segments, base := Wheel.base wheels, segment := 0,
    finished := wheels.any (·.indices.isEmpty) }

/-- The next run, if there is one, and the walk behind it. -/
def next (o : Odometer) : Option Run × Odometer :=
  if o.finished then (none, o)
  else
    match o.row[o.segment]? with
    | some r => (some (r.shift o.base), { o with segment := o.segment + 1 })
    | none =>
      let turned := Wheel.turn o.wheels
      if turned.2 then (none, { o with wheels := turned.1, segment := 0, finished := true })
      else next { o with wheels := turned.1, segment := 0, base := Wheel.base turned.1 }
termination_by Wheel.turnsLeft o.wheels
decreasing_by exact Wheel.turnsLeft_turn_lt (Prod.ext rfl (Bool.eq_false_iff.mpr ‹_›))

/-- The walk gives the runs one after the other, and then is over. -/
def Yields : (o : Odometer) → List Run → Prop
  | o, [] => ∃ ended, o.next = (none, ended) ∧ ended.finished = true
  | o, r :: runs => ∃ further, o.next = (some r, further) ∧ further.Yields runs

/-- Every wheel stands at one of its indices. -/
def Ready (o : Odometer) : Prop := ∀ w ∈ o.wheels, w.Within

/-- The runs left of the row, and those of the rows behind it. -/
def runsLeft (o : Odometer) : List Run :=
  if o.finished then []
  else (o.row.drop o.segment).map (·.shift o.base) ++
    (Wheel.rowsLeft o.wheels).tail.flatMap fun base => o.row.map (·.shift base)

variable {o : Odometer}

theorem next_of_segment {r : Run} (going : ¬o.finished = true) (hr : o.row[o.segment]? = some r) :
    o.next = (some (r.shift o.base), { o with segment := o.segment + 1 }) := by
  rw [next, if_neg going, hr]

theorem next_of_back {turned : List Wheel} (going : ¬o.finished = true) (hr : o.row[o.segment]? = none)
    (ht : Wheel.turn o.wheels = (turned, true)) :
    o.next = (none, { o with wheels := turned, segment := 0, finished := true }) := by
  rw [next, if_neg going, hr]
  simp only [ht, ↓reduceIte]

theorem next_of_on {turned : List Wheel} (going : ¬o.finished = true) (hr : o.row[o.segment]? = none)
    (ht : Wheel.turn o.wheels = (turned, false)) :
    o.next = { o with wheels := turned, segment := 0, base := Wheel.base turned }.next := by
  rw [next, if_neg going, hr]
  simp only [ht, Bool.false_eq_true, ↓reduceIte]

/-- Behind the first run left of the row are the others. -/
theorem runsLeft_of_segment {r : Run} (going : ¬o.finished = true) (hr : o.row[o.segment]? = some r) :
    o.runsLeft = r.shift o.base :: { o with segment := o.segment + 1 }.runsLeft := by
  obtain ⟨hk, rfl⟩ := List.getElem?_eq_some_iff.mp hr
  rw [runsLeft, if_neg going, List.drop_eq_getElem_cons hk, List.map_cons, List.cons_append]
  simp only [runsLeft, if_neg going]

/-- Behind the last run of a row are the rows behind it. -/
theorem Ready.runsLeft_of_row (h : o.Ready) (going : ¬o.finished = true) (hr : o.row[o.segment]? = none) {turned carry}
    (ht : Wheel.turn o.wheels = (turned, carry)) : o.runsLeft =
      if carry then [] else { o with wheels := turned, segment := 0, base := Wheel.base turned }.runsLeft := by
  obtain ⟨within, -, left, -⟩ := Wheel.turn_spec h ht
  have rowEnd : o.row.drop o.segment = [] := List.drop_of_length_le (List.getElem?_eq_none_iff.mp hr)
  rw [runsLeft, if_neg going, rowEnd, left, List.map_nil, List.nil_append, List.tail_cons]
  cases carry with
  | true => rfl
  | false =>
    simp only [runsLeft, if_neg going, Bool.false_eq_true, ↓reduceIte, List.drop_zero]
    rw [Wheel.rowsLeft_eq within, List.flatMap_cons, List.tail_cons]

/-- A step gives the first of the runs left and leaves the others, and is the end if there are none. -/
theorem Ready.next_spec (h : o.Ready) :
    match o.runsLeft with
    | [] => ∃ ended, o.next = (none, ended) ∧ ended.finished = true
    | r :: runs => ∃ further, o.next = (some r, further) ∧ further.Ready ∧ further.runsLeft = runs := by
  induction o using next.induct with
  | case1 o finished =>
    rw [runsLeft, if_pos finished, next, if_pos finished]
    exact ⟨o, rfl, finished⟩
  | case2 o going r hr =>
    rw [runsLeft_of_segment going hr, next_of_segment going hr]
    exact ⟨_, rfl, h, rfl⟩
  | case3 o going hr turned back =>
    have ht : Wheel.turn o.wheels = (turned.1, true) := Prod.ext rfl back
    rw [h.runsLeft_of_row going hr ht, next_of_back going hr ht]
    exact ⟨_, rfl, rfl⟩
  | case4 o going hr turned on ih =>
    have ht : Wheel.turn o.wheels = (turned.1, false) := Prod.ext rfl (Bool.eq_false_iff.mpr on)
    rw [h.runsLeft_of_row going hr ht, next_of_on going hr ht]
    exact ih (Wheel.turn_spec h ht).1

/-- A walk gives the runs that are left. -/
theorem Ready.yields (h : o.Ready) : o.Yields o.runsLeft := by
  suffices general : ∀ runs, o.runsLeft = runs → o.Yields runs from general _ rfl
  intro runs
  induction runs generalizing o with
  | nil =>
    intro left
    have step := h.next_spec
    rw [left] at step
    exact step
  | cons r runs ih =>
    intro left
    have step := h.next_spec
    rw [left] at step
    obtain ⟨further, step, ready, rest⟩ := step
    exact ⟨further, step, ih ready rest⟩

/-! ### Axes -/

/-- The rows of axes hold the runs that are given by number. -/
theorem rows_ofAxes {axes : List Axis} {strides : List UInt64} (nonempty : axes ≠ []) (hv : ∀ a ∈ axes, a.Valid)
    (hs : axes.length = strides.length) :
    ((Wheel.rows (ofAxes axes nonempty strides).wheels).flatMap fun base =>
      (ofAxes axes nonempty strides).row.map (·.shift base)) = (RunSource.ofAxes axes strides).toList := by
  induction axes generalizing strides with
  | nil => exact absurd rfl nonempty
  | cons a axes ih =>
    obtain _ | ⟨stride, strides⟩ := strides
    · cases hs
    obtain ⟨ha, hv⟩ := List.forall_mem_cons.mp hv
    cases axes with
    | nil =>
      show ([0].flatMap fun base => a.segments.map (·.shift base)) = a.segments
      simp [Run.shift]
    | cons b axes =>
      have rest : b :: axes ≠ [] := List.cons_ne_nil _ _
      have row : (ofAxes (a :: b :: axes) nonempty (stride :: strides)).row =
          (ofAxes (b :: axes) rest strides).row := rfl
      rw [RunSource.toList_ofAxes hv, List.drop_one, List.tail_cons, ← ih rest hv (Nat.succ.inj hs), List.headD_cons]
      show ((a.segments.flatMap Run.indices).flatMap fun i =>
        (Wheel.rows (ofAxes (b :: axes) rest strides).wheels).map (i * stride + ·)).flatMap _ = _
      rw [ha.flatMap_indices_segments, row]
      simp only [List.flatMap_assoc, List.flatMap_map, List.map_flatMap, List.map_map, Function.comp_def,
        Run.shift, UInt64.add_assoc]

/-- The walk of axes starts ready, with all runs left. -/
theorem ready_ofAxes {axes : List Axis} {strides : List UInt64} (nonempty : axes ≠ []) (hv : ∀ a ∈ axes, a.Valid)
    (hs : axes.length = strides.length) :
    (ofAxes axes nonempty strides).Ready ∧
      (ofAxes axes nonempty strides).runsLeft = (RunSource.ofAxes axes strides).toList := by
  have wheel : ∀ w ∈ (ofAxes axes nonempty strides).wheels, w.position = 0 ∧ w.Within := by
    intro w hw
    obtain ⟨⟨a, stride⟩, hzip, rfl⟩ := List.mem_map.mp hw
    have ha := hv a (List.dropLast_subset _ (List.of_mem_zip hzip).1)
    refine ⟨rfl, ?_⟩
    show 0 < (a.segments.flatMap Run.indices).length
    rw [ha.flatMap_indices_segments, List.length_map, List.length_range, ha.toNat_length]
    exact Nat.mul_pos ha.count_pos ha.block_pos
  have within := fun w hw => (wheel w hw).2
  have going : ¬(ofAxes axes nonempty strides).finished = true := by
    show ¬((ofAxes axes nonempty strides).wheels.any (·.indices.isEmpty)) = true
    rw [List.any_eq_true]
    rintro ⟨w, hw, empty⟩
    have := within w hw
    rw [List.isEmpty_iff] at empty
    rw [Wheel.Within, empty] at this
    exact Nat.not_lt_zero _ this
  refine ⟨within, ?_⟩
  rw [← rows_ofAxes nonempty hv hs, ← Wheel.rowsLeft_of_start within fun w hw => (wheel w hw).1]
  rw [runsLeft, if_neg going, Wheel.rowsLeft_eq within, List.tail_cons, List.flatMap_cons]
  rfl

end Odometer

/-- The odometer of a selected hyperslab gives the runs of the selection, and no others. -/
theorem Dataspace.odometer_yields {d : Dataspace} {h : Hyperslab} (hs : d.selection = .hyperslab h) :
    (Odometer.ofAxes h.axes h.nonempty (RunSource.strides d.shape).1).Yields d.runSource.toList := by
  have lengths : h.axes.length = (RunSource.strides d.shape).1.length := by
    rw [axes_length hs, RunSource.length_strides]
  obtain ⟨ready, left⟩ := Odometer.ready_ofAxes h.nonempty h.valid lengths
  have source : d.runSource = .ofAxes h.axes (RunSource.strides d.shape).1 := by rw [runSource, hs]
  rw [source, ← left]
  exact ready.yields

end ArrayTransfer
