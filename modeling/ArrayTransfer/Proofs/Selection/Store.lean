import ArrayTransfer.Proofs.Selection.Memory

/-! Work on a memory in place: it is written to step by step, and what is written before an error stays. Scattering
    checks every length before its first write, so that it leaves the memory as it was if it fails
    (`Memory.store_leaves`). -/

namespace ArrayTransfer

/-- Work on a memory in place, which may stop with an error; what it has written by then stays. -/
abbrev InPlace (ε α : Type) := ExceptT ε (StateM Bytes) α

namespace InPlace
variable {ε ε' α : Type}

def check (r : Except ε α) : InPlace ε α := ExceptT.mk (pure r)

def look : InPlace ε Bytes := ExceptT.mk do return .ok (← get)

def write (f : Bytes → Bytes) : InPlace ε Unit := ExceptT.mk do return .ok (← modify f)

/-- Work on a window of the memory, which is given back when it is done. -/
def within (start length : Nat) (work : Bytes → Bytes) : InPlace ε Unit :=
  write fun memory => Bytes.patch memory start (work (Bytes.slice memory start length))

/-- The work comes to `r`: it ends with the memory that `r` is, or with the error that `r` is and the memory as it
    was. -/
def Leaves (work : InPlace ε Unit) (memory : Bytes) (r : Except ε Bytes) : Prop :=
  work.run.run memory = match r with
    | .ok after => (.ok (), after)
    | .error e => (.error e, memory)

variable {work : InPlace ε Unit} {memory : Bytes} {r : Except ε Bytes}

theorem Leaves.check {c : Except ε α} {next : α → InPlace ε Unit} {r : α → Except ε Bytes}
    (h : ∀ a, c = .ok a → Leaves (next a) memory (r a)) : Leaves (InPlace.check c >>= next) memory (c >>= r) := by
  cases c with
  | error e => rfl
  | ok a => exact h a rfl

theorem Leaves.look {next : Bytes → InPlace ε Unit} (h : Leaves (next memory) memory r) :
    Leaves (look >>= next) memory r := h

theorem Leaves.write (f : Bytes → Bytes) : Leaves (InPlace.write f : InPlace ε Unit) memory (.ok (f memory)) := rfl

theorem Leaves.done : Leaves (pure () : InPlace ε Unit) memory (.ok memory) := rfl

theorem Leaves.adapt (f : ε → ε') (h : Leaves work memory r) : Leaves (work.adapt f) memory (r.mapError f) := by
  unfold Leaves at *
  have ran : (work.adapt f).run.run memory = ((work.run.run memory).1.mapError f, (work.run.run memory).2) := rfl
  rw [ran, h]
  cases r <;> rfl

end InPlace

open InPlace

/-! ### Scattering -/

namespace Memory

/-- The packed elements are put to the runs one after the other. -/
def storeRuns (size : Nat) : List Run → (packed : Bytes) → InPlace LengthMismatch Unit
  | [], _ => pure ()
  | r :: rest, packed => do
    let length := r.length.toNat * size
    write fun memory => Bytes.patch memory (r.start.toNat * size) (packed.take length)
    storeRuns size rest (packed.drop length)

def store (packed : Bytes) (space : Dataspace) (size : Nat) : InPlace LengthMismatch Unit := do
  check (checkLengths packed.length (← look).length space size)
  storeRuns size space.runs packed

theorem storeRuns_leaves (size : Nat) (runs : List Run) (packed memory : Bytes) :
    Leaves (storeRuns size runs packed) memory (.ok (scatterRuns size runs packed memory)) := by
  induction runs generalizing packed memory with
  | nil => rfl
  | cons r rest ih => exact ih _ _

theorem store_leaves (packed memory : Bytes) (space : Dataspace) (size : Nat) :
    Leaves (store packed space size) memory (scatter packed memory space size) := by
  have eq : scatter packed memory space size = checkLengths packed.length memory.length space size >>= fun _ =>
      .ok (scatterRuns size space.runs packed memory) := by
    unfold scatter
    cases checkLengths packed.length memory.length space size <;> rfl
  rw [eq]
  exact .look (.check fun _ _ => storeRuns_leaves _ _ _ _)

end Memory

end ArrayTransfer
