import ArrayTransfer.Proofs.Transfer.Read

/-! A response received in place: the memory is written to step by step, and what is written before an error stays.
    Every check comes before the first write (`receiveInPlace_leaves`), so that a failed read leaves the memory as it
    was, and only bytes of selected elements are written (`receive_frame`). -/

namespace ArrayTransfer

open InPlace

namespace Transfer
open Conversion
variable {t : Transfer} {response : Response} {buffer : Bytes}

/-- A successful response is taken into the caller's memory. -/
def receiveInPlace (t : Transfer) (response : Response) : InPlace TransferError Unit := do
  let wireType := t.array.type
  let count ← check (t.fileSpace.addressableCount.mapError .selection)
  let elements ← check ((match t.mode with
    | some .binary => Body.decodeBinary response.body wireType t.array.order count
    | _ => Body.decodeJson response.body wireType count).mapError .wire)
  if wireType = t.callerType then
    (Memory.store elements t.memorySpace t.callerType.size).adapt fun e => .wire (.bufferLength e)
  else
    let plan ← check ((Plan.make wireType t.callerType count t.memorySpace.region?.isSome).mapError .conversion)
    (convertInMemory plan wireType t.callerType elements t.memorySpace).adapt .conversion

/-- Receiving in place ends with the buffer of `receive`, or with its error and the memory untouched. -/
theorem receiveInPlace_leaves (t : Transfer) (response : Response) :
    Leaves (t.receiveInPlace response) t.buffer (t.receive response) := by
  unfold receiveInPlace receive
  refine .check fun count _ => .check fun elements _ => ?_
  split
  · exact .adapt _ (Memory.store_leaves _ _ _ _)
  · exact .check fun plan _ => .adapt _ (convertInMemory_leaves _ _ _ _ _ _)

/-! ### What is written -/

/-- The memory with a received response in it: other bytes than those of selected elements are as they were. -/
structure Framed (t : Transfer) (after : Bytes) : Prop where
  length : after.length = t.buffer.length
  others : ∀ i,
    (∀ k ∈ t.memorySpace.places, i < k * t.callerType.size ∨ k * t.callerType.size + t.callerType.size ≤ i) →
      after[i]? = t.buffer[i]?

theorem framed_convertEach {elements : Bytes} (hwire : t.array.type.WellFormed) (hcaller : t.callerType.WellFormed)
    (hexact : t.memorySpace.Exact) (length : elements.length = t.array.type.size * t.memorySpace.count)
    (room : t.buffer.length = volume t.memorySpace.shape * t.callerType.size) :
    t.Framed (convertEach t.array.type t.callerType (assigned t.memorySpace t.array.type.size elements) t.buffer) := by
  have sizes : ∀ e ∈ Bytes.split t.array.type.size t.memorySpace.count elements, e.length = t.array.type.size :=
    fun _ => Bytes.length_of_mem_split (Nat.le_of_eq (by rw [length, Nat.mul_comm]))
  have placed : Memory.Placed t.array.type.size (volume t.memorySpace.shape)
      (assigned t.memorySpace t.array.type.size elements) := Memory.placed_zip (fun _ hk => hexact.place_lt hk) sizes
  have converted := placed_converted hcaller hwire placed (Nat.le_of_eq room.symm)
  refine ⟨Memory.length_place converted (Nat.le_of_eq room.symm), fun i outside => ?_⟩
  refine Memory.getElem?_place converted (Nat.le_of_eq room.symm) (List.forall_mem_map.mpr fun item hitem => ?_)
  exact outside item.1 (List.of_mem_zip hitem).1

theorem lengths_of_checkLengths {packed memory size : Nat} {space : Dataspace}
    (h : Memory.checkLengths packed memory space size = .ok ()) :
    memory = space.extent.toNat * size ∧ packed = space.elementCount.toNat * size := by
  unfold Memory.checkLengths LengthMismatch.check at h
  split at h
  · cases h
  · rename_i checked
    split at checked
    · rename_i room
      split at h
      · rename_i length
        exact ⟨room, length⟩
      · cases h
    · cases checked

theorem lengths_of_scatter {packed memory after : Bytes} {space : Dataspace} {size : Nat}
    (h : Memory.scatter packed memory space size = .ok after) :
    memory.length = space.extent.toNat * size ∧ packed.length = space.elementCount.toNat * size := by
  unfold Memory.scatter at h
  split at h
  · cases h
  · rename_i checked
    exact lengths_of_checkLengths checked

theorem eq_of_checkLength {got expected : Nat} (h : checkLength got expected = .ok ()) : got = expected := by
  unfold checkLength LengthMismatch.check at h
  split at h
  · assumption
  · cases h

theorem length_of_window {plan : Plan} {memory : Bytes} {space : Dataspace} {start : Nat}
    (h : window plan memory space = .ok start) : memory.length = space.extent.toNat * plan.targetSize := by
  unfold window at h
  split at h
  · cases h
  · split at h
    · cases h
    · rename_i checked
      exact eq_of_checkLength checked

/-- A conversion that ends well has checked the lengths. -/
theorem lengths_of_convertInto {plan : Plan} {source target : DataType} {elements memory after : Bytes}
    {space : Dataspace} (h : convertInto plan source target elements memory space = .ok after) :
    elements.length = plan.sourceSize * plan.count ∧ space.elementCount.toNat = plan.count ∧
      (after = memory ∨ memory.length = space.extent.toNat * plan.targetSize) := by
  unfold convertInto at h
  obtain ⟨⟨⟩, length, h⟩ := bind_eq_ok h
  obtain ⟨⟨⟩, count, h⟩ := bind_eq_ok h
  refine ⟨eq_of_checkLength length, eq_of_checkLength count, ?_⟩
  split at h
  · cases h
    exact .inl rfl
  · split at h
    · simp only at h
      split at h
      · obtain ⟨background, -, h⟩ := bind_eq_ok h
        exact .inr (lengths_of_scatter (mapError_eq_ok h)).1
      · exact .inr (lengths_of_scatter (mapError_eq_ok h)).1
      · exact .inr (lengths_of_scatter (mapError_eq_ok h)).1
    · obtain ⟨start, found, -⟩ := bind_eq_ok h
      exact .inr (length_of_window found)
    · obtain ⟨start, found, -⟩ := bind_eq_ok h
      exact .inr (length_of_window found)

/-- A response that is received changes only bytes of selected elements. -/
theorem receive_frame (hwire : t.array.type.WellFormed) (hcaller : t.callerType.WellFormed)
    (hexact : t.memorySpace.Exact) (h : t.receive response = .ok buffer) : t.Framed buffer := by
  unfold receive at h
  obtain ⟨count, -, h⟩ := bind_eq_ok h
  obtain ⟨elements, -, h⟩ := bind_eq_ok h
  have extent := Dataspace.toNat_extent hexact.volume_lt
  have counted := Dataspace.toNat_elementCount hexact.count_lt
  split at h
  · rename_i same
    have stored := mapError_eq_ok h
    obtain ⟨room, length⟩ := lengths_of_scatter stored
    rw [extent] at room
    rw [counted, ← same, Nat.mul_comm] at length
    have framed := framed_convertEach hwire hcaller hexact length room
    have copied := scatter_eq_convertEach t.callerType hexact (by rw [length, same]) room
    rw [stored, ← same] at copied
    rw [Except.ok.inj copied]
    rwa [← same] at framed
  · obtain ⟨plan, planned, h⟩ := bind_eq_ok h
    have made := mapError_eq_ok planned
    have converted := mapError_eq_ok h
    obtain ⟨convertible, spec⟩ := plan_spec made
    obtain ⟨length, number, kept | room⟩ := lengths_of_convertInto converted
    · rw [kept]
      exact ⟨rfl, fun _ _ => rfl⟩
    · have eq : count = t.memorySpace.count := by rw [← counted, number, spec]
      rw [spec] at length room
      simp only at length room
      rw [extent] at room
      rw [eq] at length made
      have done := convertInto_eq hcaller hwire convertible hexact length room made (usable_of_plan made)
      rw [converted] at done
      rw [Except.ok.inj done]
      exact framed_convertEach hwire hcaller hexact length room

end Transfer

end ArrayTransfer
