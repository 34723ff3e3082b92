import ArrayTransfer.Proofs.Conversion.Named
import ArrayTransfer.Proofs.Transfer.Write
import Mathlib.Data.List.Forall2

/-! Memory that is not to be written stays unseen. Two buffers that agree on the bytes that a write is about
    (`Transfer.Agree`) are sent alike, or refused alike (`Transfer.configure_agree`): no byte beside the selected
    elements, and none of them that the array does not name, has a part in the request. -/

namespace ArrayTransfer

namespace Conversion
variable {source target : DataType} {es es' : List Bytes} {n : Nat} {plan : Plan}

/-- Elements that agree where they are named are sent alike. -/
theorem convertToNew_congr (ht : target.WellFormed) (hs : source.WellFormed)
    (hplan : Plan.makeWrite source target n = .ok plan) (many : es.length = n)
    (sizes : ∀ e ∈ es, e.length = source.size) (sizes' : ∀ e ∈ es', e.length = source.size)
    (agree : List.Forall₂ (fun e e' : Bytes => ∀ i, Named source target i → e[i]? = e'[i]?) es es') :
    convertToNew plan source target es.flatten = convertToNew plan source target es'.flatten := by
  obtain ⟨made, covered⟩ := makeWrite_eq_ok hplan
  rw [convertToNew_packed ht hs made many sizes, convertToNew_packed ht hs made (agree.length_eq.symm.trans many) sizes']
  have converted : convertedOverZeros source target es = convertedOverZeros source target es' := by
    unfold convertedOverZeros
    clear made hplan many
    induction agree with
    | nil => rfl
    | @cons e e' es es' first _ ih =>
      obtain ⟨he, sizes⟩ := List.forall_mem_cons.mp sizes
      obtain ⟨he', sizes'⟩ := List.forall_mem_cons.mp sizes'
      rw [List.map_cons, List.map_cons, convert_congr ht hs covered he he' first, ih sizes sizes']
  rw [converted]

end Conversion

namespace Transfer
open Conversion
variable {t : Transfer} {buffer buffer' : Bytes} {connection : Connection} {base64 : Bool} {count : Nat}

/-- The bytes of a selected element that a write sends: all if nothing is converted, and otherwise those that the type of
    the array names. -/
def Sends (t : Transfer) (i : Nat) : Prop :=
  if t.callerType = t.array.type then i < t.callerType.size else Named t.callerType t.array.type i

/-- The memories agree on what a write sends of each selected element. -/
def Agree (t : Transfer) (buffer buffer' : Bytes) : Prop :=
  ∀ k ∈ t.memorySpace.places, ∀ i, t.Sends i →
    buffer[k * t.callerType.size + i]? = buffer'[k * t.callerType.size + i]?

section agree
variable (agree : t.Agree t.buffer buffer')
include agree

theorem selected_eq (same : t.callerType = t.array.type) :
    Memory.selected t.memorySpace t.callerType.size t.buffer =
      Memory.selected t.memorySpace t.callerType.size buffer' := by
  refine List.map_congr_left fun k hk => List.ext_getElem? fun i => ?_
  rw [Bytes.getElem?_slice, Bytes.getElem?_slice]
  split
  · rename_i inside
    exact agree k hk i (by rwa [Sends, if_pos same])
  · rfl

theorem selected_agree (other : t.callerType ≠ t.array.type) :
    List.Forall₂ (fun e e' : Bytes => ∀ i, Named t.callerType t.array.type i → e[i]? = e'[i]?)
      (Memory.selected t.memorySpace t.callerType.size t.buffer)
      (Memory.selected t.memorySpace t.callerType.size buffer') := by
  unfold Memory.selected
  rw [List.forall₂_map_left_iff, List.forall₂_map_right_iff]
  refine List.forall₂_same.mpr fun k hk i named => ?_
  rw [Bytes.getElem?_slice, Bytes.getElem?_slice]
  split
  · exact agree k hk i (by rwa [Sends, if_neg other])
  · rfl

variable (hwire : t.array.type.WellFormed) (hcaller : t.callerType.WellFormed) (exact : t.memorySpace.Exact)
  (room : t.buffer.length = volume t.memorySpace.shape * t.callerType.size) (length : buffer'.length = t.buffer.length)
include hwire hcaller exact room length

/-- The elements that are sent are the same, or are refused alike. -/
theorem outgoing_agree (many : t.memorySpace.count = count) :
    { t with buffer := buffer' }.outgoing count = t.outgoing count := by
  have room' := length.trans room
  unfold outgoing
  simp only [Memory.gather_eq exact room, Memory.gather_eq exact room', mapError_ok, bind, Except.bind]
  split
  · rename_i same
    rw [selected_eq agree same]
  · rename_i other
    cases hplan : Plan.makeWrite t.callerType t.array.type count with
    | error e => rfl
    | ok plan =>
      have sent := convertToNew_congr hwire hcaller hplan ((Memory.length_selected exact).trans many)
        (Memory.length_of_mem_selected exact room) (Memory.length_of_mem_selected exact room')
        (selected_agree agree other)
      simp only [mapError_ok, sent]

theorem plan_agree (counts : t.fileSpace.elementCount = t.memorySpace.elementCount) :
    plan connection base64 { t with buffer := buffer' } = plan connection base64 t := by
  unfold plan
  cases fixed : t.array.type.isVariable with
  | true => rfl
  | false =>
    cases counted : t.fileSpace.addressableCount with
    | error e => rfl
    | ok count =>
      have many : t.memorySpace.count = count := by
        unfold Dataspace.addressableCount at counted
        split at counted
        · rw [← Except.ok.inj counted, counts, Dataspace.toNat_elementCount exact.count_lt]
        · cases counted
      have sent := outgoing_agree agree hwire hcaller exact room length many
      have written (mode : TransferMode) : writeRequest connection base64 { t with buffer := buffer' } mode count =
          writeRequest connection base64 t mode count := by
        unfold writeRequest
        rw [sent]
      simp only [mapError_ok, bind, Except.bind, written]

end agree

theorem make_eq_ok {array : RemoteArray} {selection : Selection} {memory : Option Dataspace} {callerType : DataType}
    {direction : Direction} {u : Transfer} (hmake : make direction array selection memory callerType buffer = .ok t)
    (hmake' : make direction array selection memory callerType buffer' = .ok u) :
    u = { t with buffer := buffer' } ∧ buffer'.length = buffer.length := by
  unfold make at hmake hmake'
  split at hmake
  · cases hmake
  · rename_i spaces
    simp only [spaces] at hmake'
    split at hmake
    · cases hmake
    · rename_i sized
      simp only [sized] at hmake hmake'
      split at hmake
      · cases hmake
      · rename_i length
        split at hmake'
        · cases hmake'
        · rename_i length'
          cases hmake
          cases hmake'
          exact ⟨rfl, (Decidable.not_not.mp length').trans (Decidable.not_not.mp length).symm⟩

/-- Two writes of the same selected places from two memories that agree on what is sent are configured alike, with the
    same request, or are refused with the same error. The memories may differ everywhere else: between the selected
    elements, and in the bytes of an element that the type of the array does not name. The memory space has no more
    elements than words count, and selects no more (`Dataspace.Exact`), as is so if a memory holds them; of more, indices
    go on from zero, and are not the places of the elements any more. -/
theorem configure_agree {array : RemoteArray} {selection : Selection} {memory : Option Dataspace}
    {callerType : DataType} {u : Transfer} (hmake : make .write array selection memory callerType buffer = .ok t)
    (hmake' : make .write array selection memory callerType buffer' = .ok u) (hwire : array.type.WellFormed)
    (hcaller : callerType.WellFormed) (hexact : t.memorySpace.Exact) (agree : t.Agree buffer buffer')
    (connection : Connection) (base64 : Bool) :
    u.configure connection base64 =
      (t.configure connection base64).map fun done => ({ done.1 with buffer := buffer' }, done.2) := by
  obtain ⟨rfl, length⟩ := make_eq_ok hmake hmake'
  obtain ⟨made, file, -, rfl⟩ := Made.of_make hmake
  have room := made.room
  rw [Dataspace.toNat_extent hexact.volume_lt] at room
  unfold configure
  rw [plan_agree agree hwire hcaller hexact room length made.counts]
  split
  · rfl
  · simp only [moveTo]
    split <;> rfl

/-- A byte, in a compound in a compound. -/
def innerByte : DataType := .compound [⟨"in", 0, .compound [⟨"x", 0, .numeric (.unsigned .w8)⟩] 1⟩] 1

/-- The same byte beside others. -/
def amongOthers : DataType :=
  .compound [⟨"out", 0, .numeric (.unsigned .w8)⟩,
    ⟨"in", 1, .compound [⟨"y", 0, .numeric (.unsigned .w8)⟩, ⟨"x", 1, .numeric (.unsigned .w8)⟩] 2⟩] 3

/-- The second of two elements. -/
def secondOfTwo : Selection := .points ⟨1, [[1]], Nat.one_pos, List.forall_mem_singleton.mpr rfl⟩

/-- The write of the second of two such bytes, from the memory. -/
def innerWrite (buffer : Bytes) : Transfer :=
  ⟨⟨"d", [2], innerByte, .little⟩, ⟨[2], secondOfTwo, by decide⟩, ⟨[2], secondOfTwo, by decide⟩, amongOthers, .write,
    buffer, .init, none, none, none, .fresh, none⟩

/-- Of three bytes only the last is named. -/
theorem named_amongOthers {i : Nat} (named : Named amongOthers innerByte i) : i = 2 := by
  cases named with
  | whole plain => simp [amongOthers, innerByte, DataType.members] at plain
  | member mem found inside named =>
    obtain rfl := List.mem_singleton.mp mem
    cases found
    cases named with
    | whole plain => simp [DataType.members] at plain
    | member mem found inside' named =>
      obtain rfl := List.mem_singleton.mp mem
      cases found
      obtain ⟨low, high⟩ := inside'
      simp only [Member.stop, Member.size, DataType.size, DataType.size?, Numeric.size, Width.bytes,
        Option.getD_some] at low high
      omega

theorem configure_agree_innerWrite : ∃ done done',
    (innerWrite [0, 0, 0, 0, 0, 7]).configure plainStore false = .ok done ∧
      (innerWrite [1, 2, 3, 4, 5, 7]).configure plainStore false = .ok done' ∧
      done.1.request.isSome = true ∧ done'.1.request = done.1.request := by
  have wire : innerByte.WellFormed := by
    refine .compound ⟨by simp, by decide, by decide, by decide, by decide⟩ (List.forall_mem_singleton.mpr ?_)
    exact .compound ⟨by simp, by decide, by decide, by decide, by decide⟩ (List.forall_mem_singleton.mpr (.numeric _))
  have caller : amongOthers.WellFormed := by
    refine .compound ⟨by simp, by decide, by decide, by decide, by decide⟩
      (List.forall_mem_cons.mpr ⟨.numeric _, List.forall_mem_singleton.mpr ?_⟩)
    exact .compound ⟨by simp, by decide, by decide, by decide, by decide⟩
      (List.forall_mem_cons.mpr ⟨.numeric _, List.forall_mem_singleton.mpr (.numeric _)⟩)
  have agree : (innerWrite [0, 0, 0, 0, 0, 7]).Agree [0, 0, 0, 0, 0, 7] [1, 2, 3, 4, 5, 7] := by
    intro k hk i sends
    have places : (innerWrite [0, 0, 0, 0, 0, 7]).memorySpace.places = [1] := by decide
    rw [places] at hk
    obtain rfl := List.mem_singleton.mp hk
    rw [Sends, if_neg (by decide)] at sends
    obtain rfl := named_amongOthers sends
    rfl
  have made : make .write ⟨"d", [2], innerByte, .little⟩ secondOfTwo none amongOthers [0, 0, 0, 0, 0, 7] =
      .ok (innerWrite [0, 0, 0, 0, 0, 7]) := rfl
  have same := configure_agree made rfl wire caller ⟨by decide, by decide⟩ agree plainStore false
  have run : ((innerWrite [0, 0, 0, 0, 0, 7]).configure plainStore false).toOption.map (·.1.request.isSome) =
      some true := by decide +kernel
  cases configured : (innerWrite [0, 0, 0, 0, 0, 7]).configure plainStore false with
  | error e =>
    rw [configured] at run
    cases run
  | ok done =>
    rw [configured] at run same
    exact ⟨done, _, rfl, same, Option.some.inj run, rfl⟩

end Transfer

end ArrayTransfer
