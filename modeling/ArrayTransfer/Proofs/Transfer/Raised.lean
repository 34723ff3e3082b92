import ArrayTransfer.Proofs.Transfer.Configure
import ArrayTransfer.Proofs.Wire.Answered

/-! What one transfer may fail with. Building its request and completing an attempt have errors of their own
    (`Transfer.Own`): none gives the transfer up, as only a call does, and none stops the program if the elements of the
    transfer can be measured (`Transfer.Measurable`). -/

namespace ArrayTransfer

namespace Conversion
variable {source target : DataType} {count : Nat} {plan : Plan} {e : ConversionError}

theorem answered_make {reusable : Bool} : Raises (·.stops = false) (Plan.make source target count reusable) := by
  unfold Plan.make
  split
  · exact .error rfl
  · exact .error rfl
  · split
    · exact .ok _
    · exact .error rfl

theorem answered_makeWrite : Raises (·.stops = false) (Plan.makeWrite source target count) := by
  unfold Plan.makeWrite
  split
  · rename_i e failed
    exact .error (answered_make e failed)
  · split
    · exact .error rfl
    · exact .ok _

theorem answered_lengths {α : Type} (r : Except LengthMismatch α) :
    Raises (·.stops = false) (r.mapError ConversionError.bufferLength) := .mapError fun _ _ => rfl

/-- A new buffer is filled, or refused with an answer, unless elements without bytes would have to give some. -/
theorem answered_convertToNew (apart : plan.sourceSize = 0 → plan.targetSize = 0) (elements : Bytes) :
    Raises (·.stops = false) (convertToNew plan source target elements) := by
  unfold convertToNew
  split
  · rename_i e failed
    exact .error (answered_lengths _ e failed)
  · split
    · exact .ok _
    · rename_i some
      split
      · rename_i none
        exact absurd (apart none) some
      · exact .ok _

theorem answered_window (memory : Bytes) (space : Dataspace) : Raises (·.stops = false) (window plan memory space) := by
  unfold window
  split
  · exact .error rfl
  · split
    · rename_i e failed
      exact .error (answered_lengths _ e failed)
    · exact .ok _

theorem answered_convertInto (elements memory : Bytes) (space : Dataspace) :
    Raises (·.stops = false) (convertInto plan source target elements memory space) := by
  unfold convertInto
  refine .bind (answered_lengths _) fun _ _ => .bind (answered_lengths _) fun _ _ => ?_
  split
  · exact .ok _
  · split
    · simp only
      split
      · exact .bind ((answered_lengths _).map _) fun _ _ => answered_lengths _
      · exact answered_lengths _
      · exact answered_lengths _
    · exact .bind (answered_window memory space) fun _ _ => .ok _
    · exact .bind (answered_window memory space) fun _ _ => .ok _

end Conversion

namespace Transfer
open Conversion

variable {t : Transfer} {connection : Connection} {base64 : Bool} {mode : TransferMode} {count : Nat} {e : TransferError}

/-- The bytes of the elements can be counted, and what is sent is not made of elements without bytes. -/
structure Measurable (t : Transfer) : Prop where
  counted : t.array.type.size * t.fileSpace.elementCount.toNat < UInt64.size
  apart : t.direction = .write → t.callerType.size = 0 → t.array.type.size = 0

/-- The errors that a transfer can end with by itself. -/
inductive Own (t : Transfer) : TransferError → Prop
  | selection (e : SelectionError) : Own t (.selection e)
  | conversion {e : ConversionError} (answered : t.Measurable → e.stops = false) : Own t (.conversion e)
  | wire {e : WireError} (answered : t.Measurable → e.stops = false) : Own t (.wire e)
  | transport (e : TransportError) : Own t (.transport e)
  | status (code : UInt16) (url : String) : Own t (.status code url)

theorem Own.ne_incomplete (h : t.Own e) (k : Nat) : e ≠ .incomplete k := by
  rintro rfl
  cases h

theorem Own.stops_eq (h : t.Own e) (measurable : t.Measurable) : e.stops = false := by
  cases h with
  | selection | transport | status => rfl
  | conversion answered | wire answered => exact answered measurable

theorem raises_readRequest (id : String) (selection : Selection) :
    Raises t.Own (readRequest connection id selection mode) := by
  unfold readRequest
  simp only
  split
  · refine .bind (.mapError fun _ _ => .transport _) fun _ _ => ?_
    exact .bind (.mapError fun _ _ => .selection _) fun _ _ => .ok _
  · refine .bind (.mapError fun _ _ => .selection _) fun _ _ => ?_
    exact .bind (.mapError fun _ _ => .transport _) fun _ _ => .ok _
  · exact .bind (.mapError fun _ _ => .transport _) fun _ _ => .ok _

theorem raises_outgoing (write : t.direction = .write) : Raises t.Own (t.outgoing count) := by
  unfold outgoing
  refine .bind (.mapError fun _ _ => .wire fun _ => rfl) fun packed _ => ?_
  split
  · exact .ok _
  · refine .bind (.mapError fun e failed => .conversion fun _ => answered_makeWrite e failed) fun plan planned => ?_
    obtain ⟨made, -⟩ := makeWrite_eq_ok (mapError_eq_ok planned)
    obtain ⟨-, rfl⟩ := plan_spec made
    exact .mapError fun e failed => .conversion fun h => answered_convertToNew (h.apart write) packed.bytes e failed

theorem raises_writeRequest (write : t.direction = .write) (planned : t.Planned count mode) :
    Raises t.Own (writeRequest connection base64 t mode count) := by
  unfold writeRequest
  refine .bind (raises_outgoing write) fun elements _ => .bind (.mapError fun e failed => .wire fun h => ?_) fun _ _ => ?_
  · exact Body.answered_encodeWrite (planned.count_eq ▸ h.counted) mode _ _ elements base64 e failed
  · exact .bind (.mapError fun _ _ => .selection _) fun _ _ => .bind (.mapError fun _ _ => .transport _) fun _ _ => .ok _

theorem raises_plan (connection : Connection) (base64 : Bool) (t : Transfer) :
    Raises t.Own (plan connection base64 t) := by
  unfold plan
  cases fixed : t.array.type.isVariable with
  | true => exact .error (.wire fun _ => rfl)
  | false =>
    refine .bind (.mapError fun _ _ => .selection _) fun count counted => ?_
    cases direction : t.direction with
    | read =>
      refine .bind (.mapError fun e failed => .conversion fun _ => answered_make e failed) fun _ _ => ?_
      exact .bind (raises_readRequest _ _) fun _ _ => .ok _
    | write =>
      have planned : t.Planned count (TransferMode.chooseFor t.array.type t.fileSpace.selection.kind) :=
        ⟨fixed, mapError_eq_ok counted, rfl⟩
      exact .bind (raises_writeRequest direction planned) fun _ _ => .ok _

theorem raises_configure (connection : Connection) (base64 : Bool) (t : Transfer) :
    Raises t.Own (t.configure connection base64) := by
  unfold configure
  split
  · rename_i e failed
    exact .error (raises_plan connection base64 t e failed)
  · simp only
    split
    · exact .ok _
    · exact .ok _

theorem raises_receive (t : Transfer) (response : Response) : Raises t.Own (t.receive response) := by
  unfold receive
  refine .bind (.mapError fun _ _ => .selection _) fun count counted => .bind (.mapError fun e failed => .wire fun h => ?_)
    fun _ _ => ?_
  · split at failed
    · obtain rfl := addressableCount_eq_ok (mapError_eq_ok counted)
      exact Body.answered_decodeBinary h.counted _ _ e failed
    · exact Body.answered_decodeJson _ _ _ e failed
  · split
    · exact .mapError fun _ _ => .wire fun _ => rfl
    · refine .bind (.mapError fun e failed => .conversion fun _ => answered_make e failed) fun _ _ => ?_
      exact .mapError fun e failed => .conversion fun _ => answered_convertInto _ _ _ e failed

theorem raises_outcome (t : Transfer) (result : Except TransportError Response) : Raises t.Own (t.outcome result) := by
  unfold outcome
  split
  · exact .error (.transport _)
  · split
    · split
      · exact raises_receive t _
      · exact .ok _
    · exact .error (.status _ _)

end Transfer

end ArrayTransfer
