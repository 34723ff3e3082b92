import ArrayTransfer.Proofs.Transfer.Lifecycle
import ArrayTransfer.Proofs.Transfer.Read
import ArrayTransfer.Proofs.Wire.Decoding

/-! Reads that fail after an answer of the store. What types and selections may be wrong with was found out when the
    request was built, so that a read whose response decodes succeeds (`Transfer.Reads.receive_of_decode`). What is left
    to fail is the decoding, and nothing is tried again for it. -/

namespace ArrayTransfer

theorem Retry.schedule_eq_false {e : TransferError} (final : e.isRetryable = false) (r : Retry) (policy : RetryPolicy)
    (now : Instant) : r.schedule policy e now = (false, { r with lastError := some e }) := by
  unfold schedule
  simp [final]

namespace Transfer
open Conversion
variable {t u : Transfer} {response : Response} {mode : TransferMode} {count : Nat} {e : WireError}

/-- What a transfer is after an attempt that was refused for good: it has failed with the error of the wire, and its
    memory is as it was. -/
structure Refused (t : Transfer) (e : WireError) (ended : Changed) : Prop where
  state : ended.1.state = .failed
  error : ended.1.error = some (.wire e)
  buffer : ended.1.buffer = t.buffer
  changes : ended.2 = [.failed t.retry.attempts (.wire e), .moved t.state .failed]

section reads
variable (h : t.Reads count mode)
include h

theorem Reads.receive_of_refused
    (refused : Body.decode mode response.body t.array.type t.array.order count = .error e) :
    t.receive response = .error (.wire e) := by
  rw [receive_by_mode h.planned h.mode, refused]
  rfl

variable (answered : response.status = 200 ∨ response.status = 201 ∨ response.status = 204)
include answered

theorem Reads.outcome_eq_receive : t.outcome (.ok response) = t.receive response := by
  have success : Status.classify response.status = .success := if_pos answered
  unfold outcome
  simp only [success, h.direction]

theorem Reads.succeeds_of_decode {es : List Bytes} (sizes : ∀ e ∈ es, e.length = t.array.type.size)
    (many : es.length = count)
    (decoded : Body.decode mode response.body t.array.type t.array.order count = .ok es.flatten)
    (policy : RetryPolicy) (now : Instant) : (t.complete policy now (.ok response)).1.state = .succeeded := by
  unfold complete
  rw [h.outcome_eq_receive answered, h.receive_of_decode sizes many decoded]
  rfl

theorem Reads.refused_of_decode
    (refused : Body.decode mode response.body t.array.type t.array.order count = .error e)
    (policy : RetryPolicy) (now : Instant) : t.Refused e (t.complete policy now (.ok response)) := by
  unfold complete
  rw [h.outcome_eq_receive answered, h.receive_of_refused refused]
  simp only [Retry.schedule_eq_false (e := .wire e) rfl]
  exact ⟨rfl, rfl, rfl, rfl⟩

end reads

/-- An answer to a read of some elements that was configured leaves nothing to fail but its decoding, at any attempt and
    under any policy, as long as memory has fewer elements than a word counts, and the selected elements fewer bytes in
    the store. Raw, the read succeeds exactly if the body has the length of the elements, and is refused
    otherwise. In JSON, it succeeds exactly if the document decodes, and is refused otherwise for what stands in the
    document. What was refused is not tried again. -/
theorem read_refused_by_decoding {array : RemoteArray} {selection : Selection} {memory : Option Dataspace}
    {callerType : DataType} {buffer : Bytes} {connection : Connection} {base64 : Bool} {done : Changed}
    (hmake : make .read array selection memory callerType buffer = .ok t)
    (hconf : t.configure connection base64 = .ok done) (hwire : array.type.WellFormed)
    (hcaller : callerType.WellFormed) (hexact : t.memorySpace.Exact)
    (countable : array.type.size * t.fileSpace.elementCount.toNat < UInt64.size) (hn : t.fileSpace.elementCount ≠ 0)
    (hu : Attempted done.1 u) (answered : response.status = 200 ∨ response.status = 201 ∨ response.status = 204)
    (policy : RetryPolicy) (now : Instant) :
    (TransferMode.chooseFor array.type selection.kind = .binary →
      ((u.complete policy now (.ok response)).1.state = .succeeded ↔
        response.body.length = array.type.size * t.fileSpace.elementCount.toNat) ∧
      (response.body.length ≠ array.type.size * t.fileSpace.elementCount.toNat →
        u.Refused (.bufferLength ⟨response.body.length, array.type.size * t.fileSpace.elementCount.toNat⟩)
          (u.complete policy now (.ok response)))) ∧
    (TransferMode.chooseFor array.type selection.kind = .json →
      ((u.complete policy now (.ok response)).1.state = .succeeded ↔
        ∃ elements, Body.decodeJson response.body array.type t.fileSpace.elementCount.toNat = .ok elements) ∧
      ∀ e, Body.decodeJson response.body array.type t.fileSpace.elementCount.toNat = .error e →
        e.OfDocument ∧ u.Refused e (u.complete policy now (.ok response))) := by
  have reads := (Reads.of_configure hmake hconf hn hwire hcaller hexact).of_same hu.same
  obtain ⟨-, file, -, rfl⟩ := Made.of_make hmake
  obtain ⟨_, _, _, -, hdone⟩ := configure_eq_ok hconf hn
  have harray := hu.same.array
  simp only [hdone] at harray
  have fixed := reads.planned.fixed
  rw [harray] at fixed
  refine ⟨fun binary => ?_, fun json => ?_⟩
  · rw [binary] at reads
    obtain ⟨length, es, decoded, many, sizes⟩ | ⟨length, refused⟩ :=
      Body.decodeBinary_cases hwire fixed array.order response.body file.elementCount.toNat
    · have succeeded := reads.succeeds_of_decode answered (by rwa [harray]) many (by rwa [harray]) policy now
      exact ⟨iff_of_true succeeded length, fun other => absurd length other⟩
    · rw [Body.mismatch_of_lt countable] at refused
      have failed := reads.refused_of_decode answered (by rwa [harray]) policy now
      refine ⟨iff_of_false (fun succeeded => ?_) length, fun _ => failed⟩
      cases failed.state.symm.trans succeeded
  · rw [json] at reads
    obtain ⟨es, decoded, many, sizes⟩ | ⟨e, refused, about⟩ :=
      Body.decodeJson_cases hwire fixed response.body file.elementCount.toNat
    · have succeeded := reads.succeeds_of_decode answered (by rwa [harray]) many (by rwa [harray]) policy now
      refine ⟨iff_of_true succeeded ⟨_, decoded⟩, fun e refused => ?_⟩
      cases decoded.symm.trans refused
    · have failed := reads.refused_of_decode answered (by rwa [harray]) policy now
      refine ⟨iff_of_false (fun succeeded => ?_) ?_, fun e' refused' => ?_⟩
      · cases failed.state.symm.trans succeeded
      · rintro ⟨_, decoded⟩
        cases decoded.symm.trans refused
      · cases refused.symm.trans refused'
        exact ⟨about, failed⟩

/-- The read of all three numbers into memory of wider ones. -/
def wholeRead : Transfer :=
  ⟨threeWords, ⟨[3], .all, by decide⟩, ⟨[3], .all, by decide⟩, .numeric (.signed .w32), .read,
    [9, 9, 9, 9, 9, 9, 9, 9, 9, 9, 9, 9], .init, none, none, none, .fresh, none⟩

/-- A response of half the bytes. -/
def shortBody : Response := ⟨200, [0, 1, 2]⟩

/-- A response in which a word stands for one of the numbers. -/
def wordForNumber : Response :=
  ⟨200, Utf8.encode (Json.object [("value", .array [.number (.unsigned 7), .string "seven"])]).render⟩

theorem read_refused_by_decoding_unfit :
    (∃ done, wholeRead.configure plainStore false = .ok done ∧
      done.1.Refused (.bufferLength ⟨3, 6⟩) (done.1.complete ⟨9, 9, 9, 9⟩ 0 (.ok shortBody))) ∧
    ∃ done e, widerRead.configure plainStore false = .ok done ∧ e.OfDocument ∧
      done.1.Refused e (done.1.complete ⟨9, 9, 9, 9⟩ 0 (.ok wordForNumber)) := by
  constructor
  · obtain ⟨done, hdone⟩ : ∃ done, wholeRead.configure plainStore false = .ok done := exists_ok (by decide +kernel)
    have made : make .read threeWords .all none (.numeric (.signed .w32)) [9, 9, 9, 9, 9, 9, 9, 9, 9, 9, 9, 9] =
        .ok wholeRead := rfl
    have answered : shortBody.status = 200 ∨ shortBody.status = 201 ∨ shortBody.status = 204 := .inl rfl
    obtain ⟨raw, -⟩ := read_refused_by_decoding made hdone (.numeric _) (.numeric _) ⟨by decide, by decide⟩ (by decide)
      (by decide) .refl answered ⟨9, 9, 9, 9⟩ 0
    exact ⟨done, hdone, (raw rfl).2 (by decide)⟩
  · obtain ⟨done, hdone⟩ : ∃ done, widerRead.configure plainStore false = .ok done := exists_ok (by decide +kernel)
    have made : make .read threeWords secondAndFirst none (.numeric (.signed .w32))
        [9, 9, 9, 9, 9, 9, 9, 9, 9, 9, 9, 9] = .ok widerRead := rfl
    have answered : wordForNumber.status = 200 ∨ wordForNumber.status = 201 ∨ wordForNumber.status = 204 := .inl rfl
    obtain ⟨-, document⟩ := read_refused_by_decoding made hdone (.numeric _) (.numeric _) ⟨by decide, by decide⟩
      (by decide) (by decide) .refl answered ⟨9, 9, 9, 9⟩ 0
    have undecoded : (Body.decodeJson wordForNumber.body threeWords.type 2).toOption = none := by decide +kernel
    cases decoded : Body.decodeJson wordForNumber.body threeWords.type 2 with
    | ok elements =>
      rw [decoded] at undecoded
      cases undecoded
    | error e => exact ⟨done, e, hdone, (document rfl).2 e decoded⟩

/-- The read of two strings, each of half the bytes that a word counts. -/
def longRead : Transfer :=
  ⟨⟨"d", [2], .string 9223372036854775808, .little⟩, ⟨[2], .all, by decide⟩, ⟨[2], .all, by decide⟩, .string 1, .read,
    [0, 0], .init, none, none, none, .fresh, none⟩

/-- Elements whose bytes a word does not count are never decoded: the program stops as it works out their length. -/
theorem read_uncountable : make .read longRead.array .all none (.string 1) [0, 0] = .ok longRead ∧
    TransferMode.chooseFor longRead.array.type longRead.fileSpace.selection.kind = .binary ∧
    ∃ done, longRead.configure plainStore false = .ok done ∧
      (done.1.complete ⟨9, 9, 9, 9⟩ 0 (.ok ⟨200, []⟩)).1.error =
        some (.wire (.uncountable longRead.array.type 2)) ∧
      (done.1.complete ⟨9, 9, 9, 9⟩ 0 (.ok ⟨200, []⟩)).1.hasStopped = true := by
  refine ⟨rfl, rfl, ?_⟩
  exact ⟨_, rfl, rfl, rfl⟩

end Transfer

end ArrayTransfer
