import ArrayTransfer.Conversion.Buffer
import ArrayTransfer.Proofs.Selection.Store

/-! Converting in place into selected places of a memory. Every check comes before the first write, so that the memory is
    as it was after an error (`convertInMemory_leaves`). -/

namespace ArrayTransfer.Conversion
open InPlace

/-- The converted elements are put to the selected places, in the way of reuse that is planned. -/
def convertInMemory (plan : Plan) (source target : DataType) (elements : Bytes) (space : Dataspace) :
    InPlace ConversionError Unit := do
  check (checkLength elements.length (plan.sourceSize * plan.count))
  check (checkLength space.elementCount.toNat plan.count)
  if plan.count = 0 then return
  match plan.reuse with
  | .none =>
    let background ← match plan.background with
      | .filled =>
        let memory ← look
        check (((Memory.gather memory space plan.targetSize).mapError .bufferLength).map fun g => some g.bytes)
      | .blank => pure (some (Bytes.zeros plan.targetBytes))
      | .unneeded => pure none
    let converted := convertInPlace source target plan.count background (Bytes.fit elements plan.bufferSize)
    (Memory.store (converted.take plan.targetBytes) space plan.targetSize).adapt .bufferLength
  | .conversion =>
    let start ← check (window plan (← look) space)
    within start plan.targetBytes fun region =>
      let background := match plan.background with
        | .filled => some region
        | .blank => some (Bytes.zeros plan.targetBytes)
        | .unneeded => none
      convertInPlace source target plan.count background (Bytes.patch region 0 elements)
  | .background =>
    let start ← check (window plan (← look) space)
    within start plan.targetBytes fun region =>
      (convertInPlace source target plan.count (some region) (Bytes.fit elements plan.bufferSize)).take plan.targetBytes

theorem convertInMemory_leaves (plan : Plan) (source target : DataType) (elements memory : Bytes) (space : Dataspace) :
    Leaves (convertInMemory plan source target elements space) memory
      (convertInto plan source target elements memory space) := by
  unfold convertInMemory convertInto
  refine .check fun _ _ => .check fun _ _ => ?_
  by_cases none : plan.count = 0
  · rw [if_pos none, if_pos none]
    exact .done
  · rw [if_neg none, if_neg none]
    cases plan.reuse with
    | none =>
      have stored := fun background : Option Bytes => (Memory.store_leaves ((convertInPlace source target plan.count
        background (Bytes.fit elements plan.bufferSize)).take plan.targetBytes) memory space plan.targetSize).adapt
          ConversionError.bufferLength
      cases plan.background with
      | filled => exact .check fun background _ => stored background
      | blank => exact stored _
      | unneeded => exact stored _
    | conversion => exact .check fun _ _ => .write _
    | background => exact .check fun _ _ => .write _

section run
variable {plan : Plan} {source target : DataType} {elements memory : Bytes} {space : Dataspace}

theorem run_convertInMemory_of_ok {after : Bytes} (h : convertInto plan source target elements memory space = .ok after) :
    (convertInMemory plan source target elements space).run.run memory = (.ok (), after) := by
  have leaves := convertInMemory_leaves plan source target elements memory space
  rwa [h] at leaves

theorem run_convertInMemory_of_error {e : ConversionError}
    (h : convertInto plan source target elements memory space = .error e) :
    (convertInMemory plan source target elements space).run.run memory = (.error e, memory) := by
  have leaves := convertInMemory_leaves plan source target elements memory space
  rwa [h] at leaves

end run

end ArrayTransfer.Conversion
