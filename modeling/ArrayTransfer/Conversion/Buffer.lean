import ArrayTransfer.Conversion.Element
import ArrayTransfer.Conversion.Plan
import ArrayTransfer.Selection.Memory

/-!
Converting packed elements, as planned. `convertToNew` fills a new buffer, for sending. `convertInto` puts the
converted elements to selected places of a memory, with the three ways of reusing that memory; all give the
same result.
-/

namespace ArrayTransfer.Conversion

/-- Element `index` of the buffer converted in place; without a background it is built over zeros. -/
def convertAt (source target : DataType) (background : Option Bytes) (buffer : Bytes) (index : Nat) : Bytes :=
  let prior := match background with
    | some b => Bytes.slice b (index * target.size) target.size
    | none => Bytes.zeros target.size
  Bytes.patch buffer (index * target.size)
    (convert source target (Bytes.slice buffer (index * source.size) source.size) prior)

/-- The first `count` packed elements of the buffer converted in place. Elements that shrink are visited from the front
    and elements that grow from the back, so that none is overwritten before its turn. -/
def convertInPlace (source target : DataType) (count : Nat) (background : Option Bytes) (buffer : Bytes) : Bytes :=
  let order := if target.size ≤ source.size then List.range count else (List.range count).reverse
  order.foldl (convertAt source target background) buffer

/-- Packed elements converted one by one over zeros. -/
def convertPacked (source target : DataType) (sourceSize targetSize : Nat) : (count : Nat) → Bytes → Bytes
  | 0, _ => []
  | count + 1, elements =>
    convert source target (elements.take sourceSize) (Bytes.zeros targetSize) ++
      convertPacked source target sourceSize targetSize count (elements.drop sourceSize)

/-- A failed check of lengths as a failed conversion. -/
def checkLength (got expected : Nat) : Except ConversionError Unit :=
  (LengthMismatch.check got expected).mapError .bufferLength

/-- The converted elements in a new buffer. Elements that take no bytes cannot be told apart in the source, so they give
    no elements that take some. -/
def convertToNew (plan : Plan) (source target : DataType) (elements : Bytes) : Except ConversionError Bytes :=
  match checkLength elements.length (plan.sourceSize * plan.count) with
  | .error e => .error e
  | .ok () =>
    if plan.targetSize = 0 then .ok []
    else if plan.sourceSize = 0 then .error (.emptySource target)
    else .ok (convertPacked source target plan.sourceSize plan.targetSize plan.count elements)

/-- The window of the memory that the selection is, as the place where it starts. -/
def window (plan : Plan) (memory : Bytes) (space : Dataspace) : Except ConversionError Nat :=
  match space.region? with
  | none => .error (.scatteredReuse plan.reuse)
  | some r =>
    match checkLength memory.length (space.extent.toNat * plan.targetSize) with
    | .error e => .error e
    | .ok () => .ok (r.start.toNat * plan.targetSize)

/-- The memory with the converted elements at the selected places. -/
def convertInto (plan : Plan) (source target : DataType) (elements memory : Bytes) (space : Dataspace) :
    Except ConversionError Bytes := do
  checkLength elements.length (plan.sourceSize * plan.count)
  checkLength space.elementCount.toNat plan.count
  if plan.count = 0 then return memory
  match plan.reuse with
  | .none =>
    let background ← match plan.background with
      | .filled => ((Memory.gather memory space plan.targetSize).mapError .bufferLength).map fun g => some g.bytes
      | .blank => pure (some (Bytes.zeros plan.targetBytes))
      | .unneeded => pure none
    let converted := convertInPlace source target plan.count background (Bytes.fit elements plan.bufferSize)
    (Memory.scatter (converted.take plan.targetBytes) memory space plan.targetSize).mapError .bufferLength
  | .conversion =>
    let start ← window plan memory space
    let region := Bytes.slice memory start plan.targetBytes
    let background := match plan.background with
      | .filled => some region
      | .blank => some (Bytes.zeros plan.targetBytes)
      | .unneeded => none
    let buffer := Bytes.patch region 0 elements
    return Bytes.patch memory start (convertInPlace source target plan.count background buffer)
  | .background =>
    let start ← window plan memory space
    let region := Bytes.slice memory start plan.targetBytes
    let converted := convertInPlace source target plan.count (some region) (Bytes.fit elements plan.bufferSize)
    return Bytes.patch memory start (converted.take plan.targetBytes)

end ArrayTransfer.Conversion
