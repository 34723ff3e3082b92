import ArrayTransfer.Bytes
import ArrayTransfer.DataType.Basic

/-!
Planning a conversion of packed elements from one type to another: whether the types convert, whether
elements of the target depend on what was in their place before (the background), and which buffer the
target memory can serve as.
-/

namespace ArrayTransfer

/-- How the target memory is used during a conversion: not at all, as the buffer in which elements are converted, or as
    the background. -/
inductive Reuse where
  | none
  | conversion
  | background
  deriving DecidableEq

def Reuse.name : Reuse → String
  | none => "none"
  | conversion => "conversion"
  | background => "background"

/-- Why elements cannot be converted. -/
inductive ConversionError where
  | unsupported (source target : DataType)
  | variableSize (type : DataType)
  | partialWrite (source target : DataType)
  | scatteredReuse (reuse : Reuse)
  | bufferLength (mismatch : LengthMismatch)
  | emptySource (target : DataType)

def ConversionError.message : ConversionError → String
  | unsupported source target => "unsupported conversion from " ++ source.name ++ " to " ++ target.name
  | variableSize t => "cannot convert variable size data type " ++ t.name
  | partialWrite source target =>
    "writing " ++ source.name ++ " as " ++ target.name ++ " would leave wire members unset"
  | scatteredReuse reuse =>
    "the destination selection is not contiguous and cannot be reused as a " ++ reuse.name ++ " buffer"
  | bufferLength mismatch => mismatch.message
  | emptySource target => "elements of no size cannot be converted to " ++ target.name

/-- Whether the program stops with the error and answers nothing: the elements cannot be told apart. -/
def ConversionError.stops : ConversionError → Bool
  | emptySource _ => true
  | _ => false

namespace DataType

mutual
/-- Whether elements of `source` convert to the type: numbers to numbers, strings to strings, and compounds to compounds
    if the members of one name do. -/
def convertibleFrom (source : DataType) : (target : DataType) → Bool
  | numeric kind => source = numeric kind || source.isNumeric
  | string size =>
    match source with
    | string _ => true
    | source => source = string size
  | compound members size =>
    source = compound members size ||
      match source with
      | compound sources _ => membersConvertibleFrom sources members
      | _ => false
  | varString => source = varString
  | sequence base => source = sequence base
  | reference => source = reference
termination_by structural t => t
/-- Whether each member converts from the source member of its name, if there is one. -/
def membersConvertibleFrom (sources : List (Member DataType)) : List (Member DataType) → Bool
  | [] => true
  | ⟨name, _, t⟩ :: rest =>
    (match Member.find? name sources with
      | some m => convertibleFrom m.type t
      | none => true) && membersConvertibleFrom sources rest
termination_by structural ms => ms
end

end DataType

/-- What a conversion needs to know of the elements before it: nothing, a place for them, or their values. -/
inductive Background where
  | unneeded
  | blank
  | filled
  deriving DecidableEq

namespace Background

mutual
/-- The background of a conversion. A compound is built over one, and it has to hold the values before if a member, at
    any depth, has no source or if the members leave bytes of the compound open. -/
def of (source : DataType) : (target : DataType) → Background
  | .compound members size =>
    match source with
    | .compound sources _ =>
      if ofMembers sources members && Member.sizeUsed members == size then blank else filled
    | _ => filled
  | .numeric _ => unneeded
  | .string _ => unneeded
  | .varString => unneeded
  | .sequence _ => unneeded
  | .reference => unneeded
termination_by structural t => t
/-- Whether each member has a source that determines all of it. -/
def ofMembers (sources : List (Member DataType)) : List (Member DataType) → Bool
  | [] => true
  | ⟨name, _, t⟩ :: rest =>
    (match Member.find? name sources with
      | some m => of m.type t != filled
      | none => false) && ofMembers sources rest
termination_by structural ms => ms
end

end Background

/-- A planned conversion of `count` elements. -/
structure Plan where
  sourceSize : Nat
  targetSize : Nat
  count : Nat
  reuse : Reuse
  background : Background
  deriving DecidableEq

namespace Plan

/-- How target memory that may be reused is: for conversion if its elements are not smaller, else as the background. -/
def chooseReuse (sourceSize targetSize count : Nat) (background : Background) (reusable : Bool) : Reuse :=
  if !reusable || count == 0 then .none
  else if sourceSize ≤ targetSize then .conversion
  else if background = .unneeded then .none
  else .background

/-- The plan for converting elements into target memory, which may be reused if it is one window. -/
def make (source target : DataType) (count : Nat) (reusable : Bool) : Except ConversionError Plan :=
  match source.size?, target.size? with
  | none, _ => .error (.variableSize source)
  | some _, none => .error (.variableSize target)
  | some sourceSize, some targetSize =>
    if DataType.convertibleFrom source target then
      let background := Background.of source target
      .ok ⟨sourceSize, targetSize, count, chooseReuse sourceSize targetSize count background reusable, background⟩
    else .error (.unsupported source target)

/-- The plan for converting elements to send them; every byte of them has to come from the source. -/
def makeWrite (source target : DataType) (count : Nat) : Except ConversionError Plan :=
  match make source target count false with
  | .error e => .error e
  | .ok plan => if plan.background = .filled then .error (.partialWrite source target) else .ok plan

def bufferSize (p : Plan) : Nat := max p.sourceSize p.targetSize * p.count

def targetBytes (p : Plan) : Nat := p.targetSize * p.count

end Plan

end ArrayTransfer
