import ArrayTransfer.Proofs.Raises
import ArrayTransfer.Wire.Body

/-! Errors about elements are answers. Whatever stands in a document or in a buffer, what is wrong with it is an error
    that a call can return; the program stops only over a length that is no word (`Body.answered_decodeBinary`,
    `Body.answered_encodeWrite`). -/

namespace ArrayTransfer

/-- A result that is no end of the program. -/
abbrev WireError.Answered {α : Type} (r : Except WireError α) : Prop := Raises (·.stops = false) r

open WireError (Answered)

theorem Reference.answered_parse (s : String) : Answered (parse s) := by
  unfold parse
  split
  · exact .ok _
  · exact .error rfl

theorem Reference.answered_ofSlot (slot : Bytes) : Answered (ofSlot slot) := by
  unfold ofSlot
  split
  · exact .error rfl
  · split
    · exact .ok _
    · exact (answered_parse _).map _

namespace WireValue

theorem answered_numberOfJson (kind : Numeric) (v : Json) : Answered (numberOfJson kind v) := by
  unfold numberOfJson
  split
  · exact .ok _
  · split
    · exact .ok _
    · exact .error rfl
  · exact .error rfl

theorem answered_referenceOfJson (v : Json) : Answered (referenceOfJson v) := by
  unfold referenceOfJson
  split
  · exact .ok _
  · split
    · exact .ok _
    · exact (Reference.answered_parse _).map _
  · exact .error rfl

mutual
theorem answered_ofJson : ∀ (t : DataType) (v : Json), Answered (ofJson t v)
  | .numeric kind, v => answered_numberOfJson kind v
  | .string size, v => by
    cases v with
    | string s => exact .ok _
    | _ => exact .error rfl
  | .varString, _ => .error rfl
  | .sequence _, _ => .error rfl
  | .reference, v => answered_referenceOfJson v
  | .compound members size, v => by
    cases v with
    | array items =>
      rw [ofJson]
      split
      · exact (answered_membersOfJson members items).map _
      · exact .error rfl
    | _ => exact .error rfl
theorem answered_membersOfJson : ∀ (members : List (Member DataType)) (items : List Json),
    Answered (membersOfJson members items)
  | ⟨name, _, t⟩ :: members, v :: items => by
    rw [membersOfJson]
    split
    · rename_i e failed
      exact .error (answered_ofJson t v e failed)
    · split
      · rename_i e failed
        exact .error (answered_membersOfJson members items e failed)
      · exact .ok _
  | [], _ => .ok _
  | _ :: _, [] => .ok _
end

mutual
theorem answered_read : ∀ (t : DataType) (b : Bytes), Answered (read t b)
  | .numeric kind, b => by
    rw [read]
    split
    · exact .ok _
    · exact .error rfl
  | .string _, _ => .ok _
  | .reference, b => (Reference.answered_ofSlot b).map _
  | .compound members size, b => (answered_readMembers (.compound members size) members b).map _
  | .varString, _ => .error rfl
  | .sequence _, _ => .error rfl
theorem answered_readMembers (whole : DataType) : ∀ (members : List (Member DataType)) (b : Bytes),
    Answered (readMembers whole members b)
  | [], _ => .ok _
  | ⟨name, offset, t⟩ :: members, b => by
    rw [readMembers]
    split
    · exact .error rfl
    · split
      · rename_i e failed
        exact .error (answered_read t _ e failed)
      · split
        · rename_i e failed
          exact .error (answered_readMembers whole members b e failed)
        · exact .ok _
end

/-- An element is written, or writing it has an error that is no end of the program. -/
def Written.Answered (w : Written) : Prop := ∀ e, w.error? = some e → e.stops = false

theorem Written.Answered.whole (b : Bytes) : Answered ⟨b, none⟩ := fun _ => nofun

theorem Written.Answered.broken {e : WireError} (b : Bytes) (h : e.stops = false) : Answered ⟨b, some e⟩ :=
  fun _ eq => Option.some.inj eq ▸ h

mutual
theorem answered_write : ∀ (t : DataType) (v : WireValue) (b : Bytes), (write t v b).Answered
  | .numeric kind, v, b => by
    unfold write
    split
    · exact .broken b rfl
    · cases v with
      | number n => exact .whole _
      | _ => exact .broken b rfl
  | .string size, v, b => by
    unfold write
    split
    · exact .broken b rfl
    · cases v with
      | string s => exact .whole _
      | _ => exact .broken b rfl
  | .reference, v, b => by
    unfold write
    split
    · exact .broken b rfl
    · cases v with
      | reference r => exact .whole _
      | _ => exact .broken b rfl
  | .compound members size, v, b => by
    unfold write
    split
    · exact .broken b rfl
    · cases v with
      | compound values =>
        dsimp only
        split
        · exact answered_writeMembers members values b
        · exact .broken b rfl
      | _ => exact .broken b rfl
  | .varString, _, b => .broken b rfl
  | .sequence _, _, b => .broken b rfl
theorem answered_writeMembers : ∀ (members : List (Member DataType)) (values : List (String × WireValue)) (b : Bytes),
    (writeMembers members values b).Answered
  | ⟨name, offset, t⟩ :: members, (_, v) :: values, b => by
    rw [writeMembers]
    split
    · rename_i e failed
      exact .broken _ (answered_write t v _ e failed)
    · exact answered_writeMembers members values _
  | [], _, b => .whole b
  | _ :: _, [], b => .whole b
end

end WireValue

namespace Elements

theorem answered_elementBytes (t : DataType) (size : Nat) (v : Json) : Answered (elementBytes t size v) := by
  unfold elementBytes
  split
  · rename_i e failed
    exact .error (WireValue.answered_ofJson t v e failed)
  · dsimp only
    split
    · rename_i e failed
      exact .error (WireValue.answered_write t _ _ e failed)
    · exact .ok _

theorem answered_packAll (t : DataType) (size : Nat) (vs : List Json) : Answered (packAll t size vs) := by
  induction vs with
  | nil => exact .ok _
  | cons v vs ih =>
    rw [packAll]
    split
    · rename_i e failed
      exact .error (answered_elementBytes t size v e failed)
    · split
      · rename_i e failed
        exact .error (ih e failed)
      · exact .ok _

theorem answered_decode (v : Json) (t : DataType) (count : Nat) : Answered (decode v t count) := by
  unfold decode
  split
  · exact .error rfl
  · dsimp only
    split
    · exact .error rfl
    · split
      · exact .ok _
      · exact answered_packAll t _ _

theorem answered_readAll (t : DataType) (bs : List Bytes) : Answered (readAll t bs) := by
  induction bs with
  | nil => exact .ok _
  | cons b bs ih =>
    rw [readAll]
    split
    · rename_i e failed
      exact .error (WireValue.answered_read t b e failed)
    · split
      · rename_i e failed
        exact .error (ih e failed)
      · exact .ok _

theorem answered_encode (b : Bytes) (t : DataType) (count : Nat) : Answered (encode b t count) := by
  unfold encode
  split
  · exact .error rfl
  · split
    · exact .error rfl
    · exact (answered_readAll t _).map _

end Elements

/-! ### Bodies -/

namespace Body
variable {t : DataType} {count : Nat}

theorem answered_decodeJson (body : Bytes) (t : DataType) (count : Nat) : Answered (decodeJson body t count) := by
  unfold decodeJson
  split
  · exact .error rfl
  · split
    · exact .error rfl
    · exact Elements.answered_decode _ t count

theorem mismatch_of_lt {size : Nat} (countable : size * count < UInt64.size) (got : Nat) :
    mismatch t size count got = .bufferLength ⟨got, size * count⟩ := if_neg (Nat.not_le_of_lt countable)

theorem answered_decodeBinary (countable : t.size * count < UInt64.size) (body : Bytes) (order : ByteOrder) :
    Answered (decodeBinary body t order count) := by
  unfold decodeBinary
  split
  · exact .error rfl
  · rename_i size fixed
    obtain rfl : t.size = size := congrArg (Option.getD · 0) fixed
    split
    · rw [mismatch_of_lt countable]
      exact .error rfl
    · exact .ok _

theorem answered_valueField (t : DataType) (order : ByteOrder) (elements : Bytes) (count : Nat) (base64 : Bool) :
    Answered (valueField t order elements count base64) := by
  unfold valueField
  split
  · exact .ok _
  · exact (Elements.answered_encode elements t count).map _

theorem answered_encodeWrite (countable : t.size * count < UInt64.size) (mode : TransferMode) (s : Selection)
    (order : ByteOrder) (elements : Bytes) (base64 : Bool) :
    Answered (encodeWrite mode s t order elements count base64) := by
  unfold encodeWrite
  split
  · exact .error rfl
  · rename_i size fixed
    obtain rfl : t.size = size := congrArg (Option.getD · 0) fixed
    split
    · rw [mismatch_of_lt countable]
      exact .error rfl
    · split
      · exact .ok _
      · split
        · exact .ok _
        · split
          · exact .error rfl
          · exact (answered_valueField t order elements count base64).map _

end Body

end ArrayTransfer
