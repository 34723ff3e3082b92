import ArrayTransfer.Bytes

/-!
UTF-8. `encode` writes a text, `decode?` reads one and refuses anything malformed, `decodeLossy` reads
any bytes and puts U+FFFD for each malformed piece, a piece being the longest start of a character
that the bytes at hand allow.
-/

namespace ArrayTransfer.Utf8

def encode (s : String) : Bytes := s.toList.flatMap String.utf8EncodeChar

/-- What a lead byte asks for: how many bytes follow it, between which bounds the first of them lies, and the bits
    that the lead byte itself gives. -/
structure Lead where
  following : Nat
  low : UInt8
  high : UInt8
  bits : Nat

/-- The lead bytes of two, three and four byte characters. The bounds keep out overlong forms, surrogates and what
    lies above U+10FFFF. -/
def lead? (b : UInt8) : Option Lead :=
  if b < 0xC2 then none
  else if b < 0xE0 then some ⟨1, 0x80, 0xBF, b.toNat - 0xC0⟩
  else if b = 0xE0 then some ⟨2, 0xA0, 0xBF, 0⟩
  else if b = 0xED then some ⟨2, 0x80, 0x9F, 0xD⟩
  else if b < 0xF0 then some ⟨2, 0x80, 0xBF, b.toNat - 0xE0⟩
  else if b = 0xF0 then some ⟨3, 0x90, 0xBF, 0⟩
  else if b < 0xF4 then some ⟨3, 0x80, 0xBF, b.toNat - 0xF0⟩
  else if b = 0xF4 then some ⟨3, 0x80, 0x8F, 4⟩
  else none

/-- What stands at the front of a byte string: a character, or a malformed piece; with the number of bytes that follow
    its first one. -/
inductive Front where
  | char (c : Char) (more : Nat)
  | malformed (more : Nat)

/-- Reads `n` more continuation bytes after `seen` of them gave `code`; only the first is held to other bounds. -/
def continuation (low high : UInt8) : (n seen code : Nat) → Bytes → Front
  | 0, seen, code, _ => .char (Char.ofNat code) seen
  | _ + 1, seen, _, [] => .malformed seen
  | n + 1, seen, code, b :: rest =>
    if low ≤ b ∧ b ≤ high then continuation 0x80 0xBF n (seen + 1) (code * 64 + (b.toNat - 0x80)) rest
    else .malformed seen

/-- What the bytes `b :: rest` begin with. -/
def front (b : UInt8) (rest : Bytes) : Front :=
  if b < 0x80 then .char (Char.ofNat b.toNat) 0
  else match lead? b with
    | none => .malformed 0
    | some l => continuation l.low l.high l.following 0 l.bits rest

/-- The characters of `b`, the first `skip` bytes of which belong to the character before. -/
def decodeFrom : (skip : Nat) → Bytes → Option (List Char)
  | _, [] => some []
  | skip + 1, _ :: rest => decodeFrom skip rest
  | 0, b :: rest =>
    match front b rest with
    | .char c more => (decodeFrom more rest).map (c :: ·)
    | .malformed _ => none

/-- The text whose encoding is `b`, if there is one. -/
def decode? (b : Bytes) : Option String := (decodeFrom 0 b).map String.ofList

/-- Like `decodeFrom`, with U+FFFD for each malformed piece. -/
def decodeLossyFrom : (skip : Nat) → Bytes → List Char
  | _, [] => []
  | skip + 1, _ :: rest => decodeLossyFrom skip rest
  | 0, b :: rest =>
    match front b rest with
    | .char c more => c :: decodeLossyFrom more rest
    | .malformed more => Char.ofNat 0xFFFD :: decodeLossyFrom more rest

/-- The text of `b`, with U+FFFD for each malformed piece. -/
def decodeLossy (b : Bytes) : String := String.ofList (decodeLossyFrom 0 b)

end ArrayTransfer.Utf8
