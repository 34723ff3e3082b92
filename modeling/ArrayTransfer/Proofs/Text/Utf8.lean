import ArrayTransfer.Proofs.Bytes.Window
import ArrayTransfer.Text.Utf8

/-! Reading UTF-8 back. The first byte of an encoded character asks for as many bytes as follow it, and each of them is
    within its bounds (`front_encoded`), so that both readers give back the text that was encoded; and bytes within these
    bounds are a character encoded (`front_eq_char`), so that the strict reader takes nothing else
    (`decode?_eq_some_iff`). A text without the zero character has no zero byte, and is told apart from padding with
    zeros. -/

namespace ArrayTransfer.Utf8
variable {n : Nat}

/-! ### Lead bytes -/

theorem toNat_ofNat (h : n < 256) : (UInt8.ofNat n).toNat = n := by
  rw [UInt8.toNat_ofNat', Nat.mod_eq_of_lt h]

theorem ofNat_lt (h : n < 256) {b : UInt8} : UInt8.ofNat n < b ↔ n < b.toNat := by
  rw [UInt8.lt_iff_toNat_lt, toNat_ofNat h]

theorem le_ofNat (h : n < 256) {b : UInt8} : b ≤ UInt8.ofNat n ↔ b.toNat ≤ n := by
  rw [UInt8.le_iff_toNat_le, toNat_ofNat h]

theorem ofNat_le (h : n < 256) {b : UInt8} : UInt8.ofNat n ≤ b ↔ n ≤ b.toNat := by
  rw [UInt8.le_iff_toNat_le, toNat_ofNat h]

theorem ofNat_eq (h : n < 256) {b : UInt8} : UInt8.ofNat n = b ↔ n = b.toNat := by
  rw [← UInt8.toNat_inj, toNat_ofNat h]

theorem lead?_ofNat (h : n < 256) : lead? (UInt8.ofNat n) =
    if n < 0xC2 then none
    else if n < 0xE0 then some ⟨1, 0x80, 0xBF, n - 0xC0⟩
    else if n = 0xE0 then some ⟨2, 0xA0, 0xBF, 0⟩
    else if n = 0xED then some ⟨2, 0x80, 0x9F, 0xD⟩
    else if n < 0xF0 then some ⟨2, 0x80, 0xBF, n - 0xE0⟩
    else if n = 0xF0 then some ⟨3, 0x90, 0xBF, 0⟩
    else if n < 0xF4 then some ⟨3, 0x80, 0xBF, n - 0xF0⟩
    else if n = 0xF4 then some ⟨3, 0x80, 0x8F, 4⟩
    else none := by
  simp only [lead?, ofNat_lt h, ofNat_eq h, toNat_ofNat h, UInt8.reduceToNat]

theorem continuation_cons {low high : UInt8} {m seen code : Nat} {rest : Bytes} (h : n < 256)
    (hn : low.toNat ≤ n ∧ n ≤ high.toNat) : continuation low high (m + 1) seen code (UInt8.ofNat n :: rest) =
      continuation 0x80 0xBF m (seen + 1) (code * 64 + (n - 0x80)) rest := by
  rw [continuation, if_pos ⟨(le_ofNat h).mpr hn.1, (ofNat_le h).mpr hn.2⟩, toNat_ofNat h]

theorem front_of_lead {l : Lead} {rest : Bytes} (h : n < 256) (hn : 0x80 ≤ n) (hl : lead? (UInt8.ofNat n) = some l) :
    front (UInt8.ofNat n) rest = continuation l.low l.high l.following 0 l.bits rest := by
  rw [front, if_neg fun hlt => by have := (ofNat_lt h).mp hlt; simp at this; omega, hl]

/-! ### Characters -/

section character
variable {v : Nat}

theorem lead?_two (h : 0x7F < v) (hv : v ≤ 0x7FF) :
    lead? (UInt8.ofNat (v / 64 % 0x20 + 0xC0)) = some ⟨1, 0x80, 0xBF, v / 64⟩ := by
  have bits : v / 64 % 0x20 + 0xC0 - 0xC0 = v / 64 := by omega
  rw [lead?_ofNat (by omega), if_neg (by omega), if_pos (by omega), bits]

theorem lead?_three (h : 0x7FF < v) (hv : v ≤ 0xFFFF) (hs : v < 0xD800 ∨ 0xDFFF < v) :
    ∃ low high, lead? (UInt8.ofNat (v / 4096 % 0x10 + 0xE0)) = some ⟨2, low, high, v / 4096⟩ ∧
      low.toNat ≤ v / 64 % 0x40 + 0x80 ∧ v / 64 % 0x40 + 0x80 ≤ high.toNat := by
  rw [lead?_ofNat (by omega), if_neg (by omega), if_neg (by omega)]
  by_cases h0 : v / 4096 = 0
  · rw [if_pos (by omega), h0]
    exact ⟨_, _, rfl, by simp; omega, by simp; omega⟩
  by_cases hd : v / 4096 = 0xD
  · rw [if_neg (by omega), if_pos (by omega), hd]
    exact ⟨_, _, rfl, by simp, by simp; omega⟩
  · rw [if_neg (by omega), if_neg (by omega), if_pos (by omega), Nat.mod_eq_of_lt (by omega), Nat.add_sub_cancel]
    exact ⟨_, _, rfl, by simp, by simp; omega⟩

theorem lead?_four (h : 0xFFFF < v) (hv : v < 0x110000) :
    ∃ low high, lead? (UInt8.ofNat (v / 262144 % 8 + 0xF0)) = some ⟨3, low, high, v / 262144⟩ ∧
      low.toNat ≤ v / 4096 % 0x40 + 0x80 ∧ v / 4096 % 0x40 + 0x80 ≤ high.toNat := by
  rw [lead?_ofNat (by omega), if_neg (by omega), if_neg (by omega), if_neg (by omega), if_neg (by omega),
    if_neg (by omega)]
  by_cases h0 : v / 262144 = 0
  · rw [if_pos (by omega), h0]
    exact ⟨_, _, rfl, by simp; omega, by simp; omega⟩
  by_cases h4 : v / 262144 = 4
  · rw [if_neg (by omega), if_neg (by omega), if_pos (by omega), h4]
    exact ⟨_, _, rfl, by simp, by simp; omega⟩
  · rw [if_neg (by omega), if_pos (by omega), Nat.mod_eq_of_lt (by omega), Nat.add_sub_cancel]
    exact ⟨_, _, rfl, by simp, by simp; omega⟩

end character

/-- An encoded character is what stands at the front. -/
theorem front_encoded (c : Char) (rest : Bytes) : ∃ b bs, String.utf8EncodeChar c = b :: bs ∧
    front b (bs ++ rest) = .char c bs.length := by
  have hc : Char.ofNat c.toNat = c := Char.ofNat_toNat c
  have hv : c.toNat < 0xD800 ∨ 0xDFFF < c.toNat ∧ c.toNat < 0x110000 := c.valid
  unfold String.utf8EncodeChar
  generalize hn : c.val.toNat = v
  have hn : c.toNat = v := hn
  rw [hn] at hc hv
  simp only
  split
  · refine ⟨_, _, rfl, ?_⟩
    rw [front, if_pos ((ofNat_lt (by omega)).mpr (by show v < 128; omega)), toNat_ofNat (by omega), hc]
    rfl
  split
  · refine ⟨_, _, rfl, ?_⟩
    rw [front_of_lead (by omega) (by omega) (lead?_two (by omega) (by omega)), List.cons_append,
      continuation_cons (by omega) (by simp; omega), continuation, Nat.add_sub_cancel,
      Nat.div_add_mod', hc]
    rfl
  split
  · obtain ⟨low, high, hl, hlow, hhigh⟩ := @lead?_three v (by omega) (by omega) (by omega)
    refine ⟨_, _, rfl, ?_⟩
    rw [front_of_lead (by omega) (by omega) hl, List.cons_append, List.cons_append,
      continuation_cons (by omega) ⟨hlow, hhigh⟩, continuation_cons (by omega) (by simp; omega), continuation,
      show (v / 4096 * 64 + (v / 64 % 0x40 + 0x80 - 0x80)) * 64 + (v % 0x40 + 0x80 - 0x80) = v by omega, hc]
    rfl
  · obtain ⟨low, high, hl, hlow, hhigh⟩ := @lead?_four v (by omega) (by omega)
    refine ⟨_, _, rfl, ?_⟩
    rw [front_of_lead (by omega) (by omega) hl, List.cons_append, List.cons_append, List.cons_append,
      continuation_cons (by omega) ⟨hlow, hhigh⟩, continuation_cons (by omega) (by simp; omega),
      continuation_cons (by omega) (by simp; omega), continuation,
      show ((v / 262144 * 64 + (v / 4096 % 0x40 + 0x80 - 0x80)) * 64 + (v / 64 % 0x40 + 0x80 - 0x80)) * 64 +
        (v % 0x40 + 0x80 - 0x80) = v by omega, hc]
    rfl

/-! ### Texts -/

theorem decodeFrom_skip (bs rest : Bytes) : decodeFrom bs.length (bs ++ rest) = decodeFrom 0 rest := by
  induction bs with
  | nil => rfl
  | cons b bs ih => exact ih

theorem decodeLossyFrom_skip (bs rest : Bytes) : decodeLossyFrom bs.length (bs ++ rest) = decodeLossyFrom 0 rest := by
  induction bs with
  | nil => rfl
  | cons b bs ih => exact ih

theorem decode?_encode (s : String) : decode? (encode s) = some s := by
  have chars : ∀ cs : List Char, decodeFrom 0 (cs.flatMap String.utf8EncodeChar) = some cs := by
    intro cs
    induction cs with
    | nil => rfl
    | cons c cs ih =>
      obtain ⟨b, bs, he, hf⟩ := front_encoded c (cs.flatMap String.utf8EncodeChar)
      rw [List.flatMap_cons, he, List.cons_append, decodeFrom, hf]
      simp only [decodeFrom_skip, ih, Option.map_some]
  rw [decode?, encode, chars, Option.map_some, String.ofList_toList]

theorem decodeLossy_encode (s : String) : decodeLossy (encode s) = s := by
  have chars : ∀ cs : List Char, decodeLossyFrom 0 (cs.flatMap String.utf8EncodeChar) = cs := by
    intro cs
    induction cs with
    | nil => rfl
    | cons c cs ih =>
      obtain ⟨b, bs, he, hf⟩ := front_encoded c (cs.flatMap String.utf8EncodeChar)
      rw [List.flatMap_cons, he, List.cons_append, decodeLossyFrom, hf]
      simp only [decodeLossyFrom_skip, ih]
  rw [decodeLossy, encode, chars, String.ofList_toList]

/-! ### What is read was encoded -/

section front
variable {b : UInt8} {rest : Bytes} {c : Char} {more : Nat}

/-- A lead byte gives its low bits, and bounds for the next byte that keep out what no character is encoded as. -/
theorem lead?_eq_some {l : Lead} (h : lead? b = some l) :
    (l.following = 1 ∧ b.toNat = l.bits + 0xC0 ∧ 2 ≤ l.bits ∧ l.bits < 0x20 ∧ l.low.toNat = 0x80 ∧ l.high.toNat = 0xBF) ∨
    (l.following = 2 ∧ b.toNat = l.bits + 0xE0 ∧ l.bits < 0x10 ∧ 0x80 ≤ l.low.toNat ∧ l.high.toNat ≤ 0xBF ∧
      (l.bits = 0 → 0xA0 ≤ l.low.toNat) ∧ (l.bits = 0xD → l.high.toNat ≤ 0x9F)) ∨
    (l.following = 3 ∧ b.toNat = l.bits + 0xF0 ∧ l.bits ≤ 4 ∧ 0x80 ≤ l.low.toNat ∧ l.high.toNat ≤ 0xBF ∧
      (l.bits = 0 → 0x90 ≤ l.low.toNat) ∧ (l.bits = 4 → l.high.toNat ≤ 0x8F)) := by
  have hb := b.toNat_lt
  rw [← UInt8.ofNat_toNat (x := b), lead?_ofNat hb] at h
  repeat' split at h
  all_goals cases h
  all_goals simp; omega

theorem continuation_eq_char {low high : UInt8} {n seen code : Nat}
    (h : continuation low high (n + 1) seen code rest = .char c more) :
    ∃ b tail, rest = b :: tail ∧ low.toNat ≤ b.toNat ∧ b.toNat ≤ high.toNat ∧
      continuation 0x80 0xBF n (seen + 1) (code * 64 + (b.toNat - 0x80)) tail = .char c more := by
  cases rest with
  | nil => cases h
  | cons b tail =>
    rw [continuation] at h
    split at h
    · rename_i within
      exact ⟨b, tail, rfl, UInt8.le_iff_toNat_le.mp within.1, UInt8.le_iff_toNat_le.mp within.2, h⟩
    · cases h

theorem utf8EncodeChar_ofNat {v : Nat} (h : v.isValidChar) : String.utf8EncodeChar (Char.ofNat v) =
    if v ≤ 0x7F then [UInt8.ofNat v]
    else if v ≤ 0x7FF then [UInt8.ofNat (v / 64 % 0x20 + 0xC0), UInt8.ofNat (v % 0x40 + 0x80)]
    else if v ≤ 0xFFFF then
      [UInt8.ofNat (v / 4096 % 0x10 + 0xE0), UInt8.ofNat (v / 64 % 0x40 + 0x80), UInt8.ofNat (v % 0x40 + 0x80)]
    else [UInt8.ofNat (v / 262144 % 8 + 0xF0), UInt8.ofNat (v / 4096 % 0x40 + 0x80),
      UInt8.ofNat (v / 64 % 0x40 + 0x80), UInt8.ofNat (v % 0x40 + 0x80)] := by
  have value : (Char.ofNat v).val.toNat = v := by
    rw [Char.ofNat, dif_pos h]
    rfl
  simp only [String.utf8EncodeChar, value]

/-- The character at the front is encoded as the bytes there. -/
theorem front_eq_char (h : front b rest = .char c more) : String.utf8EncodeChar c = b :: rest.take more := by
  have hb := b.toNat_lt
  rw [front] at h
  split at h
  · rename_i ascii
    replace ascii : b.toNat < 0x80 := UInt8.lt_iff_toNat_lt.mp ascii
    obtain ⟨rfl, rfl⟩ := Front.char.inj h
    rw [utf8EncodeChar_ofNat (.inl (by omega)), if_pos (by omega), UInt8.ofNat_toNat, List.take_zero]
  split at h
  · cases h
  rename_i l lead
  have octet (n : Nat) (c : UInt8) (hn : n = c.toNat) : UInt8.ofNat n = c := by rw [hn, UInt8.ofNat_toNat]
  obtain ⟨two, hbits, low, high, hlow, hhigh⟩ | ⟨three, hbits, high, hlow, hhigh, h0, hd⟩ |
    ⟨four, hbits, high, hlow, hhigh, h0, h4⟩ := lead?_eq_some lead
  · rw [two] at h
    obtain ⟨x, tail, rfl, x1, x2, h⟩ := continuation_eq_char h
    rw [continuation] at h
    obtain ⟨rfl, rfl⟩ := Front.char.inj h
    generalize hv : l.bits * 64 + (x.toNat - 0x80) = v
    rw [utf8EncodeChar_ofNat (.inl (by omega)), if_neg (by omega), if_pos (by omega), octet _ b (by omega),
      octet _ x (by omega)]
    rfl
  · rw [three] at h
    obtain ⟨x, tail, rfl, x1, x2, h⟩ := continuation_eq_char h
    obtain ⟨y, tail, rfl, y1, y2, h⟩ := continuation_eq_char h
    replace y1 : 0x80 ≤ y.toNat := y1
    replace y2 : y.toNat ≤ 0xBF := y2
    rw [continuation] at h
    obtain ⟨rfl, rfl⟩ := Front.char.inj h
    generalize hv : (l.bits * 64 + (x.toNat - 0x80)) * 64 + (y.toNat - 0x80) = v
    rw [utf8EncodeChar_ofNat (show _ ∨ _ by omega), if_neg (by omega), if_neg (by omega), if_pos (by omega),
      octet _ b (by omega), octet _ x (by omega), octet _ y (by omega)]
    rfl
  · rw [four] at h
    obtain ⟨x, tail, rfl, x1, x2, h⟩ := continuation_eq_char h
    obtain ⟨y, tail, rfl, y1, y2, h⟩ := continuation_eq_char h
    obtain ⟨z, tail, rfl, z1, z2, h⟩ := continuation_eq_char h
    replace y1 : 0x80 ≤ y.toNat := y1
    replace y2 : y.toNat ≤ 0xBF := y2
    replace z1 : 0x80 ≤ z.toNat := z1
    replace z2 : z.toNat ≤ 0xBF := z2
    rw [continuation] at h
    obtain ⟨rfl, rfl⟩ := Front.char.inj h
    generalize hv : ((l.bits * 64 + (x.toNat - 0x80)) * 64 + (y.toNat - 0x80)) * 64 + (z.toNat - 0x80) = v
    rw [utf8EncodeChar_ofNat (show _ ∨ _ by omega), if_neg (by omega), if_neg (by omega), if_neg (by omega),
      octet _ b (by omega), octet _ x (by omega), octet _ y (by omega), octet _ z (by omega)]
    rfl

end front

theorem decodeFrom_eq_some {skip : Nat} {b : Bytes} {cs : List Char} (h : decodeFrom skip b = some cs) :
    cs.flatMap String.utf8EncodeChar = b.drop skip := by
  induction b generalizing skip cs with
  | nil => cases skip <;> cases h <;> simp
  | cons x b ih =>
    cases skip with
    | succ skip => exact ih h
    | zero =>
      rw [decodeFrom] at h
      cases hf : front x b with
      | malformed more =>
        simp only [hf] at h
        cases h
      | char c more =>
        simp only [hf, Option.map_eq_some_iff] at h
        obtain ⟨cs, rest, rfl⟩ := h
        rw [List.flatMap_cons, front_eq_char hf, ih rest, List.cons_append, List.take_append_drop, List.drop_zero]

/-- Bytes are read as the text that is encoded as them, if there is one. -/
theorem decode?_eq_some_iff {b : Bytes} {s : String} : decode? b = some s ↔ encode s = b := by
  constructor
  · intro h
    rw [decode?, Option.map_eq_some_iff] at h
    obtain ⟨cs, chars, rfl⟩ := h
    rw [encode, String.toList_ofList, decodeFrom_eq_some chars, List.drop_zero]
  · rintro rfl
    exact decode?_encode s

/-! ### Padding -/

theorem zero_not_mem_utf8EncodeChar {c : Char} (hc : c ≠ '\x00') : 0 ∉ String.utf8EncodeChar c := by
  have hv : 0 < c.toNat := Nat.pos_of_ne_zero fun h => hc (by rw [← Char.ofNat_toNat c, h])
  have hn : c.toNat < 0xD800 ∨ 0xDFFF < c.toNat ∧ c.toNat < 0x110000 := c.valid
  have nonzero : ∀ n, 0 < n → n < 256 → (0 : UInt8) ≠ UInt8.ofNat n := fun n h0 h e => by
    have := (ofNat_eq h).mp e.symm
    simp at this
    omega
  unfold String.utf8EncodeChar
  generalize hcv : c.val.toNat = v
  have hcv : c.toNat = v := hcv
  rw [hcv] at hv hn
  simp only
  split
  · simpa using nonzero v (by omega) (by omega)
  split
  · simp only [List.mem_cons, List.not_mem_nil, or_false, not_or]
    exact ⟨nonzero _ (by omega) (by omega), nonzero _ (by omega) (by omega)⟩
  split
  · simp only [List.mem_cons, List.not_mem_nil, or_false, not_or]
    exact ⟨nonzero _ (by omega) (by omega), nonzero _ (by omega) (by omega), nonzero _ (by omega) (by omega)⟩
  · simp only [List.mem_cons, List.not_mem_nil, or_false, not_or]
    exact ⟨nonzero _ (by omega) (by omega), nonzero _ (by omega) (by omega), nonzero _ (by omega) (by omega),
      nonzero _ (by omega) (by omega)⟩

theorem zero_not_mem_encode {s : String} (hs : '\x00' ∉ s.toList) : 0 ∉ encode s := by
  simp only [encode, List.mem_flatMap, not_exists, not_and]
  exact fun c hc => zero_not_mem_utf8EncodeChar fun h => hs (h ▸ hc)

theorem beforeZero_fit {s : String} (hs : '\x00' ∉ s.toList) (hn : (encode s).length ≤ n) :
    Bytes.beforeZero (Bytes.fit (encode s) n) = encode s :=
  Bytes.beforeZero_fit (zero_not_mem_encode hs) hn

end ArrayTransfer.Utf8
