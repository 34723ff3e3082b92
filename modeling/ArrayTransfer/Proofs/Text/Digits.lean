import ArrayTransfer.Text.Digits

/-! Decimal digits read back the number that they were written for. -/

namespace ArrayTransfer.Text

theorem digit?_of_isDigit {c : Char} (h : c.isDigit = true) : digit? 10 c = some (c.toNat - '0'.toNat) := by
  obtain ⟨h0, h9⟩ := Char.isDigit_iff_toNat.mp h
  have hc : '0' ≤ c ∧ c ≤ '9' := ⟨h0, h9⟩
  have hd : c.toNat - 48 < 10 := by
    have : '9'.toNat = 57 := rfl
    omega
  simp [digit?, hc, hd]

theorem number?_of_isDigit {cs : List Char} (h : ∀ c ∈ cs, c.isDigit = true) :
    number? 10 cs = some (Nat.ofDigitChars 10 cs 0) := by
  suffices general : ∀ n, cs.foldl (fun n c => do return (← n) * 10 + (← digit? 10 c)) (some n) =
      some (Nat.ofDigitChars 10 cs n) from general 0
  induction cs with
  | nil => simp
  | cons c cs ih =>
    intro n
    have hn : n * 10 = 10 * n := Nat.mul_comm ..
    rw [List.foldl_cons, Nat.ofDigitChars_cons, ← ih fun x hx => h x (List.mem_cons_of_mem _ hx)]
    simp [digit?_of_isDigit (h c List.mem_cons_self), hn]

/-- The number that one or more decimal digits write. -/
def decimal? (cs : List Char) : Option Nat := if cs = [] then none else number? 10 cs

theorem isDigit_of_mem_toDigits {n : Nat} {c : Char} (h : c ∈ Nat.toDigits 10 n) : c.isDigit = true :=
  Nat.isDigit_of_mem_toDigits (by decide) (by decide) h

theorem decimal?_toDigits (n : Nat) : decimal? (Nat.toDigits 10 n) = some n := by
  rw [decimal?, if_neg Nat.toDigits_ne_nil, number?_of_isDigit fun _ => isDigit_of_mem_toDigits,
    Nat.ofDigitChars_ten_toDigits]

theorem toList_toString_word (n : UInt64) : (toString n).toList = Nat.toDigits 10 n.toNat := by
  show (n.toNat.repr).toList = _
  exact Nat.toList_repr

end ArrayTransfer.Text
