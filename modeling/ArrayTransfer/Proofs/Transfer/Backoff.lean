import ArrayTransfer.Session.Options
import Mathlib.Algebra.Group.Nat.Defs

/-! The wait before a retry. By its rule it doubles with each retry and is never longer than the longest
    (`RetryPolicy.doubled`). It keeps to the rule for as long as a word can say how many times longer than the first it
    is; where that is not enough to reach the longest wait, it stays behind for good (`RetryPolicy.backoff_stalls`). -/

namespace ArrayTransfer.RetryPolicy

variable {p : RetryPolicy} {m n : UInt32}

/-- The wait before a retry by its rule: the first wait, doubled with each retry after the first, and never more than the
    longest. -/
def doubled (p : RetryPolicy) (retry : Nat) : Duration := min (p.initialBackoff * 2 ^ (retry - 1)) p.maxBackoff

/-- The longest wait that a word can say of the first. -/
def reach (p : RetryPolicy) : Duration := p.initialBackoff * (UInt32.size - 1)

/-- The factor is a power of two, as long as that is a word. -/
theorem factor_eq (n : UInt32) : factor n = min (2 ^ (n.toNat - 1)) (UInt32.size - 1) := by
  unfold factor
  split
  · rename_i within
    have : 2 ^ (n.toNat - 1) ≤ 2 ^ 31 := Nat.pow_le_pow_right Nat.two_pos (Nat.le_of_lt_succ within)
    exact (Nat.min_eq_left (Nat.le_trans this (by decide))).symm
  · rename_i beyond
    have : 2 ^ 32 ≤ 2 ^ (n.toNat - 1) := Nat.pow_le_pow_right Nat.two_pos (Nat.le_of_not_lt beyond)
    exact (Nat.min_eq_right (Nat.le_trans (by decide) this)).symm

theorem factor_of_le (h : n ≤ 32) : factor n = 2 ^ (n.toNat - 1) :=
  if_pos (by have : n.toNat ≤ 32 := h; omega)

theorem factor_of_lt (h : 32 < n) : factor n = UInt32.size - 1 :=
  if_neg (by have : 32 < n.toNat := h; omega)

theorem factor_mono (h : m ≤ n) : factor m ≤ factor n := by
  have doubles : 2 ^ (m.toNat - 1) ≤ 2 ^ (n.toNat - 1) := Nat.pow_le_pow_right Nat.two_pos (Nat.sub_le_sub_right h 1)
  rw [factor_eq, factor_eq]
  omega

/-- By its rule a late wait would be longer than a word can say, if there is a first one. -/
theorem reach_lt_of_lt (positive : 0 < p.initialBackoff) (h : 32 < n) :
    p.reach < p.initialBackoff * 2 ^ (n.toNat - 1) := by
  have late : 32 ≤ n.toNat - 1 := Nat.le_sub_one_of_lt h
  have beyond : UInt32.size - 1 < 2 ^ (n.toNat - 1) :=
    Nat.lt_of_lt_of_le (by decide) (Nat.pow_le_pow_right Nat.two_pos late)
  exact Nat.mul_lt_mul_of_pos_left beyond positive

theorem backoff_le (p : RetryPolicy) (n : UInt32) : p.backoff n ≤ p.maxBackoff := by
  unfold backoff
  dsimp only
  split
  · exact Nat.le_refl _
  · exact Nat.min_le_right _ _

section timed
variable (timed : p.maxBackoff < Duration.limit)
include timed

/-- A wait that is no duration any more is longer than the longest, and cut like any other that is. -/
theorem backoff_eq (n : UInt32) : p.backoff n = min (p.initialBackoff * factor n) p.maxBackoff := by
  unfold backoff
  by_cases beyond : Duration.limit ≤ p.initialBackoff * factor n
  · exact (if_pos beyond).trans (Nat.min_eq_right (Nat.le_trans (Nat.le_of_lt timed) beyond)).symm
  · exact if_neg beyond

theorem backoff_mono (h : m ≤ n) : p.backoff m ≤ p.backoff n := by
  have longer : p.initialBackoff * factor m ≤ p.initialBackoff * factor n := Nat.mul_le_mul_left _ (factor_mono h)
  rw [backoff_eq timed, backoff_eq timed]
  exact Nat.le_min.mpr ⟨Nat.le_trans (Nat.min_le_left _ _) longer, Nat.min_le_right _ _⟩

theorem backoff_of_le (h : n ≤ 32) : p.backoff n = p.doubled n.toNat := by
  rw [backoff_eq timed, factor_of_le h, doubled]

/-- All late waits are the same. -/
theorem backoff_of_lt (h : 32 < n) : p.backoff n = min p.reach p.maxBackoff := by
  rw [backoff_eq timed, factor_of_lt h, reach]

theorem backoff_eq_doubled_iff (n : UInt32) :
    p.backoff n = p.doubled n.toNat ↔ n ≤ 32 ∨ p.initialBackoff = 0 ∨ p.maxBackoff ≤ p.reach := by
  by_cases early : n ≤ 32
  · exact iff_of_true (backoff_of_le timed early) (.inl early)
  have late : 32 < n := UInt32.not_le.mp early
  rw [backoff_of_lt timed late, doubled, or_iff_right early]
  obtain none | positive := Nat.eq_zero_or_pos p.initialBackoff
  · exact iff_of_true (by rw [reach, none, Nat.zero_mul, Nat.zero_mul]) (.inl none)
  rw [or_iff_right (Nat.ne_of_gt positive)]
  have short := reach_lt_of_lt positive late
  refine ⟨fun same => Nat.le_of_not_lt fun behind => ?_, fun enough => ?_⟩
  · have : p.reach < min (p.initialBackoff * 2 ^ (n.toNat - 1)) p.maxBackoff := Nat.lt_min.mpr ⟨short, behind⟩
    rw [← same, Nat.min_eq_left (Nat.le_of_lt behind)] at this
    exact Nat.lt_irrefl _ this
  · rw [Nat.min_eq_right enough, Nat.min_eq_right (Nat.le_trans enough (Nat.le_of_lt short))]

/-- The longest wait is reached for good exactly if a word can say how many times longer than the first it is. -/
theorem backoff_reaches_iff :
    (∃ m : UInt32, ∀ n, m ≤ n → p.backoff n = p.maxBackoff) ↔ p.maxBackoff ≤ p.reach := by
  refine ⟨fun ⟨m, reached⟩ => ?_, fun enough => ⟨33, fun n late => ?_⟩⟩
  · -- The last number of all comes after `m` as well as after the thirty-second.
    have last : m ≤ 4294967295 := Nat.le_of_lt_succ m.toNat_lt
    rw [← reached _ last, backoff_of_lt timed (by decide)]
    exact Nat.min_le_left _ _
  · rw [backoff_of_lt timed late, Nat.min_eq_right enough]

end timed

/-- The wait before a retry is never longer than the longest, never shorter than the one before, and by the rule up to
    the thirty-second retry. What comes after is by the rule exactly if the first wait is none, or goes into the longest
    no more often than a word can say; otherwise all later waits are the same, and the longest is never reached. -/
theorem backoff_doubles (p : RetryPolicy) (timed : p.maxBackoff < Duration.limit) :
    (∀ n : UInt32, p.backoff n = min (p.initialBackoff * min (2 ^ (n.toNat - 1)) (UInt32.size - 1)) p.maxBackoff) ∧
    (∀ n : UInt32, p.backoff n = p.doubled n.toNat ↔
      n ≤ 32 ∨ p.initialBackoff = 0 ∨ p.maxBackoff ≤ p.initialBackoff * (UInt32.size - 1)) ∧
    (∀ n : UInt32, p.backoff n ≤ p.maxBackoff) ∧
    (∀ m n : UInt32, m ≤ n → p.backoff m ≤ p.backoff n) ∧
    ((∃ m : UInt32, ∀ n, m ≤ n → p.backoff n = p.maxBackoff) ↔
      p.maxBackoff ≤ p.initialBackoff * (UInt32.size - 1)) :=
  ⟨fun n => factor_eq n ▸ backoff_eq timed n, backoff_eq_doubled_iff timed, p.backoff_le,
    fun _ _ => backoff_mono timed, backoff_reaches_iff timed⟩

/-- By the defaults every wait is by the rule. -/
theorem backoff_doubles_default :
    (SessionOptions.ofConfig .default).retryPolicy.maxBackoff < Duration.limit ∧
      ∀ n : UInt32, (SessionOptions.ofConfig .default).retryPolicy.backoff n =
        (SessionOptions.ofConfig .default).retryPolicy.doubled n.toNat := by
  have timed : (SessionOptions.ofConfig .default).retryPolicy.maxBackoff < Duration.limit := by decide
  obtain ⟨-, rule, -⟩ := backoff_doubles _ timed
  exact ⟨timed, fun n => (rule n).mpr (.inr (.inr (by decide)))⟩

/-- Many retries, with a first wait of a nanosecond and a longest of ten seconds. -/
def patient : RetryPolicy := ⟨100, 1, Duration.ofParts 10 0, Duration.ofParts 3600 0⟩

/-- By the rule the longest wait comes before the thirty-fifth retry, but no wait is even half as long. -/
theorem backoff_stalls : patient.backoff 34 = 4294967295 ∧ patient.doubled 34 = 8589934592 ∧
    patient.doubled 35 = patient.maxBackoff ∧ ∀ n, patient.backoff n ≠ patient.maxBackoff := by
  have timed : patient.maxBackoff < Duration.limit := by decide
  refine ⟨by decide, by decide, by decide, fun n reached => ?_⟩
  have stays : ∀ m, n ≤ m → patient.backoff m = patient.maxBackoff := fun m later =>
    Nat.le_antisymm (backoff_le _ m) (reached ▸ backoff_mono timed later)
  exact absurd ((backoff_reaches_iff timed).mp ⟨n, stays⟩) (by decide)

end ArrayTransfer.RetryPolicy
