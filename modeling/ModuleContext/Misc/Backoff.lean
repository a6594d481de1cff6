import Mathlib.Algebra.Order.Ring.Int
import Mathlib.Tactic.Ring

/-!
# Exponential backoff

A delay that is doubled up to a limit, in exact integers and in 32-bit ones. The two agree as
long as no doubling overflows, and the first one that does makes the 32-bit delay negative.
-/

namespace ModuleContext.Misc

/-- The delay after it has been doubled `n` times. -/
def backoff (initial limit : Int) (n : Nat) : Int := min (initial * 2 ^ n) limit

section

variable {initial limit : Int}

theorem backoff_zero (ordered : initial ≤ limit) : backoff initial limit 0 = initial := by
  rw [backoff, pow_zero, mul_one]
  exact min_eq_left ordered

theorem backoff_succ (nonneg : 0 ≤ initial) (ordered : initial ≤ limit) (n : Nat) :
    backoff initial limit (n + 1) = min (backoff initial limit n * 2) limit := by
  have doubled : initial * 2 ^ (n + 1) = initial * 2 ^ n * 2 := by ring
  unfold backoff
  rw [doubled]
  omega

theorem backoff_le (n : Nat) : backoff initial limit n ≤ limit := min_le_right _ _

theorem backoff_mono (nonneg : 0 ≤ initial) {m n : Nat} (fewer : m ≤ n) :
    backoff initial limit m ≤ backoff initial limit n := by
  have power : (2 : Int) ^ m ≤ 2 ^ n := pow_le_pow_right₀ (by decide) fewer
  exact min_le_min_right limit (mul_le_mul_of_nonneg_left power nonneg)

theorem le_backoff (nonneg : 0 ≤ initial) (ordered : initial ≤ limit) (n : Nat) :
    initial ≤ backoff initial limit n := by
  have more : backoff initial limit 0 ≤ backoff initial limit n :=
    backoff_mono nonneg (Nat.zero_le n)
  rwa [backoff_zero ordered] at more

/-- With any initial delay, a large limit is not reached too early. -/
theorem pow_le_backoff (positive : 0 < initial) {n : Nat} (large : 2 ^ n ≤ limit) :
    2 ^ n ≤ backoff initial limit n := by
  have power : (0 : Int) ≤ 2 ^ n := pow_nonneg (by decide) n
  have grows : 2 ^ n ≤ initial * 2 ^ n := le_mul_of_one_le_left power (by omega)
  exact le_min grows large

/-- Delays after different numbers of doublings are the same only at the limit. -/
theorem backoff_eq_iff (nonneg : 0 ≤ initial) (ordered : initial ≤ limit) (m n : Nat) :
    backoff initial limit m = backoff initial limit n ↔
      m = n ∨ initial = 0 ∨ limit ≤ initial * 2 ^ m ∧ limit ≤ initial * 2 ^ n := by
  have apart {m n : Nat} (fewer : m < n) (same : backoff initial limit m = backoff initial limit n)
      (positive : 0 < initial) : limit ≤ initial * 2 ^ m ∧ limit ≤ initial * 2 ^ n := by
    have power : (2 : Int) ^ m < 2 ^ n := pow_lt_pow_right₀ (by decide) fewer
    have less : initial * 2 ^ m < initial * 2 ^ n := mul_lt_mul_of_pos_left power positive
    unfold backoff at same
    omega
  constructor
  · intro same
    rcases Nat.lt_trichotomy m n with fewer | rfl | more
    · by_cases zero : initial = 0
      · exact Or.inr (Or.inl zero)
      · exact Or.inr (Or.inr (apart fewer same (by omega)))
    · exact Or.inl rfl
    · by_cases zero : initial = 0
      · exact Or.inr (Or.inl zero)
      · exact Or.inr (Or.inr (apart more same.symm (by omega)).symm)
  · rintro (rfl | rfl | ⟨first, second⟩)
    · rfl
    · simp [backoff]
    · unfold backoff
      omega

end

/-- The doubling in 32-bit integers. -/
def doubleCapped (limit delay : Int32) : Int32 :=
  if limit < delay * 2 then limit else delay * 2

theorem toInt_double (delay : Int32) : (delay * 2).toInt = (delay.toInt * 2).bmod (2 ^ 32) := by
  have two : (2 : Int32).toInt = 2 := by decide
  rw [Int32.toInt_mul, two]

theorem toInt_doubleCapped {limit delay : Int32} (nonneg : 0 ≤ delay.toInt)
    (fits : delay.toInt < 2 ^ 30) :
    (doubleCapped limit delay).toInt = min (delay.toInt * 2) limit.toInt := by
  have doubled : (delay * 2).toInt = delay.toInt * 2 := by
    rw [toInt_double]
    apply Int.bmod_eq_of_le <;> omega
  unfold doubleCapped
  simp only [Int32.lt_iff_toInt_lt, doubled]
  split <;> omega

theorem doubleCapped_neg {limit delay : Int32} (nonneg : 0 ≤ limit.toInt)
    (overflows : 2 ^ 30 ≤ delay.toInt) : (doubleCapped limit delay).toInt < 0 := by
  have bound := delay.toInt_lt
  have doubled : (delay * 2).toInt = delay.toInt * 2 - 2 ^ 32 := by
    rw [toInt_double, Int.bmod_def]
    omega
  unfold doubleCapped
  simp only [Int32.lt_iff_toInt_lt, doubled]
  split <;> omega

end ModuleContext.Misc
