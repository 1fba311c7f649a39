import Mathlib.Algebra.Group.Nat.Defs

/-!
# Checked arithmetic on 64-bit words

The checked operations of unsigned 64-bit integers, on natural numbers: a result that
does not fit is no result.
-/

namespace StorageManager.Lib.Word64

set_option autoImplicit false

def limit : Nat := 2 ^ 64

/-- `u64::checked_add`. -/
def checkedAdd (a b : Nat) : Option Nat := if a + b < limit then some (a + b) else none

/-- `u64::checked_mul`. -/
def checkedMul (a b : Nat) : Option Nat := if a * b < limit then some (a * b) else none

/-- `u64::checked_sub`. -/
def checkedSub (a b : Nat) : Option Nat := if b ≤ a then some (a - b) else none

/-- `u64::is_power_of_two`. -/
def isPowerOfTwo (n : Nat) : Bool := n ≠ 0 ∧ n &&& (n - 1) = 0

/-- `a / b + u64::from(a % b != 0)`. -/
def divCeil (a b : Nat) : Nat := a / b + if a % b = 0 then 0 else 1

variable {a b c : Nat}

@[simp] theorem checkedAdd_eq_some_iff : checkedAdd a b = some c ↔ a + b < limit ∧ a + b = c := by
  simp [checkedAdd]

theorem checkedAdd_eq_none_iff : checkedAdd a b = none ↔ ¬a + b < limit := by
  simp [checkedAdd]

@[simp] theorem checkedMul_eq_some_iff : checkedMul a b = some c ↔ a * b < limit ∧ a * b = c := by
  simp [checkedMul]

@[simp] theorem checkedSub_eq_some_iff : checkedSub a b = some c ↔ b ≤ a ∧ a - b = c := by
  simp [checkedSub]

theorem isPowerOfTwo_iff {n : Nat} : isPowerOfTwo n = true ↔ n.isPowerOfTwo := by
  rw [← Nat.ne_zero_and_sub_one_eq_zero_iff_isPowerOfTwo, isPowerOfTwo, decide_eq_true_eq]

/-- Of two powers of two one divides the other. -/
theorem dvd_or_dvd (ha : isPowerOfTwo a) (hb : isPowerOfTwo b) : a ∣ b ∨ b ∣ a := by
  obtain ⟨i, rfl⟩ := isPowerOfTwo_iff.mp ha
  obtain ⟨j, rfl⟩ := isPowerOfTwo_iff.mp hb
  rcases Nat.le_total i j with h | h
  · exact .inl (Nat.pow_dvd_pow 2 h)
  · exact .inr (Nat.pow_dvd_pow 2 h)

theorem divCeil_mul (h : b ∣ a) : divCeil a b * b = a := by
  rw [divCeil, if_pos (Nat.mod_eq_zero_of_dvd h), Nat.add_zero, Nat.div_mul_cancel h]

theorem divCeil_mul_of_pos (a : Nat) (h : 0 < b) : divCeil (a * b) b = a := by
  rw [divCeil, if_pos (Nat.mul_mod_left a b), Nat.add_zero, Nat.mul_div_cancel a h]

/-- What is rounded up covers what was asked for. -/
theorem le_divCeil_mul (a : Nat) (h : 0 < b) : a ≤ divCeil a b * b := by
  have hdiv := Nat.div_add_mod a b
  have hmod := Nat.mod_lt a h
  unfold divCeil
  split
  · rw [Nat.add_zero, Nat.mul_comm]
    omega
  · rw [Nat.add_mul, Nat.one_mul, Nat.mul_comm]
    omega

/-- Rounding up adds less than one unit. -/
theorem divCeil_mul_lt (a : Nat) (h : 0 < b) : divCeil a b * b < a + b := by
  have hdiv := Nat.div_add_mod a b
  have hmod := Nat.mod_lt a h
  unfold divCeil
  split
  · rw [Nat.add_zero, Nat.mul_comm]
    omega
  · rw [Nat.add_mul, Nat.one_mul, Nat.mul_comm]
    omega

/-- A word rounded up to units of two or more is a word. -/
theorem divCeil_lt_limit (ha : a < limit) (hb : 2 ≤ b) : divCeil a b < limit := by
  have hdiv : a / b ≤ a / 2 := Nat.div_le_div_left hb (by decide)
  unfold limit at *
  unfold divCeil
  split <;> omega

theorem divCeil_le_iff {n : Nat} (h : 0 < b) : divCeil a b ≤ n ↔ a ≤ n * b := by
  constructor
  · intro hle
    exact Nat.le_trans (le_divCeil_mul a h) (Nat.mul_le_mul_right b hle)
  · intro hle
    have hdiv : a / b ≤ n := Nat.div_le_of_le_mul (by rw [Nat.mul_comm]; exact hle)
    unfold divCeil
    by_cases hmod : a % b = 0
    · rw [if_pos hmod]
      omega
    · rw [if_neg hmod]
      -- a whole quotient of n would leave no remainder
      have hne : a / b ≠ n := by
        rintro rfl
        have hsplit := Nat.div_add_mod a b
        rw [Nat.mul_comm] at hsplit
        omega
      omega

theorem divCeil_pos (h : 0 < b) (ha : 0 < a) : 0 < divCeil a b := by
  refine Nat.pos_of_ne_zero fun hzero => ?_
  have hle : a ≤ 0 * b := (divCeil_le_iff h).mp (Nat.le_of_eq hzero)
  omega

/-- One more than whole units takes one unit more. -/
theorem divCeil_mul_add_one (n : Nat) (h : 0 < b) : divCeil (n * b + 1) b = n + 1 := by
  have hle : divCeil (n * b + 1) b ≤ n + 1 := by
    rw [divCeil_le_iff h, Nat.add_mul]
    omega
  have hlt : ¬divCeil (n * b + 1) b ≤ n := by
    rw [divCeil_le_iff h]
    omega
  omega

end StorageManager.Lib.Word64
