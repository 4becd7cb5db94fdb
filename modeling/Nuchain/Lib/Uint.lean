import Mathlib.Order.Basic
import Mathlib.Tactic.Common
import Mathlib.Algebra.Group.Nat.Defs

/-!
# Unsigned machine integers over `Nat`

Rust's `checked_add`, `saturating_add` and `checked_sub` on an unsigned type of `w` bits,
for values kept as natural numbers below `2 ^ w`. Widths with a Lean type of their own
(`u32` as `UInt32`) use that type instead; these operations serve the widths whose overflow
is always tested explicitly in the code (`u64` counters, `u128` balances). For `u32`, whose
plain `+` wraps in a release build, two lemmas tell the sums that stay in range from those that
wrap.
-/

namespace Uint

/-- The largest value of `w` bits, `uN::MAX`. -/
def max (w : Nat) : Nat := 2 ^ w - 1

/-- `checked_add`: the sum, or `None` past `uN::MAX`. -/
def checkedAdd (w a b : Nat) : Option Nat :=
  if a + b ≤ max w then some (a + b) else none

/-- `saturating_add`: the sum, capped at `uN::MAX`. -/
def saturatingAdd (w a b : Nat) : Nat := min (a + b) (max w)

/-- `checked_sub`: the difference, or `None` below zero. -/
def checkedSub (a b : Nat) : Option Nat :=
  if b ≤ a then some (a - b) else none

/-- `saturating_sub` is truncated subtraction. -/
def saturatingSub (a b : Nat) : Nat := a - b

theorem checkedAdd_eq_some_iff {w a b c : Nat} :
    checkedAdd w a b = some c ↔ a + b ≤ max w ∧ c = a + b := by
  unfold checkedAdd
  split
  · simp_all [eq_comm]
  · simp only [reduceCtorEq, false_iff, not_and]
    omega

theorem checkedSub_eq_some_iff {a b c : Nat} : checkedSub a b = some c ↔ b ≤ a ∧ c = a - b := by
  unfold checkedSub
  split
  · simp_all [eq_comm]
  · simp only [reduceCtorEq, false_iff, not_and]
    omega

/-- Below the maximum, saturating addition is exact. -/
theorem saturatingAdd_of_le {w a b : Nat} (h : a + b ≤ max w) : saturatingAdd w a b = a + b :=
  Nat.min_eq_left h

@[simp] theorem saturatingSub_zero (a : Nat) : saturatingSub a 0 = a := Nat.sub_zero a

theorem max_lt_two_pow (w : Nat) : max w < 2 ^ w := by
  have := Nat.one_le_two_pow (n := w)
  unfold max
  omega

/-! ## `u32` with wrapping addition -/

/-- A `u32` sum within range is the sum of the values. -/
theorem u32_toNat_add_of_lt {a b : UInt32} (h : a.toNat + b.toNat < 2 ^ 32) :
    (a + b).toNat = a.toNat + b.toNat := by
  rw [UInt32.toNat_add]
  exact Nat.mod_eq_of_lt h

/-- A `u32` sum that passes `u32::MAX` wraps to a value below its first summand. -/
theorem u32_add_lt_of_overflow {a b : UInt32} (h : 2 ^ 32 ≤ a.toNat + b.toNat) : a + b < a := by
  have ha : a.toNat < 2 ^ 32 := a.toNat_lt
  have hb : b.toNat < 2 ^ 32 := b.toNat_lt
  have hwrap : (a + b).toNat = a.toNat + b.toNat - 2 ^ 32 := by
    rw [UInt32.toNat_add, Nat.mod_eq_sub_mod h, Nat.mod_eq_of_lt (by omega)]
  rw [UInt32.lt_iff_toNat_lt, hwrap]
  omega

/-- A `u32` sum lies above its first summand exactly when the second is positive and the sum
does not wrap. -/
theorem u32_lt_add_iff {a b : UInt32} : a < a + b ↔ 0 < b.toNat ∧ a.toNat + b.toNat < 2 ^ 32 := by
  rw [UInt32.lt_iff_toNat_lt]
  by_cases h : a.toNat + b.toNat < 2 ^ 32
  · rw [u32_toNat_add_of_lt h]
    omega
  · have hwrap := UInt32.lt_iff_toNat_lt.mp (u32_add_lt_of_overflow (Nat.le_of_not_lt h))
    omega

end Uint
