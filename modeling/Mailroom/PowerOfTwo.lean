/-! # Powers of two

The least power of two that is not below a number. Slots and the run queue start at one.
-/

namespace Mailroom

/-- Two to the power of `bits`. -/
def twoPow (bits : Nat) : Nat := Nat.pow 2 bits

theorem twoPow_pos (bits : Nat) : 0 < twoPow bits := Nat.two_pow_pos bits

/-- The least exponent whose power of two is at least `n`. -/
def ceilLog2 (n : Nat) : Nat := if n ≤ 1 then 0 else Nat.log2 (n - 1) + 1

theorem ceilLog2_le_iff {n bits : Nat} : ceilLog2 n ≤ bits ↔ n ≤ twoPow bits := by
  have positive := twoPow_pos bits
  by_cases small : n ≤ 1
  · simp only [ceilLog2, small, if_true, Nat.zero_le, true_iff]
    omega
  · have nonzero : n - 1 ≠ 0 := by omega
    have below : Nat.log2 (n - 1) < bits ↔ n - 1 < twoPow bits := Nat.log2_lt nonzero
    simp only [ceilLog2, small, if_false, Nat.add_one_le_iff, below]
    omega

end Mailroom
