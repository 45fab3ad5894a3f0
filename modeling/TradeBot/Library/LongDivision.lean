import Mathlib.Tactic.Ring
import Mathlib.Algebra.Order.Ring.Nat

/-!
# Restoring division, bit by bit

Long division in base two reads the numerator from its highest bit, keeps the
remainder of the prefix read so far and appends one bit to the quotient at each
step. These lemmas describe one step by the quotient and remainder of the prefix,
and give the nearest quotient that the rounding of a final remainder produces.
-/

namespace TradeBot.Library

/-- Reading one more bit doubles the prefix of a number and adds the bit. -/
theorem div_two_pow_eq (n k : ℕ) : n / 2 ^ k = 2 * (n / 2 ^ (k + 1)) + n / 2 ^ k % 2 := by
  have hsplit := Nat.div_add_mod (n / 2 ^ k) 2
  rw [Nat.div_div_eq_div_mul, ← pow_succ] at hsplit
  omega

variable {d p bit : ℕ}

/-- A shifted remainder below the divisor appends a zero bit to the quotient. -/
theorem append_zero_bit (hd : 0 < d) (hlt : 2 * (p % d) + bit < d) :
    (2 * p + bit) / d = 2 * (p / d) ∧ (2 * p + bit) % d = 2 * (p % d) + bit := by
  have hsplit := Nat.div_add_mod p d
  refine (Nat.div_mod_unique hd).mpr ⟨?_, hlt⟩
  calc
    2 * (p % d) + bit + d * (2 * (p / d)) = 2 * (d * (p / d) + p % d) + bit := by ring
    _ = 2 * p + bit := by rw [hsplit]

/-- A shifted remainder that reaches the divisor is restored by one subtraction
and appends a one bit to the quotient. -/
theorem append_one_bit (hd : 0 < d) (hbit : bit < 2) (hle : d ≤ 2 * (p % d) + bit) :
    (2 * p + bit) / d = 2 * (p / d) + 1 ∧ (2 * p + bit) % d = 2 * (p % d) + bit - d := by
  have hsplit := Nat.div_add_mod p d
  have hmod := Nat.mod_lt p hd
  refine (Nat.div_mod_unique hd).mpr ⟨?_, by omega⟩
  have hrestore : 2 * (p % d) + bit - d + d = 2 * (p % d) + bit := by omega
  calc
    2 * (p % d) + bit - d + d * (2 * (p / d) + 1) =
        (2 * (p % d) + bit - d + d) + d * (2 * (p / d)) := by ring
    _ = 2 * (d * (p / d) + p % d) + bit := by rw [hrestore]; ring
    _ = 2 * p + bit := by rw [hsplit]

/-- The quotient rounded to nearest, ties away from zero, is the truncated
quotient, increased by one exactly when the remainder is at least half the divisor. -/
theorem nearest_quotient (hd : 0 < d) (n : ℕ) :
    (2 * n + d) / (2 * d) = n / d + if d ≤ 2 * (n % d) then 1 else 0 := by
  have hsplit := Nat.div_add_mod n d
  have hmod := Nat.mod_lt n hd
  have hpos : 0 < 2 * d := by omega
  split
  · suffices h : (2 * n + d) / (2 * d) = n / d + 1 ∧
        (2 * n + d) % (2 * d) = 2 * (n % d) - d from h.1
    refine (Nat.div_mod_unique hpos).mpr ⟨?_, by omega⟩
    have hrestore : 2 * (n % d) - d + d = 2 * (n % d) := by omega
    calc
      2 * (n % d) - d + 2 * d * (n / d + 1) =
          (2 * (n % d) - d + d) + d + 2 * (d * (n / d)) := by ring
      _ = 2 * (d * (n / d) + n % d) + d := by rw [hrestore]; ring
      _ = 2 * n + d := by rw [hsplit]
  · suffices h : (2 * n + d) / (2 * d) = n / d + 0 ∧
        (2 * n + d) % (2 * d) = 2 * (n % d) + d from h.1
    refine (Nat.div_mod_unique hpos).mpr ⟨?_, by omega⟩
    calc
      2 * (n % d) + d + 2 * d * (n / d + 0) = 2 * (d * (n / d) + n % d) + d := by ring
      _ = 2 * n + d := by rw [hsplit]

end TradeBot.Library
