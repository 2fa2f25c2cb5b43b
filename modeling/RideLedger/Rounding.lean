/-!
# Rounding a quotient to the nearest whole number

Every amount, and every binary fraction read from a document, is brought to its
grid by the same rule: the nearest grid point, and of two equally near the even
one. `nearestEven` states it for a quotient of natural numbers. Its result is at
most the next whole number (`nearestEven_le_succ`), and a whole quotient stays as
it is (`nearestEven_mul_right`). Where a text has more digits than there is room
for, the larger of two equally near numbers is taken instead (`nearestUp`).
-/

-- The powers of every scale are the core library's, also beside a library with powers of its own.
attribute [instance (1100), default_instance (20000)] instPowNat

namespace RideLedger

/-- The whole number nearest to `num / den`; of two equally near, the even one. -/
def nearestEven (num den : Nat) : Nat :=
  let quotient := num / den
  let rest := num % den
  if 2 * rest < den then quotient
  else if den < 2 * rest then quotient + 1
  else if quotient % 2 = 0 then quotient else quotient + 1

/-- Rounding never goes above the next whole number. -/
theorem nearestEven_le_succ (num den : Nat) : nearestEven num den ≤ num / den + 1 := by
  simp only [nearestEven]
  repeat' split
  all_goals omega

/-- A whole quotient is its own rounding. -/
theorem nearestEven_mul_right (q : Nat) {den : Nat} (h : 0 < den) :
    nearestEven (q * den) den = q := by
  simp [nearestEven, Nat.mul_mod_left, h]

/-- The whole number nearest to `num / den`; of two equally near, the larger
one. -/
def nearestUp (num den : Nat) : Nat := (2 * num + den) / (2 * den)

/-- It is the quotient rounded down, or the next whole number. -/
theorem nearestUp_le_succ (num den : Nat) : nearestUp num den ≤ num / den + 1 := by
  rcases Nat.eq_zero_or_pos den with rfl | h
  · simp [nearestUp]
  · refine Nat.lt_add_one_iff.1 ((Nat.div_lt_iff_lt_mul (by omega)).2 ?_)
    have hlt := Nat.lt_div_mul_add h (a := num)
    grind

/-- Dividing by one changes nothing. -/
@[simp] theorem nearestEven_one (num : Nat) : nearestEven num 1 = num := by
  simpa using nearestEven_mul_right num Nat.one_pos

end RideLedger
