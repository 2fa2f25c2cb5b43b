import Mathlib.Algebra.Field.Rat
import Mathlib.Algebra.Order.Field.Basic
import Mathlib.Algebra.Order.Field.Rat
import Mathlib.Tactic.FieldSimp
import Mathlib.Tactic.Linarith
import Mathlib.Tactic.Ring
import RideLedger.Proofs.Amounts

/-!
# Values — decimals and amounts as rational numbers

A decimal stands for a rational number, whatever scale it is written at. The value of an amount is
its ten-thousandths over ten thousand (`Money.value_eq`), so that values add up, compare and vanish
as the units do.
-/

namespace RideLedger

namespace Decimal

/-- The rational number that a decimal stands for. -/
def value (d : Decimal) : ℚ := d.signed / 10 ^ d.scale

/-- The mantissa at a larger scale is the value times the power of the scale. -/
theorem value_mul_pow {d : Decimal} {s : Nat} (h : d.scale ≤ s) :
    d.value * 10 ^ s = d.atScale s := by
  have hpow : (10 : ℚ) ^ s = 10 ^ d.scale * 10 ^ (s - d.scale) := by
    rw [← pow_add, Nat.add_sub_cancel' h]
  rw [value, atScale, hpow]
  push_cast
  field_simp

end Decimal

namespace Money

variable {m : Money} {ms : List Money}

/-- The value of an amount. -/
def value (m : Money) : ℚ := m.amount.signed / 10 ^ m.amount.scale

/-- What amounts are worth together. -/
def worth (ms : List Money) : ℚ := (ms.map value).sum

/-- An amount is worth its ten-thousandths. -/
theorem value_eq (m : Money) : m.value = m.units / 10 ^ moneyScale := by
  have hpow : (10 : ℚ) ^ moneyScale = 10 ^ m.amount.scale * 10 ^ (moneyScale - m.amount.scale) := by
    rw [← pow_add, Nat.add_sub_cancel' m.scale_le]
  rw [value, units, Decimal.atScale, hpow]
  push_cast
  field_simp

theorem worth_eq (ms : List Money) : worth ms = totalUnits ms / 10 ^ moneyScale := by
  induction ms with
  | nil => simp [worth]
  | cons m rest ih =>
    have hcons : worth (m :: rest) = m.value + worth rest := by simp [worth]
    rw [hcons, ih, value_eq, totalUnits_cons]
    push_cast
    rw [add_div]

/-- Values compare as units do. -/
theorem value_le_iff {a b : Money} : a.value ≤ b.value ↔ a.units ≤ b.units := by
  have hpow : (0 : ℚ) < 10 ^ moneyScale := by norm_num
  rw [value_eq, value_eq, div_le_div_iff_of_pos_right hpow, Int.cast_le]

/-- Values add up as units do. -/
theorem value_add {a b : Money} (h : m.units = a.units + b.units) :
    m.value = a.value + b.value := by
  rw [value_eq, value_eq a, value_eq b, h]
  push_cast
  rw [add_div]

/-- An amount above zero has a value above zero. -/
theorem isPositive_iff_value : m.isPositive = true ↔ 0 < m.value := by
  have hpow : (0 : ℚ) < 10 ^ moneyScale := by norm_num
  rw [isPositive_iff, value_eq, lt_div_iff₀ hpow, zero_mul, Int.cast_pos]

/-- An amount is zero when its value is, whatever its scale or sign. -/
theorem isZero_iff_value : m.isZero = true ↔ m.value = 0 := by
  have hsigned : m.amount.signed = 0 ↔ m.amount.mantissa = 0 := by
    unfold Decimal.signed
    split <;> omega
  simp [isZero, Decimal.isZero, value, hsigned]

/-- An amount with the units of a sum has its value. -/
theorem value_eq_worth (h : m.units = totalUnits ms) : m.value = worth ms := by
  rw [value_eq, worth_eq, h]

end Money

end RideLedger
