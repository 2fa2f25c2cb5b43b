import RideLedger.Proofs.Fitting

/-!
# Projection — what rounding to fewer places changes

Every amount is a decimal rounded to four places. Rounding to some number of places comes to the
nearest number that has them (`Decimal.nearestTo_round`), whatever the scale and the sign it is
written with, and a number has one nearest number, of two the one with the even last digit. So the
laws of the nearest number are those of the rounding: it keeps the order of two decimals
(`Decimal.value_round_mono`) and the opposite of one (`Decimal.atScale_round_neg`), and it leaves an
amount as it is (`Money.ofDecimal_self`).

What is lost on the way to an amount is at most half a ten-thousandth, and of a decimal above zero
this may be all (`Money.isZero_ofDecimal_iff`). The amount is zero then, and never below zero. These
laws are the fields of `Money.SoundRounding`, which pin down the value of each amount
(`Money.SoundRounding.sameValue_ofDecimal`).
-/

namespace RideLedger

namespace Decimal

variable {a b d : Decimal} {places s : Nat}

/-! ## Comparisons -/

/-- Values compare as the mantissas do at any scale that both decimals have. -/
theorem value_le_iff (ha : a.scale ≤ s) (hb : b.scale ≤ s) :
    a.value ≤ b.value ↔ a.atScale s ≤ b.atScale s := by
  have hpow : (0 : ℚ) < 10 ^ s := by positivity
  rw [← mul_le_mul_iff_left₀ hpow, value_mul_pow ha, value_mul_pow hb, Int.cast_le]

/-- **Decimals compare as their values do.** -/
theorem isLE_compare_iff : (a.compare b).isLE = true ↔ a.value ≤ b.value := by
  rw [value_le_iff (scale_le_commonScale a b).1 (scale_le_commonScale a b).2, compare,
    Std.isLE_compare]

theorem lt_iff_value : a.lt b = true ↔ a.value < b.value := by
  rw [← not_le, value_le_iff (scale_le_commonScale a b).2 (scale_le_commonScale a b).1, not_le, lt,
    compare, beq_iff_eq, Std.compare_eq_lt]

@[simp] theorem value_zero : zero.value = 0 := value_of_isZero rfl

/-! ## Rounding to a number of places -/

theorem atScale_scale (d : Decimal) : d.atScale d.scale = d.signed := by simp [atScale]

/-- **Rounding comes to the nearest number with so many places.** -/
theorem nearestTo_round (d : Decimal) (places : Nat) :
    NearestTo (d.value * 10 ^ places) ((d.round places).atScale places) := by
  have hround := d.round_roundsTo places
  rcases Nat.lt_or_ge places d.scale with hmore | hscale
  · have hden : 0 < 10 ^ (d.scale - places) := Nat.pow_pos (by decide)
    have hsigned : (d.round places).atScale places = (d.round places).signed := by
      rw [← atScale_scale, hround.scale hmore]
    have hratio : d.value * 10 ^ places =
        ratio d.negative d.mantissa (10 ^ (d.scale - places)) := by
      have hpow : (10 : ℚ) ^ d.scale = 10 ^ (d.scale - places) * 10 ^ places := by
        rw [← pow_add, Nat.sub_add_cancel hmore.le]
      have hpos : (10 : ℚ) ^ places ≠ 0 := by positivity
      rw [value_eq_ratio, ratio_mul_pow, ratio, ratio]
      push_cast
      rw [hpow, mul_div_mul_right _ _ hpos]
    rw [hsigned, hratio, signed_eq_ite (hround.sign hmore),
      (isNearestEven_iff_eq hden).1 (hround.mantissa hmore)]
    exact nearestTo_ratio d.negative d.mantissa hden
  · rw [hround.same hscale, value_mul_pow hscale]
    exact nearestTo_intCast _

theorem value_round_mul_pow (d : Decimal) (places : Nat) :
    (d.round places).value * 10 ^ places = (d.round places).atScale places :=
  value_mul_pow (d.round_scale_le places)

/-- At most half a unit of the last place is lost. -/
theorem abs_value_round_sub_le (d : Decimal) (places : Nat) :
    |(d.round places).value - d.value| ≤ 1 / 2 / 10 ^ places := by
  have hpow : (0 : ℚ) < 10 ^ places := by positivity
  have hnear := (d.nearestTo_round places).near
  rw [← value_round_mul_pow, ← sub_mul, abs_mul, abs_of_pos hpow, abs_sub_comm] at hnear
  exact (le_div_iff₀ hpow).2 hnear

/-- The scale that is left. -/
theorem scale_round (d : Decimal) (places : Nat) : (d.round places).scale = min d.scale places := by
  have hround := d.round_roundsTo places
  rcases Nat.lt_or_ge places d.scale with hmore | hscale
  · rw [hround.scale hmore, Nat.min_eq_right hmore.le]
  · rw [hround.same hscale, Nat.min_eq_left hscale]

/-- **Rounding keeps the order.** -/
theorem value_round_mono (h : a.value ≤ b.value) :
    (a.round places).value ≤ (b.round places).value := by
  rw [value_le_iff (a.round_scale_le places) (b.round_scale_le places)]
  exact (a.nearestTo_round places).le (b.nearestTo_round places)
    (mul_le_mul_of_nonneg_right h (by positivity))

/-- **The opposite decimal is rounded to the opposite number.** -/
theorem atScale_round_neg (d : Decimal) (places : Nat) :
    (d.neg.round places).atScale places = -(d.round places).atScale places := by
  have hneg := (d.nearestTo_round places).neg
  rw [← neg_mul, ← value_neg] at hneg
  exact (d.neg.nearestTo_round places).unique hneg

/-- A decimal lies midway between two neighbours with so many places. -/
def Midway (d : Decimal) (places : Nat) : Prop :=
  ∃ low : ℤ, d.value * 10 ^ places = low + 1 / 2

/-- A decimal midway between two neighbours has more places than they. -/
theorem Midway.lt_scale (h : d.Midway places) : places < d.scale := by
  obtain ⟨low, hlow⟩ := h
  by_contra hscale
  rw [value_mul_pow (Nat.not_lt.1 hscale)] at hlow
  exact intCast_ne_half _ low hlow

/-- **Of two neighbours equally near, the even one is taken.** -/
theorem Midway.even_mantissa_round (h : d.Midway places) : Even (d.round places).mantissa := by
  have hscale : (d.round places).scale = places := (d.round_roundsTo places).scale h.lt_scale
  obtain ⟨low, hlow⟩ := h
  have hnearest := d.nearestTo_round places
  rw [hlow] at hnearest
  have heven : Even ((d.round places).atScale places) := by
    obtain ⟨hsame, heven⟩ | ⟨hnext, hodd⟩ := hnearest.of_half
    · rwa [hsame]
    · rwa [hnext, Int.even_add_one]
  nth_rewrite 2 [← hscale] at heven
  rwa [atScale_scale, ← Int.natAbs_even, natAbs_signed] at heven

end Decimal

/-! ## Amounts -/

namespace Money

variable {d e : Decimal}

/-- The amount made of a decimal is its value rounded to four digits. -/
theorem nearestTo_units_ofDecimal (d : Decimal) :
    NearestTo (d.value * 10 ^ moneyScale) (ofDecimal d).units :=
  d.nearestTo_round moneyScale

/-- **Up to half a ten-thousandth becomes zero**, above zero and below. -/
theorem isZero_ofDecimal_iff : (ofDecimal d).isZero = true ↔ |d.value| ≤ 0.00005 := by
  have hpow : (0 : ℚ) < 10 ^ moneyScale := by norm_num
  have hhalf : (1 / 2 : ℚ) / 10 ^ moneyScale = 0.00005 := by norm_num
  rw [isZero_iff, (nearestTo_units_ofDecimal d).eq_zero_iff, abs_mul, abs_of_pos hpow,
    ← le_div_iff₀ hpow, hhalf]

/-- More than this stays above zero. -/
theorem isPositive_ofDecimal_iff : (ofDecimal d).isPositive = true ↔ 0.00005 < d.value := by
  have hpow : (0 : ℚ) < 10 ^ moneyScale := by norm_num
  have hhalf : ((0 : ℤ) + 1 / 2 : ℚ) / 10 ^ moneyScale = 0.00005 := by norm_num
  rw [isPositive_iff, ← not_le, (nearestTo_units_ofDecimal d).le_iff_of_even Even.zero,
    ← le_div_iff₀ hpow, hhalf, not_le]

/-- An amount made of a decimal above zero is not below it. -/
theorem isNegative_ofDecimal (h : 0 ≤ d.value) : (ofDecimal d).isNegative = false := by
  have hnonneg : 0 ≤ (ofDecimal d).units :=
    nearestTo_zero.le (nearestTo_units_ofDecimal d) (mul_nonneg h (by norm_num))
  rw [Bool.eq_false_iff, ne_eq, isNegative_iff, not_lt]
  exact hnonneg

/-- What makes a way from decimals to amounts a sound rounding to four digits. -/
structure SoundRounding (rounded : Decimal → Money) : Prop where
  /-- A scale of at most four stays, and a larger one becomes four. -/
  scale (d : Decimal) : (rounded d).amount.scale = min d.scale moneyScale
  /-- At most half a ten-thousandth is lost. -/
  near (d : Decimal) : |(rounded d).value - d.value| ≤ 0.00005
  /-- Midway between two neighbours, the one with the even last digit is taken. -/
  even (d : Decimal) : d.Midway moneyScale →
    (rounded d).amount.scale = moneyScale ∧ Even ((rounded d).amount.mantissa % 10)
  /-- An amount is its own rounding. -/
  idempotent (d : Decimal) : rounded (rounded d).amount = rounded d
  /-- The opposite decimal becomes the opposite amount. -/
  odd (d : Decimal) : (rounded d.neg).sameValue (rounded d).neg = true
  /-- The order of decimals is kept. -/
  monotone (d e : Decimal) : (d.compare e).isLE = true →
    ((rounded d).compare (rounded e)).isLE = true
  /-- A decimal above zero does not get below it. It becomes zero, and is not above it then, if it
  is half a ten-thousandth or less. -/
  positive (d : Decimal) : Decimal.zero.lt d = true →
    (rounded d).isNegative = false ∧ ((rounded d).isZero = true ↔ d.value ≤ 0.00005) ∧
      ((rounded d).isPositive = true ↔ 0.00005 < d.value)
  /-- And there are such decimals. -/
  vanishing : ∃ d : Decimal, Decimal.zero.lt d = true ∧ (rounded d).isZero = true ∧
    (rounded d).isPositive = false

/-- A sound rounding takes the nearest amount: half a ten-thousandth away from it a decimal lies
midway, and the last digit is even. -/
theorem SoundRounding.nearestTo {rounded : Decimal → Money} (h : SoundRounding rounded)
    (d : Decimal) : NearestTo (d.value * 10 ^ moneyScale) (rounded d).units := by
  have hpow : (0 : ℚ) < 10 ^ moneyScale := by norm_num
  have hvalue : (rounded d).value * 10 ^ moneyScale = (rounded d).units := by
    rw [value_eq, div_mul_cancel₀ _ hpow.ne']
  have hdist : |d.value * 10 ^ moneyScale - (rounded d).units| =
      |(rounded d).value - d.value| * 10 ^ moneyScale := by
    rw [← hvalue, abs_sub_comm, ← sub_mul, abs_mul, abs_of_pos hpow]
  have hnear : |d.value * 10 ^ moneyScale - (rounded d).units| ≤ 1 / 2 := by
    rw [hdist, ← le_div_iff₀ hpow]
    exact (h.near d).trans (by norm_num)
  refine ⟨hnear, fun hhalf => ?_⟩
  have hmidway : d.Midway moneyScale := by
    rcases (abs_eq (by norm_num)).1 hhalf with habove | hbelow
    · exact ⟨(rounded d).units, by linarith⟩
    · exact ⟨(rounded d).units - 1, by push_cast; linarith⟩
  obtain ⟨hscale, hlast⟩ := h.even d hmidway
  have hunits : (rounded d).units = (rounded d).amount.signed := by
    rw [units, ← Decimal.atScale_scale, hscale]
  rw [hunits, ← Int.natAbs_even, Decimal.natAbs_signed]
  rw [Nat.even_iff] at hlast ⊢
  omega

/-- **A sound rounding leaves no choice of the value.** -/
theorem SoundRounding.sameValue_ofDecimal {rounded : Decimal → Money} (h : SoundRounding rounded)
    (d : Decimal) : (rounded d).sameValue (ofDecimal d) = true :=
  sameValue_iff.2 ((h.nearestTo d).unique (nearestTo_units_ofDecimal d))

/-- **Making amounts of decimals is a sound rounding.** -/
theorem soundRounding_ofDecimal : SoundRounding ofDecimal where
  scale d := d.scale_round moneyScale
  near d := (d.abs_value_round_sub_le moneyScale).trans (by norm_num)
  even d hmidway := by
    refine ⟨(d.round_roundsTo moneyScale).scale hmidway.lt_scale, ?_⟩
    have heven : Even (ofDecimal d).amount.mantissa := hmidway.even_mantissa_round
    rw [Nat.even_iff] at heven ⊢
    omega
  idempotent d := ofDecimal_self (ofDecimal d)
  odd d := by
    rw [sameValue_iff, units_neg]
    exact d.atScale_round_neg moneyScale
  monotone d e hle := by
    rw [compare, Decimal.isLE_compare_iff]
    exact Decimal.value_round_mono (Decimal.isLE_compare_iff.1 hle)
  positive d hpos := by
    have hvalue : 0 < d.value := by simpa [Decimal.lt_iff_value] using hpos
    refine ⟨isNegative_ofDecimal hvalue.le, ?_, isPositive_ofDecimal_iff⟩
    rw [isZero_ofDecimal_iff, abs_of_pos hvalue]
  vanishing := ⟨{ negative := false, mantissa := 5, scale := 5 }, by decide, by decide, by decide⟩

-- of two decimals midway one goes down and one up, and the opposite ones with them
example : (ofDecimal { negative := false, mantissa := 25, scale := 5 }).units = 2 ∧
    (ofDecimal { negative := false, mantissa := 15, scale := 5 }).units = 2 ∧
    (ofDecimal { negative := true, mantissa := 15, scale := 5 }).units = -2 := by
  decide

end Money

end RideLedger
