import RideLedger.Proofs.Projection

/-!
# Precision — what the operations on amounts lose

The checked operations on amounts have no test for lost digits. Their answer is as much of the exact
result as there is room for, and an error only where its nearest whole number has no room
(`Money.checked_outcome`); an amount of 28 or 29 digits swallows the fraction that is added to it.

Scaling rounds a second time, from what a decimal holds of the product or quotient to four digits.
Where the exact result has room with four digits, this is the exact result rounded once, unless the
first rounding put it onto a half from the side of the odd neighbour
(`Money.scaling_rounds_twice`).
-/

namespace RideLedger

open Decimal (Holds mantissaBound)

variable {x : ℚ} {k u : ℤ} {d : Decimal}

/-! ## Sums and differences -/

/-- A decimal that was brought to fit has no more places than asked for. -/
theorem Decimal.scale_le_of_fit? {negative : Bool} {num den top : Nat} {h : top ≤ maxScale}
    (hfit : fit? negative num den top h = some d) : d.scale ≤ top := by
  obtain ⟨hscale, -, -, -⟩ | - := hfit ▸ fit?_fitted h
  exact hscale

/-- A sum has no more places than its parts. -/
theorem Decimal.scale_le_of_add? {a b : Decimal} {t : Nat} (ha : a.scale ≤ t) (hb : b.scale ≤ t)
    (h : a.add? b = some d) : d.scale ≤ t := by
  rw [add?] at h
  split at h
  · exact Option.some.inj h ▸ hb
  · split at h
    · exact Option.some.inj h ▸ ha
    · exact (scale_le_of_fit? h).trans (Nat.max_le.2 ⟨ha, hb⟩)

/-- Nor has a difference. -/
theorem Decimal.scale_le_of_sub? {a b : Decimal} {t : Nat} (ha : a.scale ≤ t) (hb : b.scale ≤ t)
    (h : a.sub? b = some d) : d.scale ≤ t := by
  rw [sub?] at h
  split at h
  · obtain rfl := Option.some.inj h
    split <;> exact hb
  · split at h
    · exact Option.some.inj h ▸ ha
    · exact (scale_le_of_fit? h).trans (Nat.max_le.2 ⟨ha, hb⟩)

namespace Money

variable {a b m r : Money}

/-- An answer of a checked operation with the exact result `x`: as much of it as there is room for,
or that there is no room for the nearest whole number. -/
def Checked (x : ℚ) : Except MoneyError Money → Prop
  | .ok c => c.amount.Holds x
  | .error e => e = .overflow ∧ Overfull x

theorem checked_of_holds (hscale : d.scale ≤ moneyScale) (hd : d.Holds x) :
    Checked x (.ok (ofDecimal d)) :=
  hd.of_value_eq (congrArg Decimal.value (ofDecimal_amount hscale))

/-- **Checked sums and differences answer with what has room.** Where any decimal has the exact
value, so has the answer; else it is the exact result rounded to as many places as there is room
for. -/
theorem checked_outcome (a b : Money) :
    Checked (a.value + b.value) (a.checkedAdd b) ∧
      Checked (a.value - b.value) (a.checkedSub b) := by
  constructor
  · have hadd := Decimal.add?_outcome a.amount b.amount
    rw [checkedAdd]
    cases hsum : a.amount.add? b.amount with
    | none =>
      rw [hsum] at hadd
      exact ⟨rfl, hadd⟩
    | some d =>
      rw [hsum] at hadd
      exact checked_of_holds (Decimal.scale_le_of_add? a.scale_le b.scale_le hsum) hadd
  · have hsub := Decimal.sub?_outcome a.amount b.amount
    rw [checkedSub]
    cases hdiff : a.amount.sub? b.amount with
    | none =>
      rw [hdiff] at hsub
      exact ⟨rfl, hsub⟩
    | some d =>
      rw [hdiff] at hsub
      exact checked_of_holds (Decimal.scale_le_of_sub? a.scale_le b.scale_le hdiff) hsub

/-- Adding or taking off an amount that is not zero gives another number. -/
theorem ne_add_value (x : ℚ) (h : m.isZero = false) : x ≠ x + m.value ∧ x ≠ x - m.value := by
  have hvalue : m.value ≠ 0 := fun hzero => Bool.eq_false_iff.1 h (isZero_iff_value.2 hzero)
  exact ⟨fun heq => hvalue (by linarith), fun heq => hvalue (by linarith)⟩

/-- The largest amount swallows forty cents more, and no error says so; so it does with forty cents
less than none. -/
theorem checked_swallows :
    ∃ largest forty : Money, parse "79228162514264337593543950335" = .ok largest ∧
      parse "0.40" = .ok forty ∧
      largest.checkedAdd forty = .ok largest ∧ largest.value ≠ largest.value + forty.value ∧
      largest.checkedSub forty.neg = .ok largest ∧
      largest.value ≠ largest.value - forty.neg.value :=
  ⟨{ amount := { negative := false, mantissa := 2 ^ 96 - 1, scale := 0 } },
    { amount := { negative := false, mantissa := 40, scale := 2 } }, by decide, by decide,
    by decide +kernel, (ne_add_value _ (by decide)).1,
    by decide +kernel, (ne_add_value _ (by decide)).2⟩

/-! ## Products and quotients -/

/-- **What a decimal holds of a number is rounded to four digits as the number itself is**, unless
it misleads. Where a decimal has fewer than four places, the number has no room with four; where it
has just four, it is the outcome; and where it has more, the two roundings are `NearestTo.twice`. -/
theorem rounds_as_held (hd : d.Holds x) (hu : NearestTo (d.value * 10 ^ moneyScale) u)
    (hk : NearestTo (x * 10 ^ moneyScale) k) (hroom : k.natAbs < mantissaBound) :
    u = k ↔ ¬Misleads (x * 10 ^ moneyScale) (d.value * 10 ^ moneyScale) := by
  obtain rfl | ⟨-, places, n, hvalue, hnearest, -, -, hfull⟩ := hd
  · exact ⟨fun _ => not_misleads_self _, fun _ => hu.unique hk⟩
  · rcases Nat.lt_trichotomy places moneyScale with hfew | rfl | hmany
    · exfalso
      obtain hmax | hover := hfull
      · exact absurd (hmax ▸ hfew) (by decide)
      · have hpow : x * 10 ^ moneyScale =
            x * 10 ^ (places + 1) * 10 ^ (moneyScale - (places + 1)) := by
          rw [mul_assoc, ← pow_add, Nat.add_sub_cancel' hfew]
        exact absurd hroom (Nat.not_lt.2 (hover.scaled (hpow ▸ hk)))
    · have hwhole : d.value * 10 ^ moneyScale = n := by
        rw [hvalue]
        exact div_mul_cancel₀ _ (by positivity)
      rw [hwhole] at hu ⊢
      have hun : u = n := hu.unique (nearestTo_intCast n)
      exact ⟨fun _ => not_misleads_intCast _ n, fun _ => hun.trans (hnearest.unique hk)⟩
    · have hparts : Even (10 ^ (places - moneyScale)) :=
        (show Even 10 by decide).pow_of_ne_zero (Nat.sub_ne_zero_of_lt hmany)
      have hpow : (10 : ℚ) ^ places = 10 ^ moneyScale * 10 ^ (places - moneyScale) := by
        rw [← pow_add, Nat.add_sub_cancel' hmany.le]
      have hpart : d.value * 10 ^ moneyScale = n / (10 ^ (places - moneyScale) : ℕ) := by
        have hpos : (10 : ℚ) ^ moneyScale ≠ 0 := by positivity
        rw [hvalue, hpow, mul_comm ((10 : ℚ) ^ moneyScale)]
        push_cast
        field_simp
      rw [hpart] at hu ⊢
      refine NearestTo.twice hparts (Nat.pow_pos (by decide)) ?_ hk hu
      push_cast
      rwa [mul_assoc, ← hpow]

/-- An answer of scaling with the exact result `x`: what a decimal holds of it, rounded to four
digits, or that there is no room for the nearest whole number. Where `x` has room with four digits,
the answer is `x` rounded to them, but for decimals that mislead the second rounding. -/
def Scaled {ε : Type} (x : ℚ) (fault : ε) : Except ε Money → Prop
  | .ok r => ∃ d : Decimal, d.Holds x ∧ NearestTo (d.value * 10 ^ moneyScale) r.units ∧
      ∀ k : ℤ, NearestTo (x * 10 ^ moneyScale) k → k.natAbs < mantissaBound →
        (r.units = k ↔ ¬Misleads (x * 10 ^ moneyScale) (d.value * 10 ^ moneyScale))
  | .error e => e = fault ∧ Overfull x

theorem scaled_of_holds {ε : Type} {fault : ε} (hd : d.Holds x) :
    Scaled x fault (.ok (ofDecimal d)) :=
  ⟨d, hd, nearestTo_units_ofDecimal d,
    fun _ hk hroom => rounds_as_held hd (nearestTo_units_ofDecimal d) hk hroom⟩

/-- **Scaling rounds what a decimal holds of the exact result.** -/
theorem scaling_rounds_twice (m : Money) (f : Decimal) :
    Scaled (m.value * f.value) .multiplication (m.multiply f) ∧
      if f.isZero then m.divide f = .error .divisionByZero
      else Scaled (m.value / f.value) .overflow (m.divide f) := by
  constructor
  · have hmul := Decimal.mul?_outcome m.amount f
    rw [multiply]
    cases hprod : m.amount.mul? f with
    | none =>
      rw [hprod] at hmul
      exact ⟨rfl, hmul⟩
    | some d =>
      rw [hprod] at hmul
      exact scaled_of_holds hmul
  · split
    · next hzero => exact if_pos hzero
    · next hnonzero =>
      have hdiv := Decimal.div?_outcome m.amount (Bool.eq_false_iff.2 hnonzero)
      rw [divide, if_neg hnonzero]
      cases hquot : m.amount.div? f with
      | none =>
        rw [hquot] at hdiv
        exact ⟨rfl, hdiv⟩
      | some d =>
        rw [hquot] at hdiv
        exact scaled_of_holds hdiv

/-- Three ten-thousandths times a little less than a half, or over a little more than two, are
nearest to one ten-thousandth and come out as two: the first rounding makes one and a half of
them. -/
theorem scaling_misled :
    ∃ (m : Money) (half two : Decimal), parse "0.0003" = .ok m ∧
      Decimal.ofText? "0.4999999999999999999999999999" = some half ∧
      Decimal.ofText? "2.0000000000000000000000000001" = some two ∧
      (∃ r, m.multiply half = .ok r ∧ r.units = 2) ∧
      NearestTo (m.value * half.value * 10 ^ moneyScale) 1 ∧
      (∃ r, m.divide two = .ok r ∧ r.units = 2) ∧
      NearestTo (m.value / two.value * 10 ^ moneyScale) 1 := by
  refine ⟨{ amount := { negative := false, mantissa := 3, scale := 4 } },
    { negative := false, mantissa := 5 * 10 ^ 27 - 1, scale := 28 },
    { negative := false, mantissa := 2 * 10 ^ 28 + 1, scale := 28 }, by decide, by decide,
    by decide, ⟨{ amount := { negative := false, mantissa := 2, scale := 4 } },
      by decide +kernel, by decide +kernel⟩, ?_,
    ⟨{ amount := { negative := false, mantissa := 2, scale := 4 } },
      by decide +kernel, by decide +kernel⟩, ?_⟩
  · norm_num [nearestTo_iff, value, Decimal.value, Decimal.signed]
  · norm_num [nearestTo_iff, value, Decimal.value, Decimal.signed]

end Money

end RideLedger
