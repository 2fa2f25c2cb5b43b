import RideLedger.Proofs.Nearest
import RideLedger.Proofs.Shown

/-!
# Displayed — what is shown of an amount, and of its rounding

An amount is shown with its whole cents, what is beyond them cut off, behind a mark that shows the
sign of its decimal, of zero as well (`Money.toList_display`). The text tells both: the cents are
the value of its digits, and the mark is what stands in front of them (`Money.display_eq_iff`).

So an amount is shown as its rounding to whole cents is only where cutting off comes to the nearest
cent, and where the minus sign of a decimal is not lost in rounding. Two amounts of one value are
shown differently only if they are zeros with different signs (`display_cutsOff`).
-/

namespace RideLedger

/-! ## Amounts as shown -/

/-- A quotient is rounded alike in smaller parts. -/
theorem nearestEven_mul_mul (num den : Nat) {c : Nat} (hc : 0 < c) :
    nearestEven (num * c) (den * c) = nearestEven num den := by
  simp only [nearestEven, Nat.mul_div_mul_right _ _ hc, Nat.mul_mod_mul_right, ← Nat.mul_assoc,
    Nat.mul_lt_mul_right hc]

/-- The digits of a number with a point have its value. -/
theorem Decimal.ofDigitChars_pointed (k : Nat) :
    Nat.ofDigitChars 10 ((pointed k 2).toList.filter Char.isDigit) 0 = k := by
  have hall (n width : Nat) :
      (padded n width).toList.filter Char.isDigit = (padded n width).toList :=
    List.filter_eq_self.2 fun _ => isDigit_of_mem_padded
  have hpoint : ¬Char.isDigit '.' = true := by decide
  rw [toList_pointed k Nat.zero_lt_two, List.filter_append, List.filter_cons_of_neg hpoint, hall,
    hall, Nat.ofDigitChars_append, ofDigitChars_padded,
    ofDigitChars_padded_from _ _ Nat.zero_lt_two (Nat.mod_lt _ (by decide))]
  exact Nat.div_add_mod k _

namespace Money

variable {a b m : Money}

/-- What is shown in front of the digits: the dollar sign, and the minus sign before it, or behind
it if the amount is zero. -/
def mark (m : Money) : List Char :=
  if m.isNegative then ['-', '$'] else if m.amount.negative then ['$', '-'] else ['$']

/-- **An amount is shown with its mark and its whole cents.** -/
theorem toList_display (m : Money) :
    m.display.toList = m.mark ++ (Decimal.pointed m.cents 2).toList := by
  have habs : m.amount.abs.truncatedText 2 = Decimal.pointed m.cents 2 :=
    congrArg (Decimal.pointed · 2) m.shown_eq_cents.1
  have hown : m.amount.truncatedText 2 =
      Decimal.withSign m.amount.negative (Decimal.pointed m.cents 2) :=
    congrArg (fun k => Decimal.withSign _ (Decimal.pointed k 2)) m.shown_eq_cents.1
  rw [display, mark]
  split
  · rw [habs, String.toList_append]
    rfl
  · rw [hown, String.toList_append, Decimal.withSign]
    split
    · rw [String.toList_append]
      rfl
    · rfl

/-- The cents shown are the value of the digits shown. -/
theorem ofDigitChars_display (m : Money) :
    Nat.ofDigitChars 10 (m.display.toList.filter Char.isDigit) 0 = m.cents := by
  have hmark : m.mark.filter Char.isDigit = [] := by
    unfold mark
    split
    · rfl
    · split <;> rfl
  rw [toList_display, List.filter_append, hmark, List.nil_append, Decimal.ofDigitChars_pointed]

/-- The mark tells whether an amount is below zero, and whether its decimal has a minus sign. -/
theorem mark_eq_iff : a.mark = b.mark ↔
    a.isNegative = b.isNegative ∧ a.amount.negative = b.amount.negative := by
  unfold mark isNegative
  cases a.amount.negative <;> cases b.amount.negative <;> cases a.amount.isZero <;>
    cases b.amount.isZero <;> decide

/-- **What is shown of two amounts is the same if mark and cents are.** -/
theorem display_eq_iff : a.display = b.display ↔ a.mark = b.mark ∧ a.cents = b.cents := by
  constructor
  · intro h
    have hcents : a.cents = b.cents := by
      rw [← ofDigitChars_display, h, ofDigitChars_display]
    have htext : a.display.toList = b.display.toList := congrArg String.toList h
    rw [toList_display, toList_display, hcents] at htext
    exact ⟨List.append_cancel_right htext, hcents⟩
  · rintro ⟨hmark, hcents⟩
    rw [← String.toList_inj, toList_display, toList_display, hmark, hcents]

/-! ## Rounding to cents -/

/-- An amount with at most two places is not rounded. -/
theorem roundToCents_of_le (h : m.amount.scale ≤ 2) : m.roundToCents = m := by
  rw [roundToCents, (m.amount.round_roundsTo 2).same h, ofDecimal_self]

/-- An amount with more places is rounded to the nearest whole number of cents, and its sign is
lost if this is zero. -/
theorem roundToCents_of_lt (h : 2 < m.amount.scale) :
    m.roundToCents.cents = nearestEven m.units.natAbs 100 ∧
      m.roundToCents.amount.negative = (m.amount.negative && m.roundToCents.cents != 0) ∧
      m.roundToCents.isNegative = m.roundToCents.amount.negative := by
  have hround := m.amount.round_roundsTo 2
  have hamount : m.roundToCents.amount = m.amount.round 2 :=
    ofDecimal_amount ((m.amount.round_scale_le 2).trans (by decide))
  have hcents : m.roundToCents.cents = m.roundToCents.amount.mantissa := by
    rw [cents, natAbs_units, hamount, hround.scale h]
    exact Nat.mul_div_cancel _ (by decide)
  have hnearest : m.roundToCents.cents = nearestEven m.units.natAbs 100 := by
    have hhundred : 100 = 10 ^ (m.amount.scale - 2) * 10 ^ (4 - m.amount.scale) := by
      have hplaces : m.amount.scale - 2 + (4 - m.amount.scale) = 2 := by
        have : m.amount.scale ≤ 4 := m.scale_le
        omega
      rw [← Nat.pow_add, hplaces]
    rw [hcents, hamount, natAbs_units, hhundred, nearestEven_mul_mul _ _ (Nat.pow_pos (by decide))]
    exact (isNearestEven_iff_eq (Nat.pow_pos (by decide))).1 (hround.mantissa h)
  refine ⟨hnearest, ?_, ?_⟩
  · rw [hcents, hamount]
    exact hround.sign h
  · rw [isNegative, Decimal.isZero, hamount, hround.sign h]
    cases m.amount.negative <;> cases hzero : (m.amount.round 2).mantissa == 0 <;> simp_all

/-- The cents of an amount with at most two places are exact. -/
theorem isNearestEven_cents_of_le (h : m.amount.scale ≤ 2) :
    IsNearestEven m.units.natAbs 100 m.cents := by
  have hwhole : m.units.natAbs = m.cents * 100 := by
    have hplaces : 4 - m.amount.scale = 2 - m.amount.scale + 2 := by omega
    rw [cents, natAbs_units, hplaces, Nat.pow_add, ← Nat.mul_assoc]
    exact (congrArg (· * 100) (Nat.mul_div_cancel _ (Nat.succ_pos 99))).symm
  rw [isNearestEven_iff_eq (by decide), hwhole, nearestEven_mul_right _ (by decide)]

/-- **An amount is shown as its rounding to cents is** where its cents are the nearest ones, and the
minus sign, if there is one, stays. -/
theorem display_roundToCents_iff (m : Money) : m.display = m.roundToCents.display ↔
    IsNearestEven m.units.natAbs 100 m.cents ∧
      (m.amount.negative = true → m.amount.scale ≤ 2 ∨ 0 < m.cents) := by
  rcases Nat.lt_or_ge 2 m.amount.scale with hmore | hscale
  · obtain ⟨hnearest, hsign, hbelow⟩ := roundToCents_of_lt hmore
    have hzero : m.amount.isZero = true → m.cents = 0 := by
      intro hzero
      rw [cents, units, Decimal.atScale_of_isZero hzero]
      rfl
    rw [display_eq_iff, mark_eq_iff, hbelow, hsign, isNearestEven_iff_eq (by decide), ← hnearest]
    constructor
    · rintro ⟨⟨-, hneg⟩, hcents⟩
      refine ⟨hcents, fun h => .inr ?_⟩
      rw [h, Bool.true_and, ← hcents] at hneg
      exact Nat.pos_of_ne_zero (by simpa using hneg.symm)
    · rintro ⟨hcents, hpos⟩
      rw [← hcents, isNegative]
      cases hneg : m.amount.negative with
      | false => exact ⟨⟨rfl, rfl⟩, rfl⟩
      | true =>
        have hsome : 0 < m.cents := (hpos hneg).resolve_left (Nat.not_le.2 hmore)
        have hnonzero : m.amount.isZero = false :=
          Bool.eq_false_iff.2 fun h => hsome.ne' (hzero h)
        simp [hnonzero, hsome.ne']
  · rw [roundToCents_of_le hscale]
    exact ⟨fun _ => ⟨isNearestEven_cents_of_le hscale, fun _ => .inl hscale⟩, fun _ => rfl⟩

/-- **Amounts of one value are shown alike, but for zeros with different signs.** -/
theorem sameValue_display_ne_iff : a.sameValue b = true ∧ a.display ≠ b.display ↔
    a.isZero = true ∧ b.isZero = true ∧ a.amount.negative ≠ b.amount.negative := by
  rw [sameValue_iff, ne_eq, display_eq_iff, mark_eq_iff, isZero_iff, isZero_iff]
  constructor
  · rintro ⟨hunits, hne⟩
    have hcents : a.cents = b.cents := by rw [cents, cents, hunits]
    have hbelow : a.isNegative = b.isNegative := by
      rw [Bool.eq_iff_iff, isNegative_iff, isNegative_iff, hunits]
    have hsign : a.amount.negative ≠ b.amount.negative := fun h => hne ⟨⟨hbelow, h⟩, hcents⟩
    suffices ha : a.units = 0 from ⟨ha, hunits ▸ ha, hsign⟩
    -- below zero both have a minus sign, and else only a zero has one
    cases hneg : a.isNegative with
    | true =>
      have hminus (m : Money) (h : m.isNegative = true) : m.amount.negative = true :=
        ((Bool.and_eq_true ..).mp h).1
      exact absurd ((hminus a hneg).trans (hminus b (hbelow ▸ hneg)).symm) hsign
    | false =>
      cases ha : a.amount.negative with
      | true => exact isZero_iff.1 (isZero_of_negative hneg ha)
      | false =>
        have hb : b.amount.negative = true := by
          cases hb : b.amount.negative
          · exact absurd (ha.trans hb.symm) hsign
          · rfl
        exact hunits.trans (isZero_iff.1 (isZero_of_negative (hbelow ▸ hneg) hb))
  · rintro ⟨ha, hb, hsign⟩
    exact ⟨ha.trans hb.symm, fun h => hsign h.1.2⟩

end Money

/-- **An amount is shown with what is beyond its cents cut off**, and not rounded; amounts of one
value are shown differently if they are zeros with different signs. -/
theorem display_cutsOff (m a b : Money) :
    m.display.toList = m.mark ++ (Decimal.pointed (m.units.natAbs / 100) 2).toList ∧
      (m.display = m.roundToCents.display ↔
        IsNearestEven m.units.natAbs 100 (m.units.natAbs / 100) ∧
          (m.amount.negative = true → m.amount.scale ≤ 2 ∨ 0 < m.units.natAbs / 100)) ∧
      (a.sameValue b = true ∧ a.display ≠ b.display ↔
        a.isZero = true ∧ b.isZero = true ∧ a.amount.negative ≠ b.amount.negative) :=
  ⟨m.toList_display, m.display_roundToCents_iff, Money.sameValue_display_ne_iff⟩

/-- Fifteen dollars and six tenths of a cent are shown as `$15.00`, and rounded to cents as
`$15.01`. Zero and its opposite are equal in value and shown as `$0.00` and `$-0.00`. -/
theorem display_notRounded :
    (∃ m, Money.parse "15.006" = .ok m ∧ m.display = "$15.00" ∧
      m.roundToCents.display = "$15.01") ∧
    Money.zero.sameValue Money.zero.neg = true ∧ Money.zero.display = "$0.00" ∧
      Money.zero.neg.display = "$-0.00" :=
  ⟨⟨{ amount := { negative := false, mantissa := 15006, scale := 3 } }, by decide, by decide,
    by decide⟩, by decide, by decide, by decide⟩

end RideLedger
