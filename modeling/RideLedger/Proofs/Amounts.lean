import Mathlib.Algebra.GroupWithZero.Nat
import Mathlib.Algebra.Ring.Int.Defs
import RideLedger.Statement

/-!
# Amounts — exact sums

An amount has at most four fractional digits, so it is a whole number of ten-thousandths, its
`units`. The operations on amounts bring each result to the largest scale that has room for it and
may lose digits there. This file shows when nothing is lost: as long as the units of the result
stay below the bound of the mantissas, a sum is the sum of the units, whatever scales its parts
have and in whatever order they come. A ledger has to hold billions of entries before it leaves
that range (`ledgerCapacity`).
-/

namespace RideLedger

namespace Decimal

variable {a b d : Decimal} {s t : Nat} {m : Int}

/-- Moving to a larger scale multiplies the mantissa. -/
theorem atScale_mul (hd : d.scale ≤ s) (hs : s ≤ t) :
    d.atScale t = d.atScale s * (10 ^ (t - s) : Nat) := by
  have hpow : (10 : Nat) ^ (t - d.scale) = 10 ^ (s - d.scale) * 10 ^ (t - s) := by
    rw [← Nat.pow_add]
    congr 1
    omega
  rw [atScale, atScale, hpow, Int.natCast_mul, Int.mul_assoc]

/-- Two decimals that have a scale keep their places in it when it is reached through the
common one. -/
theorem atScale_common (ha : a.scale ≤ t) (hb : b.scale ≤ t) :
    a.atScale t = a.atScale (commonScale a b) * (10 ^ (t - commonScale a b) : Nat) ∧
      b.atScale t = b.atScale (commonScale a b) * (10 ^ (t - commonScale a b) : Nat) := by
  have hst : commonScale a b ≤ t := Nat.max_le.2 ⟨ha, hb⟩
  exact ⟨atScale_mul (Nat.le_max_left ..) hst, atScale_mul (Nat.le_max_right ..) hst⟩

/-- A decimal that is zero is zero at every scale. -/
theorem atScale_of_isZero (h : a.isZero = true) : a.atScale s = 0 := by
  have hm : a.mantissa = 0 := by simpa [isZero] using h
  simp [atScale, signed, hm]

theorem atScale_neg : a.neg.atScale s = -a.atScale s := by
  cases h : a.negative <;>
    simp only [atScale, signed, neg, h, Bool.not_false, Bool.not_true, Bool.false_eq_true,
      ↓reduceIte, Int.neg_mul, Int.neg_neg]

theorem signed_ofSigned (hm : m.natAbs < mantissaBound) (hs : s ≤ maxScale) :
    (ofSigned m s hm hs).signed = m := by
  simp only [signed, ofSigned, decide_eq_true_eq]
  split <;> omega

/-- A whole mantissa with room at its own scale stays there, and loses nothing. -/
theorem fitSigned?_of_lt (hs : s ≤ maxScale) (hm : m.natAbs < mantissaBound) :
    fitSigned? m s hs = some (ofSigned m s hm hs) := by
  have hsign : (decide (m < 0) && m.natAbs != 0) = decide (m < 0) := by
    by_cases h : m < 0
    · have : m.natAbs ≠ 0 := by omega
      simp [h, this]
    · simp [h]
  cases s with
  | zero => simp [fitSigned?, fit?, hm, hsign, ofSigned]
  | succ s =>
    have hpos : 0 < 10 ^ (s + 1) := Nat.pow_pos (by decide)
    simp [fitSigned?, fit?, nearestEven_mul_right m.natAbs hpos, hm, hsign, ofSigned]

/-- A mantissa that has room at a larger scale has room at a smaller one. -/
theorem natAbs_lt_of_mul_lt {k : Nat} (h : (m * (10 ^ k : Nat)).natAbs < mantissaBound) :
    m.natAbs < mantissaBound := by
  rw [Int.natAbs_mul, Int.natAbs_natCast] at h
  exact Nat.lt_of_le_of_lt (Nat.le_mul_of_pos_right _ (Nat.pow_pos (by decide))) h

/-- A result that has room at a scale above the common one fits at the common one. -/
theorem fitSigned?_exact (hs : s ≤ maxScale) (hst : s ≤ t)
    (h : (m * (10 ^ (t - s) : Nat)).natAbs < mantissaBound) :
    ∃ c, fitSigned? m s hs = some c ∧ c.scale ≤ t ∧
      c.atScale t = m * (10 ^ (t - s) : Nat) := by
  have hm := natAbs_lt_of_mul_lt h
  refine ⟨ofSigned m s hm hs, fitSigned?_of_lt hs hm, hst, ?_⟩
  rw [atScale, signed_ofSigned]
  rfl

/-- **A sum with room is exact.** -/
theorem add?_exact (ha : a.scale ≤ t) (hb : b.scale ≤ t)
    (h : (a.atScale t + b.atScale t).natAbs < mantissaBound) :
    ∃ c, a.add? b = some c ∧ c.scale ≤ t ∧ c.atScale t = a.atScale t + b.atScale t := by
  rw [add?]
  split
  · next hza => exact ⟨b, rfl, hb, by rw [atScale_of_isZero hza]; omega⟩
  · split
    · next hzb => exact ⟨a, rfl, ha, by rw [atScale_of_isZero hzb]; omega⟩
    · -- the sum is formed at the common scale, and there it is a smaller number still
      obtain ⟨haeq, hbeq⟩ := atScale_common ha hb
      rw [haeq, hbeq, ← Int.add_mul] at h ⊢
      exact fitSigned?_exact _ (Nat.max_le.2 ⟨ha, hb⟩) h

/-- **So is a difference.** -/
theorem sub?_exact (ha : a.scale ≤ t) (hb : b.scale ≤ t)
    (h : (a.atScale t - b.atScale t).natAbs < mantissaBound) :
    ∃ c, a.sub? b = some c ∧ c.scale ≤ t ∧ c.atScale t = a.atScale t - b.atScale t := by
  rw [sub?]
  split
  · next hza =>
    refine ⟨_, rfl, ?_, ?_⟩
    · split <;> exact hb
    · rw [atScale_of_isZero hza]
      split
      · next hzb => rw [atScale_of_isZero hzb]; rfl
      · rw [atScale_neg]; omega
  · split
    · next hzb => exact ⟨a, rfl, ha, by rw [atScale_of_isZero hzb]; omega⟩
    · obtain ⟨haeq, hbeq⟩ := atScale_common ha hb
      rw [haeq, hbeq, ← Int.sub_mul] at h ⊢
      exact fitSigned?_exact _ (Nat.max_le.2 ⟨ha, hb⟩) h

/-- Two decimals compare as their mantissas do at any scale that both have. -/
theorem compare_eq (ha : a.scale ≤ t) (hb : b.scale ≤ t) :
    a.compare b = Ord.compare (a.atScale t) (b.atScale t) := by
  obtain ⟨haeq, hbeq⟩ := atScale_common ha hb
  have hpos : (0 : Int) < (10 ^ (t - commonScale a b) : Nat) :=
    Int.natCast_pos.2 (Nat.pow_pos (by decide))
  rw [compare, haeq, hbeq]
  rcases Int.lt_trichotomy (a.atScale (commonScale a b)) (b.atScale (commonScale a b))
    with hlt | heq | hgt
  · rw [Std.compare_eq_lt.2 hlt, Std.compare_eq_lt.2 (Int.mul_lt_mul_of_pos_right hlt hpos)]
  · rw [heq, Std.compare_self, Std.compare_self]
  · rw [Std.compare_eq_gt.2 hgt, Std.compare_eq_gt.2 (Int.mul_lt_mul_of_pos_right hgt hpos)]

end Decimal

namespace Money

variable {a b : Money} {ms : List Money}

/-- The ten-thousandths of an amount. -/
def units (m : Money) : Int := m.amount.atScale moneyScale

@[simp] theorem units_zero : zero.units = 0 := rfl

/-- Rounding to four digits leaves a decimal alone that has no more. -/
theorem ofDecimal_amount {d : Decimal} (h : d.scale ≤ moneyScale) : (ofDecimal d).amount = d := by
  simp only [ofDecimal, Decimal.round, h, ↓reduceDIte]

theorem ofDecimal_self (m : Money) : ofDecimal m.amount = m := by
  cases m with
  | mk amount hscale => simp only [ofDecimal, Decimal.round, hscale, ↓reduceDIte]

theorem units_ofDecimal {d : Decimal} (h : d.scale ≤ moneyScale) :
    (ofDecimal d).units = d.atScale moneyScale := by
  rw [units, ofDecimal_amount h]

/-- **A sum of two amounts with room is exact.** -/
theorem add_exact (h : (a.units + b.units).natAbs < Decimal.mantissaBound) :
    ∃ c, a.add b = .ok c ∧ c.units = a.units + b.units := by
  obtain ⟨c, hc, hscale, hunits⟩ := Decimal.add?_exact a.scale_le b.scale_le h
  exact ⟨ofDecimal c, by rw [add, hc]; rfl, by rw [units_ofDecimal hscale, hunits]; rfl⟩

/-- **And a difference.** -/
theorem sub_exact (h : (a.units - b.units).natAbs < Decimal.mantissaBound) :
    ∃ c, a.sub b = .ok c ∧ c.units = a.units - b.units := by
  obtain ⟨c, hc, hscale, hunits⟩ := Decimal.sub?_exact a.scale_le b.scale_le h
  exact ⟨ofDecimal c, by rw [sub, hc]; rfl, by rw [units_ofDecimal hscale, hunits]; rfl⟩

theorem units_abs (m : Money) : m.abs.units = m.units.natAbs := by
  have hsigned : m.amount.signed.natAbs = m.amount.mantissa := by
    unfold Decimal.signed
    split <;> simp
  have habs : m.amount.abs.signed = m.amount.mantissa := rfl
  rw [units, units, abs, Decimal.atScale, Decimal.atScale, Int.natAbs_mul, hsigned, habs]
  rfl

theorem natAbs_units (m : Money) :
    m.units.natAbs = m.amount.mantissa * 10 ^ (moneyScale - m.amount.scale) := by
  rw [← Int.natCast_inj, ← units_abs]
  rfl

/-- The opposite amount has the opposite units. -/
theorem units_neg (m : Money) : m.neg.units = -m.units := by
  rw [neg, units_ofDecimal (d := m.amount.neg) m.scale_le, Decimal.atScale_neg, units]

/-- Equality of value is equality of the units. -/
theorem sameValue_iff : a.sameValue b = true ↔ a.units = b.units := by
  rw [sameValue, Decimal.sameValue, Decimal.compare_eq a.scale_le b.scale_le, beq_iff_eq,
    Std.compare_eq_iff_eq]
  rfl

/-- An amount is above zero when its units are. -/
theorem isPositive_iff : a.isPositive = true ↔ 0 < a.units := by
  have hpow : (0 : Int) < (10 ^ (moneyScale - a.amount.scale) : Nat) :=
    Int.natCast_pos.2 (Nat.pow_pos (by decide))
  have hsigned : 0 < a.units ↔ 0 < a.amount.signed :=
    ⟨fun h => Int.pos_of_mul_pos_left h hpow, fun h => Int.mul_pos h hpow⟩
  rw [hsigned, isPositive, Decimal.signed]
  cases hneg : a.amount.negative
  · simp only [Decimal.isZero, Bool.false_eq_true, ↓reduceIte, Bool.not_false, Bool.true_and,
      Bool.not_eq_true', beq_eq_false_iff_ne]
    omega
  · simp only [Bool.not_true, Bool.false_and, Bool.false_eq_true, ↓reduceIte, false_iff]
    omega

/-- And below zero when they are. -/
theorem isNegative_iff : a.isNegative = true ↔ a.units < 0 := by
  have hopposite : a.neg.isPositive = a.isNegative := by
    rw [isPositive, neg, ofDecimal_amount (d := a.amount.neg) a.scale_le, Decimal.neg,
      Bool.not_not]
    rfl
  rw [← hopposite, isPositive_iff, units_neg]
  omega

/-- An amount is zero when it has no units, whatever its scale or sign. -/
theorem isZero_iff : a.isZero = true ↔ a.units = 0 := by
  have hpow : 10 ^ (moneyScale - a.amount.scale) ≠ 0 := Nat.ne_of_gt (Nat.pow_pos (by decide))
  rw [← Int.natAbs_eq_zero, natAbs_units, Nat.mul_eq_zero, or_iff_left hpow, isZero,
    Decimal.isZero, beq_iff_eq]

/-! ## Sums of lists -/

/-- The units of a list of amounts, added up. -/
def totalUnits (ms : List Money) : Int := (ms.map units).sum

/-- The size of a list of amounts: their units added up, signs left out. -/
def grossUnits (ms : List Money) : Nat := (ms.map fun m => m.units.natAbs).sum

@[simp] theorem totalUnits_nil : totalUnits [] = 0 := rfl

@[simp] theorem totalUnits_cons : totalUnits (a :: ms) = a.units + totalUnits ms := by
  simp [totalUnits]

@[simp] theorem grossUnits_cons : grossUnits (a :: ms) = a.units.natAbs + grossUnits ms := by
  simp [grossUnits]

theorem totalUnits_append {ms' : List Money} :
    totalUnits (ms ++ ms') = totalUnits ms + totalUnits ms' := by
  simp [totalUnits]

theorem grossUnits_append {ms' : List Money} :
    grossUnits (ms ++ ms') = grossUnits ms + grossUnits ms' := by
  simp [grossUnits]

/-- The total does not depend on the order. -/
theorem totalUnits_perm {ms' : List Money} (h : ms.Perm ms') : totalUnits ms = totalUnits ms' := by
  induction h with
  | nil => rfl
  | cons m _ ih => rw [totalUnits_cons, totalUnits_cons, ih]
  | swap m m' rest =>
    simp only [totalUnits_cons]
    omega
  | trans _ _ ih ih' => exact ih.trans ih'

/-- Nor does the size. -/
theorem grossUnits_perm {ms' : List Money} (h : ms.Perm ms') : grossUnits ms = grossUnits ms' := by
  rw [grossUnits, grossUnits, (h.map _).sum_nat]

/-- The units of selected items, as a sum over all items. -/
theorem totalUnits_filter {α : Type} {l : List α} {p : α → Bool} {amount : α → Money} :
    totalUnits ((l.filter p).map amount) =
      (l.map fun a => if p a then (amount a).units else 0).sum := by
  induction l with
  | nil => rfl
  | cons a rest ih => by_cases ha : p a <;> simp [ha, ih]

/-- Some amounts of a list have no larger a size than all of them. -/
theorem grossUnits_le_of_sublist {ms' : List Money} (h : ms'.Sublist ms) :
    grossUnits ms' ≤ grossUnits ms := by
  induction h with
  | slnil => exact Nat.le_refl 0
  | cons m _ ih =>
    rw [grossUnits_cons]
    omega
  | cons_cons m _ ih =>
    rw [grossUnits_cons, grossUnits_cons]
    omega

/-- The total is no larger than the size. -/
theorem natAbs_totalUnits_le : (totalUnits ms).natAbs ≤ grossUnits ms := by
  induction ms with
  | nil => exact Nat.le_refl 0
  | cons m ms ih =>
    rw [totalUnits_cons, grossUnits_cons]
    omega

/-- Adding a list to an amount is exact while the amount and the list's size together have
room: every sum on the way has. -/
theorem foldlM_add_exact (h : a.units.natAbs + grossUnits ms < Decimal.mantissaBound) :
    ∃ c, ms.foldlM add a = .ok c ∧ c.units = a.units + totalUnits ms := by
  induction ms generalizing a with
  | nil => exact ⟨a, rfl, by simp⟩
  | cons m ms ih =>
    rw [grossUnits_cons] at h
    obtain ⟨b, hb, hbunits⟩ := add_exact (a := a) (b := m) (by omega)
    obtain ⟨c, hc, hcunits⟩ := ih (a := b) (by omega)
    refine ⟨c, ?_, ?_⟩
    · rw [List.foldlM_cons, hb]
      exact hc
    · rw [hcunits, hbunits, totalUnits_cons, Int.add_assoc]

/-- **The sum of a list with room is exact.** -/
theorem sum_exact (h : grossUnits ms < Decimal.mantissaBound) :
    ∃ c, sum ms = .ok c ∧ c.units = totalUnits ms := by
  have hzero : zero.units.natAbs + grossUnits ms < Decimal.mantissaBound := by simpa using h
  obtain ⟨c, hc, hunits⟩ := foldlM_add_exact hzero
  exact ⟨c, hc, by simpa using hunits⟩

/-- The sum of one amount is that amount. -/
theorem sum_singleton (m : Money) : sum [m] = .ok m := by
  have hadd : zero.add m = .ok (ofDecimal m.amount) := rfl
  rw [sum, List.foldlM_cons, hadd, ofDecimal_self]
  rfl

/-- Taking nothing off an amount that is not zero leaves it as it is. -/
theorem sub_zero {m : Money} (h : m.isZero = false) : m.sub zero = .ok m := by
  have hamount : ¬m.amount.isZero = true := by simpa [isZero] using h
  have hzero : zero.amount.isZero = true := rfl
  rw [sub, Decimal.sub?, if_neg hamount, if_pos hzero]
  exact congrArg Except.ok (ofDecimal_self m)

end Money

/-! ## The capacity of a ledger -/

/-- The largest amount of an entry, in ten-thousandths. -/
def maxEntryUnits : Nat := 10 ^ 19 - 1

/-- The number of largest entries whose sum has room. -/
def ledgerCapacity : Nat := 7922816251

theorem ledgerCapacity_spec :
    ledgerCapacity * maxEntryUnits < Decimal.mantissaBound ∧
      Decimal.mantissaBound ≤ (ledgerCapacity + 1) * maxEntryUnits := by
  decide

/-- An amount is not above the largest one when it has at most its units. -/
theorem Money.not_lt_iff {m : Money} :
    maxEntryAmount.lt m.amount = false ↔ m.units ≤ maxEntryUnits := by
  have hmax : maxEntryAmount.scale ≤ moneyScale := by decide
  rw [Decimal.lt, Decimal.compare_eq hmax m.scale_le, beq_eq_false_iff_ne, ne_eq,
    Std.compare_eq_lt, Int.not_lt]
  rfl

theorem Money.units_le_of_not_lt {m : Money} (h : maxEntryAmount.lt m.amount = false) :
    m.units ≤ maxEntryUnits :=
  Money.not_lt_iff.1 h

end RideLedger
