import Mathlib.Algebra.Field.Rat
import Mathlib.Algebra.Order.Field.Basic
import Mathlib.Algebra.Order.Field.Rat
import Mathlib.Algebra.Ring.Int.Parity
import Mathlib.Tactic.FieldSimp
import Mathlib.Tactic.Linarith
import Mathlib.Tactic.Ring
import RideLedger.Decimal.Basic

/-!
# Nearest — rounding, and rounding once more

The nearest whole number to a rational one, of two equally near the even one, is unique, and not
smaller for a larger number (`NearestTo.le`). What the operations on decimals round is a quotient of
natural numbers with a sign in front (`nearestTo_ratio`).

A number may be rounded to some fraction of one first, and the outcome to a whole number then. This
comes to the nearest whole number but in one case (`NearestTo.twice`): the first rounding gives a
half that the number itself is not, and the number lies on the side of the odd neighbour
(`Misleads`).
-/

namespace RideLedger

/-! ## Amounts -/

/-- A whole number nearest to `num / den`; of two equally near, the even one. -/
def IsNearestEven (num den nearest : Nat) : Prop :=
  2 * ((num : Int) - nearest * den).natAbs ≤ den ∧
    (2 * ((num : Int) - nearest * den).natAbs = den → nearest % 2 = 0)

theorem nearestEven_isNearestEven (num : Nat) {den : Nat} (h : 0 < den) :
    IsNearestEven num den (nearestEven num den) := by
  have hdivision : (num : Int) = (num / den : Nat) * den + (num % den : Nat) := by
    rw [Int.mul_comm]
    exact_mod_cast (Nat.div_add_mod num den).symm
  have hrest : num % den < den := Nat.mod_lt num h
  have hdown : (num : Int) - (num / den : Nat) * den = (num % den : Nat) := by omega
  have hup : (num : Int) - (num / den + 1 : Nat) * den = (num % den : Nat) - den := by
    rw [Int.natCast_add, Int.add_mul]
    omega
  simp only [nearestEven, IsNearestEven]
  split
  · rw [hdown]
    omega
  · split
    · rw [hup]
      omega
    · split
      · rw [hdown]
        omega
      · rw [hup]
        omega

namespace Decimal

/-- A decimal with at most some fractional digits, rounded to them, a half to the even
neighbour. -/
structure RoundsTo (d : Decimal) (places : Nat) (r : Decimal) : Prop where
  /-- A decimal without further digits stays as it is. -/
  same : d.scale ≤ places → r = d
  scale : places < d.scale → r.scale = places
  mantissa : places < d.scale → IsNearestEven d.mantissa (10 ^ (d.scale - places)) r.mantissa
  /-- The sign stays, but zero gets none. -/
  sign : places < d.scale → r.negative = (d.negative && r.mantissa != 0)

theorem round_roundsTo (d : Decimal) (places : Nat) : d.RoundsTo places (d.round places) := by
  by_cases h : d.scale ≤ places
  · have hsame : d.round places = d := dif_pos h
    rw [hsame]
    exact ⟨fun _ => rfl, fun hmore => absurd h (Nat.not_le.2 hmore),
      fun hmore => absurd h (Nat.not_le.2 hmore), fun hmore => absurd h (Nat.not_le.2 hmore)⟩
  · rw [round, dif_neg h]
    exact ⟨fun hless => absurd hless h, fun _ => rfl,
      fun _ => nearestEven_isNearestEven _ (Nat.pow_pos (by decide)), fun _ => rfl⟩

end Decimal

/-! ## Rational numbers -/

/-- A whole number nearest to `x`; of two equally near, the even one. -/
structure NearestTo (x : ℚ) (k : ℤ) : Prop where
  near : |x - k| ≤ 1 / 2
  even : |x - k| = 1 / 2 → Even k

variable {x y : ℚ} {k l n : ℤ}

/-- The numbers that are rounded to a whole number, and the two halves among them. -/
theorem nearestTo_iff : NearestTo x k ↔
    (k : ℚ) - 1 / 2 ≤ x ∧ x ≤ k + 1 / 2 ∧ (x = k - 1 / 2 ∨ x = k + 1 / 2 → Even k) := by
  have hhalf : |x - k| = 1 / 2 ↔ x = k - 1 / 2 ∨ x = k + 1 / 2 := by
    rw [abs_eq (by norm_num)]
    constructor
    · rintro (h | h)
      · right; linarith
      · left; linarith
    · rintro (h | h)
      · right; linarith
      · left; linarith
  have hnear : |x - k| ≤ 1 / 2 ↔ (k : ℚ) - 1 / 2 ≤ x ∧ x ≤ k + 1 / 2 := by
    rw [abs_le]
    constructor
    · rintro ⟨hlow, hhigh⟩
      constructor <;> linarith
    · rintro ⟨hlow, hhigh⟩
      constructor <;> linarith
  constructor
  · rintro ⟨near, even⟩
    exact ⟨(hnear.1 near).1, (hnear.1 near).2, fun h => even (hhalf.2 h)⟩
  · rintro ⟨hlow, hhigh, heven⟩
    exact ⟨hnear.2 ⟨hlow, hhigh⟩, fun h => heven (hhalf.1 h)⟩

/-- **A larger number is not rounded to a smaller one.** Where the roundings crossed, both numbers
would be the half between two neighbours, and both neighbours even. -/
theorem NearestTo.le (hx : NearestTo x k) (hy : NearestTo y l) (h : x ≤ y) : k ≤ l := by
  obtain ⟨hxlow, hxhigh, hxeven⟩ := nearestTo_iff.1 hx
  obtain ⟨hylow, hyhigh, hyeven⟩ := nearestTo_iff.1 hy
  by_contra hlt
  have hsucc : l + 1 ≤ k := by omega
  have hcast : (l : ℚ) + 1 ≤ k := by exact_mod_cast hsucc
  have hk : (k : ℚ) = l + 1 := by linarith
  obtain ⟨a, ha⟩ := hxeven (.inl (by linarith))
  obtain ⟨b, hb⟩ := hyeven (.inr (by linarith))
  have hkl : k = l + 1 := by exact_mod_cast hk
  omega

/-- A number has one rounding. -/
theorem NearestTo.unique (hx : NearestTo x k) (hl : NearestTo x l) : k = l :=
  le_antisymm (hx.le hl le_rfl) (hl.le hx le_rfl)

/-- A whole number is its own rounding. -/
theorem nearestTo_intCast (k : ℤ) : NearestTo (k : ℚ) k :=
  ⟨by norm_num, fun h => by norm_num at h⟩

theorem nearestTo_zero : NearestTo 0 0 := by simpa using nearestTo_intCast 0

/-- The rounding of the opposite number is the opposite one. -/
theorem NearestTo.neg (h : NearestTo x k) : NearestTo (-x) (-k) := by
  have hdist : |-x - (-k : ℤ)| = |x - k| := by
    rw [← abs_neg]
    congr 1
    push_cast
    ring
  exact ⟨hdist ▸ h.near, fun hhalf => (h.even (hdist ▸ hhalf)).neg⟩

/-- What is rounded to at most an even number lies at most half above it: the half between goes to
the even side. -/
theorem NearestTo.le_iff_of_even (hk : NearestTo x k) (hl : Even l) : k ≤ l ↔ x ≤ l + 1 / 2 := by
  constructor
  · intro hle
    obtain ⟨-, hhigh, -⟩ := nearestTo_iff.1 hk
    have hcast : (k : ℚ) ≤ l := by exact_mod_cast hle
    linarith
  · intro hle
    exact hk.le (nearestTo_iff.2 ⟨by linarith, le_rfl, fun _ => hl⟩) hle

/-- What is rounded to zero is at most a half in size. -/
theorem NearestTo.eq_zero_iff (hk : NearestTo x k) : k = 0 ↔ |x| ≤ 1 / 2 := by
  constructor
  · rintro rfl
    simpa using hk.near
  · intro hsmall
    exact hk.unique ⟨by simpa using hsmall, fun _ => Even.zero⟩

/-- The nearest whole number to a quotient. -/
theorem isNearestEven_iff {num den nearest : Nat} (hden : 0 < den) :
    IsNearestEven num den nearest ↔ NearestTo (num / den) nearest := by
  have hpos : (0 : ℚ) < den := by exact_mod_cast hden
  have hdist : (2 * ((num : Int) - nearest * den).natAbs : ℚ) =
      2 * |(num : ℚ) / den - nearest| * den := by
    have hquot : (num : ℚ) / den - nearest = (num - nearest * den) / den := by
      field_simp
    rw [hquot, abs_div, abs_of_pos hpos, mul_assoc, div_mul_cancel₀ _ hpos.ne',
      Nat.cast_natAbs]
    push_cast
    rfl
  have hle : 2 * ((num : Int) - nearest * den).natAbs ≤ den ↔
      |(num : ℚ) / den - (nearest : ℤ)| ≤ 1 / 2 := by
    rw [← Nat.cast_le (α := ℚ)]
    push_cast
    rw [hdist]
    constructor
    · intro h
      nlinarith
    · intro h
      nlinarith
  have heq : 2 * ((num : Int) - nearest * den).natAbs = den ↔
      |(num : ℚ) / den - (nearest : ℤ)| = 1 / 2 := by
    rw [← Nat.cast_inj (R := ℚ)]
    push_cast
    rw [hdist]
    constructor
    · intro h
      have := mul_right_cancel₀ hpos.ne' (h.trans (one_mul _).symm)
      linarith
    · intro h
      rw [h]
      ring
  have heven : nearest % 2 = 0 ↔ Even (nearest : ℤ) := by
    rw [Int.even_coe_nat, Nat.even_iff]
  rw [IsNearestEven, hle, heq, heven]
  exact ⟨fun ⟨near, even⟩ => ⟨near, even⟩, fun ⟨near, even⟩ => ⟨near, even⟩⟩

/-- A quotient with a sign in front. -/
def ratio (negative : Bool) (num den : Nat) : ℚ :=
  if negative then -(num / den : ℚ) else num / den

theorem ratio_mul_pow (negative : Bool) (num den s : Nat) :
    ratio negative num den * 10 ^ s = ratio negative (num * 10 ^ s) den := by
  unfold ratio
  push_cast
  split <;> ring

/-- **Rounding a quotient and putting the sign in front rounds the signed quotient.** -/
theorem nearestTo_ratio (negative : Bool) (num : Nat) {den : Nat} (hden : 0 < den) :
    NearestTo (ratio negative num den)
      (if negative then -(nearestEven num den : ℤ) else nearestEven num den) := by
  have h := (isNearestEven_iff hden).1 (nearestEven_isNearestEven num hden)
  cases negative with
  | false => exact h
  | true => exact h.neg

/-- A quotient has one nearest whole number. -/
theorem isNearestEven_iff_eq {num den nearest : Nat} (hden : 0 < den) :
    IsNearestEven num den nearest ↔ nearest = nearestEven num den := by
  constructor
  · intro h
    have hsame := ((isNearestEven_iff hden).1 h).unique
      ((isNearestEven_iff hden).1 (nearestEven_isNearestEven num hden))
    exact_mod_cast hsame
  · rintro rfl
    exact nearestEven_isNearestEven num hden

/-! ## Rounding twice -/

/-- Going on from `y` in place of `x` misleads a rounding: `y` is a half, and `x` lies on the side
of the odd neighbour. -/
def Misleads (x y : ℚ) : Prop :=
  ∃ low : ℤ, y = low + 1 / 2 ∧ (x < y ∧ ¬Even low ∨ y < x ∧ Even low)

/-- A whole number is no half. -/
theorem intCast_ne_half (n low : ℤ) : (n : ℚ) ≠ low + 1 / 2 := by
  intro hhalf
  have htwice : (2 * n : ℚ) = 2 * low + 1 := by linarith
  have hwhole : 2 * n = 2 * low + 1 := by exact_mod_cast htwice
  omega

/-- A half is rounded to its even neighbour. -/
theorem NearestTo.of_half {low : ℤ} (h : NearestTo (low + 1 / 2) l) :
    l = low ∧ Even low ∨ l = low + 1 ∧ ¬Even low := by
  obtain ⟨hlow, hhigh, heven⟩ := nearestTo_iff.1 h
  have hle : (l : ℚ) ≤ low + 1 := by linarith
  have hge : (low : ℚ) ≤ l := by linarith
  have hbetween : low ≤ l ∧ l ≤ low + 1 := by exact_mod_cast And.intro hge hle
  rcases lt_or_ge low l with hlt | hlast
  · right
    have hsucc : l = low + 1 := by omega
    have hl := heven (.inl (by rw [hsucc]; push_cast; ring))
    exact ⟨hsucc, by rwa [hsucc, Int.even_add_one] at hl⟩
  · left
    have hsame : l = low := by omega
    exact ⟨hsame, hsame ▸ heven (.inr (by rw [hsame]))⟩

theorem not_misleads_self (x : ℚ) : ¬Misleads x x := by
  rintro ⟨low, -, ⟨hlt, -⟩ | ⟨hlt, -⟩⟩
  · exact lt_irrefl x hlt
  · exact lt_irrefl x hlt

/-- A whole number misleads no rounding. -/
theorem not_misleads_intCast (x : ℚ) (n : ℤ) : ¬Misleads x n := by
  rintro ⟨low, hhalf, -⟩
  exact intCast_ne_half n low hhalf

/-- A half between two fractions of one is one of the fractions. -/
theorem exists_half {parts : ℕ} (hparts : Even parts) (low : ℤ) :
    ∃ n : ℤ, ((low : ℚ) + 1 / 2) * parts = n := by
  obtain ⟨half, rfl⟩ := hparts
  refine ⟨(2 * low + 1) * half, ?_⟩
  push_cast
  ring

/-- Rounding to an even number of parts of one does not go up past a half. -/
theorem NearestTo.div_le_half {parts : ℕ} (hparts : Even parts) (hpos : 0 < parts)
    (hn : NearestTo (x * parts) n) (low : ℤ) (h : x ≤ low + 1 / 2) :
    (n / parts : ℚ) ≤ low + 1 / 2 := by
  have hparts_pos : (0 : ℚ) < parts := by exact_mod_cast hpos
  obtain ⟨m, hm⟩ := exists_half hparts low
  have hle : n ≤ m := hn.le (hm ▸ nearestTo_intCast m)
    (hm ▸ mul_le_mul_of_nonneg_right h hparts_pos.le)
  rw [div_le_iff₀ hparts_pos, hm]
  exact_mod_cast hle

/-- And not down past one. -/
theorem NearestTo.half_le_div {parts : ℕ} (hparts : Even parts) (hpos : 0 < parts)
    (hn : NearestTo (x * parts) n) (low : ℤ) (h : (low : ℚ) + 1 / 2 ≤ x) :
    (low : ℚ) + 1 / 2 ≤ n / parts := by
  have hneg : NearestTo (-x * parts) (-n) := neg_mul x parts ▸ hn.neg
  have hle := hneg.div_le_half hparts hpos (-low - 1) (by push_cast; linarith)
  push_cast at hle
  rw [neg_div] at hle
  linarith

/-- **Going on from another number gives the same outcome unless it misleads**, if no half lies
between the two. -/
theorem NearestTo.eq_iff {y : ℚ} (hbelow : ∀ low : ℤ, x ≤ low + 1 / 2 → y ≤ low + 1 / 2)
    (habove : ∀ low : ℤ, (low : ℚ) + 1 / 2 ≤ x → (low : ℚ) + 1 / 2 ≤ y)
    (hk : NearestTo x k) (hl : NearestTo y l) : l = k ↔ ¬Misleads x y := by
  obtain ⟨hklow, hkhigh, -⟩ := nearestTo_iff.1 hk
  obtain ⟨hllow, hlhigh, -⟩ := nearestTo_iff.1 hl
  constructor
  · -- the half goes to its even neighbour, and the number lies on the other side
    rintro rfl ⟨low, rfl, hside⟩
    obtain ⟨rfl, heven⟩ | ⟨rfl, hodd⟩ := hl.of_half
    · obtain ⟨-, hodd⟩ | ⟨hlt, -⟩ := hside
      · exact hodd heven
      · linarith
    · obtain ⟨hlt, -⟩ | ⟨-, heven⟩ := hside
      · push_cast at hklow
        linarith
      · exact hodd heven
  · intro hright
    by_contra hne
    have hmoved : x ≠ y := fun heq => hne (hl.unique (heq ▸ hk))
    rcases lt_or_gt_of_ne hne with hlt | hgt
    · -- the number lies above the half above the outcome, so it came down to this half
      have hcast : (l : ℚ) + 1 ≤ k := by exact_mod_cast hlt
      have hge := habove l (by linarith)
      obtain rfl : y = l + 1 / 2 := by linarith
      obtain ⟨-, heven⟩ | ⟨hsucc, -⟩ := hl.of_half
      · exact hright ⟨l, rfl, .inr ⟨lt_of_le_of_ne (by linarith) hmoved.symm, heven⟩⟩
      · omega
    · have hcast : (k : ℚ) + 1 ≤ l := by exact_mod_cast hgt
      have hle := hbelow k hkhigh
      obtain rfl : y = k + 1 / 2 := by linarith
      obtain ⟨hsame, -⟩ | ⟨-, hodd⟩ := hl.of_half
      · omega
      · exact hright ⟨k, rfl, .inl ⟨lt_of_le_of_ne (by linarith) hmoved, hodd⟩⟩

/-- **Rounding twice is rounding once, unless the first rounding misleads.** The first rounding goes
to an even number of parts of one, so that no half is passed over: a rounding that goes wrong went
from one side of a half onto it. -/
theorem NearestTo.twice {parts : ℕ} (hparts : Even parts) (hpos : 0 < parts)
    (hn : NearestTo (x * parts) n) (hk : NearestTo x k) (hl : NearestTo (n / parts) l) :
    l = k ↔ ¬Misleads x (n / parts) :=
  hk.eq_iff (hn.div_le_half hparts hpos) (hn.half_le_div hparts hpos) hl

end RideLedger
