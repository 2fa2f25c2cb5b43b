import RideLedger.Proofs.Nearest
import RideLedger.Proofs.Values

/-!
# Fitting — how much of a result there is room for

An operation on decimals brings its exact result to the largest scale that has room for it. Where
some decimal has the exact value, the outcome has it too. Where none has, the outcome is the exact
result rounded once, to as many places as there are or as there is room for (`Decimal.Holds`). There
is no outcome only if the nearest whole number has no room (`Overfull`).

This holds of sums, differences, products and quotients alike (`Decimal.Outcome`): a sum is whole
at the common scale of its parts, a product at the sum of the scales, and a quotient at the scale
its division stops at, unless this is the largest scale there is (`fit?_outcome`).
-/

namespace RideLedger

variable {x : ℚ} {k w : ℤ} {s : ℕ}

/-- The nearest whole number to `x` has no room in a mantissa. -/
def Overfull (x : ℚ) : Prop := ∃ n : ℤ, NearestTo x n ∧ Decimal.mantissaBound ≤ n.natAbs

/-- What has no room has none at a larger scale either. -/
theorem Overfull.scaled (h : Overfull x) (hk : NearestTo (x * 10 ^ s) k) :
    Decimal.mantissaBound ≤ k.natAbs := by
  obtain ⟨n, hn, hroom⟩ := h
  have hone : (1 : ℚ) ≤ 10 ^ s := one_le_pow₀ (by norm_num)
  rcases le_total 0 x with hx | hx
  · have hnonneg : 0 ≤ n := nearestTo_zero.le hn hx
    have hle : n ≤ k := hn.le hk (le_mul_of_one_le_right hx hone)
    omega
  · have hnonpos : n ≤ 0 := hn.le nearestTo_zero hx
    have hle : k ≤ n := hk.le hn (by nlinarith)
    omega

/-- A number without room is not a whole mantissa with room at any scale. -/
theorem Overfull.of_mul_eq (h : Overfull x) (hw : x * 10 ^ s = w) :
    Decimal.mantissaBound ≤ w.natAbs :=
  h.scaled (hw ▸ nearestTo_intCast w)

namespace Decimal

variable {a b d : Decimal} {num den top : Nat} {negative : Bool}

theorem natAbs_signed (d : Decimal) : d.signed.natAbs = d.mantissa := by
  unfold signed
  split <;> simp

theorem value_mul_self (d : Decimal) : d.value * 10 ^ d.scale = d.signed :=
  div_mul_cancel₀ _ (by positivity)

/-- A decimal whose sign was left out if it is zero. -/
theorem signed_eq_ite (h : d.negative = (negative && d.mantissa != 0)) :
    d.signed = if negative then -(d.mantissa : ℤ) else d.mantissa := by
  rw [signed, h]
  by_cases hzero : d.mantissa = 0
  · simp [hzero]
  · simp [hzero]

/-- The value of a decimal, its sign in front. -/
theorem value_eq_ratio (d : Decimal) : d.value = ratio d.negative d.mantissa (10 ^ d.scale) := by
  rw [value, signed, ratio]
  split
  · push_cast
    rw [neg_div]
  · push_cast
    rfl

theorem value_of_isZero (h : d.isZero = true) : d.value = 0 := by
  have hm : d.mantissa = 0 := by simpa [isZero] using h
  simp [value, signed, hm]

theorem value_neg (d : Decimal) : d.neg.value = -d.value := by
  rw [value_eq_ratio, value_eq_ratio]
  cases h : d.negative <;> simp [neg, ratio, h]

/-- No decimal has a value without room. -/
theorem value_ne_of_overfull (h : Overfull (x * 10 ^ s)) (hs : s ≤ d.scale) : d.value ≠ x := by
  rintro rfl
  have hwhole : d.value * 10 ^ s * 10 ^ (d.scale - s) = d.signed := by
    rw [mul_assoc, ← pow_add, Nat.add_sub_cancel' hs, value_mul_self]
  have hroom := h.of_mul_eq hwhole
  rw [natAbs_signed] at hroom
  exact absurd d.mantissa_lt (Nat.not_lt.2 hroom)

/-- The decimal holds as much of a number as there is room for: the number itself, or, if no decimal
has its value, the number rounded to as many places as there are or as there is room for. -/
inductive Holds (d : Decimal) (x : ℚ) : Prop
  | exact (same : d.value = x)
  | rounded (lost : ∀ e : Decimal, e.value ≠ x) (places : ℕ) (n : ℤ)
      (value : d.value = n / 10 ^ places) (nearest : NearestTo (x * 10 ^ places) n)
      (places_le : places ≤ maxScale) (room : n.natAbs < mantissaBound)
      (full : places = maxScale ∨ Overfull (x * 10 ^ (places + 1)))

/-- Only the value of the decimal counts. -/
theorem Holds.of_value_eq (h : d.Holds x) (hvalue : a.value = d.value) : a.Holds x := by
  obtain hsame | ⟨hlost, places, n, hd, hnearest, hplaces, hroom, hfull⟩ := h
  · exact .exact (hvalue.trans hsame)
  · exact .rounded hlost places n (hvalue.trans hd) hnearest hplaces hroom hfull

/-- A number rounded to as many places as there is room for is held: had any decimal its value, the
rounding would not have lost anything. -/
theorem holds_of_nearest (nearest : NearestTo (x * 10 ^ d.scale) d.signed)
    (full : d.scale = maxScale ∨ Overfull (x * 10 ^ (d.scale + 1))) : d.Holds x := by
  by_cases hsame : d.value = x
  · exact .exact hsame
  · have hlost (e : Decimal) : e.value ≠ x := by
      intro he
      have hmore : ¬e.scale ≤ d.scale := by
        intro hle
        refine hsame ?_
        have hsigned : d.signed = e.atScale d.scale := by
          rw [← he, value_mul_pow hle] at nearest
          exact nearest.unique (nearestTo_intCast _)
        rw [value, hsigned, ← value_mul_pow hle, he]
        exact mul_div_cancel_right₀ _ (by positivity)
      obtain hmax | hover := full
      · exact hmore (hmax ▸ e.scale_le)
      · exact value_ne_of_overfull hover (Nat.lt_of_not_le hmore) he
    exact .rounded hlost d.scale d.signed rfl nearest d.scale_le
      (d.natAbs_signed.symm ▸ d.mantissa_lt) full

/-- What comes of an operation with the exact result `x`. -/
def Outcome (x : ℚ) : Option Decimal → Prop
  | some d => d.Holds x
  | none => Overfull x

/-! ## Bringing a quotient to fit -/

/-- What `fit?` gives: the rounded mantissa at the first scale, from the top, that has room. -/
inductive Fitted (negative : Bool) (num den top : Nat) : Option Decimal → Prop
  | fits {e : Decimal} (scale_le : e.scale ≤ top)
      (mantissa : e.mantissa = nearestEven (num * 10 ^ e.scale) den)
      (sign : e.negative = (negative && e.mantissa != 0))
      (full : e.scale = top ∨ mantissaBound ≤ nearestEven (num * 10 ^ (e.scale + 1)) den) :
      Fitted negative num den top (some e)
  | missing (full : mantissaBound ≤ nearestEven num den) : Fitted negative num den top none

theorem fit?_fitted (h : top ≤ maxScale) :
    Fitted negative num den top (fit? negative num den top h) := by
  -- by induction on the scale: each one without room leaves its mark on the next one below
  induction top with
  | zero =>
    rw [fit?]
    split
    · exact .fits (Nat.le_refl 0) (by rw [Nat.pow_zero, Nat.mul_one]) rfl (.inl rfl)
    · next hfull => exact .missing (Nat.not_lt.1 hfull)
  | succ top ih =>
    rw [fit?]
    split
    · exact .fits (Nat.le_refl _) rfl rfl (.inl rfl)
    · next hfull =>
      cases hrest : fit? negative num den top (by omega) with
      | none =>
        obtain - | hmissing := hrest ▸ ih (by omega)
        exact .missing hmissing
      | some d =>
        obtain ⟨hscale, hmantissa, hsign, hlast⟩ | - := hrest ▸ ih (by omega)
        refine .fits (by omega) hmantissa hsign ?_
        obtain hlast | hlast := hlast
        · exact .inr (hlast ▸ Nat.not_lt.1 hfull)
        · exact .inr hlast

theorem overfull_ratio (hden : 0 < den) (h : mantissaBound ≤ nearestEven num den) :
    Overfull (ratio negative num den) := by
  refine ⟨_, nearestTo_ratio negative num hden, ?_⟩
  split <;> omega

/-- **What is brought to fit is held**, if it is whole at the top scale, or if this is the largest
scale. -/
theorem fit?_outcome (hden : 0 < den) (h : top ≤ maxScale)
    (htop : top = maxScale ∨ ∃ w : ℤ, ratio negative num den * 10 ^ top = w) :
    Outcome (ratio negative num den) (fit? negative num den top h) := by
  cases hfit : fit? negative num den top h with
  | none =>
    obtain - | hfull := hfit ▸ fit?_fitted h
    exact overfull_ratio hden hfull
  | some d =>
    obtain ⟨hscale, hmantissa, hsign, hfull⟩ | - := hfit ▸ fit?_fitted h
    have hnearest : NearestTo (ratio negative num den * 10 ^ d.scale) d.signed := by
      rw [ratio_mul_pow, signed_eq_ite hsign, hmantissa]
      exact nearestTo_ratio negative _ hden
    obtain hlast | hfull := hfull
    · obtain hmax | ⟨w, hw⟩ := htop
      · exact holds_of_nearest hnearest (.inl (hlast.trans hmax))
      · -- at the top scale the quotient is whole, and nothing was rounded
        rw [hlast, hw] at hnearest
        refine .exact ?_
        rw [value, hnearest.unique (nearestTo_intCast w), hlast, ← hw]
        exact mul_div_cancel_right₀ _ (by positivity)
    · refine holds_of_nearest hnearest (.inr ?_)
      rw [ratio_mul_pow]
      exact overfull_ratio hden hfull

/-! ## Sums -/

theorem fitSigned?_outcome {m : ℤ} (h : s ≤ maxScale) (hx : x * 10 ^ s = m) :
    Outcome x (fitSigned? m s h) := by
  have hratio : ratio (decide (m < 0)) m.natAbs (10 ^ s) = x := by
    have hpow : (10 : ℚ) ^ s ≠ 0 := by positivity
    rw [← mul_div_cancel_right₀ x hpow, hx, ratio, Nat.cast_natAbs]
    by_cases hneg : m < 0
    · rw [if_pos (by simpa using hneg), abs_of_neg hneg]
      push_cast
      ring
    · rw [if_neg (by simpa using hneg), abs_of_nonneg (not_lt.1 hneg)]
      push_cast
      ring
  rw [← hratio]
  exact fit?_outcome (Nat.pow_pos (by decide)) h (.inr ⟨m, hratio.symm ▸ hx⟩)

theorem scale_le_commonScale (a b : Decimal) :
    a.scale ≤ commonScale a b ∧ b.scale ≤ commonScale a b :=
  ⟨Nat.le_max_left .., Nat.le_max_right ..⟩

/-- **A sum is held as far as there is room.** -/
theorem add?_outcome (a b : Decimal) : Outcome (a.value + b.value) (a.add? b) := by
  rw [add?]
  split
  · next ha => exact .exact (by rw [value_of_isZero ha, zero_add])
  · split
    · next hb => exact .exact (by rw [value_of_isZero hb, add_zero])
    · refine fitSigned?_outcome _ ?_
      rw [add_mul, value_mul_pow (scale_le_commonScale a b).1,
        value_mul_pow (scale_le_commonScale a b).2]
      push_cast
      rfl

/-- **A difference is held as far as there is room.** -/
theorem sub?_outcome (a b : Decimal) : Outcome (a.value - b.value) (a.sub? b) := by
  rw [sub?]
  split
  · next ha =>
    refine .exact ?_
    rw [value_of_isZero ha, zero_sub]
    split
    · next hb => rw [value_of_isZero hb, neg_zero]
    · exact value_neg b
  · split
    · next hb => exact .exact (by rw [value_of_isZero hb, sub_zero])
    · refine fitSigned?_outcome _ ?_
      rw [sub_mul, value_mul_pow (scale_le_commonScale a b).1,
        value_mul_pow (scale_le_commonScale a b).2]
      push_cast
      rfl

/-! ## Products -/

theorem ratio_mul (a b : Decimal) :
    ratio (a.negative != b.negative) (a.mantissa * b.mantissa) (10 ^ (a.scale + b.scale)) =
      a.value * b.value := by
  rw [value_eq_ratio, value_eq_ratio, ratio, ratio, ratio]
  push_cast
  rw [pow_add, mul_div_mul_comm]
  cases a.negative <;> cases b.negative <;> simp

/-- **A product is held as far as there is room.** -/
theorem mul?_outcome (a b : Decimal) : Outcome (a.value * b.value) (a.mul? b) := by
  rw [mul?]
  split
  · next hzero =>
    have hvalue : a.value = 0 ∨ b.value = 0 :=
      (Bool.or_eq_true _ _ ▸ hzero).imp value_of_isZero value_of_isZero
    exact .exact ((mul_eq_zero.2 hvalue).symm ▸ value_of_isZero (d := zero) rfl)
  · rw [← ratio_mul]
    refine fit?_outcome (Nat.pow_pos (by decide)) _ ?_
    rcases Nat.le_total maxScale (a.scale + b.scale) with hmax | hsum
    · exact .inl (Nat.min_eq_left hmax)
    · refine .inr ⟨a.signed * b.signed, ?_⟩
      rw [Nat.min_eq_right hsum, ratio_mul, pow_add, mul_mul_mul_comm, value_mul_self,
        value_mul_self]
      push_cast
      rfl

/-! ## Quotients -/

/-- A division that stops before the largest scale comes out whole there. -/
theorem stopScale_whole (num den : Nat) (scale : ℤ) (blocks : Nat) :
    stopScale num den scale blocks = maxScale ∨
      ∃ j : Nat, den ∣ num * 10 ^ (9 * j) ∧
        stopScale num den scale blocks = (scale + 9 * j).toNat := by
  -- by induction on the blocks of nine digits that are left
  induction blocks generalizing num scale with
  | zero => exact .inl rfl
  | succ blocks ih =>
    rw [stopScale]
    split
    · next hwhole =>
      rcases Nat.le_total scale.toNat maxScale with hle | hmax
      · refine .inr ⟨0, by simpa using Nat.dvd_of_mod_eq_zero hwhole, ?_⟩
        simp [Nat.min_eq_left hle]
      · exact .inl (Nat.min_eq_right hmax)
    · obtain hmax | ⟨j, hdvd, hstop⟩ := ih (num * 10 ^ 9) (scale + 9)
      · exact .inl hmax
      · refine .inr ⟨j + 1, ?_, ?_⟩
        · rwa [Nat.mul_add_one, Nat.add_comm, Nat.pow_add, ← Nat.mul_assoc]
        · rw [hstop]
          congr 1
          push_cast
          ring

theorem ratio_div (a b : Decimal) :
    ratio (a.negative != b.negative) (a.mantissa * 10 ^ (b.scale - a.scale))
      (b.mantissa * 10 ^ (a.scale - b.scale)) = a.value / b.value := by
  have hpow : (10 : ℚ) ^ (b.scale - a.scale) * 10 ^ a.scale =
      10 ^ (a.scale - b.scale) * 10 ^ b.scale := by
    rw [← pow_add, ← pow_add]
    congr 1
    omega
  have hquot : (a.mantissa * 10 ^ (b.scale - a.scale) : ℚ) /
      (b.mantissa * 10 ^ (a.scale - b.scale)) =
        a.mantissa / 10 ^ a.scale / (b.mantissa / 10 ^ b.scale) := by
    have hscale : (10 : ℚ) ^ a.scale ≠ 0 := by positivity
    have hmore : (10 : ℚ) ^ (a.scale - b.scale) ≠ 0 := by positivity
    rw [div_div_div_eq, ← mul_div_mul_right _ _ hscale, mul_assoc, hpow,
      ← mul_div_mul_right (a.mantissa * 10 ^ b.scale : ℚ) _ hmore]
    congr 1 <;> ring
  rw [value_eq_ratio, value_eq_ratio, ratio, ratio, ratio]
  push_cast
  rw [hquot]
  cases a.negative <;> cases b.negative <;> simp [neg_div, div_neg]

theorem exists_whole_ratio (hden : 0 < den) (h : den ∣ num * 10 ^ s) (negative : Bool) :
    ∃ w : ℤ, ratio negative num den * 10 ^ s = w := by
  obtain ⟨q, hq⟩ := h
  have hpos : (den : ℚ) ≠ 0 := by exact_mod_cast hden.ne'
  rw [ratio_mul_pow, hq, ratio]
  push_cast
  rw [mul_div_cancel_left₀ _ hpos]
  cases negative
  · exact ⟨q, by simp⟩
  · exact ⟨-q, by simp⟩

/-- The quotient of two decimals is whole at the scale the division stops at, unless this is the
largest scale. -/
theorem exists_whole_quotient (a b : Decimal) (hb : 0 < b.mantissa) :
    stopScale a.mantissa b.mantissa (a.scale - b.scale) 7 = maxScale ∨
      ∃ w : ℤ, ratio (a.negative != b.negative) (a.mantissa * 10 ^ (b.scale - a.scale))
        (b.mantissa * 10 ^ (a.scale - b.scale)) *
          10 ^ stopScale a.mantissa b.mantissa (a.scale - b.scale) 7 = w := by
  obtain hmax | ⟨j, hdvd, hstop⟩ := stopScale_whole a.mantissa b.mantissa (a.scale - b.scale) 7
  · exact .inl hmax
  · refine .inr (exists_whole_ratio (Nat.mul_pos hb (Nat.pow_pos (by decide))) ?_ _)
    generalize stopScale a.mantissa b.mantissa (a.scale - b.scale) 7 = top at hstop ⊢
    -- at least the digits that make the division whole are there
    obtain ⟨more, hmore⟩ : ∃ more, b.scale - a.scale + top = 9 * j + (a.scale - b.scale) + more :=
      ⟨b.scale - a.scale + top - (9 * j + (a.scale - b.scale)), by omega⟩
    rw [Nat.mul_assoc, ← Nat.pow_add, hmore, Nat.pow_add, Nat.pow_add, ← Nat.mul_assoc,
      ← Nat.mul_assoc]
    exact Nat.dvd_mul_right_of_dvd (Nat.mul_dvd_mul_right hdvd _) _

/-- Dropping zeros keeps the value. -/
theorem value_dropZeros (d : Decimal) (places : Nat) : (d.dropZeros places).value = d.value := by
  rw [dropZeros]
  split
  · next h =>
    obtain ⟨hzeros, hplaces⟩ := h
    have hmantissa : (d.mantissa : ℚ) = (d.mantissa / 10 ^ places : ℕ) * 10 ^ places := by
      exact_mod_cast (Nat.div_mul_cancel (Nat.dvd_of_mod_eq_zero hzeros)).symm
    have hpow : (10 : ℚ) ^ d.scale = 10 ^ (d.scale - places) * 10 ^ places := by
      rw [← pow_add, Nat.sub_add_cancel hplaces]
    have hpos : (10 : ℚ) ^ places ≠ 0 := by positivity
    rw [value_eq_ratio, value_eq_ratio, ratio, ratio]
    push_cast
    rw [hpow, hmantissa, mul_div_mul_right _ _ hpos]
  · rfl

theorem value_shortened (d : Decimal) : d.shortened.value = d.value := by
  have heights (times : Nat) : ∀ d, (shortened.eights d times).value = d.value := by
    induction times with
    | zero => exact fun _ => rfl
    | succ times ih =>
      intro d
      rw [shortened.eights]
      split
      · rw [ih, value_dropZeros]
      · rfl
  rw [shortened, value_dropZeros, value_dropZeros, value_dropZeros, heights]

/-- **A quotient is held as far as there is room.** -/
theorem div?_outcome (a : Decimal) (hb : b.isZero = false) :
    Outcome (a.value / b.value) (a.div? b) := by
  have hpos : 0 < b.mantissa := Nat.pos_of_ne_zero (by simpa [isZero] using hb)
  rw [div?, if_neg (by simp [hb])]
  split
  · next ha => exact .exact (by rw [value_of_isZero ha, zero_div]; exact value_of_isZero rfl)
  · have houtcome := fit?_outcome (Nat.mul_pos hpos (Nat.pow_pos (by decide))) (stopScale_le ..)
      (exists_whole_quotient a b hpos)
    rw [ratio_div] at houtcome
    dsimp only
    split
    · exact houtcome
    · generalize fit? (a.negative != b.negative) _ _ _ _ = quotient at houtcome ⊢
      cases quotient with
      | none => exact houtcome
      | some d => exact Holds.of_value_eq houtcome (value_shortened d)

end Decimal

end RideLedger
