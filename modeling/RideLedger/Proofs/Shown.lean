import RideLedger.Proofs.Amounts
import RideLedger.Proofs.Written

/-!
# Shown — which amounts are read back as they are shown

An amount is shown with its whole cents. The reader takes the digits one by one, and the number it
has read is that of the digits, whatever the place of the point (`Reading.run?_digits`); where the
mantissa has no room for the last ones, they are zeros, and it stops before them
(`Reading.run?_zeros`). So what is shown of an amount that is not below zero is read as its whole
cents (`Money.parse_display`). Below zero the minus sign stands in front of the dollar sign, and the
reader skips dollar signs at the very front only: no such amount is read back
(`Money.parse_display_negative`).
-/

namespace RideLedger

namespace Decimal

variable {cs rest : List Char} {k n places : Nat} {negative : Bool}

/-! ## Reading digits -/

namespace Reading

variable {r : Reading}

/-- A number with further digits read. -/
def followedBy (r : Reading) (cs : List Char) : Reading :=
  { r with
    started := r.started || !cs.isEmpty
    mantissa := Nat.ofDigitChars 10 cs r.mantissa
    scale := if r.pointed then r.scale + cs.length else 0 }

/-- **Digits are read as their number**, as long as mantissa and scale have room for it. -/
theorem run?_digits (hdigits : ∀ c ∈ cs, c.isDigit = true)
    (hroom : Nat.ofDigitChars 10 cs r.mantissa < mantissaBound)
    (hplaces : r.pointed = true → r.scale + cs.length ≤ maxScale)
    (hwhole : r.pointed = false → r.scale = 0) (rest : List Char) :
    r.run? (cs ++ rest) = (r.followedBy cs).run? rest := by
  -- by induction on the digits, whatever was read before them; room for all is room for the first
  induction cs generalizing r with
  | nil =>
    have hsame : r.followedBy [] = r := by
      cases r
      simp only [followedBy, List.isEmpty_nil, Bool.not_true, Bool.or_false, List.length_nil,
        Nat.ofDigitChars_nil, Nat.add_zero] at hwhole ⊢
      split
      · rfl
      · next hfalse => rw [hwhole (Bool.eq_false_iff.2 hfalse)]
    rw [hsame, List.nil_append]
  | cons c cs ih =>
    have hdigit := digit?_of_isDigit (hdigits c (List.mem_cons_self ..))
    rw [Nat.ofDigitChars_cons, Nat.mul_comm 10] at hroom
    have hstep := le_ofDigitChars (r.mantissa * 10 + (c.toNat - '0'.toNat)) cs
    have hplace : ¬(r.pointed = true ∧ r.scale = maxScale) := by
      rintro ⟨hpointed, hscale⟩
      have := hplaces hpointed
      rw [hscale, List.length_cons] at this
      omega
    rw [List.cons_append, run?, if_neg hplace, hdigit]
    simp only [if_neg (Nat.not_le.2 (hstep.trans_lt hroom))]
    rw [ih (fun d hd => hdigits d (List.mem_cons_of_mem _ hd)) hroom]
    · congr 1
      simp only [followedBy, List.length_cons, List.isEmpty_cons, Bool.not_false, Bool.or_true,
        Bool.true_or, Nat.ofDigitChars_cons, Nat.mul_comm 10]
      congr 1
      split <;> omega
    · intro (hpointed : r.pointed = true)
      have := hplaces hpointed
      rw [List.length_cons] at this
      simp only [hpointed, ↓reduceIte]
      omega
    · intro (hpointed : r.pointed = false)
      simp only [hpointed, Bool.false_eq_true, ↓reduceIte]

/-- The point is passed once. -/
theorem run?_point (h : r.pointed = false) (rest : List Char) :
    r.run? ('.' :: rest) = run? { r with pointed := true } rest := by
  have hdigit : digit? '.' = none := by decide
  rw [run?, if_neg (by simp [h]), hdigit]
  simp [h]

theorem mapM_digit?_zeros (n : Nat) :
    (List.replicate n '0').mapM digit? = some (List.replicate n 0) := by
  have hdigit : digit? '0' = some 0 := by decide
  induction n with
  | zero => rfl
  | succ n ih =>
    rw [List.replicate_succ, List.mapM_cons, hdigit, ih]
    rfl

/-- Zeros without room are not read. -/
theorem run?_zeros (hpointed : r.pointed = true) (hfull : mantissaBound ≤ r.mantissa * 10)
    (n : Nat) : r.run? (List.replicate (n + 1) '0') = finish? r := by
  have hclose : r.close? (List.replicate (n + 1) '0') = finish? r := by
    have hall : (List.replicate (n + 1) '0').filter (· ≠ '_') = List.replicate (n + 1) '0' :=
      List.filter_eq_self.2 fun c hc => by rw [List.eq_of_mem_replicate hc]; rfl
    rw [close?, hall, mapM_digit?_zeros]
    rfl
  have hdigit : digit? '0' = some 0 := by decide
  rw [List.replicate_succ] at hclose ⊢
  rw [run?, hdigit]
  simp only [Nat.add_zero, hfull, hpointed, ↓reduceIte, hclose, ite_self]

theorem finish?_eq (hroom : r.mantissa < mantissaBound) (hplaces : r.scale ≤ maxScale)
    (hstarted : r.started = true) :
    r.finish? = some
      { negative := r.negative && r.mantissa != 0, mantissa := r.mantissa, scale := r.scale
        mantissa_lt := hroom, scale_le := hplaces } := by
  rw [finish?, dif_pos ⟨hroom, hplaces⟩, if_pos hstarted]

end Reading

/-! ## Numbers with a point -/

theorem toList_repr (n : Nat) : (Nat.repr n).toList = (padded n 1).toList := by
  have hlength : 1 ≤ (Nat.repr n).length := by
    simp [Nat.repr, Nat.one_le_iff_ne_zero]
  rw [toList_padded, Nat.sub_eq_zero_of_le hlength]
  simp [Nat.repr]

/-- The whole part, the point, and the places behind it. -/
theorem toList_pointed (k : Nat) (hpos : 0 < places) :
    (pointed k places).toList =
      (padded (k / 10 ^ places) 1).toList ++ '.' :: (padded (k % 10 ^ places) places).toList := by
  rw [pointed, if_neg hpos.ne', ← toList_repr]
  simp [padded]

/-- A number begins with a digit. -/
theorem exists_pointed_cons (k places : Nat) :
    ∃ c cs, (pointed k places).toList = c :: cs ∧ c.isDigit = true := by
  obtain ⟨n, rest, htext⟩ : ∃ n rest, (pointed k places).toList = (padded n 1).toList ++ rest := by
    rcases Nat.eq_zero_or_pos places with rfl | hpos
    · exact ⟨k, [], by rw [List.append_nil, ← toList_repr]; rfl⟩
    · exact ⟨_, _, toList_pointed k hpos⟩
  obtain ⟨c, cs, hdigits, hdigit⟩ := exists_padded_cons n Nat.one_pos
  exact ⟨c, cs ++ rest, by rw [htext, hdigits, List.cons_append], hdigit⟩

/-- A sign in front is taken for the number that follows. -/
theorem ofPlain?_withSign (negative : Bool) (k places : Nat) :
    ofPlain? (withSign negative (pointed k places)).toList =
      (Reading.start negative).run? (pointed k places).toList := by
  cases negative with
  | true =>
    rw [withSign, if_pos rfl, String.toList_append]
    rfl
  | false =>
    obtain ⟨c, cs, htext, hdigit⟩ := exists_pointed_cons k places
    rw [withSign, if_neg Bool.false_ne_true, htext, ofPlain?.eq_def]
    split
    · next heq =>
      obtain ⟨rfl, -⟩ := List.cons.inj heq
      cases hdigit
    · next heq =>
      obtain ⟨rfl, -⟩ := List.cons.inj heq
      cases hdigit
    · rfl

/-- The whole part is read up to the point. -/
theorem run?_whole (hwhole : n < mantissaBound) (rest : List Char) :
    (Reading.start negative).run? ((padded n 1).toList ++ '.' :: rest) =
      Reading.run?
        { negative := negative, pointed := true, started := true, mantissa := n, scale := 0 }
        rest := by
  have hread : (Reading.start negative).followedBy (padded n 1).toList =
      { negative := negative, pointed := false, started := true, mantissa := n, scale := 0 } := by
    have hsome : (padded n 1).toList.isEmpty = false :=
      List.isEmpty_eq_false_iff.2 (padded_ne_nil n Nat.one_pos)
    simp only [Reading.followedBy, Reading.start, hsome, ofDigitChars_padded, Bool.false_or,
      Bool.not_false, Bool.false_eq_true, ↓reduceIte]
  rw [Reading.run?_digits (fun c hc => isDigit_of_mem_padded hc)
    (by rw [Reading.start, ofDigitChars_padded]; exact hwhole)
    (fun hpointed => absurd hpointed Bool.false_ne_true) (fun _ => rfl), hread,
    Reading.run?_point rfl]

/-- The places of a number of hundredths fall into digits that there is room for and zeros that
there is none for. -/
theorem exists_readable (hwhole : k / 100 < mantissaBound)
    (hten : mantissaBound ≤ k → k % 10 = 0) (hhundred : mantissaBound ≤ k / 10 → k % 100 = 0) :
    ∃ front zeros, (padded (k % 100) 2).toList = front ++ List.replicate zeros '0' ∧
      (∀ c ∈ front, c.isDigit = true) ∧ front.length + zeros = 2 ∧
      Nat.ofDigitChars 10 front (k / 100) < mantissaBound ∧
      Nat.ofDigitChars 10 front (k / 100) * 10 ^ zeros = k ∧
      (0 < zeros → mantissaBound ≤ Nat.ofDigitChars 10 front (k / 100) * 10) := by
  have hlast : k % 100 < 10 ^ 2 := Nat.mod_lt _ (by decide)
  by_cases hroom : k < mantissaBound
  · have hvalue : Nat.ofDigitChars 10 (padded (k % 100) 2).toList (k / 100) = k := by
      rw [ofDigitChars_padded_from _ _ Nat.zero_lt_two hlast]
      omega
    refine ⟨(padded (k % 100) 2).toList, 0, by rw [List.replicate_zero, List.append_nil],
      fun c hc => isDigit_of_mem_padded hc, by rw [length_padded Nat.zero_lt_two hlast], ?_, ?_,
      fun h => absurd h (Nat.lt_irrefl 0)⟩
    · rwa [hvalue]
    · rw [hvalue, Nat.pow_zero, Nat.mul_one]
  · have hzero := hten (Nat.not_lt.1 hroom)
    by_cases htenth : k / 10 < mantissaBound
    · have hplace : k / 10 % 10 < 10 ^ 1 := Nat.mod_lt _ (by decide)
      have hvalue : Nat.ofDigitChars 10 (padded (k / 10 % 10) 1).toList (k / 100) = k / 10 := by
        rw [ofDigitChars_padded_from _ _ Nat.one_pos hplace]
        omega
      have htext (e : Nat) (he : e < 10) :
          (padded (e * 10) 2).toList = (padded e 1).toList ++ List.replicate 1 '0' := by
        interval_cases e <;> rfl
      have hdigit : k % 100 = k / 10 % 10 * 10 := by omega
      refine ⟨(padded (k / 10 % 10) 1).toList, 1, by rw [hdigit, htext _ hplace],
        fun c hc => isDigit_of_mem_padded hc, by rw [length_padded Nat.one_pos hplace], ?_, ?_,
        fun _ => ?_⟩
      · rwa [hvalue]
      · rw [hvalue]
        omega
      · rw [hvalue]
        omega
    · have hnone := hhundred (Nat.not_lt.1 htenth)
      refine ⟨[], 2, by rw [hnone]; rfl, nofun, rfl, ?_, ?_, fun _ => ?_⟩ <;>
        rw [Nat.ofDigitChars_nil] <;> omega

/-- **What is shown of a whole number of hundredths is read as that number.** Where its mantissa has
no room for the last digits, these are zeros. -/
theorem exists_run?_hundredths (negative : Bool) (hwhole : k / 100 < mantissaBound)
    (hten : mantissaBound ≤ k → k % 10 = 0) (hhundred : mantissaBound ≤ k / 10 → k % 100 = 0) :
    ∃ d, (Reading.start negative).run? (pointed k 2).toList = some d ∧ d.scale ≤ 2 ∧
      d.mantissa * 10 ^ (2 - d.scale) = k ∧ d.negative = (negative && d.mantissa != 0) := by
  obtain ⟨front, zeros, hplaces, hdigits, hlength, hroom, hvalue, hfull⟩ :=
    exists_readable hwhole hten hhundred
  let r : Reading :=
    { negative := negative, pointed := true, started := true, mantissa := k / 100, scale := 0 }
  have hscale : (r.followedBy front).scale = front.length := Nat.zero_add _
  have hfits : front.length ≤ maxScale := by
    rw [maxScale]
    omega
  have hfinish := Reading.finish?_eq (r := r.followedBy front) hroom (hscale.trans_le hfits) rfl
  have hread : (Reading.start negative).run? (pointed k 2).toList =
      (r.followedBy front).finish? := by
    rw [toList_pointed k Nat.zero_lt_two, run?_whole hwhole, hplaces,
      Reading.run?_digits hdigits hroom (fun _ => (Nat.zero_add _).trans_le hfits)
        (fun _ => rfl)]
    cases zeros with
    | zero => rfl
    | succ zeros => exact Reading.run?_zeros rfl (hfull (Nat.succ_pos _)) zeros
  refine ⟨_, hread.trans hfinish, ?_, ?_, rfl⟩
  · change (r.followedBy front).scale ≤ 2
    omega
  · change Nat.ofDigitChars 10 front (k / 100) * 10 ^ (2 - (r.followedBy front).scale) = k
    rw [hscale, ← hlength, Nat.add_sub_cancel_left]
    exact hvalue

end Decimal

/-- A text without blanks is left as it is. -/
theorem trimBlank_eq_self {cs : List Char} (h : ∀ c ∈ cs, isBlank c = false) :
    trimBlank cs = cs := by
  have hdrop {cs : List Char} (h : ∀ c ∈ cs, isBlank c = false) : cs.dropWhile isBlank = cs := by
    cases cs with
    | nil => rfl
    | cons c cs => rw [List.dropWhile_cons_of_neg (by simp [h c (List.mem_cons_self ..)])]
  rw [trimBlank, hdrop h, hdrop fun c hc => h c (List.mem_reverse.1 hc), List.reverse_reverse]

namespace Money

variable {m : Money}

/-- The whole cents of an amount, without its sign. -/
def cents (m : Money) : Nat := m.units.natAbs / 100

/-- An amount is a whole number of cents. -/
def WholeCents (m : Money) : Prop := 100 ∣ m.units

instance (m : Money) : Decidable m.WholeCents := inferInstanceAs (Decidable (_ ∣ _))

/-- What is shown of an amount are its cents, and they have room but for zeros at their end. -/
theorem shown_eq_cents (m : Money) :
    m.amount.mantissa * 10 ^ 2 / 10 ^ m.amount.scale = m.cents ∧
      m.cents / 100 < Decimal.mantissaBound ∧
      (Decimal.mantissaBound ≤ m.cents → m.cents % 10 = 0) ∧
      (Decimal.mantissaBound ≤ m.cents / 10 → m.cents % 100 = 0) := by
  have hroom := m.amount.mantissa_lt
  have hscale := m.scale_le
  rw [cents, natAbs_units]
  generalize m.amount.mantissa = mantissa at hroom ⊢
  generalize m.amount.scale = scale at hscale ⊢
  simp only [Decimal.mantissaBound, moneyScale] at hroom hscale ⊢
  interval_cases scale <;> omega

theorem isBlank_of_mem_display {c : Char} (h : c ∈ m.display.toList) : isBlank c = false := by
  have hpointed (k : Nat) (hc : c ∈ (Decimal.pointed k 2).toList) : isBlank c = false := by
    rw [Decimal.toList_pointed k Nat.zero_lt_two, List.mem_append, List.mem_cons] at hc
    rcases hc with hc | rfl | hc
    · exact isBlank_of_isDigit (isDigit_of_mem_padded hc)
    · rfl
    · exact isBlank_of_isDigit (isDigit_of_mem_padded hc)
  have hsigned (negative : Bool) (k : Nat)
      (hc : c ∈ (Decimal.withSign negative (Decimal.pointed k 2)).toList) : isBlank c = false := by
    rw [Decimal.withSign] at hc
    split at hc
    · rw [String.toList_append, List.mem_append] at hc
      exact hc.elim (fun hmark => by rw [List.mem_singleton.1 hmark]; rfl) (hpointed k)
    · exact hpointed k hc
  rw [display] at h
  split at h
  all_goals
    rw [String.toList_append, List.mem_append] at h
    refine h.elim (fun hmark => ?_) (hsigned _ _)
  · rcases List.mem_pair.1 hmark with rfl | rfl <;> rfl
  · rw [List.mem_singleton.1 hmark]
    rfl

/-- No blank is shown. -/
theorem trimBlank_display (m : Money) : trimBlank m.display.toList = m.display.toList :=
  trimBlank_eq_self fun _ hc => isBlank_of_mem_display hc

/-- The dollar sign in front is skipped. -/
theorem dropWhile_display (h : m.isNegative = false) :
    m.display.toList.dropWhile (· = '$') =
      (Decimal.withSign m.amount.negative (Decimal.pointed m.cents 2)).toList := by
  obtain ⟨c, cs, htext, hdigit⟩ := Decimal.exists_pointed_cons m.cents 2
  have hmark : c ≠ '$' := by
    rintro rfl
    cases hdigit
  rw [display, if_neg (Bool.eq_false_iff.1 h), Decimal.truncatedText, m.shown_eq_cents.1,
    String.toList_append, Decimal.withSign]
  split
  · rw [String.toList_append]
    rfl
  · rw [htext]
    simp [hmark]

/-- Only zero has a minus sign without being below zero. -/
theorem isZero_of_negative (h : m.isNegative = false) (hneg : m.amount.negative = true) :
    m.amount.isZero = true := by
  rw [isNegative, hneg, Bool.true_and] at h
  rwa [Bool.not_eq_false'] at h

theorem units_nonneg (h : m.isNegative = false) : 0 ≤ m.units := by
  cases hneg : m.amount.negative with
  | true => rw [units, Decimal.atScale_of_isZero (isZero_of_negative h hneg)]
  | false =>
    rw [units, Decimal.atScale, Decimal.signed, hneg]
    exact Int.mul_nonneg (Int.natCast_nonneg _) (Int.natCast_nonneg _)

/-- **An amount that is not below zero is read back with its whole cents.** -/
theorem parse_display (h : m.isNegative = false) :
    ∃ m', parse m.display = .ok m' ∧ m'.units = m.units / 100 * 100 := by
  obtain ⟨-, hwhole, hten, hhundred⟩ := m.shown_eq_cents
  obtain ⟨d, hread, hscale, hvalue, hsign⟩ :=
    Decimal.exists_run?_hundredths m.amount.negative hwhole hten hhundred
  have htext : Decimal.ofText? (String.ofList (m.display.toList.dropWhile (· = '$'))) = some d := by
    rw [Decimal.ofText?, String.toList_ofList, dropWhile_display h, Decimal.ofPlain?_withSign,
      hread]
    rfl
  have hpositive : d.negative = false := by
    rw [hsign, Bool.and_eq_false_imp]
    intro hneg
    have hcents : m.cents = 0 := by
      rw [cents, units, Decimal.atScale_of_isZero (isZero_of_negative h hneg)]
      rfl
    rw [(Nat.mul_eq_zero.1 (hvalue.trans hcents)).resolve_right (Nat.pow_pos (by decide)).ne']
    rfl
  have hunits : (ofDecimal d).units = (m.cents * 100 : Nat) := by
    have hplaces : moneyScale - d.scale = 2 - d.scale + 2 := by
      rw [moneyScale]
      omega
    have hsigned : d.signed = d.mantissa := by
      rw [Decimal.signed, hpositive, if_neg Bool.false_ne_true]
    rw [units_ofDecimal (hscale.trans (by decide)), Decimal.atScale, hsigned, hplaces, Nat.pow_add,
      ← hvalue, Nat.mul_assoc]
    exact (Int.natCast_mul ..).symm
  refine ⟨ofDecimal d, by rw [parse, trimBlank_display, htext], ?_⟩
  have hnonneg := units_nonneg h
  rw [hunits, cents]
  omega

/-- **An amount below zero is not read back**: the dollar sign behind the minus sign is no digit. -/
theorem parse_display_negative (h : m.isNegative = true) :
    parse m.display = .error (.invalidAmount m.display) := by
  obtain ⟨rest, htext⟩ : ∃ rest, m.display.toList = '-' :: '$' :: rest := by
    rw [display, if_pos h, String.toList_append]
    exact ⟨_, rfl⟩
  have hplain (cs : List Char) : Decimal.ofPlain? ('-' :: '$' :: cs) = none := by
    have hmark : Decimal.digit? '$' = none := by decide
    rw [Decimal.ofPlain?, Decimal.Reading.run?, hmark]
    rfl
  have hnone : Decimal.ofText? (String.ofList ('-' :: '$' :: rest)) = none := by
    rw [Decimal.ofText?, String.toList_ofList, hplain]
    simp [Decimal.ofScientific?, hplain]
  rw [parse, trimBlank_display, htext, List.dropWhile_cons_of_neg (by decide), hnone]

end Money

/-- **Amounts of whole cents are read back as they are shown if they are not below zero, and only
those.** Below zero, the reader finds a dollar sign behind the minus sign and refuses the text. -/
theorem amounts_readBack (m : Money) (hcents : m.WholeCents) :
    ((∃ m', Money.parse m.display = .ok m' ∧ m'.sameValue m = true) ↔ m.isNegative = false) ∧
      (m.isNegative = true → Money.parse m.display = .error (.invalidAmount m.display)) := by
  refine ⟨⟨?_, fun h => ?_⟩, Money.parse_display_negative⟩
  · rintro ⟨m', hread, -⟩
    refine Bool.eq_false_iff.2 fun hneg => ?_
    rw [Money.parse_display_negative hneg] at hread
    cases hread
  · obtain ⟨m', hread, hunits⟩ := Money.parse_display h
    refine ⟨m', hread, Money.sameValue_iff.2 ?_⟩
    rw [hunits, Int.ediv_mul_cancel hcents]

/-- Five hundred cents are shown as `$5.00`, and read back. -/
theorem amounts_readBack_five :
    ∃ m, Money.ofCents? 500 = some m ∧ m.display = "$5.00" ∧
      ∃ m', Money.parse m.display = .ok m' ∧ m'.sameValue m = true := by
  have hcents : Money.WholeCents { amount := ⟨false, 500, 2, by decide, by decide⟩ } := by decide
  exact ⟨_, by rfl, by decide, (amounts_readBack _ hcents).1.2 rfl⟩

/-- Minus five hundred cents are shown as `-$5.00`, and refused. -/
theorem amounts_notReadBack :
    ∃ m, Money.ofCents? (-500) = some m ∧ m.WholeCents ∧ m.display = "-$5.00" ∧
      Money.parse m.display = .error (.invalidAmount "-$5.00") :=
  ⟨{ amount := { negative := true, mantissa := 500, scale := 2 } }, by rfl, by decide, by decide,
    by decide⟩

end RideLedger
