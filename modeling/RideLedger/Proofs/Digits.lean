import Mathlib.Data.String.Basic
import RideLedger.Proofs.Lookup

/-!
# Digits — their value, and the order of texts that end in them

A text is compared with another one character by character (`compare_eq_compareLex`). Of two lists
of digits of one length, the comparison is that of their values. Of lists of different lengths, it
is that of the values with zeros put after the shorter one until the lengths are the same, and the
shorter one is first if that leaves them equal (`compareLex_digits`): texts of digits are sorted as
fractions are, not as numbers.
-/

namespace RideLedger

variable {c d : Char} {cs ds : List Char}

/-! ## The value of digits -/

/-- The value of a digit and of what follows it. -/
theorem ofDigitChars_cons (c : Char) (cs : List Char) :
    Nat.ofDigitChars 10 (c :: cs) 0 =
      (c.toNat - '0'.toNat) * 10 ^ cs.length + Nat.ofDigitChars 10 cs 0 := by
  rw [Nat.ofDigitChars_cons, Nat.ofDigitChars_eq_ofDigitChars_zero, Nat.mul_zero, Nat.zero_add,
    Nat.mul_comm]

/-- Further digits do not make a number smaller. -/
theorem le_ofDigitChars (n : Nat) (cs : List Char) : n ≤ Nat.ofDigitChars 10 cs n := by
  have hpos : 1 ≤ 10 ^ cs.length := Nat.one_le_pow _ _ (by decide)
  have := Nat.le_mul_of_pos_left n hpos
  rw [Nat.ofDigitChars_eq_ofDigitChars_zero]
  omega

/-- The value of a padded number behind other digits. -/
theorem ofDigitChars_padded_from (m n : Nat) {width : Nat} (hpos : 0 < width)
    (h : n < 10 ^ width) :
    Nat.ofDigitChars 10 (padded n width).toList m = 10 ^ width * m + n := by
  rw [Nat.ofDigitChars_eq_ofDigitChars_zero, ofDigitChars_padded, length_padded hpos h]

/-- A padded number begins with a digit. -/
theorem exists_padded_cons (n : Nat) {width : Nat} (hpos : 0 < width) :
    ∃ c cs, (padded n width).toList = c :: cs ∧ c.isDigit = true := by
  cases hdigits : (padded n width).toList with
  | nil => exact absurd hdigits (padded_ne_nil n hpos)
  | cons c cs => exact ⟨c, cs, rfl, isDigit_of_mem_padded (hdigits ▸ List.mem_cons_self ..)⟩

/-- The characters that digits are. -/
theorem digit_range (h : c.isDigit = true) : '0'.toNat ≤ c.toNat ∧ c.toNat ≤ '0'.toNat + 9 := by
  simpa [Char.isDigit, UInt32.le_iff_toNat_le] using h

/-- Digits have a value below the power of their number. -/
theorem ofDigitChars_lt (h : ∀ c ∈ cs, c.isDigit = true) :
    Nat.ofDigitChars 10 cs 0 < 10 ^ cs.length := by
  induction cs with
  | nil => simp
  | cons c rest ih =>
    have hfirst : c.toNat - '0'.toNat ≤ 9 := by
      have := digit_range (h c (List.mem_cons_self ..))
      omega
    have hrest := ih fun d hd => h d (List.mem_cons_of_mem _ hd)
    have := Nat.mul_le_mul_right (10 ^ rest.length) hfirst
    rw [ofDigitChars_cons, List.length_cons, Nat.pow_succ]
    omega

/-! ## Comparing characters -/

/-- Digits are compared as their values are. -/
theorem compare_digit (hc : c.isDigit = true) (hd : d.isDigit = true) :
    compare c d = compare (c.toNat - '0'.toNat) (d.toNat - '0'.toNat) := by
  have hc := digit_range hc
  have hd := digit_range hd
  have hlt {c d : Char} (h : c.toNat < d.toNat) : compare c d = .lt :=
    Std.LawfulLTCmp.eq_lt_iff_lt.2 (show c < d from h)
  rcases Nat.lt_trichotomy c.toNat d.toNat with h | h | h
  · rw [hlt h, Nat.compare_eq_lt.2 (by omega)]
  · obtain rfl : c = d := Char.ext (UInt32.toNat_inj.1 h)
    rw [Std.compare_self, Std.compare_self]
  · rw [Std.OrientedCmp.gt_of_lt (hlt h), Nat.compare_eq_gt.2 (by omega)]

/-- A first list is before a second one if it is smaller. -/
theorem compareLex_eq_lt_iff : List.compareLex compare cs ds = .lt ↔ cs < ds := by
  induction cs generalizing ds with
  | nil => cases ds <;> simp [List.compareLex]
  | cons c rest ih =>
    cases ds with
    | nil => simp [List.compareLex]
    | cons d ds =>
      rw [List.compareLex_cons_cons, Ordering.then_eq_lt, ih, List.cons_lt_cons_iff,
        Std.LawfulLTCmp.eq_lt_iff_lt, Std.LawfulEqCmp.compare_eq_iff_eq]

theorem compareLex_self (cs : List Char) : List.compareLex compare cs cs = .eq :=
  Std.ReflCmp.compare_self

/-- **Texts are compared as their characters are**, one after another. -/
theorem compare_eq_compareLex (s t : String) :
    compare s t = List.compareLex compare s.toList t.toList := by
  have hlt {s t : String} :
      compare s t = .lt ↔ List.compareLex compare s.toList t.toList = .lt := by
    rw [compareLex_eq_lt_iff, ← String.lt_iff, Std.LawfulLTCmp.eq_lt_iff_lt]
  cases hst : compare s t with
  | lt => exact (hlt.1 hst).symm
  | eq =>
    obtain rfl := Std.LawfulEqOrd.eq_of_compare hst
    exact (compareLex_self _).symm
  | gt =>
    have := hlt.1 (Std.OrientedCmp.lt_of_gt hst)
    exact (Std.OrientedCmp.gt_of_lt this).symm

/-- **Texts are compared part by part**, where the first parts are of one length. -/
theorem compareLex_append {front front' : List Char} (hlength : front.length = front'.length) :
    List.compareLex compare (front ++ cs) (front' ++ ds) =
      (List.compareLex compare front front').then (List.compareLex compare cs ds) := by
  induction front generalizing front' with
  | nil => rw [List.eq_nil_of_length_eq_zero hlength.symm]; rfl
  | cons c rest ih =>
    cases front' with
    | nil => cases hlength
    | cons d rest' =>
      rw [List.cons_append, List.cons_append, List.compareLex_cons_cons, List.compareLex_cons_cons,
        ih (Nat.succ.inj hlength), Ordering.then_assoc]

/-! ## Comparing digits -/

theorem compare_add_left (k a b : Nat) : compare (k + a) (k + b) = compare a b := by
  simp only [Nat.compare_eq_ite_lt, Nat.add_lt_add_iff_left]

/-- A number in two places is compared by the first place, and then by the second one. -/
theorem compare_mul_add {a b x y P : Nat} (hx : x < P) (hy : y < P) :
    compare (a * P + x) (b * P + y) = (compare a b).then (compare x y) := by
  rcases Nat.lt_trichotomy a b with h | rfl | h
  · have := Nat.mul_le_mul_right P h
    rw [Nat.succ_mul] at this
    rw [Nat.compare_eq_lt.2 h, Nat.compare_eq_lt.2 (by omega)]
    rfl
  · rw [Std.compare_self, Ordering.eq_then, compare_add_left]
  · have := Nat.mul_le_mul_right P h
    rw [Nat.succ_mul] at this
    rw [Nat.compare_eq_gt.2 h, Nat.compare_eq_gt.2 (by omega)]
    rfl

/-- **Digits are sorted as fractions are.** The shorter list of two is filled up with zeros, the
values are compared, and if they are the same the shorter list is first. -/
theorem compareLex_digits (hcs : ∀ c ∈ cs, c.isDigit = true) (hds : ∀ d ∈ ds, d.isDigit = true) :
    List.compareLex compare cs ds =
      (compare (Nat.ofDigitChars 10 cs 0 * 10 ^ (ds.length - cs.length))
        (Nat.ofDigitChars 10 ds 0 * 10 ^ (cs.length - ds.length))).then
          (compare cs.length ds.length) := by
  induction cs generalizing ds with
  | nil =>
    cases ds with
    | nil => rfl
    | cons d ds =>
      rw [Nat.ofDigitChars_nil, Nat.zero_mul]
      generalize Nat.ofDigitChars 10 (d :: ds) 0 * _ = value
      cases value <;> rfl
  | cons c cs ih =>
    cases ds with
    | nil =>
      rw [Nat.ofDigitChars_nil, Nat.zero_mul]
      generalize Nat.ofDigitChars 10 (c :: cs) 0 * _ = value
      cases value <;> rfl
    | cons d ds =>
      obtain ⟨hc, hcs⟩ := List.forall_mem_cons.1 hcs
      obtain ⟨hd, hds⟩ := List.forall_mem_cons.1 hds
      -- filled up, the two lists have as many digits
      have hfill : 10 ^ cs.length * 10 ^ (ds.length - cs.length) =
          10 ^ ds.length * 10 ^ (cs.length - ds.length) := by
        rw [← Nat.pow_add, ← Nat.pow_add]
        congr 1
        omega
      have hlow := Nat.mul_lt_mul_of_pos_right (ofDigitChars_lt hcs)
        (Nat.pow_pos (n := ds.length - cs.length) (show 0 < 10 by decide))
      have hlow' := Nat.mul_lt_mul_of_pos_right (ofDigitChars_lt hds)
        (Nat.pow_pos (n := cs.length - ds.length) (show 0 < 10 by decide))
      rw [← hfill] at hlow'
      rw [List.compareLex_cons_cons, ih hcs hds, compare_digit hc hd, ← Ordering.then_assoc,
        ← compare_mul_add hlow hlow', ofDigitChars_cons, ofDigitChars_cons, List.length_cons,
        List.length_cons, Nat.succ_sub_succ, Nat.succ_sub_succ, Nat.add_mul, Nat.add_mul,
        Nat.mul_assoc, Nat.mul_assoc, hfill, Nat.add_comm cs.length, Nat.add_comm ds.length,
        compare_add_left]

/-- Digits of one length are compared as numbers are. -/
theorem compareLex_digits_of_length_eq (hcs : ∀ c ∈ cs, c.isDigit = true)
    (hds : ∀ d ∈ ds, d.isDigit = true) (hlength : cs.length = ds.length) :
    List.compareLex compare cs ds =
      compare (Nat.ofDigitChars 10 cs 0) (Nat.ofDigitChars 10 ds 0) := by
  rw [compareLex_digits hcs hds, hlength, Nat.sub_self, Nat.pow_zero, Nat.mul_one, Nat.mul_one,
    Std.compare_self, Ordering.then_eq]

end RideLedger
