import RideLedger.Proofs.Civil
import RideLedger.Proofs.Digits

/-!
# The form of numbers — what the reader takes, and what the store gives

The reader takes a text of three parts between hyphens: the mark, six digits that end in a month,
and six digits or more. So it takes exactly the texts that have the month of a date and any sequence
of digits (`InvoiceNumber.wellFormed_iff`). The store gives fewer: the sequence that it shows has 32
bits, and no zeros in front beyond six digits (`InvoiceNumber.Shown`). A text that is taken but not
given has no sequence of its own, and is read as zero or as that of another number.
-/

namespace RideLedger

/-! ## Digits of a given number -/

section Padding

variable {cs : List Char} {width : Nat}

/-- Digits are told by their number and their value. -/
theorem digits_eq {cs ds : List Char} (hcs : ∀ c ∈ cs, c.isDigit = true)
    (hds : ∀ d ∈ ds, d.isDigit = true) (hlength : cs.length = ds.length)
    (hvalue : Nat.ofDigitChars 10 cs 0 = Nat.ofDigitChars 10 ds 0) : cs = ds := by
  have hcompare := compareLex_digits_of_length_eq hcs hds hlength
  rw [hvalue, Std.compare_self] at hcompare
  exact Std.LawfulEqCmp.eq_of_compare hcompare

/-- The first of some digits is no zero exactly if their value fills them. -/
theorem head?_ne_zero_iff (h : ∀ c ∈ cs, c.isDigit = true) (hpos : 1 < cs.length) :
    cs.head? ≠ some '0' ↔ ¬Nat.ofDigitChars 10 cs 0 < 10 ^ (cs.length - 1) := by
  cases cs with
  | nil => simp at hpos
  | cons c rest =>
    obtain ⟨hc, hrest⟩ := List.forall_mem_cons.1 h
    have hlow := ofDigitChars_lt hrest
    have hrange := digit_range hc
    rw [ofDigitChars_cons, List.length_cons, Nat.add_sub_cancel, List.head?_cons]
    by_cases hzero : c = '0'
    · subst hzero
      simpa using hlow
    · have hne : c.toNat ≠ '0'.toNat := fun heq => hzero (Char.ext (UInt32.toNat_inj.1 heq))
      have hfirst : 0 < c.toNat - '0'.toNat := by omega
      have := Nat.le_mul_of_pos_left (10 ^ rest.length) hfirst
      exact iff_of_true (by simpa using hzero) (by omega)

/-- **Digits are shown as they were read**, at some width, exactly if there is no zero too many in
front of them. -/
theorem padded_ofDigitChars_iff (h : ∀ c ∈ cs, c.isDigit = true) (hpos : 0 < width)
    (hwidth : width ≤ cs.length) :
    (padded (Nat.ofDigitChars 10 cs 0) width).toList = cs ↔
      (width < cs.length → cs.head? ≠ some '0') := by
  have hlength : (padded (Nat.ofDigitChars 10 cs 0) width).toList = cs ↔
      (padded (Nat.ofDigitChars 10 cs 0) width).toList.length = cs.length :=
    ⟨congrArg List.length, fun hlength =>
      digits_eq (fun _ => isDigit_of_mem_padded) h hlength (ofDigitChars_padded _ _)⟩
  have hfits := (Nat.length_toDigits_le_iff (b := 10) (by decide) (by omega)).2 (ofDigitChars_lt h)
  rw [hlength, length_toList_padded]
  rcases Nat.lt_or_eq_of_le hwidth with hlonger | heq
  · have hone : 0 < cs.length - 1 := by omega
    rw [head?_ne_zero_iff h (by omega), ← Nat.length_toDigits_le_iff (by decide) hone]
    omega
  · omega

end Padding

namespace InvoiceNumber

/-! ## Cutting, and putting together -/

/-- **The parts of a text, with the marks between them, are the text.** -/
theorem intercalate_splitAt (mark : Char) (text : List Char) :
    [mark].intercalate (splitAt mark text) = text := by
  induction text with
  | nil => rfl
  | cons c rest ih =>
    rw [splitAt]
    cases hparts : splitAt mark rest with
    | nil => exact absurd hparts (splitAt_ne_nil mark rest)
    | cons part parts =>
      rw [hparts] at ih
      split
      · next hc =>
        rw [List.intercalate_cons_cons, ih, hc]
        rfl
      · cases parts with
        | nil => simpa using ih
        | cons next others =>
          rw [List.intercalate_cons_cons] at ih ⊢
          rw [← ih]
          rfl

variable {d : Date} {digits : List Char} {text : String} {number : InvoiceNumber}

/-- Six digits that end in a month are the key of a month. -/
theorem exists_periodKey {period : List Char} (hlength : period.length = 6)
    (hall : ∀ c ∈ period, c.isDigit = true) (hmonth : 1 ≤ Nat.ofDigitChars 10 (period.drop 4) 0 ∧
      Nat.ofDigitChars 10 (period.drop 4) 0 ≤ 12) :
    ∃ d : Date, FourDigits d.year ∧ (periodKey d).toList = period := by
  have hyears : ∀ c ∈ period.take 4, c.isDigit = true := fun c hc =>
    hall c (List.mem_of_mem_take hc)
  have hmonths : ∀ c ∈ period.drop 4, c.isDigit = true := fun c hc =>
    hall c (List.mem_of_mem_drop hc)
  have hfour : (period.take 4).length = 4 := by simp [hlength]
  have htwo : (period.drop 4).length = 2 := by simp [hlength]
  have hyear := ofDigitChars_lt hyears
  rw [hfour] at hyear
  obtain ⟨d, -, hcivil⟩ := Date.exists_civil
    (Civil.valid_first (Nat.ofDigitChars 10 (period.take 4) 0) hmonth)
    (by dsimp only; omega) (by dsimp only; omega)
  have hd : d.year = (Nat.ofDigitChars 10 (period.take 4) 0 : Nat) := congrArg Civil.year hcivil
  have hm : d.month = Nat.ofDigitChars 10 (period.drop 4) 0 := congrArg Civil.month hcivil
  have hform : FourDigits d.year := by
    rw [hd]
    exact ⟨by omega, by omega⟩
  refine ⟨d, hform, ?_⟩
  rw [toList_periodKey hform, hd, hm, Int.natAbs_natCast,
    (padded_ofDigitChars_iff hyears (by decide) hfour.ge).2 fun h => absurd hfour h.ne',
    (padded_ofDigitChars_iff hmonths (by decide) htwo.ge).2 fun h => absurd htwo h.ne',
    List.take_append_drop]

/-- **The reader takes the month of a date with four digits of the year, and a sequence.** -/
theorem wellFormed_iff : wellFormed text = true ↔
    ∃ d digits, FourDigits d.year ∧ IsSequence digits ∧ text = textOf d digits := by
  constructor
  · intro h
    have hjoined := intercalate_splitAt '-' text.toList
    unfold wellFormed at h
    split at h
    · next mark period digits hparts =>
      simp only [Bool.and_eq_true, beq_iff_eq, List.all_eq_true, decide_eq_true_eq] at h
      obtain ⟨⟨⟨⟨⟨rfl, hlength⟩, hperiod⟩, hsix⟩, hdigits⟩, hmonth⟩ := h
      have hend : ∀ c ∈ period.drop 4, c.isDigit = true := fun c hc =>
        hperiod c (List.mem_of_mem_drop hc)
      rw [Decimal.natOfDigits?_eq (by simp [hlength]) hend] at hmonth
      obtain ⟨d, hyear, hkey⟩ := exists_periodKey hlength hperiod (by simpa using hmonth)
      refine ⟨d, digits, hyear, ⟨hdigits, hsix⟩, String.toList_inj.1 ?_⟩
      rw [← hjoined, hparts, toList_textOf, hkey]
      simp [List.intercalate]
    · cases h
  · rintro ⟨d, digits, hyear, hdigits, rfl⟩
    exact wellFormed_textOf hyear hdigits

/-! ## What the store gives -/

/-- Digits that show a sequence: it has 32 bits, and more than six digits do not begin with a
zero. -/
structure Shown (digits : List Char) : Prop where
  bits : Nat.ofDigitChars 10 digits 0 < 2 ^ 32
  front : 6 < digits.length → digits.head? ≠ some '0'

instance : Decidable (Shown digits) :=
  decidable_of_iff (Nat.ofDigitChars 10 digits 0 < 2 ^ 32 ∧
    (6 < digits.length → digits.head? ≠ some '0')) ⟨fun h => ⟨h.1, h.2⟩, fun h => ⟨h.bits, h.front⟩⟩

/-- A number of some date and some sequence with 32 bits, which is the one that is read from it. -/
def Given (number : InvoiceNumber) : Prop :=
  ∃ d n, n < 2 ^ 32 ∧ new d n = number ∧ number.sequence = n

/-- **A number is given exactly if its digits show a sequence.** -/
theorem given_iff (h : IsSequence digits) : Given ⟨textOf d digits⟩ ↔ Shown digits := by
  constructor
  · rintro ⟨d', n, hn, hnew, -⟩
    have htext : textOf d' (padded n 6).toList = textOf d digits :=
      (text_new d' n).symm.trans (congrArg text hnew)
    -- the last parts of the two are the same
    have hlast := congrArg (fun t => (splitAt '-' (String.toList t)).getLast?) htext
    simp only [splitAt_textOf _ (isSequence_padded n).not_mem, splitAt_textOf _ h.not_mem,
      ← List.cons_append, List.getLast?_concat, Option.some.injEq] at hlast
    have hvalue : Nat.ofDigitChars 10 digits 0 = n := by rw [← hlast, ofDigitChars_padded]
    refine ⟨hvalue ▸ hn, (padded_ofDigitChars_iff h.all (by decide) h.length).1 ?_⟩
    rw [hvalue, hlast]
  · rintro ⟨hbits, hfront⟩
    have hpadded := (padded_ofDigitChars_iff h.all (by decide) h.length).2 hfront
    have hnew : new d (Nat.ofDigitChars 10 digits 0) = ⟨textOf d digits⟩ :=
      congrArg InvoiceNumber.mk ((text_new d _).trans (congrArg (textOf d) hpadded))
    exact ⟨d, _, hbits, hnew, by rw [sequence_textOf d h, if_pos hbits]⟩

/-- What reading a text comes to. -/
theorem parse_eq_ok_iff : parse text = .ok number ↔ number.text = text ∧
    ∃ d digits, FourDigits d.year ∧ IsSequence digits ∧ text = textOf d digits := by
  rw [← wellFormed_iff, parse]
  split
  · next hform =>
    rw [and_iff_left hform, Except.ok.injEq]
    exact ⟨fun h => h ▸ rfl, fun h => h ▸ rfl⟩
  · next hform => exact iff_of_false (by simp) fun h => hform h.2

end InvoiceNumber

open InvoiceNumber (FourDigits IsSequence Given Shown parse textOf)

/-- **The reader takes more numbers than the store gives.** It takes the texts that have the month
of a date, whose year has four digits, and six digits or more. The sequence of such a number is the
value of its digits, or zero if they are too many for 32 bits. It is the number of a date and of
that sequence exactly if its digits show one: if 32 bits hold them, and no zero is in front of more
than six. -/
theorem invoiceNumbers_takenAndGiven (text : String) (number : InvoiceNumber) :
    (parse text = .ok number ↔ number.text = text ∧
      ∃ d digits, FourDigits d.year ∧ IsSequence digits ∧ text = textOf d digits) ∧
    ∀ d digits, IsSequence digits → number.text = textOf d digits →
      number.sequence =
        (if Nat.ofDigitChars 10 digits 0 < 2 ^ 32 then Nat.ofDigitChars 10 digits 0 else 0) ∧
      (number.Given ↔ Shown digits) := by
  refine ⟨InvoiceNumber.parse_eq_ok_iff, fun d digits hdigits htext => ?_⟩
  obtain rfl : number = ⟨textOf d digits⟩ := congrArg InvoiceNumber.mk htext
  exact ⟨InvoiceNumber.sequence_textOf d hdigits, InvoiceNumber.given_iff hdigits⟩

/-- The forty-second number of March. -/
theorem invoiceNumbers_takenAndGiven_march :
    parse "INV-202403-000042" = .ok ⟨"INV-202403-000042"⟩ ∧
    InvoiceNumber.sequence ⟨"INV-202403-000042"⟩ = 42 ∧ Given ⟨"INV-202403-000042"⟩ := by
  have hdigits : IsSequence "000042".toList := by decide +kernel
  have htext : "INV-202403-000042" = textOf Sample.firstOfMarch "000042".toList := by
    decide +kernel
  obtain ⟨htaken, hgiven⟩ :=
    invoiceNumbers_takenAndGiven "INV-202403-000042" ⟨"INV-202403-000042"⟩
  obtain ⟨hsequence, hshown⟩ := hgiven Sample.firstOfMarch "000042".toList hdigits htext
  exact ⟨htaken.2 ⟨rfl, Sample.firstOfMarch, _, by decide, hdigits, htext⟩,
    hsequence.trans (by decide +kernel), hshown.2 (by decide +kernel)⟩

/-- **Two numbers that are taken and never given**: one with more digits than 32 bits hold, which is
read as zero, and one with a zero too many, which is read as another number's. -/
theorem invoiceNumbers_takenNotGiven :
    (parse "INV-202403-99999999999" = .ok ⟨"INV-202403-99999999999"⟩ ∧
      InvoiceNumber.sequence ⟨"INV-202403-99999999999"⟩ = 0 ∧
      ¬Given ⟨"INV-202403-99999999999"⟩) ∧
    parse "INV-202403-0000001" = .ok ⟨"INV-202403-0000001"⟩ ∧
      InvoiceNumber.sequence ⟨"INV-202403-0000001"⟩ = 1 ∧ ¬Given ⟨"INV-202403-0000001"⟩ := by
  have hnever {text : String} (digits : List Char) (hdigits : IsSequence digits)
      (htext : text = textOf Sample.firstOfMarch digits) (hnot : ¬Shown digits) :
      ¬Given ⟨text⟩ := by
    rw [htext, InvoiceNumber.given_iff hdigits]
    exact hnot
  refine ⟨⟨by decide +kernel, by decide +kernel, ?_⟩, by decide +kernel, by decide +kernel, ?_⟩
  · exact hnever "99999999999".toList (by decide +kernel) (by decide +kernel) (by decide +kernel)
  · exact hnever "0000001".toList (by decide +kernel) (by decide +kernel) (by decide +kernel)

end RideLedger
