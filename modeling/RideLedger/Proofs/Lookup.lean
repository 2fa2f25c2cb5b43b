import RideLedger.Proofs.Alone
import RideLedger.Proofs.Gapless

/-!
# Looking up — which invoices are found by their own number

A number is read by cutting it at its hyphens: the mark, the month, the sequence. The sequence is
what stands after the last hyphen, so that it is read back from every number
(`InvoiceNumber.sequence_new`). The month has to be six digits. A year with four digits fills them;
one below zero or above 9999 has a sign and does not, and the number that the store gives to an
invoice of such a year is no number to its reader (`InvoiceNumber.wellFormed_new_iff`).

Invoices of a store that clients bring about have different numbers, so a number that can be read
leads to its invoice and to no other.
-/

namespace RideLedger

/-! ## Digits -/

/-- A padded number is not shorter than its width. -/
theorem le_length_padded (n width : Nat) : width ≤ (padded n width).toList.length := by
  rw [length_toList_padded]
  exact Nat.le_max_left ..

theorem padded_ne_nil (n : Nat) {width : Nat} (hpos : 0 < width) :
    (padded n width).toList ≠ [] := by
  intro hnil
  have hlength := le_length_padded n width
  rw [hnil, List.length_nil] at hlength
  omega

namespace Decimal

/-- The value of a digit. -/
theorem digit?_of_isDigit {c : Char} (h : c.isDigit = true) :
    digit? c = some (c.toNat - '0'.toNat) := by
  have hrange : '0' ≤ c ∧ c ≤ '9' := by simpa [Char.isDigit, Char.le_def] using h
  rw [digit?, if_pos hrange]

/-- Digits are read from the first on. -/
theorem natOfDigits?_eq {cs : List Char} (hne : cs ≠ []) (h : ∀ c ∈ cs, c.isDigit = true) :
    natOfDigits? cs = some (Nat.ofDigitChars 10 cs 0) := by
  -- by induction on the digits, whatever was read before them
  have hread (cs : List Char) (n : Nat) (h : ∀ c ∈ cs, c.isDigit = true) :
      cs.foldlM (fun n c => (digit? c).map (n * 10 + ·)) n = some (Nat.ofDigitChars 10 cs n) := by
    induction cs generalizing n with
    | nil => rfl
    | cons c rest ih =>
      rw [List.foldlM_cons, digit?_of_isDigit (h c (List.mem_cons_self ..)),
        Nat.ofDigitChars_cons]
      have hrest := ih (n * 10 + (c.toNat - '0'.toNat)) fun c hc => h c (List.mem_cons_of_mem _ hc)
      rw [Nat.mul_comm 10 n]
      exact hrest
  cases cs with
  | nil => exact absurd rfl hne
  | cons c rest => exact hread (c :: rest) 0 h

end Decimal

/-- **A padded number is read back.** -/
theorem natOfDigits?_padded (n : Nat) {width : Nat} (hpos : 0 < width) :
    Decimal.natOfDigits? (padded n width).toList = some n := by
  rw [Decimal.natOfDigits?_eq (padded_ne_nil n hpos) fun c hc => isDigit_of_mem_padded hc,
    ofDigitChars_padded]

namespace InvoiceNumber

/-! ## Cutting at a mark -/

section Cutting

variable {mark : Char} {part : List Char}

/-- There is always a part. -/
theorem splitAt_ne_nil (mark : Char) (text : List Char) : splitAt mark text ≠ [] := by
  cases text with
  | nil => simp [splitAt]
  | cons c rest =>
    rw [splitAt]
    split
    · simp
    · split <;> simp

/-- A text without the mark is one part. -/
theorem splitAt_of_not_mem (h : mark ∉ part) : splitAt mark part = [part] := by
  induction part with
  | nil => rfl
  | cons c rest ih =>
    obtain ⟨hfirst, hrest⟩ := not_or.1 (List.mem_cons.not.1 h)
    rw [splitAt, if_neg fun hc => hfirst hc.symm, ih hrest]

/-- **The parts of a text are those before a mark and those after it.** -/
theorem splitAt_append (front back : List Char) :
    splitAt mark (front ++ mark :: back) = splitAt mark front ++ splitAt mark back := by
  induction front with
  | nil => simp [splitAt]
  | cons c rest ih =>
    rw [List.cons_append, splitAt, splitAt, ih]
    split
    · rfl
    · cases hparts : splitAt mark rest with
      | nil => exact absurd hparts (splitAt_ne_nil mark rest)
      | cons part parts => rfl

end Cutting

/-! ## What is read back -/

section Reading

variable {d : Date} {n : Nat} {digits : List Char}

/-- The text of a number, with some characters for the sequence. -/
def textOf (d : Date) (digits : List Char) : String :=
  invoiceMark ++ "-" ++ periodKey d ++ "-" ++ String.ofList digits

theorem text_new (d : Date) (n : Nat) : (new d n).text = textOf d (padded n 6).toList := by
  rw [new, textOf, String.ofList_toList]

theorem toList_textOf (d : Date) (digits : List Char) :
    (textOf d digits).toList =
      invoiceMark.toList ++ '-' :: ((periodKey d).toList ++ '-' :: digits) := by
  simp [textOf]

/-- What can stand for a sequence: six digits or more. -/
structure IsSequence (digits : List Char) : Prop where
  all : ∀ c ∈ digits, c.isDigit = true
  length : 6 ≤ digits.length

instance : Decidable (IsSequence digits) :=
  decidable_of_iff (digits.all Char.isDigit = true ∧ 6 ≤ digits.length)
    ⟨fun h => ⟨List.all_eq_true.1 h.1, h.2⟩, fun h => ⟨List.all_eq_true.2 h.all, h.length⟩⟩

theorem isSequence_padded (n : Nat) : IsSequence (padded n 6).toList :=
  ⟨fun _ => isDigit_of_mem_padded, le_length_padded n 6⟩

/-- Digits are no marks. -/
theorem IsSequence.not_mem (h : IsSequence digits) : '-' ∉ digits := fun hmem =>
  absurd (h.all _ hmem) (by decide)

/-- The value of a sequence is read. -/
theorem IsSequence.natOfDigits?_eq (h : IsSequence digits) :
    Decimal.natOfDigits? digits = some (Nat.ofDigitChars 10 digits 0) := by
  refine Decimal.natOfDigits?_eq ?_ h.all
  rintro rfl
  exact absurd h.length (by decide)

/-- The parts of a number: the mark, those of the month, and the sequence. -/
theorem splitAt_textOf (d : Date) (h : '-' ∉ digits) :
    splitAt '-' (textOf d digits).toList =
      invoiceMark.toList :: (splitAt '-' (periodKey d).toList ++ [digits]) := by
  rw [toList_textOf, splitAt_append, splitAt_append, splitAt_of_not_mem h,
    splitAt_of_not_mem (by decide)]
  rfl

theorem splitAt_new (d : Date) (n : Nat) :
    splitAt '-' (new d n).text.toList =
      invoiceMark.toList :: (splitAt '-' (periodKey d).toList ++ [(padded n 6).toList]) := by
  rw [text_new, splitAt_textOf d (isSequence_padded n).not_mem]

/-- **The sequence that is read is the value of the digits**, as long as 32 bits hold it. -/
theorem sequence_textOf (d : Date) (h : IsSequence digits) :
    sequence ⟨textOf d digits⟩ =
      if Nat.ofDigitChars 10 digits 0 < 2 ^ 32 then Nat.ofDigitChars 10 digits 0 else 0 := by
  rw [sequence, splitAt_textOf d h.not_mem, ← List.cons_append, List.getLast?_concat,
    Option.bind_some, h.natOfDigits?_eq]

/-- **The sequence is read back from every number**, as long as 32 bits hold it. -/
theorem sequence_new (d : Date) (hn : n < 2 ^ 32) : (new d n).sequence = n := by
  have hread := sequence_textOf d (isSequence_padded n)
  rw [ofDigitChars_padded, if_pos hn, ← text_new] at hread
  exact hread

/-- A year that four digits show. -/
def FourDigits (year : Int) : Prop := 0 ≤ year ∧ year ≤ 9999

instance (year : Int) : Decidable (FourDigits year) := inferInstanceAs (Decidable (_ ∧ _))

/-- A year of four digits is shown without a sign. -/
theorem toList_periodKey (h : FourDigits d.year) :
    (periodKey d).toList = (padded d.year.natAbs 4).toList ++ (padded d.month 2).toList := by
  obtain ⟨hlow, hhigh⟩ := h
  rw [periodKey, String.toList_append, toList_yearText, if_neg (by omega), if_neg (by omega)]

theorem length_yearDigits (h : FourDigits d.year) :
    (padded d.year.natAbs 4).toList.length = 4 :=
  length_padded (by decide) (by have := h.1; have := h.2; omega)

/-- The months of such years fill six digits. -/
theorem length_periodKey (h : FourDigits d.year) : (periodKey d).toList.length = 6 := by
  rw [toList_periodKey h, List.length_append, length_yearDigits h,
    length_padded (by decide) d.month_lt]

/-- A month of such a year and a sequence are a number. -/
theorem wellFormed_textOf (h : FourDigits d.year) (hdigits : IsSequence digits) :
    wellFormed (textOf d digits) = true := by
  have hkey := toList_periodKey h
  have hall : ∀ c ∈ (periodKey d).toList, c.isDigit = true := by
    intro c hc
    rw [hkey] at hc
    exact (List.mem_append.1 hc).elim isDigit_of_mem_padded isDigit_of_mem_padded
  have hmonth : (periodKey d).toList.drop 4 = (padded d.month 2).toList := by
    rw [hkey, List.drop_left' (length_yearDigits h)]
  have hone : splitAt '-' (periodKey d).toList = [(periodKey d).toList] :=
    splitAt_of_not_mem fun hmem => absurd (hall _ hmem) (by decide)
  simp only [wellFormed, splitAt_textOf d hdigits.not_mem, hone, List.singleton_append,
    length_periodKey h, hmonth, natOfDigits?_padded _ (Nat.zero_lt_two), Bool.and_eq_true,
    beq_self_eq_true, List.all_eq_true, decide_eq_true_eq, Option.any_some, true_and]
  exact ⟨⟨⟨hall, hdigits.length⟩, hdigits.all⟩, d.month_range⟩

theorem wellFormed_new (h : FourDigits d.year) (n : Nat) :
    wellFormed (new d n).text = true := by
  rw [text_new]
  exact wellFormed_textOf h (isSequence_padded n)

/-- A sign in front of the year is a part too many, or no digit. -/
theorem not_wellFormed_new (h : ¬FourDigits d.year) (n : Nat) :
    wellFormed (new d n).text = false := by
  let digits := (padded d.year.natAbs 4).toList ++ (padded d.month 2).toList
  have hdigits : '-' ∉ digits := fun hmem =>
    (List.mem_append.1 hmem).elim (sign_not_mem_padded rfl _ _) (sign_not_mem_padded rfl _ _)
  rcases (by rw [FourDigits] at h; omega : d.year < 0 ∨ 9999 < d.year) with hneg | hbig
  -- below zero the sign is itself a hyphen, so that the number falls into four parts
  · have hkey : (periodKey d).toList = [] ++ '-' :: digits := by
      rw [periodKey, String.toList_append, toList_yearText, if_pos hneg]
      rfl
    rw [wellFormed, splitAt_new, hkey, splitAt_append, splitAt_of_not_mem hdigits]
    rfl
  -- above 9999 the parts are three, but the month begins with a plus
  · have hkey : (periodKey d).toList = '+' :: digits := by
      rw [periodKey, String.toList_append, toList_yearText, if_neg (by omega), if_pos hbig]
      rfl
    have hone : '-' ∉ '+' :: digits := fun hmem =>
      (List.mem_cons.1 hmem).elim (by decide) hdigits
    rw [wellFormed, splitAt_new, hkey, splitAt_of_not_mem hone]
    simp [Char.isDigit]

/-- **The number of an issue date is a number to its reader exactly if its year has four
digits.** -/
theorem wellFormed_new_iff : wellFormed (new d n).text = true ↔ FourDigits d.year := by
  by_cases h : FourDigits d.year
  · exact iff_of_true (wellFormed_new h n) h
  · exact iff_of_false (Bool.eq_false_iff.1 (not_wellFormed_new h n)) h

/-- What reading the number of an issue date comes to. -/
theorem parse_new (d : Date) (n : Nat) :
    parse (new d n).text =
      if FourDigits d.year then .ok (new d n)
      else .error (.validation (.malformedNumber (new d n).text)) := by
  rw [parse]
  split
  · next hform => rw [if_pos (wellFormed_new_iff.1 hform)]
  · next hform => rw [if_neg fun h => hform (wellFormed_new_iff.2 h)]

end Reading

end InvoiceNumber

/-! ## Looking an invoice up -/

open InvoiceNumber (FourDigits)

section Service

variable {ctx : RequestContext} {text : String} {i : Invoice} {w : Quiet}

/-- A text that is no number is refused before the store is asked. -/
theorem Invoices.runs_getByNumber_malformed (h : InvoiceNumber.wellFormed text = false) :
    Runs (Invoices.getByNumber ctx text) w (.error (.validation (.malformedNumber text))) w := by
  have hparse : InvoiceNumber.parse text = .error (.validation (.malformedNumber text)) := by
    rw [InvoiceNumber.parse, h]
    rfl
  rw [Invoices.getByNumber, hparse]
  exact runs_bind_error runs_ofExcept

/-- A number is looked up in the store. -/
theorem Invoices.runs_getByNumber (h : InvoiceNumber.wellFormed text = true)
    (hfound : w.store.findInvoiceByNumber ctx ⟨text⟩ = some i) :
    Runs (Invoices.getByNumber ctx text) w (.ok i) w := by
  have hparse : InvoiceNumber.parse text = .ok ⟨text⟩ := by
    rw [InvoiceNumber.parse, h]
    rfl
  have hserve : w.store.serve false (.findInvoiceByNumber ctx ⟨text⟩) =
      .ok (.ok (some i), w.store) := by
    rw [← hfound]
    rfl
  rw [Invoices.getByNumber, hparse]
  exact runs_bind runs_ofExcept (runs_bind (runs_demand hserve) runs_pure)

end Service

namespace MemoryStore

variable {ctx : RequestContext} {i : Invoice} {s : MemoryStore}

/-- **The store finds an invoice by its number, and no other one.** -/
theorem Gapless.findInvoiceByNumber_own (h : s.Gapless) (hi : i ∈ s.invoices.values)
    (htenant : i.tenant = ctx.tenant) : s.findInvoiceByNumber ctx i.number = some i := by
  rw [findInvoiceByNumber]
  cases hfind : s.invoices.values.find? fun j => j.tenant = ctx.tenant && j.number = i.number with
  | none =>
    have hmissed := List.find?_eq_none.1 hfind i hi
    simp [htenant] at hmissed
  | some j =>
    have hj := List.find?_some hfind
    simp only [Bool.and_eq_true, decide_eq_true_eq] at hj
    rw [h.unique (List.mem_of_find?_eq_some hfind) hi (hj.1.trans htenant.symm) hj.2]

/-- What the service makes of the number of a stored invoice. -/
theorem Gapless.runs_getByNumber_own {w : Quiet} (h : w.store.Gapless)
    (hi : i ∈ w.store.invoices.values) (htenant : i.tenant = ctx.tenant) :
    Runs (Invoices.getByNumber ctx i.number.text) w
      (if FourDigits i.issueDate.year then .ok i
        else .error (.validation (.malformedNumber i.number.text))) w := by
  obtain ⟨k, -, hnumber⟩ := h.exists_sequence hi htenant
  have hform : InvoiceNumber.wellFormed i.number.text = true ↔ FourDigits i.issueDate.year := by
    rw [hnumber, InvoiceNumber.wellFormed_new_iff]
  by_cases hyear : FourDigits i.issueDate.year
  · rw [if_pos hyear]
    exact Invoices.runs_getByNumber (hform.2 hyear) (h.findInvoiceByNumber_own hi htenant)
  · rw [if_neg hyear]
    exact Invoices.runs_getByNumber_malformed (Bool.eq_false_iff.2 (hyear ∘ hform.1))

end MemoryStore

/-- **An invoice is found by its own number exactly if its year of issue has four digits.** Whatever
any number of clients do from the empty store on, side by side, and whatever others put to the store
in between: the store finds every invoice by its number, and the service gives it for the text of
the number if the year has four digits, and refuses the text as malformed if it has not. The same
holds of the numbers of all dates, whose sequence is read back for every year. -/
theorem invoices_foundByNumber {ι α : Type} [DecidableEq ι] {e : ι → Surroundings}
    {others : StoreRequest → Prop} {rest : ι → Plan α} {σ : System ι α}
    (run : System.Run e others ⟨.empty, rest⟩ σ) :
    (∀ {ctx : RequestContext} {i : Invoice}, i ∈ σ.store.invoices.values →
      i.tenant = ctx.tenant →
      σ.store.findInvoiceByNumber ctx i.number = some i ∧
      ∀ {w : Quiet}, w.store = σ.store →
        Runs (Invoices.getByNumber ctx i.number.text) w
          (if FourDigits i.issueDate.year then .ok i
            else .error (.validation (.malformedNumber i.number.text))) w) ∧
    ∀ (d : Date) (n : Nat), n < 2 ^ 32 →
      (InvoiceNumber.new d n).sequence = n ∧
      InvoiceNumber.parse (InvoiceNumber.new d n).text =
        if FourDigits d.year then .ok (.new d n)
        else .error (.validation (.malformedNumber (InvoiceNumber.new d n).text)) := by
  have hgapless : σ.store.Gapless :=
    System.Run.keeps run (fun h taken => System.Step.gapless taken h) MemoryStore.gapless_empty
  refine ⟨fun hi htenant => ⟨hgapless.findInvoiceByNumber_own hi htenant, fun hstore => ?_⟩,
    fun d n hn => ⟨InvoiceNumber.sequence_new d hn, InvoiceNumber.parse_new d n⟩⟩
  rw [← hstore] at hgapless hi
  exact hgapless.runs_getByNumber_own hi htenant

/-- The first invoice of March, by its number. -/
theorem invoices_foundByNumber_march :
    ∃ i ∈ billedMarch.1.store.invoices.values,
      Runs (Invoices.getByNumber Sample.operator "INV-202403-000001") billedMarch.1 (.ok i)
        billedMarch.1 := by
  have hfound {outcome : Quiet × (Nat → Plan Unit)}
      (run : System.Run (fun _ => .still MemoryStore.beforeAll.now) (fun _ => False)
        ⟨.empty, callers⟩ ⟨outcome.1.store, outcome.2⟩)
      (h : ∃ i ∈ outcome.1.store.invoices.values, i.tenant = Sample.operator.tenant ∧
        FourDigits i.issueDate.year ∧ i.number.text = "INV-202403-000001") :
      ∃ i ∈ outcome.1.store.invoices.values,
        Runs (Invoices.getByNumber Sample.operator "INV-202403-000001") outcome.1 (.ok i)
          outcome.1 := by
    obtain ⟨i, hi, htenant, hyear, hnumber⟩ := h
    obtain ⟨-, hruns⟩ := (invoices_foundByNumber run).1 hi htenant
    have hown := hruns (w := outcome.1) rfl
    rw [if_pos hyear, hnumber] at hown
    exact ⟨i, hi, hown⟩
  exact hfound (MemoryStore.beforeAll.run_play callers marchTurns) (by decide +kernel)

/-- A ride that is billed with a day of issue after the year 9999. -/
def ridesOfFarYear : List Operation :=
  MemoryStore.firstCalls ++
    [.generateInvoice Sample.operator MemoryStore.firstAccount Sample.firstWeekOfMarch
      { issueDate := some { number := 2932897 }, paymentTermsDays := none }]

/-- **An invoice of the year 10000 is stored with a number that its own reader refuses**, as in
every state of that store. -/
theorem invoices_notFound_farYear :
    (MemoryStore.storeAfter ridesOfFarYear).Reachable (fun _ => True) ∧
    ∃ i ∈ (MemoryStore.storeAfter ridesOfFarYear).invoices.values,
      i.tenant = Sample.operator.tenant ∧ i.number = .new { number := 2932897 } 1 ∧
      i.number.text = "INV-+1000001-000001" ∧
      ∀ w : Quiet, w.store = MemoryStore.storeAfter ridesOfFarYear →
        Runs (Invoices.getByNumber Sample.operator i.number.text) w
          (.error (.validation (.malformedNumber i.number.text))) w := by
  refine ⟨MemoryStore.reachable_storeAfter
    (by simp [ridesOfFarYear, MemoryStore.firstCalls, Operation.Posts]), ?_⟩
  have hstored : ∃ i ∈ (MemoryStore.storeAfter ridesOfFarYear).invoices.values,
      i.tenant = Sample.operator.tenant ∧ i.number = .new { number := 2932897 } 1 ∧
      i.number.text = "INV-+1000001-000001" := by decide +kernel
  obtain ⟨i, hi, htenant, hnew, htext⟩ := hstored
  refine ⟨i, hi, htenant, hnew, htext, fun w _ => ?_⟩
  exact Invoices.runs_getByNumber_malformed (htext ▸ by decide +kernel)

end RideLedger
