import RideLedger.Proofs.Digits
import RideLedger.Proofs.Isolation

/-!
# The order of numbers — by month, and in a month by the text of the sequence

Invoice numbers are compared as texts. Their months have six digits, so they come out in order. The
sequences have six digits or more, and are compared as digits are (`compareLex_digits`): of two with
different numbers of digits, the shorter one is filled up with zeros. `InStep` says when this is the
order of the sequences. It is for all sequences of up to six digits, and for any two with as many
digits, but 1000000 comes before 999999 (`invoiceNumbers_not_sortedAsIssued`).

A listing of invoices is sorted by instant, and those of one instant by number. So it is in order
of issue exactly where the sequences of one instant and month are in step (`Invoice.Precedes`).
-/

namespace RideLedger

namespace InvoiceNumber

variable {d d' : Date} {n m : Nat}

/-! ## Sequences as they are shown -/

/-- How many digits show a sequence: six at least. -/
def shownDigits (n : Nat) : Nat := max 6 (Nat.toDigits 10 n).length

theorem length_padded_six (n : Nat) : (padded n 6).toList.length = shownDigits n :=
  length_toList_padded n 6

/-- Six digits and more show the numbers that they can hold. -/
theorem shownDigits_le_iff {width : Nat} (h : 6 ≤ width) :
    shownDigits n ≤ width ↔ n < 10 ^ width := by
  rw [shownDigits, Nat.max_le, and_iff_right h,
    Nat.length_toDigits_le_iff (by decide) (by omega)]

/-- The order of the texts of two sequences. The one with fewer digits is filled up with zeros, and
it is first if that makes the two the same. -/
def compareShown (n m : Nat) : Ordering :=
  (compare (n * 10 ^ (shownDigits m - shownDigits n))
    (m * 10 ^ (shownDigits n - shownDigits m))).then (compare (shownDigits n) (shownDigits m))

/-- Sequences are compared by their texts. -/
theorem compareLex_padded (n m : Nat) :
    List.compareLex compare (padded n 6).toList (padded m 6).toList = compareShown n m := by
  rw [compareLex_digits (fun _ => isDigit_of_mem_padded) fun _ => isDigit_of_mem_padded,
    ofDigitChars_padded, ofDigitChars_padded, length_padded_six, length_padded_six, compareShown]

/-- The other way around, the texts compare the other way around. -/
theorem compareShown_swap (n m : Nat) : (compareShown n m).swap = compareShown m n := by
  rw [compareShown, Ordering.swap_then, ← Std.OrientedCmp.eq_swap, ← Std.OrientedCmp.eq_swap,
    compareShown]

/-- Two sequences in step: if one has more digits, it is not below the other one filled up with
zeros. -/
structure InStep (n m : Nat) : Prop where
  left : shownDigits n < shownDigits m → n * 10 ^ (shownDigits m - shownDigits n) ≤ m
  right : shownDigits m < shownDigits n → m * 10 ^ (shownDigits n - shownDigits m) ≤ n

theorem InStep.symm (h : InStep n m) : InStep m n := ⟨h.right, h.left⟩

/-- Sequences that are shown by as many digits are in step. -/
theorem inStep_of_eq (h : shownDigits n = shownDigits m) : InStep n m :=
  ⟨fun hlt => absurd h hlt.ne, fun hlt => absurd h hlt.ne'⟩

/-- The first 999999 sequences are all in step. -/
theorem inStep_of_lt (hn : n < 10 ^ 6) (hm : m < 10 ^ 6) : InStep n m := by
  have hshown {k : Nat} (hk : k < 10 ^ 6) : shownDigits k = 6 :=
    Nat.le_antisymm ((shownDigits_le_iff (Nat.le_refl 6)).2 hk) (Nat.le_max_left ..)
  exact inStep_of_eq ((hshown hn).trans (hshown hm).symm)

/-- A sequence with fewer digits is the smaller one. -/
theorem lt_of_shownDigits_lt (h : shownDigits n < shownDigits m) : n < m := by
  have hn : n < 10 ^ shownDigits n := (shownDigits_le_iff (Nat.le_max_left ..)).1 (Nat.le_refl _)
  have hm : ¬m < 10 ^ shownDigits n :=
    mt (shownDigits_le_iff (Nat.le_max_left ..)).2 (Nat.not_le.2 h)
  omega

/-- With fewer digits, the texts are in order exactly if the sequences are in step. -/
theorem compareShown_of_lt (h : shownDigits n < shownDigits m) :
    compareShown n m = compare n m ↔ InStep n m := by
  have hshorter : shownDigits n - shownDigits m = 0 := by omega
  have hstep : InStep n m ↔ n * 10 ^ (shownDigits m - shownDigits n) ≤ m :=
    ⟨fun hstep => hstep.left h, fun hle => ⟨fun _ => hle, fun hlt => absurd h (by omega)⟩⟩
  rw [hstep, compareShown, hshorter, Nat.pow_zero, Nat.mul_one,
    Nat.compare_eq_lt.2 (lt_of_shownDigits_lt h), Ordering.then_eq_lt, Nat.compare_eq_lt,
    Nat.compare_eq_eq, Nat.compare_eq_lt, and_iff_left h, Nat.le_iff_lt_or_eq]

/-- **Sequences are sorted as numbers exactly if they are in step.** -/
theorem compareShown_eq_compare_iff : compareShown n m = compare n m ↔ InStep n m := by
  rcases Nat.lt_trichotomy (shownDigits n) (shownDigits m) with h | h | h
  · exact compareShown_of_lt h
  · refine iff_of_true ?_ (inStep_of_eq h)
    rw [compareShown, h, Nat.sub_self, Nat.pow_zero, Nat.mul_one, Nat.mul_one, Std.compare_self,
      Ordering.then_eq]
  -- the other way around, both sides are turned
  · have hswap : compare n m = (compare m n).swap := Std.OrientedCmp.eq_swap
    rw [← compareShown_swap, hswap, Ordering.swap_inj, compareShown_of_lt h]
    exact ⟨InStep.symm, InStep.symm⟩

/-! ## Numbers -/

/-- Months are compared by year and then by month. -/
def compareMonths (d d' : Date) : Ordering :=
  (compare d.year d'.year).then (compare d.month d'.month)

theorem compareMonths_eq_iff : compareMonths d d' = .eq ↔ SameMonth d d' := by
  rw [compareMonths, Ordering.then_eq_eq, Std.LawfulEqCmp.compare_eq_iff_eq,
    Nat.compare_eq_eq, SameMonth]

/-- The months of years with four digits are compared by their keys. -/
theorem compareLex_periodKey (h : FourDigits d.year) (h' : FourDigits d'.year) :
    List.compareLex compare (periodKey d).toList (periodKey d').toList = compareMonths d d' := by
  have hdigits {n width : Nat} : ∀ c ∈ (padded n width).toList, c.isDigit = true :=
    fun _ => isDigit_of_mem_padded
  have hyears := (length_yearDigits h).trans (length_yearDigits h').symm
  have hmonths : (padded d.month 2).toList.length = (padded d'.month 2).toList.length :=
    (length_padded (by decide) d.month_lt).trans (length_padded (by decide) d'.month_lt).symm
  -- such years are not below zero
  have hlt {y y' : Int} (hy : 0 ≤ y) (hy' : 0 ≤ y') : y.natAbs < y'.natAbs ↔ y < y' := by omega
  have hcompare : compare d.year.natAbs d'.year.natAbs = compare d.year d'.year := by
    simp only [Nat.compare_eq_ite_lt, Int.compare_eq_ite_lt, hlt h.1 h'.1, hlt h'.1 h.1]
  rw [toList_periodKey h, toList_periodKey h', compareLex_append hyears,
    compareLex_digits_of_length_eq hdigits hdigits hyears,
    compareLex_digits_of_length_eq hdigits hdigits hmonths, ofDigitChars_padded,
    ofDigitChars_padded, ofDigitChars_padded, ofDigitChars_padded, hcompare, compareMonths]

/-- A number is its month between two marks, and the sequence. -/
theorem compare_new_of_length_eq
    (hlength : (periodKey d).toList.length = (periodKey d').toList.length) (n m : Nat) :
    compare (new d n) (new d' m) =
      (List.compareLex compare (periodKey d).toList (periodKey d').toList).then
        (compareShown n m) := by
  show compare (new d n).text (new d' m).text = _
  rw [compare_eq_compareLex, text_new, text_new, toList_textOf, toList_textOf,
    compareLex_append rfl, compareLex_self, Ordering.eq_then, List.compareLex_cons_cons,
    Std.compare_self, Ordering.eq_then, compareLex_append hlength, List.compareLex_cons_cons,
    Std.compare_self, Ordering.eq_then, compareLex_padded]

/-- **Numbers of years with four digits are sorted by month, and then as their sequences are
shown.** -/
theorem compare_new (h : FourDigits d.year) (h' : FourDigits d'.year) (n m : Nat) :
    compare (new d n) (new d' m) = (compareMonths d d').then (compareShown n m) := by
  rw [compare_new_of_length_eq ((length_periodKey h).trans (length_periodKey h').symm),
    compareLex_periodKey h h']

/-- Numbers of one month are sorted as their sequences are shown, whatever the year. -/
theorem compare_new_of_sameMonth (h : SameMonth d d') (n m : Nat) :
    compare (new d n) (new d' m) = compareShown n m := by
  rw [new_congr h n, compare_new_of_length_eq rfl, compareLex_self, Ordering.eq_then]

end InvoiceNumber

/-! ## The listing -/

open InvoiceNumber (SameMonth FourDigits InStep compareShown)

/-- How two invoices of a listing follow each other: the earlier one is not older, and of one
instant they are sorted by number, from the last. In one month this is the order in which their
sequences are shown, and that of the sequences exactly where they are in step. -/
structure Invoice.Precedes (i j : Invoice) : Prop where
  newest : j.generatedAt ≤ i.generatedAt
  number : i.generatedAt = j.generatedAt → compare j.number i.number = .lt
  sequence : i.generatedAt = j.generatedAt → SameMonth i.issueDate j.issueDate → ∀ n m,
    i.number = .new i.issueDate n → j.number = .new j.issueDate m →
      compareShown m n = .lt ∧ (m < n ↔ InStep m n)

/-- What the order of a listing comes to. -/
theorem Invoice.precedes_of_compare {i j : Invoice}
    (h : compareLex (compareOn Invoice.generatedAt) (compareOn Invoice.number) j i = .lt) :
    i.Precedes j := by
  -- either it is newer, or of the same instant and the later number
  rcases Ordering.then_eq_lt.1 h with htime | ⟨htime, hnumber⟩
  · have hnewer : j.generatedAt.rank < i.generatedAt.rank := Std.compare_eq_lt (α := Int).1 htime
    have hne : i.generatedAt ≠ j.generatedAt := fun hsame => by simp [hsame] at hnewer
    exact ⟨Int.le_of_lt hnewer, fun hsame => absurd hsame hne, fun hsame => absurd hsame hne⟩
  refine ⟨(Std.LawfulEqOrd.eq_of_compare (α := Int) htime).le, fun _ => hnumber,
    fun _ hmonth n m hi hj => ?_⟩
  have hshown : compareShown m n = .lt := by
    rw [← InvoiceNumber.compare_new_of_sameMonth ⟨hmonth.1.symm, hmonth.2.symm⟩, ← hi, ← hj]
    exact hnumber
  refine ⟨hshown, ?_⟩
  rw [← InvoiceNumber.compareShown_eq_compare_iff, hshown, ← Nat.compare_eq_lt]
  exact eq_comm

namespace MemoryStore

variable {s : MemoryStore}

/-- What a listing of an account's invoices comes to: they are all there, each with a number of its
month of issue, and follow each other from the newest on. -/
structure Lists (s : MemoryStore) (ctx : RequestContext) (account : AccountId)
    (listing : List Invoice) : Prop where
  pages : ∀ page, s.listInvoices ctx account page = .ofAll listing page
  perm : listing.Perm
    (s.invoices.values.filter fun i => i.tenant = ctx.tenant && i.account = account)
  numbers : ∀ i ∈ listing, ∃ n, i.number = .new i.issueDate n
  newestFirst : listing.Pairwise Invoice.Precedes

/-- Invoices of one instant are listed by number, from the last. -/
theorem Lists.numbers_eq {ctx : RequestContext} {account : AccountId} {listing : List Invoice}
    {numbers : List InvoiceNumber} {t : Instant} (h : s.Lists ctx account listing)
    (hinstant : ∀ i ∈ listing, i.generatedAt = t) (hperm : (listing.map (·.number)).Perm numbers)
    (hnumbers : numbers.Pairwise fun a b => compare b a = .lt) :
    listing.map (·.number) = numbers := by
  have hsorted : (listing.map (·.number)).Pairwise fun a b => compare b a = .lt :=
    List.pairwise_map.2 (h.newestFirst.imp_of_mem fun hi hj hij =>
      hij.number ((hinstant _ hi).trans (hinstant _ hj).symm))
  refine hperm.eq_of_pairwise (fun a b _ _ hab hba => ?_) hsorted hnumbers
  rw [Std.OrientedCmp.gt_of_lt hba] at hab
  cases hab

/-- **A store without gaps lists the invoices of an account from the newest on.** -/
theorem Gapless.exists_listing (h : s.Gapless) (hproper : s.Proper) (ctx : RequestContext)
    (account : AccountId) : ∃ listing, s.Lists ctx account listing := by
  let own := s.invoices.values.filter fun i => i.tenant = ctx.tenant && i.account = account
  have hperm := List.mergeSort_perm own Invoice.newestLe
  refine ⟨own.mergeSort Invoice.newestLe, fun page => rfl, hperm, fun i hi => ?_, ?_⟩
  · obtain ⟨hvalue, hown⟩ := List.mem_filter.1 (hperm.mem_iff.1 hi)
    have htenant : i.tenant = ctx.tenant := by
      simp only [Bool.and_eq_true, decide_eq_true_eq] at hown
      exact hown.1
    obtain ⟨k, -, hnumber⟩ := h.exists_sequence hvalue htenant
    exact ⟨k + 1, hnumber⟩
  · have hnodup : (own.map (·.number)).Nodup := by
      rw [show own = _ from filter_and _ _]
      exact nodup_filter_key hproper.view_numbers_nodup _
    have hsorted := OrdersBy.mergeSort_strict
      (fun i j => compareLex (compareOn Invoice.generatedAt) (compareOn Invoice.number) j i)
      (fun _ _ heq => (OrdersBy.key_eq_of_compareLex heq).symm) hnodup
    exact hsorted.imp Invoice.precedes_of_compare

end MemoryStore

open InvoiceNumber (new compareMonths)

/-- **Invoice numbers are sorted by month, and in a month as their sequences are shown.** That is
the order of the sequences exactly where they are in step: a number with more digits comes after one
with fewer only if it is not below that one filled up with zeros. And in every store that clients
bring about from the empty one, the invoices of an account are listed from the newest on, those of
one instant in the order of their numbers. -/
theorem invoiceNumbers_sortedAsShown {d d' : Date} (h : FourDigits d.year)
    (h' : FourDigits d'.year) (n m : Nat) {ι α : Type} [DecidableEq ι] {e : ι → Surroundings}
    {others : StoreRequest → Prop} {rest : ι → Plan α} {σ : System ι α}
    (run : System.Run e others ⟨.empty, rest⟩ σ) (ctx : RequestContext) (account : AccountId) :
    compare (new d n) (new d' m) = (compareMonths d d').then (compareShown n m) ∧
    (compare (new d n) (new d' m) = (compareMonths d d').then (compare n m) ↔
      (SameMonth d d' → InStep n m)) ∧
    ∃ listing, σ.store.Lists ctx account listing := by
  refine ⟨InvoiceNumber.compare_new h h' n m, ?_, ?_⟩
  · rw [InvoiceNumber.compare_new h h' n m, ← InvoiceNumber.compareShown_eq_compare_iff,
      ← InvoiceNumber.compareMonths_eq_iff]
    -- in different months the sequences do not matter
    cases compareMonths d d' with
    | eq => exact ⟨fun heq _ => heq, fun heq => heq rfl⟩
    | lt | gt => exact iff_of_true rfl (by simp)
  · have hgapless := System.Run.keeps run (fun h taken => System.Step.gapless taken h)
      MemoryStore.gapless_empty
    exact hgapless.exists_listing (run.proper MemoryStore.proper_empty) ctx account

/-! ## A month of invoices -/

/-- The two invoices of March, the last number first. -/
theorem invoiceNumbers_sortedAsShown_march :
    compare (new Sample.firstOfMarch 2) (new Sample.firstOfMarch 1) = .gt ∧
    ∃ listing, billedMarch.1.store.Lists Sample.operator MemoryStore.firstAccount listing ∧
      listing.map (·.number) = [new Sample.firstOfMarch 2, new Sample.firstOfMarch 1] := by
  have hmarch : FourDigits Sample.firstOfMarch.year := by decide
  have hlisted {outcome : Quiet × (Nat → Plan Unit)}
      (run : System.Run (fun _ => .still MemoryStore.beforeAll.now) (fun _ => False)
        ⟨.empty, callers⟩ ⟨outcome.1.store, outcome.2⟩)
      (hnumbers : (outcome.1.store.invoices.values.filter fun i =>
        i.tenant = Sample.operator.tenant && i.account = MemoryStore.firstAccount).map (·.number) =
          [new Sample.firstOfMarch 1, new Sample.firstOfMarch 2])
      (hinstant : ∀ i ∈ outcome.1.store.invoices.values,
        i.generatedAt = MemoryStore.beforeAll.now) :
      compare (new Sample.firstOfMarch 2) (new Sample.firstOfMarch 1) = .gt ∧
      ∃ listing, outcome.1.store.Lists Sample.operator MemoryStore.firstAccount listing ∧
        listing.map (·.number) = [new Sample.firstOfMarch 2, new Sample.firstOfMarch 1] := by
    obtain ⟨-, hissued, listing, h⟩ := invoiceNumbers_sortedAsShown hmarch hmarch 2 1 run
      Sample.operator MemoryStore.firstAccount
    have hinStep := InvoiceNumber.inStep_of_lt (n := 2) (m := 1) (by decide) (by decide)
    have hperm := h.perm.map (·.number)
    rw [hnumbers] at hperm
    have hlisting : ∀ i ∈ listing, i.generatedAt = MemoryStore.beforeAll.now := fun i hi =>
      hinstant i (List.mem_of_mem_filter (h.perm.mem_iff.1 hi))
    exact ⟨(hissued.2 fun _ => hinStep).trans (by decide), listing, h,
      h.numbers_eq hlisting (hperm.trans (.swap ..)) (by decide)⟩
  exact hlisted (MemoryStore.beforeAll.run_play callers marchTurns) (by decide +kernel)
    (by decide +kernel)

/-! ## The millionth invoice of a month -/

/-- A draft of March without lines. -/
def blankDraft (place : Nat) : InvoiceDraft where
  id := ⟨.ofNat place⟩
  tenant := Sample.tenant
  account := Sample.unknownAccount
  period := Sample.firstWeekOfMarch
  issueDate := Sample.firstOfMarch
  dueDate := Sample.firstOfMarch
  subtotal := .zero
  paymentsApplied := .zero
  lines := []
  generatedAt := Sample.epoch
  generatedBy := Sample.operator.actor

/-- The store with one more draft. -/
def withDraft (place : Nat) (s : MemoryStore) : MemoryStore :=
  match s.insertInvoice false Sample.operator (blankDraft place) ⟨.ofNat (place + 1)⟩ with
  | .ok (_, s) => s
  | .error _ => s

/-- A store that has counted 999998 invoices of March, and then two more. -/
def pastMillion : MemoryStore :=
  withDraft 3 (withDraft 1
    { MemoryStore.empty with
      sequences := [((Sample.tenant, InvoiceNumber.periodKey Sample.firstOfMarch), 999998)] })

/-- **The millionth number of a month is sorted before the one that was given before it**, and the
listing has the two in the wrong order. -/
theorem invoiceNumbers_not_sortedAsIssued :
    FourDigits Sample.firstOfMarch.year ∧
    compare (new Sample.firstOfMarch 1000000) (new Sample.firstOfMarch 999999) = .lt ∧
    (compareMonths Sample.firstOfMarch Sample.firstOfMarch).then (compare 1000000 999999) = .gt ∧
    pastMillion.invoices.values.map (·.generatedAt) = [Sample.epoch, Sample.epoch] ∧
    (pastMillion.listInvoices Sample.operator Sample.unknownAccount .default).items.map
      (·.number) = [new Sample.firstOfMarch 999999, new Sample.firstOfMarch 1000000] := by
  refine ⟨by decide, by decide +kernel, by decide, by decide +kernel, ?_⟩
  have hsorted : (pastMillion.invoices.values.filter fun i =>
      i.tenant = Sample.operator.tenant && i.account = Sample.unknownAccount).Pairwise
        fun i j => i.newestLe j = true := by decide +kernel
  rw [MemoryStore.listInvoices, List.mergeSort_of_pairwise hsorted]
  decide +kernel

end RideLedger
