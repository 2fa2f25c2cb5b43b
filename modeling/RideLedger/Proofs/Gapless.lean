import RideLedger.Proofs.CommitLog
import RideLedger.Proofs.Numbering

/-!
# Gapless numbers — the invoices of a month are counted through

The store numbers the invoices of a tenant by the month of issue. In every store that clients bring
about, by whatever steps, the invoices of a month have the numbers one, two, and so on up to the
last sequence of the month, in the order in which they were stored (`MemoryStore.Gapless`). A draft
that is refused takes no number. So the store never finds the next number taken, and it never finds
an invoice in the place of a new one.

A number shows its month and its sequence, whatever the year: years outside 0 to 9999 have a sign,
and the month is in the last two digits (`InvoiceNumber.new_eq_iff`).
-/

namespace RideLedger

/-! ## What a month shows -/

/-- A number that fits a width is padded to that width. -/
theorem length_padded {n width : Nat} (hpos : 0 < width) (h : n < 10 ^ width) :
    (padded n width).toList.length = width := by
  have hdigits : (Nat.toDigits 10 n).length ≤ width :=
    (Nat.length_toDigits_le_iff (by decide) hpos).2 h
  rw [length_toList_padded, Nat.max_eq_left hdigits]

/-- There are twelve months. -/
theorem Date.month_range (d : Date) : 1 ≤ d.month ∧ d.month ≤ 12 := by
  have hnonneg : 0 ≤ (d.number + epochShift) % cycleDays := Int.emod_nonneg _ (by decide)
  have hcycle : (d.number + epochShift) % cycleDays < 146097 := Int.emod_lt_of_pos _ (by decide)
  simp only [Date.month, Date.civil, Civil.ofDayNumber]
  generalize (d.number + epochShift) % cycleDays = day at hnonneg hcycle ⊢
  omega

/-- A month has at most two digits. -/
theorem Date.month_lt (d : Date) : d.month < 10 ^ 2 := d.month_range.2.trans_lt (by decide)

/-- A text of digits does not begin with a sign. -/
theorem padded_ne_cons {sign : Char} (hsign : sign.isDigit = false) {n width : Nat}
    {rest : List Char} : (padded n width).toList ≠ sign :: rest := fun heq =>
  sign_not_mem_padded hsign n width (heq ▸ List.mem_cons_self ..)

/-- The characters of a year: those below zero and above 9999 have a sign. -/
theorem toList_yearText (year : Int) :
    (yearText year).toList =
      if year < 0 then '-' :: (padded year.natAbs 4).toList
      else if 9999 < year then '+' :: (padded year.natAbs 4).toList
      else (padded year.natAbs 4).toList := by
  unfold yearText
  split
  · simp
  · split <;> simp

/-- **A year can be read back from its text.** -/
theorem yearText_injective {year year' : Int} (h : yearText year = yearText year') :
    year = year' := by
  have htext := congrArg String.toList h
  rw [toList_yearText, toList_yearText] at htext
  have habs (hdigits : (padded year.natAbs 4).toList = (padded year'.natAbs 4).toList) :
      year.natAbs = year'.natAbs := padded_injective hdigits
  -- texts with different signs differ in their first character
  split at htext
  · next hneg =>
    split at htext
    · have := habs (List.cons.inj htext).2
      omega
    · split at htext
      · exact absurd (List.cons.inj htext).1 (by decide)
      · exact absurd htext.symm (padded_ne_cons rfl)
  · next hpos =>
    split at htext
    · next hbig =>
      split at htext
      · exact absurd (List.cons.inj htext).1 (by decide)
      · split at htext
        · have := habs (List.cons.inj htext).2
          omega
        · exact absurd htext.symm (padded_ne_cons rfl)
    · next hsmall =>
      split at htext
      · exact absurd htext (padded_ne_cons rfl)
      · split at htext
        · exact absurd htext (padded_ne_cons rfl)
        · have := habs htext
          omega

namespace InvoiceNumber

variable {d d' : Date} {n n' : Nat}

/-- Two dates lie in one month of one year. -/
def SameMonth (d d' : Date) : Prop := d.year = d'.year ∧ d.month = d'.month

instance : Decidable (SameMonth d d') := inferInstanceAs (Decidable (_ ∧ _))

/-- **The key of a month is its year and its month**: the last two digits are the month. -/
theorem periodKey_eq_iff : periodKey d = periodKey d' ↔ SameMonth d d' := by
  constructor
  · intro h
    have htext := congrArg String.toList h
    rw [periodKey, periodKey, String.toList_append, String.toList_append] at htext
    have hlength : (padded d.month 2).toList.length = (padded d'.month 2).toList.length := by
      rw [length_padded (by decide) d.month_lt, length_padded (by decide) d'.month_lt]
    obtain ⟨hyear, hmonth⟩ := List.append_inj' htext hlength
    exact ⟨yearText_injective (String.toList_inj.1 hyear), padded_injective hmonth⟩
  · rintro ⟨hyear, hmonth⟩
    rw [periodKey, periodKey, hyear, hmonth]

/-- The number of a sequence is the same for all dates of a month. -/
theorem new_congr (h : SameMonth d d') (n : Nat) : new d n = new d' n := by
  rw [new, new, periodKey_eq_iff.2 h]

/-- **Different months or sequences have different numbers.** -/
theorem new_eq_iff : new d n = new d' n' ↔ SameMonth d d' ∧ n = n' := by
  constructor
  · intro h
    obtain ⟨hkey, hn⟩ := new_injective h
    exact ⟨periodKey_eq_iff.1 hkey, hn⟩
  · rintro ⟨hmonth, rfl⟩
    exact new_congr hmonth n

end InvoiceNumber

namespace MemoryStore

open InvoiceNumber (SameMonth)

variable {cancelled : Bool} {request : StoreRequest} {ctx : RequestContext} {d : InvoiceDraft}
  {event : EventId} {i : Invoice} {s s' : MemoryStore}

/-! ## The invoices of a month -/

/-- The invoices that a tenant issued in the month of a date, in the order they were stored. -/
def issuedIn (tenant : TenantId) (month : Date) (s : MemoryStore) : List Invoice :=
  s.invoices.values.filter fun i => i.tenant = tenant && SameMonth i.issueDate month

theorem mem_issuedIn {tenant : TenantId} {month : Date} :
    i ∈ s.issuedIn tenant month ↔
      i ∈ s.invoices.values ∧ i.tenant = tenant ∧ SameMonth i.issueDate month := by
  simp [issuedIn]

/-- A store whose invoices are numbered without a gap, and whose maps have the names that its
faults show. -/
structure Gapless (s : MemoryStore) : Prop where
  numbers : ∀ (ctx : RequestContext) (month : Date),
    (s.issuedIn ctx.tenant month).map (·.number) =
      (List.range (s.lastSequence ctx month)).map fun k => .new month (k + 1)
  marker : s.billed.entity = "InvoiceLineItem"

theorem gapless_empty : empty.Gapless := ⟨fun _ _ => rfl, rfl⟩

/-- The invoices of a month are as many as its last sequence says. -/
theorem Gapless.length_eq (h : s.Gapless) (ctx : RequestContext) (month : Date) :
    (s.issuedIn ctx.tenant month).length = s.lastSequence ctx month := by
  have hlength := congrArg List.length (h.numbers ctx month)
  simpa using hlength

/-- No sequence is larger than the number of invoices. -/
theorem Gapless.lastSequence_le (h : s.Gapless) (ctx : RequestContext) (month : Date) :
    s.lastSequence ctx month ≤ s.invoices.size := by
  have hsize : s.invoices.values.length = s.invoices.size := List.length_map _
  rw [← h.length_eq ctx month, ← hsize]
  exact List.length_filter_le ..

/-- **What storing an invoice does to a month**: it goes to the end of the invoices of its own
month, and the sequence of that month goes up by one. -/
theorem issuedIn_invoiced {sequence : UInt32} {tenant : TenantId} {month : Date} :
    (s.invoiced ctx sequence i event).issuedIn tenant month =
      s.issuedIn tenant month ++
        if i.tenant = tenant ∧ SameMonth i.issueDate month then [i] else [] := by
  simp only [issuedIn, invoiced, WriteOnce.extend_values, List.map_cons, List.map_nil,
    List.filter_append, List.filter_cons, List.filter_nil, Bool.and_eq_true, decide_eq_true_eq]

theorem lastSequence_invoiced {ctx' : RequestContext} {sequence : UInt32} {month : Date} :
    (s.invoiced ctx sequence i event).lastSequence ctx' month =
      if ctx.tenant = ctx'.tenant ∧ SameMonth i.issueDate month then sequence.toNat
      else s.lastSequence ctx' month := by
  have hkey : (ctx'.tenant, InvoiceNumber.periodKey month) =
      (ctx.tenant, InvoiceNumber.periodKey i.issueDate) ↔
        ctx.tenant = ctx'.tenant ∧ SameMonth i.issueDate month := by
    rw [Prod.mk.injEq, ← InvoiceNumber.periodKey_eq_iff]
    exact and_congr eq_comm eq_comm
  rw [lastSequence, counter, invoiced, lookup_setSequence]
  split
  · next h => rw [if_pos (hkey.1 h)]; rfl
  · next h => rw [if_neg (mt hkey.2 h)]; rfl

/-- Writes that touch neither invoices nor sequences leave the numbers as they are. -/
theorem Gapless.of_eq (h : s.Gapless) (hinvoices : s'.invoices = s.invoices)
    (hsequences : s'.sequences = s.sequences) (hbilled : s'.billed.entity = s.billed.entity) :
    s'.Gapless where
  numbers ctx month := by
    have hissued : s'.issuedIn ctx.tenant month = s.issuedIn ctx.tenant month := by
      rw [issuedIn, hinvoices, issuedIn]
    have hlast : s'.lastSequence ctx month = s.lastSequence ctx month := by
      rw [lastSequence, counter, hsequences, lastSequence, counter]
    rw [hissued, hlast, h.numbers ctx month]
  marker := hbilled.trans h.marker

/-- **Every request leaves the numbers without a gap.** -/
theorem Commit.gapless (h : Commit cancelled s request s') (hs : s.Gapless) : s'.Gapless := by
  cases h with
  | @invoiced ctx d event i hdraft hnumbered hinvoice hnodup =>
    have hof := numbers_of_numbered hnumbered
    have hown : i.tenant = ctx.tenant := tenant_of_numbered hdraft hnumbered
    refine ⟨fun ctx' month => ?_, hs.marker⟩
    rw [issuedIn_invoiced, lastSequence_invoiced, hown, List.map_append, hs.numbers ctx' month]
    by_cases hmonth : ctx.tenant = ctx'.tenant ∧ SameMonth i.issueDate month
    · rw [if_pos hmonth, if_pos hmonth, toNat_nextSequence hof.left, List.range_succ,
        List.map_append]
      obtain ⟨htenant, hmonth⟩ := hmonth
      -- the sequence of the invoice is one more than the last of this very month
      have hsame : s.lastSequence ctx d.issueDate = s.lastSequence ctx' month := by
        rw [lastSequence, lastSequence, counter, counter, htenant, ← hof.issueDate,
          InvoiceNumber.periodKey_eq_iff.2 hmonth]
      have hnumber : i.number = .new month (s.lastSequence ctx' month + 1) := by
        rw [hof.number, hsame, ← hof.issueDate]
        exact InvoiceNumber.new_congr hmonth _
      rw [hsame, List.map_cons, List.map_nil, hnumber]
      rfl
    · rw [if_neg hmonth, if_neg hmonth, List.map_nil, List.append_nil]
  | _ => exact hs.of_eq rfl rfl rfl

/-- The number of an invoice shows a sequence that its month has come to. -/
theorem Gapless.exists_sequence (h : s.Gapless) (hi : i ∈ s.invoices.values)
    (htenant : i.tenant = ctx.tenant) :
    ∃ k < s.lastSequence ctx i.issueDate, i.number = .new i.issueDate (k + 1) := by
  have hmem : i.number ∈ (s.issuedIn ctx.tenant i.issueDate).map (·.number) :=
    List.mem_map_of_mem (mem_issuedIn.2 ⟨hi, htenant, rfl, rfl⟩)
  rw [h.numbers ctx i.issueDate, List.mem_map] at hmem
  obtain ⟨k, hk, hnew⟩ := hmem
  exact ⟨k, List.mem_range.1 hk, hnew.symm⟩

/-- The next number of a month is taken by no invoice. -/
theorem Gapless.next_free (h : s.Gapless) (ctx : RequestContext) (month : Date) :
    ∀ j ∈ s.invoices.values, j.tenant = ctx.tenant →
      j.number ≠ .new month (s.lastSequence ctx month + 1) := by
  intro j hj htenant hnumber
  obtain ⟨k, hlt, hnew⟩ := h.exists_sequence hj htenant
  obtain ⟨hmonth, hsequence⟩ := InvoiceNumber.new_eq_iff.1 (hnew.symm.trans hnumber)
  have hlast : s.lastSequence ctx j.issueDate = s.lastSequence ctx month := by
    rw [lastSequence, lastSequence, counter, counter, InvoiceNumber.periodKey_eq_iff.2 hmonth]
  omega

/-- **No number is given twice**: the tenant's invoices with one number are one invoice. -/
theorem Gapless.unique (h : s.Gapless) {j : Invoice} (hi : i ∈ s.invoices.values)
    (hj : j ∈ s.invoices.values) (htenant : i.tenant = j.tenant) (hnumber : i.number = j.number) :
    i = j := by
  let ctx : RequestContext := { tenant := j.tenant, actor := systemActor }
  obtain ⟨n, -, hn⟩ := h.exists_sequence hi (show i.tenant = ctx.tenant from htenant)
  obtain ⟨n', -, hn'⟩ := h.exists_sequence hj (show j.tenant = ctx.tenant from rfl)
  -- one number is of one month, and the numbers of a month are different
  have hmonth : SameMonth i.issueDate j.issueDate := by
    rw [hn, hn'] at hnumber
    exact (InvoiceNumber.new_eq_iff.1 hnumber).1
  have hnodup : ((s.issuedIn ctx.tenant j.issueDate).map (·.number)).Nodup := by
    rw [h.numbers ctx j.issueDate]
    refine List.nodup_range.map fun k k' hk => ?_
    have hsequence := (InvoiceNumber.new_eq_iff.1 hk).2
    omega
  exact List.inj_on_of_nodup_map hnodup (mem_issuedIn.2 ⟨hi, htenant, hmonth⟩)
    (mem_issuedIn.2 ⟨hj, rfl, rfl, rfl⟩) hnumber

/-! ## Drafts that are refused -/

/-- The faults with which the store refuses a draft, when neither its number nor its identifier is
taken. -/
inductive Refusal (ctx : RequestContext) (d : InvoiceDraft) : StoreFault → Prop
  | foreign : Refusal ctx d (foreign d.tenant)
  | missing (entry : EntryId) : Refusal ctx d (.notFound "LedgerEntry" entry.toText)
  | billed (entry : EntryId) :
      Refusal ctx d (.conflict ("ledger entry " ++ entry.toText ++ " is already invoiced"))
  | cancelled : Refusal ctx d .cancelled
  /-- The draft has two lines for one entry. -/
  | repeated (key : String) : Refusal ctx d (.immutable "InvoiceLineItem" key)

/-- A draft that is not even numbered. -/
theorem refusal_of_draftFault? {fault : StoreFault} (h : s.draftFault? ctx d = some fault) :
    Refusal ctx d fault := by
  rw [draftFault?] at h
  split at h
  · exact Option.some.inj h ▸ .foreign
  · obtain ⟨entry, -, hentry⟩ := List.exists_of_findSome?_eq_some h
    rw [billingFault?] at hentry
    split at hentry
    · exact Option.some.inj hentry ▸ .missing entry
    · split at hentry
      · exact Option.some.inj hentry ▸ .billed entry
      · cases hentry

/-- Marking ends at an entry that has a marker. -/
theorem markBilled_fault {tenant : TenantId} {invoice : InvoiceId} {entries : List EntryId}
    {fault : StoreFault} (h : (s.markBilled tenant invoice entries).1 = .error fault) :
    ∃ key, fault = .immutable s.billed.entity key := by
  induction entries generalizing s with
  | nil => cases h
  | cons e rest ih =>
    by_cases he : (tenant, e) ∈ s.billed.keys
    · rw [markBilled, WriteOnce.insert_of_mem he] at h
      exact ⟨_, (Except.error.inj h).symm⟩
    · simp only [markBilled, WriteOnce.insert_of_not_mem he] at h
      have hrest := ih h
      exact hrest

/-- Writing a new invoice ends at an entry that has a marker. -/
theorem writeInvoice_fault {sequence : UInt32} {fault : StoreFault} (hid : i.id ∉ s.invoices.keys)
    (h : s.writeInvoice ctx sequence i event = (.error fault, s')) :
    ∃ key, fault = .immutable s.billed.entity key := by
  obtain ⟨marked, -, -, -, hstate⟩ :=
    markBilled_state ctx.tenant i.id (i.lines.map (·.entry)) s
  rw [writeInvoice] at h
  cases hmark : s.markBilled ctx.tenant i.id (i.lines.map (·.entry)) with
  | mk result after =>
    rw [hmark] at h hstate
    cases result with
    | error fault' =>
      obtain ⟨hfault, -⟩ := Prod.mk.inj h
      have hmarked : (s.markBilled ctx.tenant i.id (i.lines.map (·.entry))).1 = .error fault := by
        rw [hmark, Except.error.inj hfault]
      exact markBilled_fault hmarked
    | ok _ =>
      -- all entries are marked, and the identifier of the invoice is new
      obtain rfl := hstate
      simp only [WriteOnce.insert_of_not_mem hid] at h
      cases h

/-- **The two checks on what is there already never refuse a new draft**: the next number is free,
and the identifier is new. -/
theorem Gapless.refusal (h : s.Gapless) {fault : StoreFault} (hfresh : d.id ∉ s.invoices.keys)
    (hserved : s.insertInvoice cancelled ctx d event = .ok (.error fault, s')) :
    Refusal ctx d fault := by
  rw [insertInvoice_eq] at hserved
  cases hdraft : s.draftFault? ctx d with
  | some fault' =>
    simp only [hdraft, Except.ok.injEq, Prod.mk.injEq, Except.error.injEq] at hserved
    exact hserved.1 ▸ refusal_of_draftFault? hdraft
  | none =>
    cases hnumbered : s.numbered ctx d with
    | error overflow => simp [hdraft, hnumbered, Except.map] at hserved
    | ok i =>
      have hof := numbers_of_numbered hnumbered
      have hid : i.id ∉ s.invoices.keys := hof.id ▸ hfresh
      have hfree := h.next_free ctx d.issueDate
      rw [← hof.number] at hfree
      simp only [hdraft, hnumbered, Except.map, Except.ok.injEq] at hserved
      cases cancelled with
      | true =>
        have hfault : s.invoiceFault? true ctx i = some .cancelled := by
          have htaken : (s.invoices.values.any fun j =>
              j.tenant = ctx.tenant && j.number = i.number) = false := by
            simpa using hfree
          have hcontains : s.invoices.contains i.id = false := by
            simpa [← WriteOnce.contains_iff] using hid
          simp [invoiceFault?, htaken, hcontains]
        simp only [hfault, Prod.mk.injEq, Except.error.injEq] at hserved
        exact hserved.1 ▸ .cancelled
      | false =>
        have hfault : s.invoiceFault? false ctx i = none :=
          invoiceFault?_eq_none_iff.2 ⟨hfree, hid, rfl⟩
        simp only [hfault] at hserved
        -- what is left to go wrong is a second line for an entry
        obtain ⟨key, rfl⟩ := writeInvoice_fault hid hserved
        rw [h.marker]
        exact .repeated key

/-- **A draft that is refused takes no number.** -/
theorem insertInvoice_refused {fault : StoreFault}
    (h : s.insertInvoice cancelled ctx d event = .ok (.error fault, s')) :
    s'.sequences = s.sequences ∧ s'.invoices = s.invoices := by
  have hcommit := commit_of_insertInvoice h
  cases hcommit with
  | unchanged => exact ⟨rfl, rfl⟩
  | halfInvoiced => exact ⟨rfl, rfl⟩
  | invoiced hdraft hnumbered hinvoice hnodup =>
    -- a draft that is stored is answered with its invoice
    rcases invoiced_of_insert hnodup h with ⟨i, hanswer, -⟩ | ⟨-, hstate⟩
    · cases hanswer
    · rw [hstate]
      exact ⟨rfl, rfl⟩

/-! ## What the numbers come to -/

/-- The texts of a taken number and of a billed entry differ from their first letter on. -/
theorem Refusal.not_taken {fault : StoreFault} (h : Refusal ctx d fault) :
    (∀ number : InvoiceNumber,
      fault ≠ .conflict ("invoice number " ++ number.text ++ " already exists")) ∧
      ∀ text, fault ≠ .immutable "Invoice" text := by
  cases h with
  | billed entry =>
    refine ⟨fun number hsame => ?_, fun text hsame => nomatch hsame⟩
    have htext := congrArg String.toList (StoreFault.conflict.inj hsame)
    simp only [String.toList_append] at htext
    exact absurd (List.cons.inj htext).1 (by decide)
  | repeated key =>
    refine ⟨fun number hsame => (nomatch hsame), fun text hsame => ?_⟩
    exact absurd (StoreFault.immutable.inj hsame).1 (by decide)
  | _ => exact ⟨fun number hsame => (nomatch hsame), fun text hsame => (nomatch hsame)⟩

/-- A store that counts its invoices through. -/
structure CountsThrough (s : MemoryStore) : Prop where
  /-- The invoices of a month have the numbers from one up to its last sequence, in the order they
  were stored. -/
  numbers : ∀ (ctx : RequestContext) (month : Date),
    (s.issuedIn ctx.tenant month).map (·.number) =
      (List.range (s.lastSequence ctx month)).map fun k => .new month (k + 1)
  /-- No two invoices of a tenant have one number. -/
  unique : ∀ i ∈ s.invoices.values, ∀ j ∈ s.invoices.values,
    i.tenant = j.tenant → i.number = j.number → i = j
  /-- The next sequence of a month has at most 32 bits. -/
  bounded : s.invoices.size < 2 ^ 32 - 1 → ∀ (ctx : RequestContext) (month : Date),
    s.lastSequence ctx month + 1 < 2 ^ 32
  /-- A draft that is refused takes no number. -/
  refused : ∀ {cancelled ctx d event fault s'},
    s.serve cancelled (.insertInvoice ctx d event) = .ok (.error fault, s') →
      s'.sequences = s.sequences ∧ s'.invoices = s.invoices
  /-- A draft of a cancelled request is refused. -/
  cancelled : ∀ {ctx d event answer s'},
    s.serve true (.insertInvoice ctx d event) = .ok (answer, s') → ∃ fault, answer = .error fault
  /-- A draft with a new identifier is not refused for its number, nor for an invoice in its
  place. -/
  unmet : ∀ {cancelled ctx d event fault s'}, d.id ∉ s.invoices.keys →
    s.serve cancelled (.insertInvoice ctx d event) = .ok (.error fault, s') →
      (∀ number : InvoiceNumber,
        fault ≠ .conflict ("invoice number " ++ number.text ++ " already exists")) ∧
        ∀ text, fault ≠ .immutable "Invoice" text

theorem Gapless.countsThrough (h : s.Gapless) : s.CountsThrough where
  numbers := h.numbers
  unique _ hi _ hj := h.unique hi hj
  bounded hsize ctx month := by
    have hle := h.lastSequence_le ctx month
    omega
  refused := insertInvoice_refused
  cancelled hserved := (insertInvoice_of_cancelled hserved).1
  unmet hfresh hserved := (h.refusal hfresh hserved).not_taken

end MemoryStore

open MemoryStore (Gapless CountsThrough)

variable {ι α : Type} [DecidableEq ι] {e : ι → Surroundings} {others : StoreRequest → Prop}
  {σ σ' : System ι α}

/-- A step of a plan leaves the numbers without a gap. -/
theorem Plan.Step.gapless {e : Surroundings} {p p' : Plan α} {s s' : MemoryStore}
    (taken : Plan.Step e p s p' s') (h : s.Gapless) : s'.Gapless := by
  cases taken with
  | ask read served => exact (MemoryStore.commit_of_serve served).gapless h
  | _ => exact h

/-- So does a step of a system. -/
theorem System.Step.gapless (taken : System.Step e others σ σ') (h : σ.store.Gapless) :
    σ'.store.Gapless := by
  cases taken with
  | client i taken => exact taken.gapless h
  | other allowed served => exact (MemoryStore.commit_of_serve served).gapless h

/-- **Every reachable store is numbered without a gap.** -/
theorem MemoryStore.Reachable.gapless {postable : LedgerTransaction → Prop} {s : MemoryStore}
    (h : s.Reachable postable) : s.Gapless := by
  induction h with
  | empty => exact gapless_empty
  | run _ _ _ steps ih => exact System.Run.keeps steps (fun h taken => taken.gapless h) ih

/-- **Invoice numbers are unique and without gaps.** Whatever any number of clients do from the
empty store on, side by side, by whatever plans and with whatever success, and whatever others put
to the store in between: the invoices of every month are counted through. And two numbers are one
only for one month and one sequence. -/
theorem invoices_countedThrough :
    (∀ {ι α : Type} [DecidableEq ι] {e : ι → Surroundings} {others : StoreRequest → Prop}
      {rest : ι → Plan α} {σ : System ι α},
      System.Run e others ⟨.empty, rest⟩ σ → σ.store.CountsThrough) ∧
    ∀ {d d' : Date} {n n' : Nat}, InvoiceNumber.new d n = InvoiceNumber.new d' n' ↔
      (d.year = d'.year ∧ d.month = d'.month) ∧ n = n' := by
  refine ⟨fun run => ?_, InvoiceNumber.new_eq_iff⟩
  have hgapless := System.Run.keeps run (fun h taken => System.Step.gapless taken h)
    MemoryStore.gapless_empty
  exact hgapless.countsThrough

/-! ## Two rides in a month -/

/-- An account, a ride that two clients want to bill, and another ride that is billed later. -/
def ridesOfMarch : List Operation :=
  let ride (name : String) : Operation := .recordRideCharge Sample.operator
    { account := MemoryStore.firstAccount, ride := name, amount := Sample.rideFare
      description := none }
  let bill : Operation :=
    .generateInvoice Sample.operator MemoryStore.firstAccount Sample.firstWeekOfMarch .default
  MemoryStore.firstCalls ++ [bill, bill, ride "ride-2", bill]

/-- Each call is made by a client of its own. -/
def callers (i : Nat) : Plan Unit :=
  (ridesOfMarch.getD i (.trialBalance Sample.operator)).plan .default

/-- The clients that bill the first ride take marchTurns; all others run alone. -/
def marchTurns : List Nat :=
  List.replicate 6 0 ++ List.replicate 12 1 ++ (List.replicate 12 [2, 3]).flatten ++
    List.replicate 12 4 ++ List.replicate 12 5

/-- The rides, billed. -/
def billedMarch : Quiet × (Nat → Plan Unit) := MemoryStore.beforeAll.play callers marchTurns

/-- One of the first two drafts is refused, and the next invoice has the second number. -/
theorem invoices_countedThrough_march :
    billedMarch.1.store.invoices.values.map (·.number.text) =
      ["INV-202403-000001", "INV-202403-000002"] ∧
    billedMarch.1.store.CountsThrough := by
  have hcounts {outcome : Quiet × (Nat → Plan Unit)}
      (run : System.Run (fun _ => .still MemoryStore.beforeAll.now) (fun _ => False)
        ⟨.empty, callers⟩ ⟨outcome.1.store, outcome.2⟩) : outcome.1.store.CountsThrough :=
    invoices_countedThrough.1 run
  exact ⟨by decide +kernel, hcounts (MemoryStore.beforeAll.run_play callers marchTurns)⟩

end RideLedger
