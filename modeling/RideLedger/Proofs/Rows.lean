import RideLedger.Database.Row
import RideLedger.Proofs.AccountChanges
import RideLedger.Proofs.CommitLog
import RideLedger.Proofs.Days
import RideLedger.Proofs.Lookup
import RideLedger.Proofs.Nearest
import RideLedger.Proofs.Tracing

/-!
# Rows — what a database keeps

Accounts, entries, invoices and events are written as rows and read back from them. Reading a row
checks again what the constructors checked, so it must accept whatever they let pass: names and
references that were trimmed once are not trimmed further, amounts that were rounded once are not
rounded further, and the sums of an invoice are those of its lines, taken in the same order. An
invoice comes back exactly when the reader of numbers takes its number, that is, when its year of
issue has four digits.

In the other direction, a row that is accepted is given back with its amounts rounded to four digits
and its name or reference trimmed, and in nothing else changed.
-/

namespace RideLedger

/-! ## Reading -/

section Reading

variable {α : Type} {a : α}

/-- A row is read when nothing in it breaks a rule. -/
theorem orCorrupt_eq_ok_iff {x : Except BillingError α} : orCorrupt x = .ok a ↔ x = .ok a := by
  cases x <;> simp [orCorrupt]

section Steps

variable {β ε : Type} {b : β} {f : α → ExceptT ε (Except RangeFault) β}

/-- What follows a part that cannot run out of range. -/
theorem run_mk_bind_eq_ok {x : Except ε α} :
    (ExceptT.mk (pure x) >>= f).run = .ok (.ok b) ↔ ∃ a, x = .ok a ∧ (f a).run = .ok (.ok b) := by
  cases x with
  | error fault => exact ⟨fun h => (nomatch h), fun ⟨a, ha, _⟩ => (nomatch ha)⟩
  | ok a => exact ⟨fun h => ⟨a, rfl, h⟩, fun ⟨a', ha, h⟩ => Except.ok.inj ha ▸ h⟩

/-- What follows a part that has no errors but to run out of range. -/
theorem run_lift_bind_eq_ok {x : Except RangeFault α} :
    ((liftM x : ExceptT ε (Except RangeFault) α) >>= f).run = .ok (.ok b) ↔
      ∃ a, x = .ok a ∧ (f a).run = .ok (.ok b) := by
  cases x with
  | error fault => exact ⟨fun h => (nomatch h), fun ⟨a, ha, _⟩ => (nomatch ha)⟩
  | ok a => exact ⟨fun h => ⟨a, rfl, h⟩, fun ⟨a', ha, h⟩ => Except.ok.inj ha ▸ h⟩

end Steps

/-- A list that is read item by item as it was written. -/
theorem mapM_written {β ε : Type} {read : β → Except ε α} {write : α → β} {items : List α}
    (h : ∀ a ∈ items, read (write a) = .ok a) : (items.map write).mapM read = .ok items := by
  induction items with
  | nil => rfl
  | cons a rest ih =>
    rw [List.map_cons, List.mapM_cons, h a (List.mem_cons_self ..), ok_bind,
      ih fun b hb => h b (List.mem_cons_of_mem _ hb)]
    rfl

/-- A list that is written item by item as it was read, but for what reading does to each item. -/
theorem map_read {β ε : Type} {read : β → Except ε α} {write : α → β} {after : β → β}
    (h : ∀ {b a}, read b = .ok a → write a = after b) {rows : List β} {items : List α}
    (hread : rows.mapM read = .ok items) : items.map write = rows.map after := by
  induction rows generalizing items with
  | nil =>
    obtain rfl := Except.ok.inj hread
    rfl
  | cons b rest ih =>
    rw [List.mapM_cons] at hread
    obtain ⟨a, ha, hrest⟩ := bind_eq_ok.1 hread
    obtain ⟨others, hothers, hitems⟩ := bind_eq_ok.1 hrest
    obtain rfl := Except.ok.inj hitems
    rw [List.map_cons, List.map_cons, h ha, ih hothers]

end Reading

/-! ## Accounts -/

namespace Account

variable {a a' : Account} {name valid : String}

/-- A checked name is trimmed, and it passes the check again. -/
theorem validName_eq_ok (h : validName name = .ok valid) :
    valid = trim name ∧ validName valid = .ok valid := by
  simp only [validName] at h
  split at h
  · cases h
  next hblank =>
  split at h
  · cases h
  next hlong =>
  obtain rfl := Except.ok.inj h
  simp only [validName, trim_trim, if_neg hblank, if_neg hlong, true_and]

/-- An account as the constructors and the changes make it. -/
inductive Made : Account → Prop
  | opened {id tenant request actor now a} (h : opened id tenant request actor now = .ok a) : Made a
  | rehydrated {record a} (h : rehydrate record = .ok a) : Made a
  | changed {change : AccountChange} {a actor now a'} (before : Made a)
      (h : change.edit? a actor now = some a') : Made a'

/-- **The name of an account passes the check of names.** -/
theorem Made.validName (h : a.Made) : Account.validName a.name = .ok a.name := by
  induction h with
  | opened h =>
    simp only [Account.opened, guard_throw_eq_ok] at h
    obtain ⟨valid, hvalid, ha⟩ := bind_eq_ok.1 h.2
    obtain rfl := Except.ok.inj ha
    exact (validName_eq_ok hvalid).2
  | rehydrated h =>
    obtain ⟨valid, hvalid, ha⟩ := bind_eq_ok.1 h
    obtain rfl := Except.ok.inj ha
    exact (validName_eq_ok hvalid).2
  | changed before h ih =>
    obtain ⟨-, -, hname⟩ := AccountChange.edit?_own h
    rw [hname, ih]

end Account

namespace AccountRow

variable {a : Account} {r : AccountRow}

/-- **An account comes back as it was written.** -/
theorem toAccount_ofAccount (h : a.Made) : (ofAccount a).toAccount = .ok a := by
  rw [toAccount, orCorrupt_eq_ok_iff, Account.rehydrate]
  exact bind_eq_ok.2 ⟨a.name, h.validName, rfl⟩

/-- A row comes back with its name trimmed. -/
theorem ofAccount_of_toAccount (h : r.toAccount = .ok a) :
    ofAccount a = { r with name := trim r.name } := by
  rw [toAccount, orCorrupt_eq_ok_iff, Account.rehydrate] at h
  obtain ⟨valid, hvalid, ha⟩ := bind_eq_ok.1 h
  obtain rfl := Except.ok.inj ha
  rw [← (Account.validName_eq_ok hvalid).1]
  rfl

end AccountRow

/-! ## Entries -/

namespace LedgerEntry

variable {e : LedgerEntry}

/-- An entry with a positive amount on one side and none on the other. -/
def OneSided (e : LedgerEntry) : Prop :=
  (e.debitAmount.isPositive = true ∧ e.creditAmount.isZero = true) ∨
    (e.creditAmount.isPositive = true ∧ e.debitAmount.isZero = true)

/-- What an entry is that was taken from storage. -/
theorem rehydrate_eq_ok_iff {record : LedgerEntry} :
    rehydrate record = .ok e ↔ record.OneSided ∧
      ∃ valid, validReference record.reference = .ok valid ∧
        e = { record with reference := valid } := by
  simp only [rehydrate, guard_throw_eq_ok, bind_eq_ok, OneSided, Bool.not_eq_true',
    Bool.not_eq_false, Bool.or_eq_true, Bool.and_eq_true]
  refine and_congr_right fun _ => exists_congr fun valid => and_congr_right fun _ => ?_
  exact ⟨fun h => (Except.ok.inj h).symm, fun h => congrArg Except.ok h.symm⟩

/-- **An entry passes the check of stored entries**, whether it was built or taken from storage. -/
theorem Genuine.rehydrate (h : e.Genuine) : LedgerEntry.rehydrate e = .ok e := by
  rcases h with ⟨side, id, account, amount, source, hpost⟩ | ⟨record, hrecord⟩
  · unfold LedgerEntry.post at hpost
    simp only [guard_throw_eq_ok, Bool.not_eq_true', Bool.not_eq_false] at hpost
    obtain ⟨hpositive, -, hbuild⟩ := hpost
    obtain ⟨valid, hvalid, he⟩ := bind_eq_ok.1 hbuild
    obtain rfl := Except.ok.inj he
    refine rehydrate_eq_ok_iff.2 ⟨?_, valid, (validReference_eq_ok hvalid).2, rfl⟩
    cases side
    · exact .inl ⟨hpositive, rfl⟩
    · exact .inr ⟨hpositive, rfl⟩
  · obtain ⟨hsided, valid, hvalid, rfl⟩ := rehydrate_eq_ok_iff.1 hrecord
    exact rehydrate_eq_ok_iff.2 ⟨hsided, valid, (validReference_eq_ok hvalid).2, rfl⟩

end LedgerEntry

namespace EntryRow

variable {e : LedgerEntry} {r : EntryRow}

/-- **An entry comes back as it was written.** -/
theorem toEntry_ofEntry (h : e.Genuine) : (ofEntry e).toEntry = .ok e := by
  rw [toEntry, orCorrupt_eq_ok_iff, ofEntry, Money.ofDecimal_self, Money.ofDecimal_self]
  exact h.rehydrate

/-- A row comes back with its amounts rounded and its reference trimmed. -/
theorem ofEntry_of_toEntry (h : r.toEntry = .ok e) :
    ofEntry e = { r with
      debitAmount := r.debitAmount.round moneyScale
      creditAmount := r.creditAmount.round moneyScale
      reference := trim r.reference } := by
  rw [toEntry, orCorrupt_eq_ok_iff] at h
  obtain ⟨-, valid, hvalid, rfl⟩ := LedgerEntry.rehydrate_eq_ok_iff.1 h
  rw [← (LedgerEntry.validReference_eq_ok hvalid).1]
  rfl

end EntryRow

/-! ## Lines -/

namespace LineRow

variable {l : InvoiceLine} {r : LineRow}

/-- A line comes back as it was written, if its amount is positive. -/
theorem toLine_ofLine (h : l.amount.isPositive = true) : (ofLine l).toLine = .ok l := by
  rw [toLine, orCorrupt_eq_ok_iff, ofLine, Money.ofDecimal_self, InvoiceLine.rehydrate]
  exact if_pos h

/-- The row with its amount rounded. -/
def rounded (r : LineRow) : LineRow := { r with amount := r.amount.round moneyScale }

/-- A row comes back with its amount rounded. -/
theorem ofLine_of_toLine (h : r.toLine = .ok l) : ofLine l = r.rounded := by
  rw [toLine, orCorrupt_eq_ok_iff, InvoiceLine.rehydrate] at h
  split at h
  · obtain rfl := Except.ok.inj h
    rfl
  · cases h

end LineRow

/-! ## Invoices -/

namespace Invoice

variable {i record : Invoice}

/-- What a stored invoice has to be to pass the check. -/
structure Consistent (i : Invoice) : Prop where
  period : i.period.start ≤ i.period.finish
  subtotal : ∃ total, Money.sum (i.lines.map (·.amount)) = .ok total ∧
    total.sameValue i.subtotal = true
  outstanding : ∃ rest, i.subtotal.sub i.paymentsApplied = .ok rest ∧
    rest.sameValue i.outstanding = true
  lines : ∀ l ∈ i.lines, l.invoice = i.id

/-- A period is made of two dates in order. -/
theorem gives_newPeriod {start finish : Date} {period : BillingPeriod} :
    (Outcome.ofTemporal (BillingPeriod.new start finish)).Gives period ↔
      start ≤ finish ∧ period = { start := start, finish := finish } := by
  unfold BillingPeriod.new
  by_cases h : start ≤ finish
  · rw [if_pos h]
    exact Outcome.gives_ofExcept.trans (by simp [h, eq_comm])
  · rw [if_neg h]
    exact Outcome.gives_ofExcept.trans (by simp [h])

/-- **The check of stored invoices gives the invoice itself**, if it is consistent. -/
theorem rehydrate_gives_iff : (rehydrate record).Gives i ↔ record.Consistent ∧ i = record := by
  unfold rehydrate
  simp only [Outcome.gives_bind, Outcome.gives_lift, Outcome.gives_guard_refuse,
    Outcome.gives_pure, gives_newPeriod]
  constructor
  · rintro ⟨period, ⟨hperiod, rfl⟩, total, htotal, hsubtotal, rest, hrest, houtstanding, hlines,
      rfl⟩
    exact ⟨⟨hperiod, ⟨total, htotal, by simpa using hsubtotal⟩,
      ⟨rest, hrest, by simpa using houtstanding⟩, by simpa using hlines⟩, rfl⟩
  · rintro ⟨⟨hperiod, ⟨total, htotal, hsubtotal⟩, ⟨rest, hrest, houtstanding⟩, hlines⟩, rfl⟩
    exact ⟨_, ⟨hperiod, rfl⟩, total, htotal, by simpa using hsubtotal, rest, hrest,
      by simpa using houtstanding, by simpa using hlines, rfl⟩

/-- An invoice as the store writes it: consistent, with positive lines, and with a number of its day
of issue. -/
structure Written (i : Invoice) : Prop extends i.Consistent where
  positive : ∀ l ∈ i.lines, l.amount.isPositive = true
  number : ∃ n, i.number = .new i.issueDate n

end Invoice

namespace InvoiceRow

variable {i : Invoice} {r : InvoiceRow} {rows : List LineRow}

/-- The invoice that a row and its lines spell out, before it is checked. -/
def spelled (r : InvoiceRow) (lines : List InvoiceLine) : Invoice :=
  { id := ⟨r.invoiceId⟩, number := ⟨r.number⟩, tenant := ⟨r.tenantId⟩, account := ⟨r.accountId⟩
    period := { start := r.periodStart, finish := r.periodEnd }, issueDate := r.issueDate
    dueDate := r.dueDate, subtotal := .ofDecimal r.subtotal
    paymentsApplied := .ofDecimal r.paymentsApplied, outstanding := .ofDecimal r.outstanding
    lines := lines, generatedAt := r.generatedAt, generatedBy := r.generatedBy }

/-- **When an invoice is read**: its lines and its number are, and what they spell out is
consistent. -/
theorem toInvoice_eq_ok_iff :
    (r.toInvoice rows).run = .ok (.ok i) ↔
      ∃ lines, rows.mapM LineRow.toLine = .ok lines ∧ InvoiceNumber.wellFormed r.number = true ∧
        (r.spelled lines).Consistent ∧ i = r.spelled lines := by
  have hread {number : InvoiceNumber} : orCorrupt (InvoiceNumber.parse r.number) = .ok number ↔
      InvoiceNumber.wellFormed r.number = true ∧ number = ⟨r.number⟩ := by
    rw [orCorrupt_eq_ok_iff, InvoiceNumber.parse]
    split
    · next h => simp [h, eq_comm]
    · next h => simp [h]
  have hlast {a : Except BillingError Invoice} :
      (ExceptT.mk (pure (orCorrupt a)) : ExceptT DatabaseError (Except RangeFault) Invoice).run =
        .ok (.ok i) ↔ a = .ok i := by
    rw [← orCorrupt_eq_ok_iff]
    exact ⟨Except.ok.inj, congrArg Except.ok⟩
  unfold toInvoice
  simp only [run_mk_bind_eq_ok, run_lift_bind_eq_ok, hread, hlast]
  refine exists_congr fun lines => and_congr_right fun _ => ?_
  constructor
  · rintro ⟨number, ⟨hform, rfl⟩, result, hgives, rfl⟩
    exact ⟨hform, Invoice.rehydrate_gives_iff.1 hgives⟩
  · rintro ⟨hform, hspelled⟩
    exact ⟨_, ⟨hform, rfl⟩, _, Invoice.rehydrate_gives_iff.2 hspelled, rfl⟩

/-- **An invoice comes back as it was written**, if its year of issue has four digits. -/
theorem toInvoice_ofInvoice (h : i.Written) (hyear : InvoiceNumber.FourDigits i.issueDate.year) :
    ((ofInvoice i).toInvoice (i.lines.map LineRow.ofLine)).run = .ok (.ok i) := by
  have hspelled : (ofInvoice i).spelled i.lines = i := by
    simp only [spelled, ofInvoice, Money.ofDecimal_self]
  obtain ⟨n, hnumber⟩ := h.number
  have hform : InvoiceNumber.wellFormed (ofInvoice i).number = true := by
    change InvoiceNumber.wellFormed i.number.text = true
    rw [hnumber]
    exact InvoiceNumber.wellFormed_new hyear n
  exact toInvoice_eq_ok_iff.2 ⟨i.lines,
    mapM_written fun l hl => LineRow.toLine_ofLine (h.positive l hl), hform,
    hspelled.symm ▸ h.toConsistent, hspelled.symm⟩

/-- The row with its amounts rounded. -/
def rounded (r : InvoiceRow) : InvoiceRow :=
  { r with
    subtotal := r.subtotal.round moneyScale
    paymentsApplied := r.paymentsApplied.round moneyScale
    outstanding := r.outstanding.round moneyScale }

/-- A row comes back with its amounts rounded, and so do its lines. -/
theorem ofInvoice_of_toInvoice (h : (r.toInvoice rows).run = .ok (.ok i)) :
    ofInvoice i = r.rounded ∧ i.lines.map LineRow.ofLine = rows.map LineRow.rounded := by
  obtain ⟨lines, hlines, -, -, rfl⟩ := toInvoice_eq_ok_iff.1 h
  exact ⟨rfl, map_read LineRow.ofLine_of_toLine hlines⟩

end InvoiceRow

/-! ## Invoices as the store writes them -/

/-- A period that an instant falls into ends after it starts. -/
theorem BillingPeriod.le_of_contains {p : BillingPeriod} {t : Instant} (h : p.contains t = true) :
    p.start ≤ p.finish := by
  obtain ⟨hstart, hfinish⟩ := contains_iff.1 h
  exact Int.le_trans hstart (Int.le_of_lt hfinish)

/-- What can be invoiced is positive. -/
theorem LedgerEntry.isPositive_of_isBillable {e : LedgerEntry} (h : e.isBillable = true) :
    e.debitAmount.isPositive = true := by
  by_contra hpositive
  have hside : e.side = .credit := if_neg hpositive
  simp [isBillable, hside] at h

/-- **An invoice whose lines bill charges passes the check of stored invoices.** -/
theorem Invoice.written_of_bills {i : Invoice} (hne : i.lines ≠ [])
    (hsubtotal : Money.sum (i.lines.map (·.amount)) = .ok i.subtotal)
    (houtstanding : i.subtotal.sub i.paymentsApplied = .ok i.outstanding)
    (hlines : ∀ l ∈ i.lines, l.invoice = i.id ∧
      ∃ charge, l.Bills i.tenant i.account i.period charge)
    (hnumber : ∃ n, i.number = .new i.issueDate n) : i.Written where
  period := by
    -- the days of the period are in order since some charge falls between them
    obtain ⟨l, hl⟩ := List.exists_mem_of_ne_nil _ hne
    obtain ⟨-, charge, hbills⟩ := hlines l hl
    exact BillingPeriod.le_of_contains hbills.inPeriod
  subtotal := ⟨_, hsubtotal, Money.sameValue_iff.2 rfl⟩
  outstanding := ⟨_, houtstanding, Money.sameValue_iff.2 rfl⟩
  lines l hl := (hlines l hl).1
  positive l hl := by
    obtain ⟨-, charge, hbills⟩ := hlines l hl
    rw [hbills.amount]
    exact LedgerEntry.isPositive_of_isBillable hbills.billable
  number := hnumber

namespace MemoryStore

variable {cancelled : Bool} {ctx : RequestContext} {d : InvoiceDraft} {event : EventId}
  {i : Invoice} {s s' : MemoryStore}

/-- **An invoice that the store makes of an assembled draft can be read again.** -/
theorem written_of_insertInvoice {ids : DraftIds} {request : DraftRequest}
    (hd : (InvoiceDraft.assemble ids request).Gives d)
    (h : s.insertInvoice cancelled ctx d event = .ok (.ok i, s')) : i.Written := by
  have hnumbered : s.numbered ctx d = .ok i := by
    rcases invoiced_of_insert (InvoiceDraft.nodup_of_assemble hd) h with
      ⟨j, hanswer, hnumbered, -⟩ | ⟨⟨fault, hanswer⟩, -⟩
    · rw [hnumbered, Except.ok.inj hanswer]
    · cases hanswer
  have hof := numbers_of_numbered hnumbered
  obtain ⟨hne, hlines⟩ := InvoiceDraft.lines_of_assemble hd
  have hsubtotal : Money.sum (d.lines.map (·.amount)) = .ok d.subtotal := by
    obtain ⟨-, -, subtotal, paymentsApplied, dueDate, hsubtotal, -, -, rfl⟩ :=
      InvoiceDraft.assemble_gives_iff.1 hd
    exact hsubtotal
  refine Invoice.written_of_bills (hof.lines ▸ hne) ?_ ?_ (fun l hl => ?_) ?_
  · rw [hof.lines, hof.subtotal, hsubtotal]
  · rw [hof.subtotal, hof.paymentsApplied, hof.outstanding]
  · rw [hof.lines] at hl
    obtain ⟨hinvoice, charge, -, -, hbills⟩ := hlines l hl
    rw [hof.id, hof.tenant, hof.account, hof.period]
    exact ⟨hinvoice, charge, hbills⟩
  · exact ⟨_, hof.issueDate ▸ hof.number⟩

/-- So can every invoice of a reachable store. -/
theorem Reachable.written {postable : LedgerTransaction → Prop} (h : s.Reachable postable)
    (hi : i ∈ s.invoices.values) : i.Written := by
  obtain ⟨-, htraced, hnumbered⟩ := h.invoicing
  have hof := htraced.invoices i hi
  obtain ⟨n, -, -, hnumber⟩ := hnumbered i hi
  refine Invoice.written_of_bills hof.nonempty hof.subtotal hof.outstanding (fun l hl => ?_)
    ⟨n, hnumber⟩
  obtain ⟨hinvoice, charge, -, hbills⟩ := hof.lines l hl
  exact ⟨hinvoice, charge, hbills⟩

end MemoryStore

/-! ## Events -/

namespace EventRow

variable {e : OutboxEvent} {r : EventRow}

/-- An event comes back as it was written. -/
theorem toEvent_ofEvent (e : OutboxEvent) : (ofEvent e).toEvent = .ok e := by
  obtain ⟨id, tenant, eventType, aggregate, payload, occurredAt, dispatchedAt⟩ := e
  cases eventType <;> rfl

/-- A row of an event comes back as it is. -/
theorem ofEvent_of_toEvent (h : r.toEvent = .ok e) : ofEvent e = r := by
  rw [toEvent] at h
  split at h
  · cases h
  · next eventType hparse =>
    obtain rfl := Except.ok.inj h
    have hword : Choice.word eventType = r.eventType := by
      rw [EventType.parse] at hparse
      split at hparse
      · next found hfind =>
        obtain rfl := Except.ok.inj hparse
        have hfound : (Choice.values.find? fun t => Choice.word t == r.eventType) = some found :=
          hfind
        simpa using List.find?_some hfound
      · cases hparse
    rw [ofEvent, hword]

end EventRow

/-! ## There and back -/

/-- **Rows lose nothing.** Accounts that were opened or taken from storage and then changed, entries
that were built or taken from storage, events, and invoices that the store made of an assembled
draft, or that are in a store that clients bring about, are read back from their rows as they were;
invoices, if their year of issue has four digits. In the other direction, a row that is accepted
comes back with its amounts rounded and its name or reference trimmed, and rounding is to four
digits, a half to the even neighbour. -/
theorem rows_keep :
    ((∀ {a : Account}, a.Made → (AccountRow.ofAccount a).toAccount = .ok a) ∧
      (∀ {e : LedgerEntry}, e.Genuine → (EntryRow.ofEntry e).toEntry = .ok e) ∧
      (∀ e : OutboxEvent, (EventRow.ofEvent e).toEvent = .ok e) ∧
      (∀ {ids : DraftIds} {request : DraftRequest} {d : InvoiceDraft},
        (InvoiceDraft.assemble ids request).Gives d →
        ∀ {cancelled : Bool} {ctx : RequestContext} {event : EventId} {i : Invoice}
          {s s' : MemoryStore},
          s.insertInvoice cancelled ctx d event = .ok (.ok i, s') →
          InvoiceNumber.FourDigits i.issueDate.year →
          ((InvoiceRow.ofInvoice i).toInvoice (i.lines.map LineRow.ofLine)).run = .ok (.ok i)) ∧
      ∀ {s : MemoryStore}, s.Reachable (fun _ => True) → ∀ i ∈ s.invoices.values,
        InvoiceNumber.FourDigits i.issueDate.year →
        ((InvoiceRow.ofInvoice i).toInvoice (i.lines.map LineRow.ofLine)).run = .ok (.ok i)) ∧
    (∀ {r : AccountRow} {a : Account}, r.toAccount = .ok a →
      AccountRow.ofAccount a = { r with name := trim r.name }) ∧
    (∀ {r : EntryRow} {e : LedgerEntry}, r.toEntry = .ok e →
      EntryRow.ofEntry e = { r with
        debitAmount := r.debitAmount.round 4
        creditAmount := r.creditAmount.round 4
        reference := trim r.reference }) ∧
    (∀ {r : EventRow} {e : OutboxEvent}, r.toEvent = .ok e → EventRow.ofEvent e = r) ∧
    (∀ {r : InvoiceRow} {rows : List LineRow} {i : Invoice},
      (r.toInvoice rows).run = .ok (.ok i) →
      InvoiceRow.ofInvoice i = { r with
        subtotal := r.subtotal.round 4
        paymentsApplied := r.paymentsApplied.round 4
        outstanding := r.outstanding.round 4 } ∧
      i.lines.map LineRow.ofLine = rows.map fun l => { l with amount := l.amount.round 4 }) ∧
    ∀ d : Decimal, d.RoundsTo 4 (d.round 4) :=
  ⟨⟨AccountRow.toAccount_ofAccount, EntryRow.toEntry_ofEntry, EventRow.toEvent_ofEvent,
      fun hd _ _ _ _ _ _ hinsert hyear =>
        InvoiceRow.toInvoice_ofInvoice (MemoryStore.written_of_insertInvoice hd hinsert) hyear,
      fun hreachable _ hi hyear => InvoiceRow.toInvoice_ofInvoice (hreachable.written hi) hyear⟩,
    AccountRow.ofAccount_of_toAccount, EntryRow.ofEntry_of_toEntry, EventRow.ofEvent_of_toEvent,
    InvoiceRow.ofInvoice_of_toInvoice, fun d => d.round_roundsTo 4⟩

/-! ## A billed ride -/

/-- The identifiers of an invoice of one line. -/
def billIds : DraftIds := { invoice := ⟨{ value := 5 }⟩, line := fun _ => ⟨{ value := 6 }⟩ }

/-- What the invoice of a stored ride is assembled from. -/
def billRequest : DraftRequest :=
  { tenant := Sample.tenant, account := Sample.unknownAccount, period := Sample.firstWeekOfMarch
    issueDate := Sample.firstOfMarch, paymentTermsDays := 30
    charges := [MemoryStore.storedDebit], payments := [], generatedAt := Sample.epoch
    generatedBy := Sample.operator.actor }

/-- The draft of the invoice. -/
def bill : InvoiceDraft :=
  .ofSums billIds billRequest Sample.rideFare Money.zero { number := 19813 }

/-- The store with the ride. -/
def charged : MemoryStore :=
  { MemoryStore.oneAccount with
    entries := ⟨"LedgerEntry", [(MemoryStore.storedDebit.id, MemoryStore.storedDebit)]⟩ }

/-- A row with an amount of five digits, halfway between two of four, and with blanks around its
reference. -/
def looseRow : EntryRow :=
  { EntryRow.ofEntry MemoryStore.storedDebit with
    debitAmount :=
      { negative := false, mantissa := 2500005, scale := 5
        mantissa_lt := by decide, scale_le := by decide }
    reference := " ride-1 " }

/-- An account, an entry and an invoice come back from their rows, and the loose row comes back with
its amount rounded down, to an even digit. -/
theorem rows_keep_bill :
    (∃ a, Account.opened Sample.unknownAccount Sample.tenant
        { name := " Acme ", accountType := .organization, frequency := .weekly }
        Sample.operator.actor Sample.epoch = .ok a ∧
      (AccountRow.ofAccount a).toAccount = .ok a) ∧
    (EntryRow.ofEntry MemoryStore.storedDebit).toEntry = .ok MemoryStore.storedDebit ∧
    (∃ i s', charged.insertInvoice false Sample.operator bill ⟨{ value := 7 }⟩ = .ok (.ok i, s') ∧
      ((InvoiceRow.ofInvoice i).toInvoice (i.lines.map LineRow.ofLine)).run = .ok (.ok i)) ∧
    ∃ e, looseRow.toEntry = .ok e ∧
      (EntryRow.ofEntry e).debitAmount.mantissa = 250000 ∧
      (EntryRow.ofEntry e).debitAmount.scale = 4 ∧ (EntryRow.ofEntry e).reference = "ride-1" := by
  have hbill : (InvoiceDraft.assemble billIds billRequest).Gives bill := by decide +kernel
  have hstored : ((charged.insertInvoice false Sample.operator bill ⟨{ value := 7 }⟩).toOption.bind
      (·.1.toOption)).any (fun i => decide (InvoiceNumber.FourDigits i.issueDate.year)) = true := by
    decide +kernel
  have hopened : ∃ a, Account.opened Sample.unknownAccount Sample.tenant
      { name := " Acme ", accountType := .organization, frequency := .weekly }
      Sample.operator.actor Sample.epoch = .ok a := ⟨_, rfl⟩
  have hgenuine : MemoryStore.storedDebit.Genuine := .inr ⟨MemoryStore.storedDebit, rfl⟩
  have hloose : ∃ e, looseRow.toEntry = .ok e := ⟨_, rfl⟩
  refine ⟨?_, rows_keep.1.2.1 hgenuine, ?_, ?_⟩
  · obtain ⟨a, ha⟩ := hopened
    exact ⟨a, ha, rows_keep.1.1 (.opened ha)⟩
  · rcases hinsert : charged.insertInvoice false Sample.operator bill ⟨{ value := 7 }⟩ with
      _ | ⟨_ | i, s'⟩ <;> rw [hinsert] at hstored
    · cases hstored
    · cases hstored
    · exact ⟨i, s', rfl, rows_keep.1.2.2.2.1 hbill hinsert (of_decide_eq_true hstored)⟩
  · obtain ⟨e, he⟩ := hloose
    refine ⟨e, he, ?_⟩
    rw [rows_keep.2.2.1 he]
    exact ⟨by decide, by decide, by decide +kernel⟩

end RideLedger
