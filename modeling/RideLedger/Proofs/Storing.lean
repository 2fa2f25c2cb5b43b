import RideLedger.Proofs.Appending
import RideLedger.Proofs.Drafting
import RideLedger.Proofs.Numbering

/-!
# Storing — an invoice goes in whole or not at all

The store checks a draft, numbers it, checks the number, and then writes: a marker for each line,
the sequence of the month, the invoice and its event. Each marker and the invoice are written once,
so each of these writes could be refused with the ones before it left behind. None of them is
(`MemoryStore.WritesThrough`), for the drafts that are assembled: the checks see to it that no entry
was billed before, and a draft lists no entry twice. This holds of every store, also of one that no
requests lead to.
-/

namespace RideLedger

namespace MemoryStore

variable {cancelled : Bool} {ctx : RequestContext} {d : InvoiceDraft} {event : EventId}
  {i : Invoice} {s s' : MemoryStore}

/-- What has to be the case for the store to take a draft. -/
structure Accepts (s : MemoryStore) (cancelled : Bool) (ctx : RequestContext) (d : InvoiceDraft) :
    Prop where
  tenant : d.tenant = ctx.tenant
  charges : ∀ e ∈ d.entryIds, ∃ charge, s.entries.get? e = some charge ∧
    charge.tenant = ctx.tenant ∧ charge.account = d.account
  unmarked : ∀ e ∈ d.entryIds, (ctx.tenant, e) ∉ s.billed.keys
  number : ∀ j ∈ s.invoices.values, j.tenant = ctx.tenant →
    j.number ≠ .new d.issueDate (s.lastSequence ctx d.issueDate + 1)
  id : d.id ∉ s.invoices.keys
  live : cancelled = false

/-- The checks before the first write pass exactly when the store takes the draft. -/
theorem accepts_iff (hnumbered : s.numbered ctx d = .ok i) :
    s.Accepts cancelled ctx d ↔
      s.draftFault? ctx d = none ∧ s.invoiceFault? cancelled ctx i = none := by
  have hof := numbers_of_numbered hnumbered
  rw [draftFault?_eq_none_iff, invoiceFault?_eq_none_iff, hof.number, hof.id]
  constructor
  · rintro ⟨htenant, hcharges, hunmarked, hnumber, hid, hlive⟩
    exact ⟨⟨htenant, fun e he => ⟨hcharges e he, hunmarked e he⟩⟩, hnumber, hid, hlive⟩
  · rintro ⟨⟨htenant, hentries⟩, hnumber, hid, hlive⟩
    exact ⟨htenant, fun e he => (hentries e he).1, fun e he => (hentries e he).2, hnumber, hid,
      hlive⟩

/-- No write of an invoice is refused: neither a marker, with those before it written, nor the
invoice, with all of them. -/
structure WritesThrough (s : MemoryStore) (ctx : RequestContext) (i : Invoice) : Prop where
  marker : ∀ before e later, i.lines.map (·.entry) = before ++ e :: later →
    ∃ billed, (s.markBilled ctx.tenant i.id before).2.billed.insert (ctx.tenant, e) i.id =
      .ok billed
  invoice : ∃ invoices, (s.markBilled ctx.tenant i.id (i.lines.map (·.entry))).2.invoices.insert
    i.id i = .ok invoices

/-- **Writing goes through** when the entries are different and unmarked and the invoice is new. -/
theorem writesThrough_of_nodup (hnodup : (i.lines.map (·.entry)).Nodup)
    (hnew : ∀ e ∈ i.lines.map (·.entry), (ctx.tenant, e) ∉ s.billed.keys)
    (hid : i.id ∉ s.invoices.keys) : s.WritesThrough ctx i where
  marker before e later hsplit := by
    rw [hsplit] at hnodup hnew
    have hbefore : s.markBilled ctx.tenant i.id before = _ :=
      markBilled_of_nodup hnodup.of_append_left fun x hx => hnew x (List.mem_append_left _ hx)
    have hnot : e ∉ before := fun he =>
      List.disjoint_of_nodup_append hnodup he (List.mem_cons_self ..)
    -- the marker is neither among the old ones nor among those of the lines before
    have hfree : (ctx.tenant, e) ∉
        (s.billed.extend (before.map fun x => ((ctx.tenant, x), i.id))).keys := by
      simp [hnew e (List.mem_append_right _ (List.mem_cons_self ..)), hnot]
    rw [hbefore]
    exact ⟨_, WriteOnce.insert_of_not_mem hfree⟩
  invoice := by
    rw [markBilled_of_nodup hnodup hnew]
    exact ⟨_, WriteOnce.insert_of_not_mem hid⟩

/-- What storing an invoice makes of the store. -/
structure TookIn (s : MemoryStore) (ctx : RequestContext) (d : InvoiceDraft) (event : EventId)
    (i : Invoice) (s' : MemoryStore) : Prop where
  invoice : s.numbered ctx d = .ok i
  lines : i.lines = d.lines
  distinct : (i.lines.map (·.entry)).Nodup
  unmarked : ∀ l ∈ i.lines, (ctx.tenant, l.entry) ∉ s.billed.keys
  markers : s'.billed = s.billed.extend (i.lines.map fun l => ((ctx.tenant, l.entry), i.id))
  counters : ∀ key, s'.sequences.lookup key =
    if key = (ctx.tenant, InvoiceNumber.periodKey d.issueDate) then
      some (s.nextSequence ctx d.issueDate)
    else s.sequences.lookup key
  newId : i.id ∉ s.invoices.keys
  invoices : s'.invoices = s.invoices.extend [(i.id, i)]
  outbox : s'.outbox = s.outbox ++ [.ofInvoice event i]
  eventType : (OutboxEvent.ofInvoice event i).eventType = .invoiceGenerated
  accounts : s'.accounts = s.accounts
  entries : s'.entries = s.entries
  keys : s'.keys = s.keys

/-- The invoice of a draft that the store takes. -/
theorem tookIn_invoiced (hnodup : d.entryIds.Nodup) (hnumbered : s.numbered ctx d = .ok i)
    (haccepts : s.Accepts cancelled ctx d) :
    s.TookIn ctx d event i (s.invoiced ctx (s.nextSequence ctx d.issueDate) i event) := by
  have hof := numbers_of_numbered hnumbered
  exact
    { invoice := hnumbered
      lines := hof.lines
      distinct := hof.entries ▸ hnodup
      unmarked := fun l hl => haccepts.unmarked _ (hof.entries ▸ List.mem_map_of_mem hl)
      markers := rfl
      counters := fun key => by rw [invoiced, lookup_setSequence, hof.issueDate]
      newId := hof.id ▸ haccepts.id
      invoices := rfl, outbox := rfl, eventType := rfl, accounts := rfl, entries := rfl
      keys := rfl }

/-- **Storing an assembled draft is all or nothing**, in every store. A draft that the store does
not take is refused and the store is what it was. One that it takes is written without a write
that could be refused, and the store then has its markers, its sequence, which fits its 32 bits,
itself and its event in addition. -/
theorem insertInvoice_allOrNothing (cancelled : Bool) (ctx : RequestContext) (event : EventId)
    (s : MemoryStore) {ids : DraftIds} {request : DraftRequest} {rest : Money}
    (hassembled : (InvoiceDraft.assemble ids request).Gives d)
    (hrest : d.subtotal.sub d.paymentsApplied = .ok rest)
    (hcounter : s.lastSequence ctx d.issueDate < 2 ^ 32 - 1) :
    (¬s.Accepts cancelled ctx d ∧
      ∃ fault, s.insertInvoice cancelled ctx d event = .ok (.error fault, s)) ∨
    (s.Accepts cancelled ctx d ∧
      ∃ i s', s.insertInvoice cancelled ctx d event = .ok (.ok i, s') ∧ s.WritesThrough ctx i ∧
        s.TookIn ctx d event i s' ∧ i.outstanding = rest ∧
        s'.lastSequence ctx d.issueDate = s.lastSequence ctx d.issueDate + 1 ∧
        s'.lastSequence ctx d.issueDate < 2 ^ 32) := by
  have hnodup := InvoiceDraft.nodup_of_assemble hassembled
  have hleft : s.lastSequence ctx d.issueDate + 1 < 2 ^ 32 := by omega
  obtain ⟨i, hnumbered⟩ : ∃ i, s.numbered ctx d = .ok i := exists_numbered hleft hrest
  have hof := numbers_of_numbered hnumbered
  rw [insertInvoice_of_nodup hnodup]
  by_cases haccepts : s.Accepts cancelled ctx d
  · obtain ⟨hdraft, hinvoice⟩ := (accepts_iff hnumbered).1 haccepts
    have htook : s.TookIn ctx d event i _ := tookIn_invoiced hnodup hnumbered haccepts
    have hwrites : s.WritesThrough ctx i := writesThrough_of_nodup htook.distinct
      (fun e he => haccepts.unmarked e (hof.entries ▸ he)) htook.newId
    have hnext : (s.invoiced ctx (s.nextSequence ctx d.issueDate) i event).lastSequence ctx
        d.issueDate = s.lastSequence ctx d.issueDate + 1 := by
      rw [lastSequence, counter, htook.counters, if_pos rfl]
      exact toNat_nextSequence hleft
    have hsame : i.outstanding = rest := Except.ok.inj (hof.outstanding.symm.trans hrest)
    simp only [hdraft, hnumbered, Except.map, hinvoice]
    exact .inr ⟨haccepts, i, _, rfl, hwrites, htook, hsame, hnext, by omega⟩
  · refine .inl ⟨haccepts, ?_⟩
    cases hdraft : s.draftFault? ctx d with
    | some fault => exact ⟨fault, rfl⟩
    | none =>
      simp only [hnumbered, Except.map]
      cases hinvoice : s.invoiceFault? cancelled ctx i with
      | some fault => exact ⟨fault, rfl⟩
      | none => exact absurd ((accepts_iff hnumbered).2 ⟨hdraft, hinvoice⟩) haccepts

/-! ## The last number of a month -/

/-- A store that no requests lead to: a debit without its credit, in a month that has one number
left. -/
def lastOfMonth : MemoryStore :=
  { empty with
    entries := (empty.entries).extend [(storedDebit.id, storedDebit)]
    sequences := [((Sample.tenant, "202403"), .ofNat (2 ^ 32 - 2))] }

/-- A request for an invoice of that debit. -/
def debitRequest : DraftRequest where
  tenant := Sample.tenant
  account := Sample.unknownAccount
  period := Sample.wholeMarch
  issueDate := Sample.firstOfMarch
  paymentTermsDays := 14
  charges := [storedDebit]
  payments := []
  generatedAt := Sample.epoch
  generatedBy := Sample.operator.actor

def debitDraftIds : DraftIds :=
  { invoice := ⟨{ value := 41 }⟩, line := fun _ => ⟨{ value := 42 }⟩ }

/-- The draft of that invoice. -/
def debitDraft : InvoiceDraft :=
  .ofSums debitDraftIds debitRequest Sample.rideFare Money.zero { number := 19797 }

/-- The debit is invoiced under the last number of the month. -/
theorem insertInvoice_allOrNothing_lastOfMonth :
    (InvoiceDraft.assemble debitDraftIds debitRequest).Gives debitDraft ∧
    debitDraft.subtotal.sub debitDraft.paymentsApplied = .ok Sample.rideFare ∧
    lastOfMonth.lastSequence Sample.operator debitDraft.issueDate = 2 ^ 32 - 2 ∧
    ∃ i s', lastOfMonth.insertInvoice false Sample.operator debitDraft ⟨{ value := 43 }⟩ =
        .ok (.ok i, s') ∧
      lastOfMonth.WritesThrough Sample.operator i ∧
      lastOfMonth.TookIn Sample.operator debitDraft ⟨{ value := 43 }⟩ i s' ∧
      s'.lastSequence Sample.operator debitDraft.issueDate = 2 ^ 32 - 1 := by
  have hassembled : (InvoiceDraft.assemble debitDraftIds debitRequest).Gives debitDraft := by
    decide +kernel
  have hrest : debitDraft.subtotal.sub debitDraft.paymentsApplied = .ok Sample.rideFare := by
    decide +kernel
  have hlast : lastOfMonth.lastSequence Sample.operator debitDraft.issueDate = 2 ^ 32 - 2 := rfl
  have hentries : debitDraft.entryIds = [storedDebit.id] := by decide +kernel
  have haccepts : lastOfMonth.Accepts false Sample.operator debitDraft :=
    { tenant := rfl
      charges := fun e he => by
        rw [hentries, List.mem_singleton] at he
        subst he
        exact ⟨storedDebit, rfl, rfl, rfl⟩
      unmarked := fun _ _ => List.not_mem_nil
      number := fun _ hj => absurd hj List.not_mem_nil
      id := List.not_mem_nil
      live := rfl }
  rcases insertInvoice_allOrNothing false Sample.operator ⟨{ value := 43 }⟩ lastOfMonth hassembled
    hrest (by rw [hlast]; decide) with ⟨hnot, -⟩ | ⟨-, i, s', hserved, hwrites, htook, -, hnext, -⟩
  · exact absurd haccepts hnot
  · exact ⟨hassembled, hrest, hlast, i, s', hserved, hwrites, htook, by rw [hnext, hlast]⟩

end MemoryStore

end RideLedger
