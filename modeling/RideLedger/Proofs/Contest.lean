import RideLedger.Proofs.Billing
import RideLedger.Proofs.LastStep
import RideLedger.Proofs.Posting

/-!
# Contests — clients that bill the same charges

Clients that invoice one account for one period select the same charges, and each has a draft of
all of them before any is written. The store writes the first and turns down the others, because
its charges are theirs too. What the clients can rely on while that goes on is a discipline of its
own (`Contest.discipline`): the account and its entries stay what they were, and either no invoice
was written since the start, or the charges are billed, all of them. No client runs out of range,
unless the tenant has run out of numbers (`Contest.Spent`).
-/

namespace RideLedger

open MemoryStore

/-- An account and a period whose charges are to be billed. -/
structure Contest where
  tenant : TenantId
  account : AccountId
  period : BillingPeriod

namespace Contest

variable {c : Contest} {start s s' : MemoryStore} {ctx : RequestContext} {d : InvoiceDraft}

/-- The charges that a store has to bill. -/
def charges (c : Contest) (s : MemoryStore) : List LedgerEntry :=
  s.unbilledCharges { tenant := c.tenant, actor := systemActor } c.account c.period

/-- The payments that a store has to apply. -/
def payments (c : Contest) (s : MemoryStore) : List LedgerEntry :=
  s.paymentsInPeriod { tenant := c.tenant, actor := systemActor } c.account c.period

/-- All charges of the start are billed. -/
def Settled (c : Contest) (start s : MemoryStore) : Prop :=
  ∀ charge ∈ c.charges start, (c.tenant, charge.id) ∈ s.billed.keys

/-- No invoice was written since the start. -/
structure Untouched (start s : MemoryStore) : Prop where
  billed : s.billed = start.billed
  invoices : s.invoices = start.invoices
  sequences : s.sequences = start.sequences

/-- What always holds of the store while clients bill the charges. -/
structure Holds (c : Contest) (start s : MemoryStore) : Prop where
  later : start.Extends s
  account : ∃ a, s.account? c.tenant c.account = some a
  own : s.accountEntries c.tenant c.account = start.accountEntries c.tenant c.account
  stage : Untouched start s ∨ c.Settled start s

/-- A draft of all the charges that the store could write if they are not billed. -/
structure Complete (c : Contest) (start : MemoryStore) (d : InvoiceDraft) : Prop where
  tenant : d.tenant = c.tenant
  account : d.account = c.account
  period : d.period = c.period
  entries : d.entryIds.Perm ((c.charges start).map (·.id))
  nodup : d.entryIds.Nodup
  new : d.id ∉ start.invoices.keys
  inRange : ∃ rest, d.subtotal.sub d.paymentsApplied = .ok rest

/-- No number is left in some month of the tenant. -/
def Spent (c : Contest) (start : MemoryStore) : Prop :=
  ∃ (ctx : RequestContext) (month : Date), ctx.tenant = c.tenant ∧ start.UsedUp ctx month

/-- A store that has charges to bill, and room for their sums. -/
structure Ready (c : Contest) (start : MemoryStore) : Prop where
  filed : start.Filed
  numbered : start.Numbered
  roomy : Roomy (start.tenantEntries c.tenant)
  account : ∃ a, start.account? c.tenant c.account = some a
  unbilled : c.charges start ≠ []

/-- An invoice of all the charges. -/
structure Won (c : Contest) (start : MemoryStore) (i : Invoice) (s : MemoryStore) : Prop where
  settled : c.Settled start s
  stored : i ∈ s.invoices.values
  tenant : i.tenant = c.tenant
  account : i.account = c.account
  period : i.period = c.period
  entries : (i.lines.map (·.entry)).Perm ((c.charges start).map (·.id))

/-- An error that says that the charges are billed, and they are. -/
structure Lost (c : Contest) (start : MemoryStore) (x : BillingError) (s : MemoryStore) : Prop where
  settled : c.Settled start s
  kind : (∃ text, x = .conflict text) ∨
    ∃ account from_ to_, x = .noUnbilledCharges account from_ to_

/-- A request that leaves the account's entries alone and writes no invoice. -/
def Beside (c : Contest) : StoreRequest → Prop
  | .appendTransaction _ t _ => ∀ e ∈ t.entries, ¬(e.tenant = c.tenant ∧ e.account = c.account)
  | .insertInvoice .. => False
  | _ => True

/-- A request that a client may make: it leaves the account alone, or stores a complete draft. -/
def May (c : Contest) (start : MemoryStore) : StoreRequest → Prop
  | .insertInvoice ctx d _ => ctx.tenant = c.tenant ∧ c.Complete start d
  | request => c.Beside request

/-! ## What requests keep -/

/-- An account that is there is found after another one is added. -/
theorem account?_opened {a b : Account} {tenant : TenantId} {id : AccountId}
    (h : s.account? tenant id = some a) :
    MemoryStore.account? { s with accounts := s.accounts ++ [b] } tenant id = some a := by
  simp only [MemoryStore.account?, Option.filter_eq_some_iff] at h ⊢
  rw [List.find?_append, h.1]
  exact ⟨rfl, h.2⟩

/-- An account that is there is found, changed or not, after one of a tenant's own is replaced. -/
theorem account?_updated {a b old : Account} {tenant tenant' : TenantId} {id : AccountId}
    (h : s.account? tenant id = some a) (hfound : s.account? tenant' b.id = some old)
    (hown : b.tenant = tenant') :
    ∃ a', MemoryStore.account?
      { s with accounts := s.accounts.map fun x => if x.id = b.id then b else x } tenant id =
        some a' := by
  simp only [MemoryStore.account?, Option.filter_eq_some_iff, decide_eq_true_eq] at h hfound ⊢
  have hids : (fun x : Account => decide (x.id = id)) ∘ (fun x => if x.id = b.id then b else x) =
      fun x => decide (x.id = id) := by
    funext x
    by_cases hx : x.id = b.id <;> simp [hx]
  rw [List.find?_map, hids, h.1]
  refine ⟨_, rfl, ?_⟩
  by_cases ha : a.id = b.id
  · -- the replaced account is the found one, so its tenant is the same before and after
    have hid : b.id = id := by
      rw [← ha]
      simpa using List.find?_some h.1
    rw [hid, h.1] at hfound
    simp [ha, hown, ← hfound.2, ← Option.some.inj hfound.1, h.2]
  · simpa [ha] using h.2

/-- Entries of others are none of the account's. -/
theorem accountEntries_append {tenant : TenantId} {account : AccountId}
    {added : List (EntryId × LedgerEntry)} {entries : WriteOnce EntryId LedgerEntry}
    (h : ∀ item ∈ added, ¬(item.2.tenant = tenant ∧ item.2.account = account))
    (hentries : s'.entries = entries.extend added) (hs : s.entries = entries) :
    s'.accountEntries tenant account = s.accountEntries tenant account := by
  have hnone :
      ((added.map (·.2)).filter (·.tenant = tenant)).filter (·.account = account) = [] := by
    simp only [List.filter_eq_nil_iff, List.mem_filter, List.mem_map]
    rintro e ⟨⟨item, hitem, rfl⟩, htenant⟩ haccount
    exact h item hitem ⟨of_decide_eq_true htenant, of_decide_eq_true haccount⟩
  rw [accountEntries, accountEntries, tenantEntries, tenantEntries, hentries, hs,
    WriteOnce.extend_values, List.filter_append, List.filter_append, hnone, List.append_nil]

/-- Markers stay. -/
theorem Settled.later (h : c.Settled start s) (hl : s.Extends s') : c.Settled start s' :=
  fun charge hcharge => (hl.billed.map _).subset (h charge hcharge)

/-- A won invoice stays what it is. -/
theorem Won.later {i : Invoice} (h : c.Won start i s) (hl : s.Extends s') : c.Won start i s' :=
  { h with settled := h.settled.later hl, stored := (hl.invoices.map _).subset h.stored }

/-- A change that writes no invoice and leaves the account's entries alone keeps what holds. -/
theorem Holds.beside (h : c.Holds start s) (hl : s.Extends s')
    (haccount : ∃ a, s'.account? c.tenant c.account = some a)
    (hown : s'.accountEntries c.tenant c.account = s.accountEntries c.tenant c.account)
    (hwritten : s'.billed = s.billed ∧ s'.invoices = s.invoices ∧ s'.sequences = s.sequences) :
    c.Holds start s' := by
  obtain ⟨hbilled, hinvoices, hsequences⟩ := hwritten
  refine { later := h.later.trans hl, account := haccount, own := hown.trans h.own, stage := ?_ }
  rcases h.stage with hsame | hsettled
  · exact .inl ⟨hbilled.trans hsame.billed, hinvoices.trans hsame.invoices,
      hsequences.trans hsame.sequences⟩
  · exact .inr (hsettled.later hl)

/-- A written invoice of all the charges settles them. -/
theorem settled_invoiced {i : Invoice} {sequence : UInt32} {event : EventId}
    (hd : c.Complete start d) (htenant : ctx.tenant = c.tenant) (hlines : i.lines = d.lines) :
    c.Settled start (s.invoiced ctx sequence i event) := by
  intro charge hcharge
  have hmem : charge.id ∈ d.entryIds := hd.entries.mem_iff.2 (List.mem_map_of_mem hcharge)
  obtain ⟨l, hline, hentry⟩ := List.mem_map.1 hmem
  rw [MemoryStore.invoiced, WriteOnce.extend_keys, hlines, htenant]
  refine List.mem_append_right _ ?_
  simp only [List.map_map, List.mem_map, Function.comp_apply]
  exact ⟨l, hline, by rw [hentry]⟩

/-- **What always holds is kept by every request that may be made.** -/
theorem Holds.commit {cancelled : Bool} {request : StoreRequest} (h : c.Holds start s)
    (hmay : c.May start request) (hcommit : Commit cancelled s request s') : c.Holds start s' := by
  have hl := hcommit.extends
  obtain ⟨a, ha⟩ := h.account
  cases hcommit with
  | unchanged => exact h
  | opened => exact h.beside hl ⟨a, account?_opened ha⟩ rfl ⟨rfl, rfl, rfl⟩
  | updated htenant hlive hfound =>
    exact h.beside hl (account?_updated ha hfound htenant) rfl ⟨rfl, rfl, rfl⟩
  | @posted ctx t event hadmits hdistinct =>
    have hothers : ∀ item ∈ [(t.debit.id, t.debit), (t.credit.id, t.credit)],
        ¬(item.2.tenant = c.tenant ∧ item.2.account = c.account) := by
      intro item hitem
      rcases List.mem_pair.1 hitem with rfl | rfl
      · exact hmay t.debit (List.mem_cons_self ..)
      · exact hmay t.credit (List.mem_cons_of_mem _ (List.mem_singleton_self _))
    exact h.beside hl ⟨a, ha⟩ (accountEntries_append hothers rfl rfl) ⟨rfl, rfl, rfl⟩
  | @halfPosted ctx t event hadmits hsame =>
    have hothers : ∀ item ∈ [(t.debit.id, t.debit)],
        ¬(item.2.tenant = c.tenant ∧ item.2.account = c.account) := by
      intro item hitem
      rw [List.mem_singleton.1 hitem]
      exact hmay t.debit (List.mem_cons_self ..)
    exact h.beside hl ⟨a, ha⟩ (accountEntries_append hothers rfl rfl) ⟨rfl, rfl, rfl⟩
  | @invoiced ctx d event i hdraft hnumbered hinvoice hnodup =>
    exact
      { later := h.later.trans hl, account := ⟨a, ha⟩, own := h.own
        stage := .inr (settled_invoiced hmay.2 hmay.1 (numbers_of_numbered hnumbered).lines) }
  | halfInvoiced hdraft hdup => exact absurd hmay.2.nodup hdup
  | stamped => exact h.beside hl ⟨a, ha⟩ rfl ⟨rfl, rfl, rfl⟩

/-- The discipline of a contest. A plan may run out of range only if it may run out of numbers. -/
def discipline (c : Contest) (start : MemoryStore) : Discipline where
  inv := c.Holds start
  later := Extends
  may _ request := c.May start request
  mayFail := c.Spent start
  refl := .refl
  trans := .trans
  kept h hmay hserved :=
    ⟨h.commit hmay (commit_of_serve hserved), (commit_of_serve hserved).extends⟩

/-! ## What clients read -/

/-- What the charges of a store are. -/
theorem mem_charges_iff {charge : LedgerEntry} :
    charge ∈ c.charges s ↔ charge ∈ s.entries.values ∧ charge.tenant = c.tenant ∧
      charge.account = c.account ∧ charge.isBillable = true ∧
      c.period.contains charge.createdAt = true ∧ (c.tenant, charge.id) ∉ s.billed.keys :=
  mem_unbilledCharges_iff

/-- **What a client selects**: all charges of the start, or none, once they are billed. -/
theorem Holds.unbilledCharges_eq (h : c.Holds start s) (htenant : ctx.tenant = c.tenant) :
    s.unbilledCharges ctx c.account c.period = c.charges start ∨
      (c.Settled start s ∧ s.unbilledCharges ctx c.account c.period = []) := by
  rcases h.stage with hsame | hsettled
  · left
    simp only [charges, MemoryStore.unbilledCharges, htenant, h.own, hsame.billed]
  · refine .inr ⟨hsettled, ?_⟩
    have hsame : s.unbilledCharges ctx c.account c.period = c.charges s := by
      simp only [charges, MemoryStore.unbilledCharges, htenant]
    rw [hsame, List.eq_nil_iff_forall_not_mem]
    intro e he
    obtain ⟨hvalue, hown, haccount, hbillable, hperiod, hunbilled⟩ := mem_charges_iff.1 he
    -- it was not billed at the start either, so it is one of the charges, and they are billed now
    have hstart : (c.tenant, e.id) ∉ start.billed.keys :=
      fun hmem => hunbilled ((h.later.billed.map _).subset hmem)
    have hmem : e ∈ start.accountEntries c.tenant c.account := by
      rw [← h.own]
      simp [accountEntries, tenantEntries, hvalue, hown, haccount]
    have hstartValue : e ∈ start.entries.values :=
      List.mem_of_mem_filter (List.mem_of_mem_filter hmem)
    exact hunbilled (hsettled e
      (mem_charges_iff.2 ⟨hstartValue, hown, haccount, hbillable, hperiod, hstart⟩))

/-- The payments are those of the start. -/
theorem Holds.paymentsInPeriod_eq (h : c.Holds start s) (htenant : ctx.tenant = c.tenant) :
    s.paymentsInPeriod ctx c.account c.period = c.payments start := by
  simp only [payments, MemoryStore.paymentsInPeriod, htenant, h.own]

/-! ## Drafts of all charges -/

/-- **The charges make a complete draft**, if it has a due date and a new identifier. -/
theorem assemble_complete (hfiled : start.Filed) (hroom : Roomy (start.tenantEntries c.tenant))
    (hunbilled : c.charges start ≠ []) {ids : DraftIds} {request : DraftRequest} {due : Date}
    (htenant : request.tenant = c.tenant) (haccount : request.account = c.account)
    (hperiod : request.period = c.period) (hcharges : request.charges = c.charges start)
    (hpayments : request.payments = c.payments start)
    (hdue : request.issueDate.addDays? request.paymentTermsDays = some due)
    (hnew : ids.invoice ∉ start.invoices.keys) :
    ∃ d, (InvoiceDraft.assemble ids request).Gives d ∧ c.Complete start d := by
  have hbillable : request.Billable start := by
    let reader : RequestContext := { tenant := c.tenant, actor := systemActor }
    have hselected : request.charges =
        start.unbilledCharges reader request.account request.period := by
      rw [hcharges, haccount, hperiod, charges]
    have hpaid : request.payments =
        start.paymentsInPeriod reader request.account request.period := by
      rw [hpayments, haccount, hperiod, payments]
    have hroomy : Roomy (start.tenantEntries reader.tenant) := hroom
    exact billable_of_selected hfiled hroomy htenant (hselected ▸ .refl _) (hpaid ▸ .refl _)
  obtain ⟨d, rest, hd, hrest, hid, hown, hof, -, hentries⟩ :=
    InvoiceDraft.exists_draft hbillable.toPresentable (hcharges ▸ hunbilled) hdue ids
  obtain ⟨-, -, subtotal, paid, due', -, -, -, hsums⟩ := InvoiceDraft.assemble_gives_iff.1 hd
  have hsame : d.period = request.period := congrArg InvoiceDraft.period hsums
  exact ⟨d, hd,
    { tenant := hown.trans htenant, account := hof.trans haccount, period := hsame.trans hperiod
      entries := hcharges ▸ hentries, nodup := InvoiceDraft.nodup_of_assemble hd
      new := hid ▸ hnew, inRange := ⟨rest, hrest⟩ }⟩

/-! ## Storing a complete draft -/

variable {event : EventId}

/-- A store that nobody wrote an invoice to still has charges to bill. -/
theorem Untouched.not_settled (h : Untouched start s) (hunbilled : c.charges start ≠ []) :
    ¬c.Settled start s := by
  obtain ⟨charge, hcharge⟩ := List.exists_mem_of_ne_nil _ hunbilled
  intro hsettled
  have hbilled := hsettled charge hcharge
  rw [h.billed] at hbilled
  obtain ⟨-, -, -, -, -, hnot⟩ := mem_charges_iff.1 hcharge
  exact hnot hbilled

/-- The entries of a complete draft are the charges of the start, and still stored. -/
theorem Complete.stored (hd : c.Complete start d) (hfiled : start.Filed) (h : c.Holds start s) :
    ∀ e ∈ d.entryIds, ∃ charge ∈ c.charges start, charge.id = e ∧
      s.entries.get? e = some charge ∧ charge.tenant = c.tenant ∧ charge.account = d.account := by
  intro e he
  obtain ⟨charge, hcharge, rfl⟩ := List.mem_map.1 (hd.entries.mem_iff.1 he)
  obtain ⟨hvalue, hown, hof, -⟩ := mem_charges_iff.1 hcharge
  have hget : s.entries.get? charge.id = some charge :=
    WriteOnce.get?_of_prefix h.later.entries (hfiled.get?_eq_some_iff.2 ⟨hvalue, rfl⟩)
  exact ⟨charge, hcharge, rfl, hget, hown, hof.trans hd.account.symm⟩

/-- **A complete draft is written if no invoice was**, and if its month has a number left. -/
theorem insertInvoice_untouched (hd : c.Complete start d) (hfiled : start.Filed)
    (hnumbered : start.Numbered) (h : c.Holds start s) (hsame : Untouched start s)
    (htenant : ctx.tenant = c.tenant) :
    (∃ i s', s.insertInvoice false ctx d event = .ok (.ok i, s') ∧ c.Won start i s') ∨
      c.Spent start ∧ s.insertInvoice false ctx d event = .error .sequence := by
  have hdraft : s.draftFault? ctx d = none := by
    refine draftFault?_eq_none_iff.2 ⟨hd.tenant.trans htenant.symm, fun e he => ?_⟩
    obtain ⟨charge, hcharge, rfl, hget, hown, hof⟩ := hd.stored hfiled h e he
    obtain ⟨-, -, -, -, -, hnot⟩ := mem_charges_iff.1 hcharge
    rw [htenant, hsame.billed]
    exact ⟨⟨charge, hget, hown, hof⟩, hnot⟩
  -- no invoice was written since the start, so numbers and identifiers are as free as then
  have hcount : s.Numbered := by
    rw [Numbered, hsame.invoices, hsame.sequences]
    exact hnumbered
  have hnew : d.id ∉ s.invoices.keys := by
    rw [hsame.invoices]
    exact hd.new
  rcases lastSequence_lt_or_usedUp ctx d.issueDate s with hleft | hused
  swap
  · have hstart : start.UsedUp ctx d.issueDate := by
      rwa [UsedUp, lastSequence, counter, hsame.sequences] at hused
    exact .inr
      ⟨⟨ctx, d.issueDate, htenant, hstart⟩, insertInvoice_of_usedUp false event hdraft hused⟩
  obtain ⟨rest, hrest⟩ := hd.inRange
  obtain ⟨i, hi, hwritten⟩ := insertInvoice_new event hdraft hd.nodup hrest hleft hcount hnew
  have hof := numbers_of_numbered hi
  refine .inl ⟨i, s.invoiced ctx (s.nextSequence ctx d.issueDate) i event, hwritten, ?_⟩
  exact
    { settled := settled_invoiced hd htenant hof.lines
      stored := by simp [MemoryStore.invoiced]
      tenant := hof.tenant.trans hd.tenant, account := hof.account.trans hd.account
      period := hof.period.trans hd.period, entries := hof.entries ▸ hd.entries }

/-- **It is in conflict once the charges are billed.** -/
theorem insertInvoice_settled (hd : c.Complete start d) (hfiled : start.Filed)
    (hunbilled : c.charges start ≠ []) (h : c.Holds start s) (hsettled : c.Settled start s)
    (htenant : ctx.tenant = c.tenant) {cancelled : Bool} :
    ∃ text, s.insertInvoice cancelled ctx d event = .ok (.error (.conflict text), s) := by
  obtain ⟨fault, hfault⟩ : ∃ fault, s.draftFault? ctx d = some fault := by
    rw [← Option.ne_none_iff_exists', ne_eq, draftFault?_eq_none_iff]
    rintro ⟨-, hnew⟩
    obtain ⟨charge, hcharge⟩ := List.exists_mem_of_ne_nil _ hunbilled
    have hmem : charge.id ∈ d.entryIds := hd.entries.mem_iff.2 (List.mem_map_of_mem hcharge)
    exact (hnew _ hmem).2 (htenant ▸ hsettled charge hcharge)
  -- the entries of the draft are stored and the account's own, so markers are all that is left
  have hconflict : ∃ text, fault = .conflict text := by
    have hown : d.tenant = ctx.tenant := hd.tenant.trans htenant.symm
    rw [MemoryStore.draftFault?, if_neg (not_not.2 hown)] at hfault
    obtain ⟨e, he, hbilling⟩ := List.exists_of_findSome?_eq_some hfault
    obtain ⟨charge, -, -, hget, hcharge, hof⟩ := hd.stored hfiled h e he
    rw [MemoryStore.billingFault?, hget] at hbilling
    simp only [Option.any_some, hcharge, hof, htenant, decide_true, Bool.and_self, Bool.not_true,
      Bool.false_eq_true, ↓reduceIte] at hbilling
    split at hbilling
    · exact ⟨_, (Option.some.inj hbilling).symm⟩
    · cases hbilling
  obtain ⟨text, rfl⟩ := hconflict
  exact ⟨text, by rw [insertInvoice_eq, hfault]⟩

end Contest

/-! ## Clients -/

/-- A client that bills an account's charges of a period. -/
structure Biller where
  policy : InvoicingPolicy
  ctx : RequestContext
  options : InvoiceOptions

namespace Biller

/-- What the client does. -/
def plan (b : Biller) (c : Contest) : Plan (Except BillingError Invoice) :=
  (Invoices.generate b.policy b.ctx c.account c.period b.options).run

/-- The date that an invoice of the client is issued on. -/
def issueDate (b : Biller) (now : Instant) : Date := b.options.issueDate.getD now.date

/-- The days that the client gives for a payment. -/
def terms (b : Biller) : Nat := (b.options.paymentTermsDays.getD b.policy.paymentTermsDays).toNat

/-- What the client asks a draft of. -/
def request (b : Biller) (c : Contest) (now : Instant) (charges payments : List LedgerEntry) :
    DraftRequest :=
  { tenant := b.ctx.tenant, account := c.account, period := c.period, issueDate := b.issueDate now
    paymentTermsDays := b.terms, charges := charges, payments := payments, generatedAt := now
    generatedBy := b.ctx.actor }

/-- A client of the tenant that nobody cancels, that gets new identifiers, and whose invoices can
have a due date. -/
structure Live (b : Biller) (c : Contest) (start : MemoryStore) (e : Surroundings) : Prop where
  tenant : b.ctx.tenant = c.tenant
  token : ∀ t, e.token t → t = false
  fresh : ∀ count ids, e.draw count ids → (⟨ids 0⟩ : InvoiceId) ∉ start.invoices.keys
  due : ∀ now, e.clock now → ∃ due, (b.issueDate now).addDays? b.terms = some due

end Biller

namespace Contest

/-- A service that keeps to the discipline of the contest, and fails only if the charges are
billed. -/
def Bills {α : Type} (c : Contest) (start : MemoryStore) (e : Surroundings)
    (ok : α → MemoryStore → Prop) (m : Service α) (s : MemoryStore) : Prop :=
  c.Holds start s → m.run.Meets (c.discipline start) e (Ends ok (c.Lost start)) s

section Rules

variable {α β : Type} {c : Contest} {start s : MemoryStore} {e : Surroundings}
  {ok : α → MemoryStore → Prop} {ok' : β → MemoryStore → Prop}

theorem bills_pure {a : α} (h : ∀ s', s.Extends s' → ok a s') :
    c.Bills start e ok (pure a) s :=
  fun _ => meets_pure fun s' _ hl => h s' hl

theorem bills_bind {m : Service α} {f : α → Service β} (hm : c.Bills start e ok m s)
    (hf : ∀ a s', c.Holds start s' → s.Extends s' → ok a s' → c.Bills start e ok' (f a) s') :
    c.Bills start e ok' (m >>= f) s :=
  fun hs => meets_bind hs (hm hs) (fun a s' hs' hl ha => hf a s' hs' hl ha hs')
    fun hlost _ hl => ⟨hlost.settled.later hl, hlost.kind⟩

/-- A request that is answered, or refused after the charges are billed, or for which there is no
number left. -/
theorem bills_demand {request : StoreRequest} {answered : request.Reply → MemoryStore → Prop}
    (hmay : c.May start request)
    (hserve : ∀ b s', e.token b → c.Holds start s' → s.Extends s' →
      (∃ reply s'', s'.serve b request = .ok (.ok reply, s'') ∧
        ∀ later, s''.Extends later → answered reply later) ∨
      (∃ fault, s'.serve b request = .ok (.error fault, s') ∧
        c.Lost start (.ofStoreFault fault) s') ∨
      c.Spent start ∧ ∃ fault, s'.serve b request = .error fault) :
    c.Bills start e answered (Service.demand request) s := by
  refine fun hs s' hs' hl => ⟨hmay, fun b fault hb hserved => ?_, fun b answer s'' hb hserved => ?_⟩
  · rcases hserve b s' hb hs' hl with ⟨_, _, h, -⟩ | ⟨_, h, -⟩ | ⟨hspent, -⟩
    · rw [h] at hserved
      cases hserved
    · rw [h] at hserved
      cases hserved
    · exact hspent
  · rcases hserve b s' hb hs' hl with ⟨_, _, h, hanswered⟩ | ⟨fault, h, hlost⟩ | ⟨-, fault, h⟩ <;>
      rw [h] at hserved <;> cases hserved
    · exact fun later _ hl' => hanswered later hl'
    · exact fun later _ hl' => ⟨hlost.settled.later hl', hlost.kind⟩

/-- A request that reads. -/
theorem bills_read {request : StoreRequest} {reply : MemoryStore → request.Reply}
    (hserve : ∀ (s : MemoryStore) b, s.serve b request = .ok (.ok (reply s), s))
    (hmay : c.May start request) :
    c.Bills start e (fun r s => ∃ before, c.Holds start before ∧ before.Extends s ∧
      r = reply before) (Service.demand request) s :=
  bills_demand hmay fun b s' _ hs' _ =>
    .inl ⟨_, _, hserve s' b, fun _ hl => ⟨s', hs', hl, rfl⟩⟩

theorem bills_now : c.Bills start e (fun now _ => e.clock now) Service.now s :=
  fun _ _ hclock _ _ _ => hclock

theorem bills_fresh {count : Nat} :
    c.Bills start e (fun ids _ => e.draw count ids) (Service.fresh count) s :=
  fun _ _ hids _ _ _ => hids

theorem bills_freshId : c.Bills start e Whatever Service.freshId s :=
  bills_bind bills_fresh fun _ _ _ _ _ => bills_pure fun _ _ => trivial

/-- A computation that gives something. -/
theorem bills_ofOutcome {o : Outcome α} {a : α} (ho : o.Gives a)
    (h : ∀ s', s.Extends s' → ok a s') : c.Bills start e ok (Service.ofOutcome o) s := by
  intro _
  change Plan.Meets _ _ _ (liftM o.run) s
  rw [ho]
  exact fun s' _ hl => h s' hl

/-- A computation that ends in an error after the charges are billed. -/
theorem bills_ofOutcome_error {o : Outcome α} {x : BillingError} (ho : o.run = .ok (.error x))
    (h : c.Lost start x s) : c.Bills start e ok (Service.ofOutcome o) s := by
  intro _
  change Plan.Meets _ _ _ (liftM o.run) s
  rw [ho]
  exact fun _ _ hl => ⟨h.settled.later hl, h.kind⟩

end Rules

section Service

variable {c : Contest} {start s : MemoryStore} {e : Surroundings} {b : Biller}

/-- The account is found. -/
theorem bills_get (htenant : b.ctx.tenant = c.tenant) :
    c.Bills start e (fun a _ => a.id = c.account) (Accounts.get b.ctx c.account) s := by
  refine bills_bind (bills_read (fun _ _ => rfl) trivial) fun found s₁ _ _ hfound => ?_
  obtain ⟨before, hbefore, -, rfl⟩ := hfound
  obtain ⟨a, ha⟩ := hbefore.account
  rw [htenant, ha]
  exact bills_pure fun _ _ => id_of_account? ha

/-- **A draft of what was selected is complete, or there was nothing left to select.** -/
theorem bills_draft (hready : c.Ready start) (hlive : b.Live c start e)
    {charges : List LedgerEntry}
    (hcharges : charges = c.charges start ∨ c.Settled start s ∧ charges = []) :
    c.Bills start e (fun d _ => c.Complete start d)
      (Invoices.draft b.policy b.ctx c.account c.period charges (c.payments start) b.options)
      s := by
  refine bills_bind bills_now fun now s₁ _ hl₁ hnow => ?_
  refine bills_bind bills_fresh fun ids s₂ _ hl₂ hids => ?_
  obtain ⟨due, hdue⟩ := hlive.due now hnow
  rcases hcharges with rfl | ⟨hsettled, rfl⟩
  · have hrequest : (b.request c now (c.charges start) (c.payments start)).issueDate.addDays?
        (b.request c now (c.charges start) (c.payments start)).paymentTermsDays = some due := hdue
    have hnew : (⟨⟨ids 0⟩, fun i => ⟨ids (i + 1)⟩⟩ : DraftIds).invoice ∉ start.invoices.keys :=
      hlive.fresh _ _ hids
    obtain ⟨d, hd, hcomplete⟩ := assemble_complete hready.filed hready.roomy hready.unbilled
      hlive.tenant rfl rfl rfl rfl hrequest hnew
    exact bills_ofOutcome hd fun _ _ => hcomplete
  · exact bills_ofOutcome_error rfl
      ⟨hsettled.later (hl₁.trans hl₂), .inr ⟨_, _, _, rfl⟩⟩

/-- **A complete draft is stored, or the charges are billed**, or no number is left for it. -/
theorem bills_persist (hready : c.Ready start) (hlive : b.Live c start e) {d : InvoiceDraft}
    (hd : c.Complete start d) :
    c.Bills start e (c.Won start) (Invoices.persist b.ctx d) s := by
  refine bills_bind bills_freshId fun event s₁ _ _ _ => ?_
  refine bills_demand ⟨hlive.tenant, hd⟩ fun t s' ht hs' _ => ?_
  obtain rfl := hlive.token t ht
  rcases hs'.stage with hsame | hsettled
  · rcases insertInvoice_untouched hd hready.filed hready.numbered hs' hsame hlive.tenant with
      ⟨i, s'', hserved, hwon⟩ | ⟨hspent, hserved⟩
    · exact .inl ⟨i, s'', hserved, fun _ hl => hwon.later hl⟩
    · exact .inr (.inr ⟨hspent, _, hserved⟩)
  · obtain ⟨text, hserved⟩ :=
      insertInvoice_settled hd hready.filed hready.unbilled hs' hsettled hlive.tenant
    exact .inr (.inl ⟨_, hserved, hsettled, .inl ⟨text, rfl⟩⟩)

/-- **Every client of a contest has an invoice of all the charges at its end, or finds them
billed.** -/
theorem bills_generate (hready : c.Ready start) (hlive : b.Live c start e) :
    c.Bills start e (c.Won start)
      (Invoices.generate b.policy b.ctx c.account c.period b.options) s := by
  refine bills_bind (bills_get hlive.tenant) fun a s₁ _ _ ha => ?_
  refine bills_bind (bills_read (fun _ _ => rfl) trivial) fun charges s₂ _ _ hcharges => ?_
  refine bills_bind (bills_read (fun _ _ => rfl) trivial) fun payments s₃ _ hl₃ hpayments => ?_
  obtain ⟨before, hbefore, hl, rfl⟩ := hcharges
  obtain ⟨before', hbefore', -, rfl⟩ := hpayments
  rw [ha, hbefore'.paymentsInPeriod_eq hlive.tenant]
  have hselected : before.unbilledCharges b.ctx c.account c.period = c.charges start ∨
      c.Settled start s₃ ∧ before.unbilledCharges b.ctx c.account c.period = [] :=
    (hbefore.unbilledCharges_eq hlive.tenant).imp_right fun h => ⟨h.1.later (hl.trans hl₃), h.2⟩
  exact bills_bind (bills_draft hready hlive hselected) fun d s₄ _ _ hd =>
    bills_persist hready hlive hd

end Service

end Contest

end RideLedger
