import RideLedger.Proofs.Billing
import RideLedger.Proofs.Statements
import RideLedger.Proofs.Values

/-!
# Any order — sums that do not depend on how they are formed

An addition rounds when its result has no room, so sums in different orders, or of different groups,
could come to different values, or to none. Of amounts that are few and small enough they never do:
a list of no more amounts than a ledger's capacity, each no larger than the largest entry, adds up
exactly in every order and by every grouping (`Money.AddUp`).

So do the sums over built entries: balances, totals of ledger accounts, trial balances and
statements come to the same values in whatever order a store goes through its entries
(`MemoryStore.AddsUp`), and a draft to the same sums in whatever order it is given its charges and
payments (`InvoiceDraft.AddUp`). The values are given as rational numbers (`Money.value`).
-/

namespace RideLedger

open Money (totalUnits grossUnits)

namespace Money

variable {m : Money} {ms ms' : List Money} {groups : List (List Money)}

/-! ## Any order, any groups -/

/-- Amounts that add up exactly, however they are put together. -/
structure AddUp (ms : List Money) : Prop where
  anyOrder : ∀ ms', ms'.Perm ms → ∃ total, sum ms' = .ok total ∧ total.value = worth ms
  /-- Group by group, and then the totals of the groups. -/
  anyGroups : ∀ groups : List (List Money), groups.flatten.Perm ms → ∃ totals total,
    groups.mapM sum = .ok totals ∧
    List.Forall₂ (fun group t => t.value = worth group) groups totals ∧
    sum totals = .ok total ∧ total.value = worth ms

/-- Amounts that are no larger than the largest entry have its size at most. -/
theorem grossUnits_le_of_small (h : ∀ m ∈ ms, maxEntryAmount.lt m.abs.amount = false) :
    grossUnits ms ≤ ms.length * maxEntryUnits := by
  induction ms with
  | nil => simp [grossUnits]
  | cons m rest ih =>
    have hfirst := units_le_of_not_lt (h m (List.mem_cons_self ..))
    have hrest := ih fun m' hm' => h m' (List.mem_cons_of_mem _ hm')
    rw [units_abs] at hfirst
    rw [grossUnits_cons, List.length_cons, Nat.succ_mul]
    omega

/-- **Amounts with room add up by groups**: the totals of the groups have no larger a size than the
groups. By induction on the groups. -/
theorem exists_totals (h : grossUnits groups.flatten < Decimal.mantissaBound) :
    ∃ totals, groups.mapM sum = .ok totals ∧
      List.Forall₂ (fun group t => t.value = worth group) groups totals ∧
      totalUnits totals = totalUnits groups.flatten ∧
      grossUnits totals ≤ grossUnits groups.flatten := by
  induction groups with
  | nil => exact ⟨[], rfl, .nil, rfl, Nat.le_refl 0⟩
  | cons group rest ih =>
    rw [List.flatten_cons, grossUnits_append] at h
    have hgroup : grossUnits group < Decimal.mantissaBound := by omega
    obtain ⟨total, hsum, hunits⟩ := sum_exact hgroup
    obtain ⟨totals, hmap, hworth, htotal, hsize⟩ := ih (by omega)
    have hfirst : total.units.natAbs ≤ grossUnits group := hunits ▸ natAbs_totalUnits_le
    refine ⟨total :: totals, ?_, .cons (value_eq_worth hunits) hworth, ?_, ?_⟩
    · rw [List.mapM_cons, hsum, ok_bind, hmap]
      rfl
    · rw [totalUnits_cons, List.flatten_cons, totalUnits_append, hunits, htotal]
    · rw [grossUnits_cons, List.flatten_cons, grossUnits_append]
      omega

/-- **Amounts with room add up however they are put together.** -/
theorem addUp_of_room (h : grossUnits ms < Decimal.mantissaBound) : AddUp ms where
  anyOrder ms' hperm := by
    have hroom : grossUnits ms' < Decimal.mantissaBound := grossUnits_perm hperm ▸ h
    obtain ⟨total, hsum, hunits⟩ := sum_exact hroom
    exact ⟨total, hsum, value_eq_worth (hunits.trans (totalUnits_perm hperm))⟩
  anyGroups groups hperm := by
    have hroom : grossUnits groups.flatten < Decimal.mantissaBound := grossUnits_perm hperm ▸ h
    obtain ⟨totals, hmap, hworth, htotal, hsize⟩ := exists_totals hroom
    obtain ⟨total, hsum, hunits⟩ := sum_exact (Nat.lt_of_le_of_lt hsize hroom)
    refine ⟨totals, total, hmap, hworth, hsum, value_eq_worth ?_⟩
    rw [hunits, htotal, totalUnits_perm hperm]

/-- An amount that comes to another one and a sum has their values together. -/
theorem value_eq_add {a : Money} (h : m.units = a.units + totalUnits ms) :
    m.value = a.value + worth ms := by
  rw [value_eq, value_eq a, worth_eq, h]
  push_cast
  rw [add_div]

/-- What amounts are worth together does not depend on their order. -/
theorem worth_perm (h : ms.Perm ms') : worth ms = worth ms' := by
  rw [worth_eq, worth_eq, totalUnits_perm h]

end Money

open Money (worth)

/-! ## Built entries -/

variable {entries : List LedgerEntry}

/-- The two sides of a built entry are no larger than one largest amount. -/
theorem LedgerEntry.Built.sides_le {e : LedgerEntry} (h : e.Built) :
    e.debitAmount.units.natAbs + e.creditAmount.units.natAbs ≤ maxEntryUnits := by
  rcases h.oneSided with ⟨-, hpos, hle, hzero⟩ | ⟨-, hpos, hle, hzero⟩ <;> omega

/-- **Built entries have room for all their sums**, up to the capacity of a ledger. -/
theorem roomy_of_built (hbuilt : ∀ e ∈ entries, e.Built)
    (hlength : entries.length ≤ ledgerCapacity) : Roomy entries where
  both := by
    have hsides := grossUnits_sides_le fun e he => (hbuilt e he).sides_le
    have hcapacity := Nat.mul_le_mul_right maxEntryUnits hlength
    exact Nat.lt_of_le_of_lt (Nat.le_trans hsides hcapacity) ledgerCapacity_spec.1

/-- The totals of a ledger account, by their values. -/
structure AccountTotals.Worth (entries : List LedgerEntry) (a : LedgerAccount)
    (t : AccountTotals) : Prop where
  account : t.account = a
  debits : t.debits.value = worth ((entries.filter (·.ledgerAccount = a)).map (·.debitAmount))
  credits : t.credits.value = worth ((entries.filter (·.ledgerAccount = a)).map (·.creditAmount))

theorem AccountTotals.Sums.worth {a : LedgerAccount} {t : AccountTotals}
    (h : t.Sums entries a) : t.Worth entries a :=
  ⟨h.account, Money.value_eq_worth h.debits, Money.value_eq_worth h.credits⟩

/-- A trial balance, by its values. -/
structure TrialBalance.Worth (entries : List LedgerEntry) (b : TrialBalance) : Prop where
  lines : List.Forall₂ (AccountTotals.Worth entries) (Choice.values : List LedgerAccount) b.lines
  debits : b.totalDebits.value = worth (entries.map (·.debitAmount))
  credits : b.totalCredits.value = worth (entries.map (·.creditAmount))

theorem TrialBalance.Exact.worth {b : TrialBalance} (h : b.Exact entries) : b.Worth entries :=
  ⟨h.lines.imp fun _ _ hsums => hsums.worth, Money.value_eq_worth h.debits,
    Money.value_eq_worth h.credits⟩

/-! ## Drafts -/

namespace InvoiceDraft

variable {charges payments : List LedgerEntry} {ids : DraftIds} {r : DraftRequest}

/-- Charges and payments whose drafts have exact sums, in whatever order they are given. -/
structure AddUp (charges payments : List LedgerEntry) : Prop where
  inRange : ∀ ids r, r.charges.Perm charges → r.payments.Perm payments → (assemble ids r).InRange
  sums : ∀ ids r d, r.charges.Perm charges → r.payments.Perm payments → (assemble ids r).Gives d →
    d.subtotal.value = worth (charges.map (·.debitAmount)) ∧
    d.paymentsApplied.value = worth ((payments.filter (counts r)).map (·.creditAmount)) ∧
    ∀ number, ∃ i, d.toInvoice number = .ok i ∧ i.subtotal = d.subtotal ∧
      i.paymentsApplied = d.paymentsApplied ∧
      i.outstanding.value = d.subtotal.value - d.paymentsApplied.value

/-- Assembling stays in range when both sums do. -/
theorem inRange_of_sums {subtotal paid : Money}
    (hsubtotal : Money.sum ((linesOf ids r.charges).map (·.amount)) = .ok subtotal)
    (hpaid : Money.sum ((r.payments.filter (counts r)).map (·.creditAmount)) = .ok paid) :
    (assemble ids r).InRange := by
  unfold assemble
  refine Outcome.inRange_guard_throw ?_
  cases firstFault? r [] r.charges with
  | some refusal => exact ⟨_, rfl⟩
  | none =>
    refine Outcome.inRange_lift_bind hsubtotal (Outcome.inRange_lift_bind hpaid ?_)
    cases r.issueDate.addDays? r.paymentTermsDays with
    | none => exact Outcome.inRange_refuse
    | some due => exact Outcome.inRange_pure

/-- It does when the charges and payments have room. -/
theorem inRange_assemble (hroom : grossUnits (r.charges.map (·.debitAmount)) +
    grossUnits (r.payments.map (·.creditAmount)) < Decimal.mantissaBound) (ids : DraftIds) :
    (assemble ids r).InRange := by
  obtain ⟨subtotal, paid, -, hsubtotal, hpaid, -⟩ := exists_sums hroom ids
  exact inRange_of_sums hsubtotal hpaid

/-- **Charges and payments with room add up in any order.** -/
theorem addUp_of_room (hroom : grossUnits (charges.map (·.debitAmount)) +
    grossUnits (payments.map (·.creditAmount)) < Decimal.mantissaBound) :
    AddUp charges payments := by
  have hroomOf (r : DraftRequest) (hcharges : r.charges.Perm charges)
      (hpayments : r.payments.Perm payments) :
      grossUnits (r.charges.map (·.debitAmount)) +
        grossUnits (r.payments.map (·.creditAmount)) < Decimal.mantissaBound := by
    rwa [Money.grossUnits_perm (hcharges.map _), Money.grossUnits_perm (hpayments.map _)]
  refine ⟨fun ids r hcharges hpayments => inRange_assemble (hroomOf r hcharges hpayments) ids, ?_⟩
  intro ids r d hcharges hpayments hd
  obtain ⟨subtotal, paid, rest, hsubtotal, hpaid, hrest, hsubunits, hpaidunits, hrestunits⟩ :=
    exists_sums (hroomOf r hcharges hpayments) ids
  obtain ⟨-, -, subtotal', paid', due, hsubtotal', hpaid', -, rfl⟩ := assemble_gives_iff.1 hd
  obtain rfl : subtotal = subtotal' := Except.ok.inj (hsubtotal.symm.trans hsubtotal')
  obtain rfl : paid = paid' := Except.ok.inj (hpaid.symm.trans hpaid')
  refine ⟨?_, ?_, fun number => ?_⟩
  · exact (Money.value_eq_worth hsubunits).trans (Money.worth_perm (hcharges.map _))
  · exact (Money.value_eq_worth hpaidunits).trans
      (Money.worth_perm ((hpayments.filter _).map _))
  · refine ⟨_, by rw [toInvoice, ofSums, hrest]; rfl, rfl, rfl, ?_⟩
    change rest.value = subtotal.value - paid.value
    rw [Money.value_eq, Money.value_eq, Money.value_eq, hrestunits]
    push_cast
    rw [sub_div]

end InvoiceDraft

/-! ## Stores -/

namespace MemoryStore

variable {s : MemoryStore} {items : List (EntryId × LedgerEntry)} {tenant : TenantId}
  {ctx : RequestContext} {account : AccountId}

/-- The store when it goes through its entries in another order. -/
def shuffled (s : MemoryStore) (items : List (EntryId × LedgerEntry)) : MemoryStore :=
  { s with entries := { s.entries with items := items } }

/-- A store whose sums are exact, in whatever order it goes through its entries. -/
structure AddsUp (s : MemoryStore) : Prop where
  balance : ∀ items, items.Perm s.entries.items → ∀ ctx account before, ∃ balance,
    (s.shuffled items).receivableBalance ctx account before = .ok balance ∧
    balance.value = worth (((s.accountEntries ctx.tenant account).filter fun e =>
      before.all (e.createdAt < ·)).map (·.receivableDelta))
  ledgerTotals : ∀ items, items.Perm s.entries.items → ∀ tenant, ∃ totals,
    AccountTotals.ofEntries ((s.shuffled items).tenantEntries tenant) = .ok totals ∧
    List.Forall₂ (AccountTotals.Worth (s.tenantEntries tenant))
      ((Choice.values : List LedgerAccount).filter fun a =>
        (s.tenantEntries tenant).any (·.ledgerAccount = a)) totals
  trialBalance : ∀ items, items.Perm s.entries.items → ∀ ctx now supply, ∃ balance,
    Runs (Ledger.trialBalance ctx) ⟨now, supply, s.shuffled items⟩ (.ok balance)
      ⟨now, supply, s.shuffled items⟩ ∧
    balance.Worth (s.tenantEntries ctx.tenant)
  statement : ∀ items, items.Perm s.entries.items → ∀ ctx account a start finish,
    s.account? ctx.tenant account = some a → start ≤ finish → ∃ opening closing lines,
    (∀ now supply page, Runs (Ledger.statement ctx account start finish page)
      ⟨now, supply, s.shuffled items⟩
      (.ok { account := account, range := ⟨start, finish⟩, opening := opening, closing := closing
             lines := .ofAll lines page }) ⟨now, supply, s.shuffled items⟩) ∧
    opening.value = worth (((s.accountEntries ctx.tenant account).filter
      (·.createdAt < start)).map (·.receivableDelta)) ∧
    closing.value = worth (((s.accountEntries ctx.tenant account).filter
      (·.createdAt ≤ finish)).map (·.receivableDelta)) ∧
    ∀ k l, lines[k]? = some l → l.running.value = opening.value +
      worth (((s.receivableEntries ctx account ⟨start, finish⟩).take (k + 1)).map
        (·.receivableDelta))

theorem tenantEntries_shuffled (h : items.Perm s.entries.items) :
    ((s.shuffled items).tenantEntries tenant).Perm (s.tenantEntries tenant) :=
  (h.map _).filter _

theorem accountEntries_shuffled (h : items.Perm s.entries.items) :
    ((s.shuffled items).accountEntries tenant account).Perm (s.accountEntries tenant account) :=
  (tenantEntries_shuffled h).filter _

/-- The entries of a range are sorted into one order, whatever order they came in. -/
theorem receivableEntries_shuffled (h : items.Perm s.entries.items)
    (hids : (s.entries.values.map (·.id)).Nodup) (range : StatementRange) :
    (s.shuffled items).receivableEntries ctx account range =
      s.receivableEntries ctx account range := by
  have hsame : SameItems false ((s.shuffled items).accountEntries ctx.tenant account)
      (s.accountEntries ctx.tenant account) := ⟨accountEntries_shuffled h, Bool.noConfusion⟩
  have hown : ((s.accountEntries ctx.tenant account).map (·.id)).Nodup :=
    nodup_filter_key (nodup_filter_key hids _) _
  refine (hsame.filter _).mergeSort_eq ordersBy_timeLe (nodup_filter_key ?_ _)
  exact ((hsame.perm.map _).nodup_iff).2 hown

/-- **A store of built entries adds up in any order**, within the capacity of a ledger. -/
theorem addsUp_of_built (hbuilt : ∀ e ∈ s.entries.values, e.Built)
    (hids : (s.entries.values.map (·.id)).Nodup) (hsize : s.entries.size ≤ ledgerCapacity) :
    s.AddsUp := by
  have hroom (tenant : TenantId) : Roomy (s.tenantEntries tenant) := by
    refine Roomy.of_sublist (roomy_of_built hbuilt ?_) List.filter_sublist
    rwa [WriteOnce.values, List.length_map]
  have hshuffled {items : List (EntryId × LedgerEntry)} (h : items.Perm s.entries.items)
      (tenant : TenantId) : Roomy ((s.shuffled items).tenantEntries tenant) :=
    (hroom tenant).perm (tenantEntries_shuffled h)
  refine ⟨?_, ?_, ?_, ?_⟩
  · intro items h ctx account before
    have hsome : (((s.shuffled items).accountEntries ctx.tenant account).filter fun e =>
        before.all (e.createdAt < ·)).Sublist ((s.shuffled items).tenantEntries ctx.tenant) :=
      List.filter_sublist.trans List.filter_sublist
    obtain ⟨balance, hsum, hunits⟩ := ((hshuffled h ctx.tenant).of_sublist hsome).receivable
    refine ⟨balance, hsum, (Money.value_eq_worth hunits).trans (Money.worth_perm ?_)⟩
    exact ((accountEntries_shuffled h).filter _).map _
  · intro items h tenant
    obtain ⟨totals, htotals, hsums⟩ := AccountTotals.ofEntries_exact (hshuffled h tenant)
    have hany : (fun a => ((s.shuffled items).tenantEntries tenant).any (·.ledgerAccount = a)) =
        fun a => (s.tenantEntries tenant).any (·.ledgerAccount = a) :=
      funext fun a => (tenantEntries_shuffled h).any_eq
    rw [hany] at hsums
    exact ⟨totals, htotals, hsums.imp fun _ _ ht => (ht.perm (tenantEntries_shuffled h)).worth⟩
  · intro items h ctx now supply
    obtain ⟨balance, hrun, hexact⟩ := exists_trialBalance (hshuffled h ctx.tenant) now supply
    exact ⟨balance, hrun, (hexact.perm (tenantEntries_shuffled h)).worth⟩
  · intro items h ctx account a start finish ha hle
    obtain ⟨opening, hbalance, hopening⟩ :=
      exists_opening (hshuffled h ctx.tenant) account start
    obtain ⟨lines, closing, hrun, hruns, hclosing⟩ :=
      exists_lines (hshuffled h ctx.tenant) hle hopening
    refine ⟨opening, closing, lines, fun now supply page => ?_, ?_, ?_, fun k l hl => ?_⟩
    · exact Ledger.runs_statement ha hle hbalance hrun page
    · exact (Money.value_eq_worth hopening).trans
        (Money.worth_perm (((accountEntries_shuffled h).filter _).map _))
    · exact (Money.value_eq_worth hclosing).trans
        (Money.worth_perm (((accountEntries_shuffled h).filter _).map _))
    · rw [← receivableEntries_shuffled h hids]
      exact Money.value_eq_add (hruns.running k l hl)

end MemoryStore

/-! ## Whatever the order -/

/-- **Sums do not depend on an order and stay in range** within the capacity of a ledger: neither
those of amounts that are no larger than the largest entry, in any order and by any groups, nor
those that drafts and stores form over built entries. -/
theorem sums_anyOrder :
    (∀ ms : List Money, ms.length ≤ ledgerCapacity →
      (∀ m ∈ ms, maxEntryAmount.lt m.abs.amount = false) → Money.AddUp ms) ∧
    (∀ charges payments : List LedgerEntry, (∀ e ∈ charges ++ payments, e.Built) →
      charges.length + payments.length ≤ ledgerCapacity →
      InvoiceDraft.AddUp charges payments) ∧
    ∀ s : MemoryStore, (∀ e ∈ s.entries.values, e.Built) → (s.entries.values.map (·.id)).Nodup →
      s.entries.size ≤ ledgerCapacity → s.AddsUp := by
  refine ⟨fun ms hfew hsmall => ?_, fun charges payments hbuilt hfew => ?_,
    fun s hbuilt hids hsize => MemoryStore.addsUp_of_built hbuilt hids hsize⟩
  · have hsize := Money.grossUnits_le_of_small hsmall
    have hcapacity := Nat.mul_le_mul_right maxEntryUnits hfew
    exact Money.addUp_of_room
      (Nat.lt_of_le_of_lt (Nat.le_trans hsize hcapacity) ledgerCapacity_spec.1)
  · have hroom := (roomy_of_built hbuilt (by rwa [List.length_append])).both
    rw [List.map_append, List.map_append, Money.grossUnits_append, Money.grossUnits_append] at hroom
    exact InvoiceDraft.addUp_of_room (by omega)

/-! ## A ride -/

/-- Where the entries of the ride come from. -/
def rideSource : EntrySource where
  tenant := Sample.tenant
  account := Sample.unknownAccount
  sourceType := .rideCharge
  reference := "ride-1"
  createdAt := Sample.epoch
  createdBy := Sample.operator.actor
  description := none

/-- Both entries of the ride are built. -/
theorem built_ridden : ∀ e ∈ (MemoryStore.ridden false).entries.values, e.Built := by
  intro e he
  obtain rfl | rfl : e = MemoryStore.storedDebit ∨ e = MemoryStore.earned := List.mem_pair.1 he
  · exact ⟨.debit, MemoryStore.storedDebit.id, .accountsReceivable, Sample.rideFare, rideSource,
      by decide +kernel⟩
  · exact ⟨.credit, MemoryStore.earned.id, .serviceRevenue, Sample.rideFare, rideSource,
      by decide +kernel⟩

/-- The largest amount of an entry, with four fractional digits. -/
def largestAmount : Money := { amount := maxEntryAmount }

/-- The largest amount, its opposite and a fare with fewer digits add up, and so do the entries of
the ride, on a draft and in a store. -/
theorem sums_anyOrder_ride :
    Money.AddUp [largestAmount, Sample.rideFare, largestAmount.neg] ∧
    InvoiceDraft.AddUp [MemoryStore.storedDebit] [MemoryStore.earned] ∧
    (MemoryStore.ridden false).AddsUp := by
  obtain ⟨hamounts, hdrafts, hstores⟩ := sums_anyOrder
  refine ⟨hamounts _ (by decide) (by decide +kernel), hdrafts _ _ built_ridden (by decide), ?_⟩
  exact hstores _ built_ridden (by decide) (by decide)

end RideLedger
