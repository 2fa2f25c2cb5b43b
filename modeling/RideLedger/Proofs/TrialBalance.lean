import RideLedger.Proofs.Journal

/-!
# The trial balance — exact and balanced

The trial balance adds entries up twice over: by ledger account in the store, and again from those
totals. Each addition may round, so that its result could depend on the order of the entries. With
room for all of them it does not: every line and both totals are the exact sums
(`TrialBalance.Exact`), in whatever order the entries come. In a store with a journal the two
totals are equal.
-/

namespace RideLedger

open Money (totalUnits grossUnits)

/-! ## Sums by ledger account -/

/-- The units of some amounts of the entries on a ledger account. -/
def unitsOn (amount : LedgerEntry → Money) (entries : List LedgerEntry) (a : LedgerAccount) : Int :=
  totalUnits ((entries.filter (·.ledgerAccount = a)).map amount)

/-- The size of some amounts of the entries on a ledger account. -/
def grossOn (amount : LedgerEntry → Money) (entries : List LedgerEntry) (a : LedgerAccount) : Nat :=
  grossUnits ((entries.filter (·.ledgerAccount = a)).map amount)

variable {entries : List LedgerEntry} {amount : LedgerEntry → Money}

/-- The ledger accounts share the entries among them, whatever is added up. -/
theorem sum_by_account {M : Type} [AddCommMonoid M] (f : LedgerEntry → M) :
    (entries.map f).sum =
      ((entries.filter (·.ledgerAccount = .accountsReceivable)).map f).sum +
        ((entries.filter (·.ledgerAccount = .serviceRevenue)).map f).sum +
        ((entries.filter (·.ledgerAccount = .cash)).map f).sum := by
  induction entries with
  | nil => simp
  | cons e rest ih =>
    -- the entry goes to the front of the sum of its own ledger account
    cases he : e.ledgerAccount <;> simp only [List.map_cons, List.sum_cons, ih, List.filter_cons,
      he, decide_true, reduceCtorEq, decide_false, Bool.false_eq_true, ↓reduceIte, add_assoc,
      add_left_comm (f e)]

theorem totalUnits_eq_unitsOn :
    totalUnits (entries.map amount) = unitsOn amount entries .accountsReceivable +
      unitsOn amount entries .serviceRevenue + unitsOn amount entries .cash := by
  simp only [totalUnits, unitsOn, List.map_map]
  exact sum_by_account _

theorem grossUnits_eq_grossOn :
    grossUnits (entries.map amount) = grossOn amount entries .accountsReceivable +
      grossOn amount entries .serviceRevenue + grossOn amount entries .cash := by
  simp only [grossUnits, grossOn, List.map_map]
  exact sum_by_account _

/-- Entries of bounded size have a bounded size together. -/
theorem grossUnits_sides_le {bound : Nat} (h : ∀ e ∈ entries,
    e.debitAmount.units.natAbs + e.creditAmount.units.natAbs ≤ bound) :
    grossUnits (entries.map (·.debitAmount)) + grossUnits (entries.map (·.creditAmount)) ≤
      entries.length * bound := by
  induction entries with
  | nil => simp [grossUnits]
  | cons e rest ih =>
    have hfirst := h e (List.mem_cons_self ..)
    have hrest := ih fun e' he' => h e' (List.mem_cons_of_mem _ he')
    simp only [List.map_cons, Money.grossUnits_cons, List.length_cons, Nat.succ_mul]
    omega

/-- A ledger account has at most the size of the entries. -/
theorem grossOn_le (amount : LedgerEntry → Money) (entries : List LedgerEntry)
    (a : LedgerAccount) : grossOn amount entries a ≤ grossUnits (entries.map amount) := by
  rw [grossUnits_eq_grossOn]
  cases a <;> omega

/-! ## Totals of a ledger account -/

namespace AccountTotals

variable {t : AccountTotals} {debits credits : Money}

theorem add_exact (hd : (t.debits.units + debits.units).natAbs < Decimal.mantissaBound)
    (hc : (t.credits.units + credits.units).natAbs < Decimal.mantissaBound) :
    ∃ t', t.add debits credits = .ok t' ∧ t'.account = t.account ∧
      t'.debits.units = t.debits.units + debits.units ∧
      t'.credits.units = t.credits.units + credits.units := by
  obtain ⟨d, hdsum, hdunits⟩ := Money.add_exact hd
  obtain ⟨c, hcsum, hcunits⟩ := Money.add_exact hc
  refine ⟨{ t with debits := d, credits := c }, ?_, rfl, hdunits, hcunits⟩
  rw [add, hdsum, hcsum]
  rfl

/-- Adding up entries is exact as long as both sides have room. -/
theorem foldlM_exact
    (hd : t.debits.units.natAbs + grossUnits (entries.map (·.debitAmount)) < Decimal.mantissaBound)
    (hc : t.credits.units.natAbs + grossUnits (entries.map (·.creditAmount)) <
      Decimal.mantissaBound) :
    ∃ t', entries.foldlM (fun t e => t.add e.debitAmount e.creditAmount) t = .ok t' ∧
      t'.account = t.account ∧
      t'.debits.units = t.debits.units + totalUnits (entries.map (·.debitAmount)) ∧
      t'.credits.units = t.credits.units + totalUnits (entries.map (·.creditAmount)) := by
  induction entries generalizing t with
  | nil => exact ⟨t, rfl, rfl, by simp, by simp⟩
  | cons e rest ih =>
    rw [List.map_cons, Money.grossUnits_cons] at hd hc
    have hdfirst : (t.debits.units + e.debitAmount.units).natAbs < Decimal.mantissaBound := by
      omega
    have hcfirst : (t.credits.units + e.creditAmount.units).natAbs < Decimal.mantissaBound := by
      omega
    obtain ⟨t₁, hadd, haccount, hdebits, hcredits⟩ := add_exact hdfirst hcfirst
    obtain ⟨t', hfold, haccount', hdebits', hcredits'⟩ := ih (t := t₁) (by omega) (by omega)
    refine ⟨t', ?_, haccount'.trans haccount, ?_, ?_⟩
    · rw [List.foldlM_cons, hadd]
      exact hfold
    · rw [hdebits', hdebits, List.map_cons, Money.totalUnits_cons, Int.add_assoc]
    · rw [hcredits', hcredits, List.map_cons, Money.totalUnits_cons, Int.add_assoc]

/-- The totals of a ledger account are the exact sums of its entries. -/
structure Sums (entries : List LedgerEntry) (a : LedgerAccount) (t : AccountTotals) : Prop where
  account : t.account = a
  debits : t.debits.units = unitsOn (·.debitAmount) entries a
  credits : t.credits.units = unitsOn (·.creditAmount) entries a

end AccountTotals

/-- Totals that are exact for entries in one order are exact for them in another. -/
theorem AccountTotals.Sums.perm {others : List LedgerEntry} {a : LedgerAccount} {t : AccountTotals}
    (h : Sums others a t) (hperm : others.Perm entries) : Sums entries a t where
  account := h.account
  debits := h.debits.trans (Money.totalUnits_perm ((hperm.filter _).map _))
  credits := h.credits.trans (Money.totalUnits_perm ((hperm.filter _).map _))

/-- Entries that have room for all their sums. -/
structure Roomy (entries : List LedgerEntry) : Prop where
  both : grossUnits (entries.map (·.debitAmount)) + grossUnits (entries.map (·.creditAmount)) <
    Decimal.mantissaBound

theorem Roomy.debits (h : Roomy entries) :
    grossUnits (entries.map (·.debitAmount)) < Decimal.mantissaBound :=
  Nat.lt_of_le_of_lt (Nat.le_add_right ..) h.both

theorem Roomy.credits (h : Roomy entries) :
    grossUnits (entries.map (·.creditAmount)) < Decimal.mantissaBound :=
  Nat.lt_of_le_of_lt (Nat.le_add_left ..) h.both

/-- Another order has as much room. -/
theorem Roomy.perm {others : List LedgerEntry} (h : Roomy entries) (hperm : others.Perm entries) :
    Roomy others where
  both := by
    rw [Money.grossUnits_perm (hperm.map _), Money.grossUnits_perm (hperm.map _)]
    exact h.both

namespace AccountTotals

/-- **The totals that the store gives are exact**, one for each ledger account with entries. -/
theorem ofEntries_exact (h : Roomy entries) :
    ∃ totals, ofEntries entries = .ok totals ∧
      List.Forall₂ (Sums entries)
        ((Choice.values : List LedgerAccount).filter fun a =>
          entries.any (·.ledgerAccount = a)) totals := by
  refine mapM_ok fun a _ => ?_
  have hd := Nat.lt_of_le_of_lt (grossOn_le (·.debitAmount) entries a) h.debits
  have hc := Nat.lt_of_le_of_lt (grossOn_le (·.creditAmount) entries a) h.credits
  obtain ⟨t, hfold, haccount, hdebits, hcredits⟩ := foldlM_exact (t := zero a)
    (by simpa [zero, grossOn] using hd) (by simpa [zero, grossOn] using hc)
  exact ⟨t, hfold, haccount, by simpa [zero, unitsOn] using hdebits,
    by simpa [zero, unitsOn] using hcredits⟩

end AccountTotals

namespace TrialBalance

/-- A trial balance whose lines and totals are the exact sums of the entries. -/
structure Exact (entries : List LedgerEntry) (b : TrialBalance) : Prop where
  lines : List.Forall₂ (AccountTotals.Sums entries) (Choice.values : List LedgerAccount) b.lines
  debits : b.totalDebits.units = totalUnits (entries.map (·.debitAmount))
  credits : b.totalCredits.units = totalUnits (entries.map (·.creditAmount))

/-- A trial balance that is exact for entries in one order is exact for them in another. -/
theorem Exact.perm {others : List LedgerEntry} {b : TrialBalance} (h : b.Exact others)
    (hperm : others.Perm entries) : b.Exact entries where
  lines := h.lines.imp fun _ _ hsums => hsums.perm hperm
  debits := h.debits.trans (Money.totalUnits_perm (hperm.map _))
  credits := h.credits.trans (Money.totalUnits_perm (hperm.map _))

/-- Of totals by ledger account, one is on each account that has any. -/
theorem filter_account {accounts : List LedgerAccount} {totals : List AccountTotals}
    (h : List.Forall₂ (AccountTotals.Sums entries) accounts totals) (hnodup : accounts.Nodup)
    (a : LedgerAccount) :
    (a ∉ accounts ∧ totals.filter (·.account = a) = []) ∨
      (a ∈ accounts ∧
        ∃ t, totals.filter (·.account = a) = [t] ∧ AccountTotals.Sums entries a t) := by
  induction h with
  | nil => exact .inl ⟨List.not_mem_nil, rfl⟩
  | @cons a' t accounts totals ht hrest ih =>
    obtain ⟨hfirst, hrestNodup⟩ := List.nodup_cons.1 hnodup
    by_cases ha : a' = a
    · subst ha
      -- the accounts are listed once, so none of the other totals is on this one
      rcases ih hrestNodup with ⟨-, hnone⟩ | ⟨hmem, -⟩
      · exact .inr ⟨List.mem_cons_self .., t, by simp [ht.account, hnone], ht⟩
      · exact absurd hmem hfirst
    · have hskip : t.account ≠ a := by rwa [ht.account]
      rcases ih hrestNodup with ⟨hnot, hnone⟩ | ⟨hmem, t', hone, ht'⟩
      · exact .inl ⟨by simp [Ne.symm ha, hnot], by simp [hskip, hnone]⟩
      · exact .inr ⟨List.mem_cons_of_mem _ hmem, t', by simp [hskip, hone], ht'⟩

/-- A ledger account without entries has exact totals of nothing. -/
theorem sums_zero {a : LedgerAccount} (h : ∀ e ∈ entries, e.ledgerAccount ≠ a) :
    AccountTotals.Sums entries a (.zero a) := by
  have hnone : entries.filter (·.ledgerAccount = a) = [] :=
    List.filter_eq_nil_iff.2 fun e he => by simpa using h e he
  exact
    { account := rfl
      debits := by simp [unitsOn, hnone, AccountTotals.zero]
      credits := by simp [unitsOn, hnone, AccountTotals.zero] }

/-- Adding exact totals to nothing leaves them exact. -/
theorem sums_add {a : LedgerAccount} {t : AccountTotals} (hroom : Roomy entries)
    (ht : AccountTotals.Sums entries a t) :
    ∃ line, (AccountTotals.zero a).add t.debits t.credits = .ok line ∧
      AccountTotals.Sums entries a line := by
  have hd : t.debits.units.natAbs < Decimal.mantissaBound := by
    rw [ht.debits]
    exact Nat.lt_of_le_of_lt (Nat.le_trans Money.natAbs_totalUnits_le
      (grossOn_le (·.debitAmount) entries a)) hroom.debits
  have hc : t.credits.units.natAbs < Decimal.mantissaBound := by
    rw [ht.credits]
    exact Nat.lt_of_le_of_lt (Nat.le_trans Money.natAbs_totalUnits_le
      (grossOn_le (·.creditAmount) entries a)) hroom.credits
  obtain ⟨line, hadd, haccount, hdebits, hcredits⟩ := AccountTotals.add_exact (t := .zero a)
    (by simpa [AccountTotals.zero] using hd) (by simpa [AccountTotals.zero] using hc)
  refine ⟨line, hadd, haccount, ?_, ?_⟩
  · rw [hdebits, ← ht.debits]
    simp [AccountTotals.zero]
  · rw [hcredits, ← ht.credits]
    simp [AccountTotals.zero]

/-- Exact lines of all ledger accounts have exact sums. -/
theorem sum_lines {lines : List AccountTotals} {side : AccountTotals → Money}
    (hroom : grossUnits (entries.map amount) < Decimal.mantissaBound)
    (h : List.Forall₂ (fun a (line : AccountTotals) =>
      (side line).units = unitsOn amount entries a) (Choice.values : List LedgerAccount) lines) :
    ∃ total, Money.sum (lines.map side) = .ok total ∧
      total.units = totalUnits (entries.map amount) := by
  change List.Forall₂ _
    [LedgerAccount.accountsReceivable, LedgerAccount.serviceRevenue, LedgerAccount.cash] lines at h
  obtain _ | ⟨hreceivable, _ | ⟨hrevenue, _ | ⟨hcash, _ | _⟩⟩⟩ := h
  rename_i receivable revenue cash
  have hle (a : LedgerAccount) : (unitsOn amount entries a).natAbs ≤ grossOn amount entries a :=
    Money.natAbs_totalUnits_le
  have hgross : grossUnits [side receivable, side revenue, side cash] <
      Decimal.mantissaBound := by
    have hone := hle .accountsReceivable
    have htwo := hle .serviceRevenue
    have hthree := hle .cash
    rw [grossUnits_eq_grossOn] at hroom
    simp only [Money.grossUnits_cons, hreceivable, hrevenue, hcash]
    simp only [grossUnits, List.map_nil, List.sum_nil]
    omega
  obtain ⟨total, hsum, htotal⟩ := Money.sum_exact hgross
  refine ⟨total, hsum, ?_⟩
  rw [htotal, totalUnits_eq_unitsOn, ← hreceivable, ← hrevenue, ← hcash]
  simp [Int.add_assoc]

/-- **Exact totals make an exact trial balance**, in whatever order they come. -/
theorem ofTotals_exact {accounts : List LedgerAccount} {totals : List AccountTotals}
    (hroom : Roomy entries)
    (h : List.Forall₂ (AccountTotals.Sums entries) accounts totals) (hnodup : accounts.Nodup)
    (hcovered : ∀ e ∈ entries, e.ledgerAccount ∈ accounts) :
    ∃ b, ofTotals totals = .ok b ∧ b.Exact entries := by
  have hlines : ∀ a ∈ (Choice.values : List LedgerAccount),
      ∃ line, (totals.filter (·.account = a)).foldlM (fun acc t => acc.add t.debits t.credits)
        (AccountTotals.zero a) = .ok line ∧ AccountTotals.Sums entries a line := by
    intro a _
    rcases filter_account h hnodup a with ⟨hnot, hnone⟩ | ⟨-, t, hone, ht⟩
    -- an account without totals has no entries
    · exact ⟨_, by rw [hnone]; rfl, sums_zero fun e he hea => hnot (hea ▸ hcovered e he)⟩
    · obtain ⟨line, hadd, hsums⟩ := sums_add hroom ht
      exact ⟨line, by rw [hone, List.foldlM_cons, hadd]; rfl, hsums⟩
  obtain ⟨lines, hmap, hlines⟩ := mapM_ok hlines
  obtain ⟨debits, hdebits, hdunits⟩ := sum_lines hroom.debits (hlines.imp fun _ _ h => h.debits)
  obtain ⟨credits, hcredits, hcunits⟩ :=
    sum_lines hroom.credits (hlines.imp fun _ _ h => h.credits)
  refine ⟨{ lines := lines, totalDebits := debits, totalCredits := credits }, ?_,
    ⟨hlines, hdunits, hcunits⟩⟩
  rw [ofTotals, hmap, ok_bind, hdebits, ok_bind, hcredits]
  rfl

/-- The ledger accounts are listed once. -/
theorem nodup_ledgerAccounts : (Choice.values : List LedgerAccount).Nodup := by decide

/-- **Adding entries up twice over is exact when there is room**: first by ledger account, then
from the totals. -/
theorem exact_of_entries (hroom : Roomy entries) :
    ∃ totals b, AccountTotals.ofEntries entries = .ok totals ∧ ofTotals totals = .ok b ∧
      b.Exact entries := by
  obtain ⟨totals, htotals, hsums⟩ := AccountTotals.ofEntries_exact hroom
  have hcovered : ∀ e ∈ entries, e.ledgerAccount ∈ (Choice.values : List LedgerAccount).filter
      fun a => entries.any (·.ledgerAccount = a) := by
    intro e he
    refine List.mem_filter.2 ⟨?_, List.any_eq_true.2 ⟨e, he, by simp⟩⟩
    cases e.ledgerAccount <;> decide
  obtain ⟨b, hb, hexact⟩ :=
    ofTotals_exact hroom hsums (nodup_ledgerAccounts.filter _) hcovered
  exact ⟨totals, b, htotals, hb, hexact⟩

end TrialBalance

/-! ## The trial balance of a journal -/

namespace MemoryStore

variable {s : MemoryStore} {journal : List LedgerTransaction} {tenant : TenantId}

/-- The two sides of an entry of a double entry have a bounded size together. -/
theorem bounded_of_doubleEntry {t : LedgerTransaction} (h : DoubleEntry t.debit t.credit) :
    ∀ e ∈ t.entries, e.debitAmount.units.natAbs + e.creditAmount.units.natAbs ≤ maxEntryUnits := by
  have hpos := h.debit_pos
  have hle := h.debit_le
  have hequal := h.equal
  intro e he
  rcases List.mem_pair.1 he with rfl | rfl
  · have hzero := h.debit_only
    omega
  · have hzero := h.credit_only
    omega

/-- A store with a journal and no more entries than its capacity has room for all sums of a
tenant's entries. -/
theorem IsJournal.roomy (h : IsJournal journal s) (hsize : s.entries.size ≤ ledgerCapacity) :
    Roomy (s.tenantEntries tenant) := by
  have hbounded : ∀ e ∈ s.tenantEntries tenant,
      e.debitAmount.units.natAbs + e.creditAmount.units.natAbs ≤ maxEntryUnits := by
    intro e he
    have hvalue := List.mem_of_mem_filter he
    rw [h.values] at hvalue
    obtain ⟨t, ht, het⟩ := List.mem_flatMap.1 hvalue
    exact bounded_of_doubleEntry (h.double t ht) e het
  have hlength : (s.tenantEntries tenant).length ≤ ledgerCapacity := by
    refine Nat.le_trans (List.length_filter_le ..) (Nat.le_trans (Nat.le_of_eq ?_) hsize)
    rw [WriteOnce.values, List.length_map, WriteOnce.size]
  refine ⟨?_⟩
  calc _ ≤ (s.tenantEntries tenant).length * maxEntryUnits := grossUnits_sides_le hbounded
    _ ≤ ledgerCapacity * maxEntryUnits := Nat.mul_le_mul_right _ hlength
    _ < Decimal.mantissaBound := ledgerCapacity_spec.1

/-- What is the same for the two entries of each transaction together is the same for the entries
of a tenant: by induction on the journal, whose every transaction is the tenant's as a whole or not
at all. -/
theorem sum_eq_of_pairs {M : Type} [AddCommMonoid M] {f g : LedgerEntry → M}
    (htenant : ∀ t ∈ journal, t.debit.tenant = t.credit.tenant)
    (hpair : ∀ t ∈ journal, f t.debit + f t.credit = g t.debit + g t.credit) :
    (((journal.flatMap (·.entries)).filter (·.tenant = tenant)).map f).sum =
      (((journal.flatMap (·.entries)).filter (·.tenant = tenant)).map g).sum := by
  induction journal with
  | nil => rfl
  | cons t rest ih =>
    have hsame := htenant t (List.mem_cons_self ..)
    have hfirst := hpair t (List.mem_cons_self ..)
    have hrest := ih (fun t' ht' => htenant t' (List.mem_cons_of_mem _ ht'))
      fun t' ht' => hpair t' (List.mem_cons_of_mem _ ht')
    rw [List.flatMap_cons, List.filter_append, List.map_append, List.map_append, List.sum_append,
      List.sum_append, hrest]
    congr 1
    by_cases hown : t.debit.tenant = tenant
    · have hown' : t.credit.tenant = tenant := hsame ▸ hown
      simp [LedgerTransaction.entries, hown, hown', hfirst]
    · have hown' : t.credit.tenant ≠ tenant := hsame ▸ hown
      simp [LedgerTransaction.entries, hown, hown']

/-- In the entries of double entries, the debits of a tenant are worth its credits. -/
theorem debits_eq_credits (hdouble : ∀ t ∈ journal, DoubleEntry t.debit t.credit) :
    totalUnits (((journal.flatMap (·.entries)).filter (·.tenant = tenant)).map (·.debitAmount)) =
      totalUnits (((journal.flatMap (·.entries)).filter (·.tenant = tenant)).map
        (·.creditAmount)) := by
  rw [totalUnits, totalUnits, List.map_map, List.map_map]
  refine sum_eq_of_pairs (fun t ht => (hdouble t ht).tenant) fun t ht => ?_
  have hdebit := (hdouble t ht).debit_only
  have hcredit := (hdouble t ht).credit_only
  have hequal := (hdouble t ht).equal
  simp only [Function.comp_apply]
  omega

/-- The plan of the trial balance asks for the totals and adds them up. -/
theorem trialBalance_run (ctx : RequestContext) {totals : List AccountTotals} {b : TrialBalance}
    (hb : TrialBalance.ofTotals totals = .ok b) :
    ∃ next, (Ledger.trialBalance ctx).run = .ask (.ledgerTotals ctx) next ∧
      next (.ok totals) = .done (.ok b) := by
  refine ⟨_, rfl, ?_⟩
  change Plan.bind (liftM (TrialBalance.ofTotals totals) : Plan TrialBalance) _ = _
  rw [hb]
  rfl

/-- **The trial balance of a tenant whose entries have room is exact.** -/
theorem exists_trialBalance {ctx : RequestContext} (hroom : Roomy (s.tenantEntries ctx.tenant))
    (now : Instant) (supply : Supply) :
    ∃ balance, (Ledger.trialBalance ctx).run.run Quiet.world ⟨now, supply, s⟩ =
        .ok (.ok balance, ⟨now, supply, s⟩) ∧
      balance.Exact (s.tenantEntries ctx.tenant) := by
  obtain ⟨totals, balance, htotals, hbalance, hexact⟩ := TrialBalance.exact_of_entries hroom
  have hserve : s.serve false (.ledgerTotals ctx) = .ok (.ok totals, s) := by
    rw [serve, htotals, ok_bind]
    rfl
  refine ⟨balance, ?_, hexact⟩
  obtain ⟨next, hask, hnext⟩ := trialBalance_run ctx hbalance
  simp only [hask, Plan.run, Quiet.world, hserve, ok_bind, pure_bind, hnext]

/-- **The trial balance of a store with a journal is exact, and it balances.** -/
theorem IsJournal.trialBalance (h : IsJournal journal s)
    (hsize : s.entries.size ≤ ledgerCapacity) (ctx : RequestContext) (now : Instant)
    (supply : Supply) :
    ∃ balance, (Ledger.trialBalance ctx).run.run Quiet.world ⟨now, supply, s⟩ =
        .ok (.ok balance, ⟨now, supply, s⟩) ∧
      balance.Exact (s.tenantEntries ctx.tenant) ∧ balance.isBalanced = true := by
  obtain ⟨balance, hrun, hexact⟩ := exists_trialBalance (h.roomy hsize) now supply
  refine ⟨balance, hrun, hexact, ?_⟩
  rw [TrialBalance.isBalanced, Money.sameValue_iff, hexact.debits, hexact.credits,
    tenantEntries, h.values]
  exact debits_eq_credits h.double

/-! ## Double entry -/

/-- Double entry, as it holds of the store's three collections and of what is derived from
them. -/
structure InBalance (s : MemoryStore) : Prop where
  /-- A recorded event has exactly two entries, and they are a debit and a credit that match. -/
  recorded : ∀ event ∈ s.keys, ∃ debit credit,
    s.recorded event = [debit, credit] ∧ DoubleEntry debit credit
  /-- An entry belongs to exactly one recorded event. -/
  belongs : ∀ e ∈ s.entries.values, ∃! event, event ∈ s.keys ∧ e ∈ s.recorded event
  /-- The trial balance of a tenant comes out, is exact and balances. -/
  balances : s.entries.size ≤ ledgerCapacity → ∀ ctx now supply, ∃ balance,
    (Ledger.trialBalance ctx).run.run Quiet.world ⟨now, supply, s⟩ =
      .ok (.ok balance, ⟨now, supply, s⟩) ∧
    balance.Exact (s.tenantEntries ctx.tenant) ∧ balance.isBalanced = true
  /-- It would be exact, too, if the tenant's entries were added up in another order. -/
  anyOrder : s.entries.size ≤ ledgerCapacity → ∀ tenant entries,
    entries.Perm (s.tenantEntries tenant) → ∃ totals balance,
      AccountTotals.ofEntries entries = .ok totals ∧ TrialBalance.ofTotals totals = .ok balance ∧
      balance.Exact (s.tenantEntries tenant)

/-- **Double entry holds in every reachable store.** -/
theorem inBalance_of_reachable (s : MemoryStore) (h : s.Reachable LedgerTransaction.Built) :
    s.InBalance := by
  obtain ⟨hfiled, journal, hjournal⟩ := h.journaled
  exact
    { recorded := fun event hevent => hjournal.recorded hfiled hevent
      belongs := fun e he => hjournal.existsUnique_event he
      balances := fun hsize ctx now supply => hjournal.trialBalance hsize ctx now supply
      anyOrder := fun hsize tenant entries hperm => by
        obtain ⟨totals, balance, htotals, hbalance, hexact⟩ :=
          TrialBalance.exact_of_entries ((hjournal.roomy hsize).perm hperm)
        exact ⟨totals, balance, htotals, hbalance, hexact.perm hperm⟩ }

/-! ## A first ride -/

/-- The store after the first ride has two entries, and is in balance. -/
theorem inBalance_afterFirstRide :
    (storeAfter firstCalls).Reachable LedgerTransaction.Built ∧
      (storeAfter firstCalls).entries.size = 2 ∧ (storeAfter firstCalls).InBalance := by
  have hreachable : (storeAfter firstCalls).Reachable LedgerTransaction.Built :=
    reachable_storeAfter (by simp [firstCalls, Operation.Posts])
  exact ⟨hreachable, by decide +kernel, inBalance_of_reachable _ hreachable⟩

end MemoryStore

end RideLedger
