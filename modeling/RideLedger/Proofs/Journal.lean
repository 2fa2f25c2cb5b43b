import RideLedger.Proofs.Amounts
import RideLedger.Proofs.Operations

/-!
# The journal — what transactions the entries come from

The store keeps entries and keys in two collections, and nothing in either points to the other.
They still belong together: every reachable store is the image of a journal, a list of balanced
transactions whose pairs of entries are its entries and whose keys are its keys
(`MemoryStore.Journaled`). Double entry is read off the journal.
-/

namespace RideLedger

/-! ## Built entries and balanced transactions -/

/-- An entry that `LedgerEntry.debit` or `LedgerEntry.credit` built. -/
def LedgerEntry.Built (e : LedgerEntry) : Prop :=
  ∃ side id account amount source, LedgerEntry.post side id account amount source = .ok e

/-- A transaction put together from two built entries of different identifiers. -/
def LedgerTransaction.Built (t : LedgerTransaction) : Prop :=
  ∃ id first second, first.Built ∧ second.Built ∧ first.id ≠ second.id ∧
    (LedgerTransaction.new id first second).Gives t

/-- A pair of entries that records one event: a debit and a credit of one amount. -/
structure DoubleEntry (debit credit : LedgerEntry) : Prop where
  debit_pos : 0 < debit.debitAmount.units
  debit_le : debit.debitAmount.units ≤ maxEntryUnits
  debit_only : debit.creditAmount.units = 0
  credit_only : credit.debitAmount.units = 0
  equal : debit.debitAmount.units = credit.creditAmount.units
  tenant : debit.tenant = credit.tenant
  account : debit.account = credit.account
  sourceType : debit.sourceType = credit.sourceType
  reference : debit.reference = credit.reference
  ledgerAccount : debit.ledgerAccount ≠ credit.ledgerAccount

/-- The sides of a double entry. -/
theorem DoubleEntry.sides {debit credit : LedgerEntry} (h : DoubleEntry debit credit) :
    debit.side = .debit ∧ credit.side = .credit := by
  have hdebit : debit.debitAmount.isPositive = true := Money.isPositive_iff.2 h.debit_pos
  have hcredit : ¬credit.debitAmount.isPositive = true := by
    rw [Money.isPositive_iff, h.credit_only]
    omega
  exact ⟨if_pos hdebit, if_neg hcredit⟩

namespace LedgerEntry

variable {e : LedgerEntry}

/-- A built entry has an amount on one side, and it is positive and not too large. -/
theorem Built.oneSided (h : e.Built) :
    (e.side = .debit ∧ 0 < e.debitAmount.units ∧ e.debitAmount.units ≤ maxEntryUnits ∧
      e.creditAmount.units = 0) ∨
    (e.side = .credit ∧ 0 < e.creditAmount.units ∧ e.creditAmount.units ≤ maxEntryUnits ∧
      e.debitAmount.units = 0) := by
  obtain ⟨side, id, account, amount, source, hpost⟩ := h
  unfold LedgerEntry.post at hpost
  simp only [guard_throw_eq_ok] at hpost
  obtain ⟨hpositive, hlarge, hbuild⟩ := hpost
  obtain ⟨reference, -, he⟩ := bind_eq_ok.1 hbuild
  obtain rfl := Except.ok.inj he
  have hpositive : amount.isPositive = true := by simpa using hpositive
  have hpos : 0 < amount.units := Money.isPositive_iff.1 hpositive
  have hle : amount.units ≤ maxEntryUnits := Money.units_le_of_not_lt (by simpa using hlarge)
  cases side with
  | debit => exact .inl ⟨by simp [LedgerEntry.side, hpositive], hpos, hle, by simp⟩
  | credit => exact .inr ⟨rfl, hpos, hle, by simp⟩

/-- A charge is of a ride and on the receivable account, and its debit is positive. -/
theorem isBillable_iff : e.isBillable = true ↔ e.sourceType = .rideCharge ∧
    e.ledgerAccount = .accountsReceivable ∧ e.debitAmount.isPositive = true := by
  have hside : e.side = .debit ↔ e.debitAmount.isPositive = true := by
    unfold LedgerEntry.side
    split <;> simp [*]
  simp only [isBillable, Bool.and_eq_true, decide_eq_true_eq, hside, and_assoc]

/-- The debit of a charge is not zero. -/
theorem isZero_of_isBillable (h : e.isBillable = true) : e.debitAmount.isZero = false := by
  have hpositive := (isBillable_iff.1 h).2.2
  rw [Money.isPositive, Bool.and_eq_true] at hpositive
  simpa [Money.isZero] using hpositive.2

/-- What an entry has from its posting. -/
structure PostedAs (side : PostingSide) (id : EntryId) (account : LedgerAccount)
    (source : EntrySource) (e : LedgerEntry) : Prop where
  id : e.id = id
  side : e.side = side
  ledgerAccount : e.ledgerAccount = account
  sourceType : e.sourceType = source.sourceType
  createdAt : e.createdAt = source.createdAt

theorem postedAs {side : PostingSide} {id : EntryId} {account : LedgerAccount} {amount : Money}
    {source : EntrySource} (h : post side id account amount source = .ok e) :
    e.PostedAs side id account source := by
  unfold LedgerEntry.post at h
  simp only [guard_throw_eq_ok] at h
  obtain ⟨hpositive, -, hbuild⟩ := h
  obtain ⟨reference, -, he⟩ := bind_eq_ok.1 hbuild
  obtain rfl := Except.ok.inj he
  have hpositive : amount.isPositive = true := by simpa using hpositive
  refine ⟨rfl, ?_, rfl, rfl, rfl⟩
  cases side with
  | debit => simp [LedgerEntry.side, hpositive]
  | credit => rfl

theorem Built.natAbs_debit_le (h : e.Built) : e.debitAmount.units.natAbs ≤ maxEntryUnits := by
  rcases h.oneSided with ⟨-, hpos, hle, hzero⟩ | ⟨-, hpos, hle, hzero⟩ <;> omega

theorem Built.natAbs_credit_le (h : e.Built) : e.creditAmount.units.natAbs ≤ maxEntryUnits := by
  rcases h.oneSided with ⟨-, hpos, hle, hzero⟩ | ⟨-, hpos, hle, hzero⟩ <;> omega

end LedgerEntry

namespace LedgerTransaction

variable {t : LedgerTransaction} {id : TransactionId} {first second : LedgerEntry}

/-- What two entries have in common when they make up a transaction. -/
structure Matched (t : LedgerTransaction) : Prop where
  debit_side : t.debit.side = .debit
  credit_side : t.credit.side = .credit
  tenant : t.debit.tenant = t.credit.tenant
  account : t.debit.account = t.credit.account
  sourceType : t.debit.sourceType = t.credit.sourceType
  reference : t.debit.reference = t.credit.reference
  ledgerAccount : t.debit.ledgerAccount ≠ t.credit.ledgerAccount

/-- What it takes to put two entries together: the totals of the two sides agree, and one of the
entries is a debit that matches the other one, a credit. -/
theorem new_gives (h : (new id first second).Gives t) :
    (∃ debits credits, Money.sum [first.debitAmount, second.debitAmount] = .ok debits ∧
      Money.sum [first.creditAmount, second.creditAmount] = .ok credits ∧
      debits.units = credits.units) ∧
    (t = { id := id, debit := first, credit := second } ∨
      t = { id := id, debit := second, credit := first }) ∧ t.Matched := by
  unfold new at h
  simp only [Outcome.gives_bind, Outcome.gives_lift, Outcome.gives_guard_throw] at h
  obtain ⟨debits, hdebits, credits, hcredits, hsame, h⟩ := h
  refine ⟨⟨debits, credits, hdebits, hcredits, Money.sameValue_iff.1 (by simpa using hsame)⟩, ?_⟩
  cases hfirst : first.side <;> cases hsecond : second.side <;>
    simp only [hfirst, hsecond, pure_bind, Outcome.gives_guard_refuse, Outcome.gives_bind,
      Outcome.not_gives_refuse, Outcome.gives_pure, not_not, not_or] at h
  -- two entries of one side are turned down, and the other two orders come to the same
  · exact absurd h (by simp)
  · obtain ⟨htenant, haccount, ⟨hsource, hreference⟩, hledger, rfl⟩ := h
    exact ⟨.inl rfl, hfirst, hsecond, htenant, haccount, hsource, hreference, hledger⟩
  · obtain ⟨htenant, haccount, ⟨hsource, hreference⟩, hledger, rfl⟩ := h
    exact ⟨.inr rfl, hsecond, hfirst, htenant, haccount, hsource, hreference, hledger⟩
  · exact absurd h (by simp)

/-- The sum of two amounts of entries is exact. -/
theorem exists_sum_pair {a b : Money} (ha : a.units.natAbs ≤ maxEntryUnits)
    (hb : b.units.natAbs ≤ maxEntryUnits) :
    ∃ c, Money.sum [a, b] = .ok c ∧ c.units = a.units + b.units := by
  have hroom : Money.grossUnits [a, b] < Decimal.mantissaBound := by
    have htwo : maxEntryUnits + maxEntryUnits < Decimal.mantissaBound := by decide
    simp only [Money.grossUnits, List.map_cons, List.map_nil, List.sum_cons, List.sum_nil]
    omega
  obtain ⟨c, hc, hunits⟩ := Money.sum_exact hroom
  exact ⟨c, hc, by simpa using hunits⟩

theorem sum_pair {a b c : Money} (ha : a.units.natAbs ≤ maxEntryUnits)
    (hb : b.units.natAbs ≤ maxEntryUnits) (h : Money.sum [a, b] = .ok c) :
    c.units = a.units + b.units := by
  obtain ⟨c', hc', hunits⟩ := exists_sum_pair ha hb
  obtain rfl : c' = c := Except.ok.inj (hc'.symm.trans h)
  exact hunits

/-- Putting built entries together stays in range. -/
theorem inRange_new (hfirst : first.Built) (hsecond : second.Built) :
    (new id first second).InRange := by
  obtain ⟨debits, hdebits, -⟩ := exists_sum_pair hfirst.natAbs_debit_le hsecond.natAbs_debit_le
  obtain ⟨credits, hcredits, -⟩ :=
    exists_sum_pair hfirst.natAbs_credit_le hsecond.natAbs_credit_le
  refine Outcome.inRange_lift_bind hdebits (Outcome.inRange_lift_bind hcredits ?_)
  refine Outcome.inRange_guard_throw ?_
  split
  all_goals
    refine Outcome.inRange_bind ?_ fun _ _ => Outcome.inRange_guard_refuse
      (Outcome.inRange_guard_refuse (Outcome.inRange_guard_refuse
        (Outcome.inRange_guard_refuse Outcome.inRange_pure)))
  · exact Outcome.inRange_pure
  · exact Outcome.inRange_pure
  · exact Outcome.inRange_refuse

/-- **A transaction of built entries is a double entry** under two identifiers. -/
theorem Built.doubleEntry (h : t.Built) :
    DoubleEntry t.debit t.credit ∧ t.debit.id ≠ t.credit.id := by
  obtain ⟨id, first, second, hfirst, hsecond, hids, hnew⟩ := h
  obtain ⟨⟨debits, credits, hdebits, hcredits, hsame⟩, ht, hmatched⟩ := new_gives hnew
  have hsums : first.debitAmount.units + second.debitAmount.units =
      first.creditAmount.units + second.creditAmount.units := by
    rw [← sum_pair hfirst.natAbs_debit_le hsecond.natAbs_debit_le hdebits,
      ← sum_pair hfirst.natAbs_credit_le hsecond.natAbs_credit_le hcredits, hsame]
  -- which of the two came first does not matter
  have hsides : t.debit.Built ∧ t.credit.Built ∧ t.debit.id ≠ t.credit.id ∧
      t.debit.debitAmount.units + t.credit.debitAmount.units =
        t.debit.creditAmount.units + t.credit.creditAmount.units := by
    rcases ht with rfl | rfl
    · exact ⟨hfirst, hsecond, hids, hsums⟩
    · exact ⟨hsecond, hfirst, hids.symm, by rw [Int.add_comm, hsums, Int.add_comm]⟩
  obtain ⟨hdebit, hcredit, hne, hbalance⟩ := hsides
  have hcreditSide := hmatched.credit_side
  rcases hdebit.oneSided with ⟨-, hpos, hle, hdebitOnly⟩ | ⟨hside, -⟩
  · rcases hcredit.oneSided with ⟨hside, -⟩ | ⟨-, -, -, hcreditOnly⟩
    · rw [hside] at hcreditSide
      cases hcreditSide
    · refine ⟨⟨hpos, hle, hdebitOnly, hcreditOnly, ?_, hmatched.tenant, hmatched.account,
        hmatched.sourceType, hmatched.reference, hmatched.ledgerAccount⟩, hne⟩
      omega
  · have hdebitSide := hmatched.debit_side
    rw [hside] at hdebitSide
    cases hdebitSide

/-- **A double entry can be put together**, the debit first. -/
theorem new_of_doubleEntry {debit credit : LedgerEntry} (h : DoubleEntry debit credit) :
    (new id debit credit).Gives { id := id, debit := debit, credit := credit } := by
  obtain ⟨hdebit, hcredit⟩ := h.sides
  have hpos := h.debit_pos
  have hle := h.debit_le
  have hequal := h.equal
  have hdebitOnly := h.debit_only
  have hcreditOnly := h.credit_only
  obtain ⟨debits, hdebits, hdebitUnits⟩ := exists_sum_pair (a := debit.debitAmount)
    (b := credit.debitAmount) (by omega) (by omega)
  obtain ⟨credits, hcredits, hcreditUnits⟩ := exists_sum_pair (a := debit.creditAmount)
    (b := credit.creditAmount) (by omega) (by omega)
  have hsame : debits.sameValue credits = true := by
    rw [Money.sameValue_iff]
    omega
  unfold new
  simp only [Outcome.gives_bind, Outcome.gives_lift, Outcome.gives_guard_throw]
  refine ⟨debits, hdebits, credits, hcredits, by simp [hsame], ?_⟩
  simp [hdebit, hcredit, h.tenant, h.account, h.sourceType, h.reference, h.ledgerAccount]

/-- **A posting under two identifiers is built.** -/
theorem built_of_post {ids : TransactionIds} {debited credited : LedgerAccount} {amount : Money}
    {source : EntrySource} (hids : ids.debit ≠ ids.credit)
    (h : (post ids debited credited amount source).Gives t) : t.Built := by
  obtain ⟨debit, hdebit, h⟩ := Outcome.gives_bind.1 h
  obtain ⟨credit, hcredit, hnew⟩ := Outcome.gives_bind.1 h
  rw [Outcome.gives_ofExcept] at hdebit hcredit
  refine ⟨_, debit, credit, ⟨_, _, _, _, _, hdebit⟩, ⟨_, _, _, _, _, hcredit⟩, ?_, hnew⟩
  rwa [(LedgerEntry.postedAs hdebit).id, (LedgerEntry.postedAs hcredit).id]

/-- **A posting stays in range**, whatever its amount. -/
theorem inRange_post {ids : TransactionIds} {debited credited : LedgerAccount} {amount : Money}
    {source : EntrySource} : (post ids debited credited amount source).InRange := by
  refine Outcome.inRange_bind Outcome.inRange_ofExcept fun debit hdebit => ?_
  refine Outcome.inRange_bind Outcome.inRange_ofExcept fun credit hcredit => ?_
  rw [Outcome.gives_ofExcept] at hdebit hcredit
  exact inRange_new ⟨_, _, _, _, _, hdebit⟩ ⟨_, _, _, _, _, hcredit⟩

/-- **The entries of a posting are the debit and the credit that it was made of.** -/
theorem postedAs {ids : TransactionIds} {debited credited : LedgerAccount} {amount : Money}
    {source : EntrySource} (h : (post ids debited credited amount source).Gives t) :
    t.debit.PostedAs .debit ids.debit debited source ∧
      t.credit.PostedAs .credit ids.credit credited source := by
  obtain ⟨debit, hdebit, h⟩ := Outcome.gives_bind.1 h
  obtain ⟨credit, hcredit, hnew⟩ := Outcome.gives_bind.1 h
  rw [Outcome.gives_ofExcept] at hdebit hcredit
  have hdebited := LedgerEntry.postedAs hdebit
  have hcredited := LedgerEntry.postedAs hcredit
  obtain ⟨-, rfl | rfl, hmatched⟩ := new_gives hnew
  · exact ⟨hdebited, hcredited⟩
  · -- the credit is not put in the place of the debit
    have hwrong : credit.side = .debit := hmatched.debit_side
    rw [hcredited.side] at hwrong
    cases hwrong

end LedgerTransaction

/-! ## The journal of a store -/

namespace MemoryStore

variable {s s' : MemoryStore}

/-- The entries of a transaction as the store files them. -/
def filedPair (t : LedgerTransaction) : List (EntryId × LedgerEntry) :=
  [(t.debit.id, t.debit), (t.credit.id, t.credit)]

/-- A journal of a store: double entries, in the order of the keys and of the entries. -/
structure IsJournal (journal : List LedgerTransaction) (s : MemoryStore) : Prop where
  double : ∀ t ∈ journal, DoubleEntry t.debit t.credit
  keys : s.keys = journal.map fun t => (t.tenant, t.key)
  entries : s.entries.items = journal.flatMap filedPair

/-- A store with a journal. -/
def Journaled (s : MemoryStore) : Prop := ∃ journal, IsJournal journal s

theorem journaled_empty : empty.Journaled := ⟨[], by simp, rfl, rfl⟩

/-- Writes elsewhere leave the journal as it is. -/
theorem IsJournal.of_eq {journal : List LedgerTransaction} (h : IsJournal journal s)
    (hkeys : s'.keys = s.keys) (hentries : s'.entries = s.entries) : IsJournal journal s' :=
  ⟨h.double, hkeys.trans h.keys, (congrArg WriteOnce.items hentries).trans h.entries⟩

/-- A posted transaction is the next one in the journal. -/
theorem IsJournal.posted {journal : List LedgerTransaction} {ctx : RequestContext}
    {t : LedgerTransaction} {event : EventId} (h : IsJournal journal s)
    (ht : DoubleEntry t.debit t.credit) (htenant : t.tenant = ctx.tenant) :
    IsJournal (journal ++ [t]) (s.posted ctx t event) where
  double t' ht' := by
    rcases List.mem_append.1 ht' with ht' | ht'
    · exact h.double t' ht'
    · rw [List.mem_singleton.1 ht']
      exact ht
  keys := by simp [MemoryStore.posted, h.keys, htenant]
  entries := by simp [MemoryStore.posted, h.entries, filedPair]

/-- The bookkeeping of journals: posting built transactions keeps a journal. -/
def journalKeeping : Bookkeeping where
  postable := LedgerTransaction.Built
  holds := Journaled
  posts _ := LedgerTransaction.built_of_post
  kept := by
    rintro cancelled s request s' - ⟨journal, hjournal⟩ hsound hcommit
    cases hcommit with
    | posted hadmits hdistinct =>
      exact ⟨_, hjournal.posted (LedgerTransaction.Built.doubleEntry hsound).1 hadmits.tenant⟩
    | halfPosted hadmits hsame =>
      exact absurd hsame (LedgerTransaction.Built.doubleEntry hsound).2
    | _ => exact ⟨journal, hjournal.of_eq rfl rfl⟩

/-- **Every reachable store has a journal.** -/
theorem Reachable.journaled (h : s.Reachable LedgerTransaction.Built) : s.Filed ∧ s.Journaled :=
  h.books journalKeeping journaled_empty

/-! ## What the journal says -/

/-- The event that an entry belongs to. -/
def eventOf (e : LedgerEntry) : TenantId × TransactionKey :=
  (e.tenant, { account := e.account, sourceType := e.sourceType, reference := e.reference })

/-- The stored entries of an event. -/
def recorded (event : TenantId × TransactionKey) (s : MemoryStore) : List LedgerEntry :=
  s.entries.values.filter fun e => eventOf e = event

/-- Both entries of a double entry belong to the event of the transaction. -/
theorem eventOf_of_doubleEntry {t : LedgerTransaction} (h : DoubleEntry t.debit t.credit) :
    ∀ e ∈ t.entries, eventOf e = (t.tenant, t.key) := by
  intro e he
  rcases List.mem_pair.1 he with rfl | rfl
  · rfl
  · simp [eventOf, LedgerTransaction.tenant, LedgerTransaction.key, LedgerTransaction.account,
      LedgerTransaction.sourceType, LedgerTransaction.reference, h.tenant, h.account,
      h.sourceType, h.reference]

variable {journal : List LedgerTransaction}

/-- The entries of a store are those of its journal. -/
theorem IsJournal.values (h : IsJournal journal s) :
    s.entries.values = journal.flatMap (·.entries) := by
  rw [WriteOnce.values, h.entries, List.map_flatMap]
  rfl

/-- Among the entries of transactions of different events, those of one event are the two entries
of its transaction. -/
theorem filter_eventOf {t : LedgerTransaction}
    (hdouble : ∀ t ∈ journal, DoubleEntry t.debit t.credit)
    (hnodup : (journal.map fun t => (t.tenant, t.key)).Nodup) (ht : t ∈ journal) :
    (journal.flatMap (·.entries)).filter (fun e => eventOf e = (t.tenant, t.key)) =
      t.entries := by
  induction journal with
  | nil => cases ht
  | cons t' rest ih =>
    obtain ⟨hfirst, hrest⟩ := List.nodup_cons.1 hnodup
    have hrestDouble : ∀ t ∈ rest, DoubleEntry t.debit t.credit :=
      fun t ht => hdouble t (List.mem_cons_of_mem _ ht)
    have hpair := eventOf_of_doubleEntry (hdouble t' (List.mem_cons_self ..))
    rw [List.flatMap_cons, List.filter_append]
    rcases List.mem_cons.1 ht with rfl | ht
    · -- the first transaction: its own entries stay, and no later one has its event
      have hown : t.entries.filter (fun e => eventOf e = (t.tenant, t.key)) = t.entries :=
        List.filter_eq_self.2 fun e he => by simpa using hpair e he
      have hothers : (rest.flatMap (·.entries)).filter
          (fun e => eventOf e = (t.tenant, t.key)) = [] := by
        refine List.filter_eq_nil_iff.2 fun e he => ?_
        obtain ⟨t'', ht'', he⟩ := List.mem_flatMap.1 he
        have hevent := eventOf_of_doubleEntry (hrestDouble t'' ht'') e he
        rw [decide_eq_true_eq, hevent]
        exact fun heq => hfirst (List.mem_map.2 ⟨t'', ht'', heq⟩)
      rw [hown, hothers, List.append_nil]
    · -- a later one: the first has another event
      have hnone : t'.entries.filter (fun e => eventOf e = (t.tenant, t.key)) = [] := by
        refine List.filter_eq_nil_iff.2 fun e he => ?_
        rw [decide_eq_true_eq, hpair e he]
        exact fun heq => hfirst (List.mem_map.2 ⟨t, ht, heq.symm⟩)
      rw [hnone, List.nil_append, ih hrestDouble hrest ht]

/-- **A recorded event has two entries, a debit and a credit that match.** -/
theorem IsJournal.recorded (h : IsJournal journal s) (hfiled : s.Filed)
    {event : TenantId × TransactionKey} (hevent : event ∈ s.keys) :
    ∃ debit credit, s.recorded event = [debit, credit] ∧ DoubleEntry debit credit := by
  rw [h.keys] at hevent
  obtain ⟨t, ht, rfl⟩ := List.mem_map.1 hevent
  refine ⟨t.debit, t.credit, ?_, h.double t ht⟩
  rw [MemoryStore.recorded, h.values]
  exact filter_eventOf h.double (h.keys ▸ hfiled.keys_nodup) ht

/-- **An entry belongs to one recorded event.** -/
theorem IsJournal.existsUnique_event (h : IsJournal journal s) {e : LedgerEntry}
    (he : e ∈ s.entries.values) : ∃! event, event ∈ s.keys ∧ e ∈ s.recorded event := by
  have hmem := he
  rw [h.values] at hmem
  obtain ⟨t, ht, het⟩ := List.mem_flatMap.1 hmem
  have hevent := eventOf_of_doubleEntry (h.double t ht) e het
  refine ⟨eventOf e, ⟨?_, List.mem_filter.2 ⟨he, by simp⟩⟩, ?_⟩
  · rw [hevent, h.keys]
    exact List.mem_map.2 ⟨t, ht, rfl⟩
  · rintro event ⟨-, hrecorded⟩
    exact (of_decide_eq_true (List.mem_filter.1 hrecorded).2).symm

end MemoryStore

end RideLedger
