import Mathlib.Algebra.BigOperators.Group.List.Basic
import RideLedger.Proofs.Alone
import RideLedger.Proofs.History
import RideLedger.Proofs.Isolation
import RideLedger.Proofs.Pages

/-!
# Statements — exact, without gaps, and one after another

A statement takes its opening balance from one scan of the account's entries and its lines from
another one. The two scans part the entries up to the end of the range between them, so that the
closing balance, which runs on from the opening one over all lines, is the balance at that end
(`MemoryStore.movement_upTo`). With room for the tenant's entries every balance on the way is exact
(`Statement.run_exact`). A page is a slice of the lines, and the pages together are all of them
(`Page.flatMap_items`), as long as their number can be counted: a ledger within its capacity has
fewer receivable entries than a statement can have pages, since each of its transactions has one at
most (`MemoryStore.IsJournal.receivables_le`).

Everything together is `Ledger.statementsFit_of_reachable`.
-/

namespace RideLedger

open Money (totalUnits grossUnits)

variable {α : Type}

/-! ## Pages -/

namespace Page

variable {items : List α} {perPage : UInt32}

/-- The number of pages is that of any other page of the size. -/
theorem totalPages_eq (page page' : UInt32) :
    (ofAll items ⟨page, perPage⟩).totalPages = (ofAll items ⟨page', perPage⟩).totalPages := rfl

/-- **The pages of a size, one after another, are all items.** -/
theorem flatMap_items (h : items.length < 2 ^ 32) (page : UInt32) :
    ((List.range (ofAll items ⟨page, perPage⟩).totalPages).flatMap fun k =>
      (ofAll items ⟨.ofNat (k + 1), perPage⟩).items) = items := by
  have hpages := (PageRequest.partitions h ⟨page, perPage⟩).whole
  rw [List.range'_eq_map_range, List.flatMap_map] at hpages
  simp only [Nat.add_comm 1] at hpages
  exact hpages

end Page

/-! ## Running balances -/

/-- The line of an entry says what the entry says. -/
structure StatementLine.Shows (l : StatementLine) (e : LedgerEntry) : Prop where
  entry : l.entry = e.id
  postedAt : l.postedAt = e.createdAt
  sourceType : l.sourceType = e.sourceType
  reference : l.reference = e.reference
  description : l.description = e.description
  debit : l.debit = e.debitAmount
  credit : l.credit = e.creditAmount

theorem StatementLine.shows_ofEntry (e : LedgerEntry) (running : Money) :
    (ofEntry e running).Shows e :=
  ⟨rfl, rfl, rfl, rfl, rfl, rfl, rfl⟩

namespace Statement

variable {opening closing balance : Money} {entries : List LedgerEntry}
  {lines : List StatementLine} {account : AccountId} {range : StatementRange}

/-- The lines of entries: each entry has its line in turn, and its running balance is the opening
balance with all that the entries up to it add. The last one is the closing balance. -/
structure RunsOn (opening closing : Money) (entries : List LedgerEntry)
    (lines : List StatementLine) : Prop where
  lined : List.Forall₂ (fun e l => l.Shows e) entries lines
  running : ∀ k l, lines[k]? = some l → l.running.units =
    opening.units + totalUnits ((entries.take (k + 1)).map (·.receivableDelta))
  last : (lines.getLast?.map (·.running)).getD opening = closing

/-- The line of a first entry comes before the lines that run on from its balance. -/
theorem RunsOn.cons {e : LedgerEntry} (h : RunsOn balance closing entries lines)
    (hbalance : balance.units = opening.units + e.receivableDelta.units) :
    RunsOn opening closing (e :: entries) (.ofEntry e balance :: lines) where
  lined := .cons (StatementLine.shows_ofEntry e balance) h.lined
  running k l hl := by
    cases k with
    | zero =>
      obtain rfl : StatementLine.ofEntry e balance = l := by simpa using hl
      have hfirst : (StatementLine.ofEntry e balance).running = balance := rfl
      simpa [hfirst] using hbalance
    | succ k =>
      rw [h.running k l (by simpa using hl), hbalance, List.take_succ_cons, List.map_cons,
        Money.totalUnits_cons, Int.add_assoc]
  last := by
    rw [← h.last, List.getLast?_cons]
    cases lines.getLast? <;> rfl

/-- What lines say, in turn, is what the entries say. -/
theorem RunsOn.map_eq {said : StatementLine → α} {meant : LedgerEntry → α}
    (h : RunsOn opening closing entries lines) (hsame : ∀ e l, l.Shows e → said l = meant e) :
    lines.map said = entries.map meant := by
  obtain ⟨hlined, -, -⟩ := h
  induction hlined with
  | nil => rfl
  | cons hshows _ ih => rw [List.map_cons, List.map_cons, hsame _ _ hshows, ih]

/-- The closing balance is the opening one with all that the entries add. -/
theorem RunsOn.total (h : RunsOn opening closing entries lines) :
    closing.units = opening.units + totalUnits (entries.map (·.receivableDelta)) := by
  have hlength := h.lined.length_eq
  rw [← h.last]
  cases hlast : lines.getLast? with
  | none =>
    rw [List.getLast?_eq_none_iff.1 hlast, List.length_nil, List.length_eq_zero_iff] at hlength
    simp [hlength]
  | some l =>
    rw [List.getLast?_eq_getElem?] at hlast
    have hpos : 0 < lines.length := by
      by_contra hpos
      rw [List.getElem?_eq_none (by omega)] at hlast
      cases hlast
    rw [Option.map_some, Option.getD_some, h.running _ _ hlast, Nat.sub_add_cancel hpos,
      ← hlength, List.take_length]

/-- **Every running balance is exact** if there is room for the opening balance and the entries:
by induction on the entries, which leaves room for the rest after each of them. -/
theorem run_exact (h : opening.units.natAbs + grossUnits (entries.map (·.receivableDelta)) <
    Decimal.mantissaBound) :
    ∃ lines closing, run opening entries = .ok (lines, closing) ∧
      RunsOn opening closing entries lines := by
  induction entries generalizing opening with
  | nil => exact ⟨[], opening, rfl, .nil, by simp, rfl⟩
  | cons e rest ih =>
    rw [List.map_cons, Money.grossUnits_cons] at h
    obtain ⟨balance, hadd, hbalance⟩ :=
      Money.add_exact (a := opening) (b := e.receivableDelta) (by omega)
    have hrest : balance.units.natAbs + grossUnits (rest.map (·.receivableDelta)) <
        Decimal.mantissaBound := by omega
    obtain ⟨lines, closing, hrun, hruns⟩ := ih hrest
    refine ⟨.ofEntry e balance :: lines, closing, ?_, hruns.cons hbalance⟩
    rw [run, hadd, ok_bind, hrun]
    rfl

/-- A statement of entries that belong on it. -/
theorem build_gives (hbelongs : ∀ e ∈ entries, belongs account range e = true)
    (hrun : run opening (LedgerEntry.sortByTime entries) = .ok (lines, closing))
    (page : PageRequest) :
    (build account range opening entries page).Gives
      { account := account, range := range, opening := opening, closing := closing
        lines := .ofAll lines page } := by
  have hstray : entries.find? (!belongs account range ·) = none :=
    List.find?_eq_none.2 fun e he => by simp [hbelongs e he]
  unfold build
  simp only [hstray, Outcome.gives_bind, Outcome.gives_lift]
  exact ⟨_, hrun, rfl⟩

end Statement

/-! ## The two scans -/

/-- Entries in the order of statements: by time, and at one time by identifier. -/
def LedgerEntry.Before (a b : LedgerEntry) : Prop :=
  (compare a.createdAt b.createdAt).then (compare a.id b.id) = .lt

namespace MemoryStore

variable {s : MemoryStore} {ctx : RequestContext} {account : AccountId} {start finish : Instant}

/-- The entries that the second scan selects, in another order. -/
theorem receivableEntries_perm {range : StatementRange} :
    (s.receivableEntries ctx account range).Perm ((s.accountEntries ctx.tenant account).filter
      fun e => e.ledgerAccount = .accountsReceivable && range.contains e.createdAt) :=
  List.mergeSort_perm ..

theorem mem_receivableEntries {e : LedgerEntry} :
    e ∈ s.receivableEntries ctx account ⟨start, finish⟩ ↔
      e ∈ s.accountEntries ctx.tenant account ∧ e.ledgerAccount = .accountsReceivable ∧
        start ≤ e.createdAt ∧ e.createdAt ≤ finish := by
  rw [receivableEntries_perm.mem_iff]
  simp only [List.mem_filter, StatementRange.contains, Bool.and_eq_true, decide_eq_true_eq]

/-- The entries of a range are sorted. -/
theorem sorted_receivableEntries (range : StatementRange) :
    (s.receivableEntries ctx account range).Pairwise fun a b => a.timeLe b = true :=
  List.pairwise_mergeSort ordersBy_timeLe.trans ordersBy_timeLe.total _

/-- **The entries of a range come in strictly ascending order**: no two of them have one
identifier. -/
theorem Filed.ascending (h : s.Filed) (range : StatementRange) :
    (s.receivableEntries ctx account range).Pairwise LedgerEntry.Before := by
  refine OrdersBy.mergeSort_strict
    (compareLex (compareOn LedgerEntry.createdAt) (compareOn LedgerEntry.id))
    (fun _ _ => OrdersBy.key_eq_of_compareLex) ?_
  exact nodup_filter_key (nodup_filter_key (nodup_filter_key h.ids_nodup _) _) _

/-- What an account's entries of some instants add to its balance, in ten-thousandths. -/
def movement (s : MemoryStore) (tenant : TenantId) (account : AccountId)
    (during : Instant → Prop) [DecidablePred during] : Int :=
  totalUnits (((s.accountEntries tenant account).filter fun e => during e.createdAt).map
    (·.receivableDelta))

/-- **The two scans part the entries up to the end of the range between them.** -/
theorem movement_upTo (hle : start ≤ finish) :
    s.movement ctx.tenant account (· < start) +
        totalUnits ((s.receivableEntries ctx account ⟨start, finish⟩).map (·.receivableDelta)) =
      s.movement ctx.tenant account (· ≤ finish) := by
  rw [Money.totalUnits_perm (receivableEntries_perm.map _), movement, movement,
    Money.totalUnits_filter, Money.totalUnits_filter, Money.totalUnits_filter, ← List.sum_map_add]
  congr 1
  refine List.map_congr_left fun e _ => ?_
  have hle : start.rank ≤ finish.rank := hle
  by_cases hreceivable : e.ledgerAccount = .accountsReceivable
  · by_cases hbefore : e.createdAt < start
    · -- the entry counts in the opening balance, and does not lie in the range
      have hrank : e.createdAt.rank < start.rank := hbefore
      have hnot : ¬start ≤ e.createdAt := Int.not_le.2 hrank
      have hupTo : e.createdAt ≤ finish := Int.le_trans (Int.le_of_lt hrank) hle
      simp [StatementRange.contains, hbefore, hnot, hupTo]
    · have hfrom : start ≤ e.createdAt := Int.not_lt.1 hbefore
      simp [StatementRange.contains, hbefore, hfrom, hreceivable]
  · -- what is not receivable adds nothing
    have hnothing : e.receivableDelta = Money.zero := if_pos hreceivable
    simp [hnothing]

/-- No entry is in both scans, so both together have no larger a size than all entries. -/
theorem grossUnits_scans_le (s : MemoryStore) (ctx : RequestContext) (account : AccountId)
    (start finish : Instant) :
    grossUnits (((s.accountEntries ctx.tenant account).filter (·.createdAt < start)).map
        (·.receivableDelta)) +
      grossUnits ((s.receivableEntries ctx account ⟨start, finish⟩).map (·.receivableDelta)) ≤
    grossUnits ((s.accountEntries ctx.tenant account).map (·.receivableDelta)) := by
  have hrest : ((s.accountEntries ctx.tenant account).filter fun e =>
      e.ledgerAccount = .accountsReceivable &&
        StatementRange.contains ⟨start, finish⟩ e.createdAt).Sublist
      ((s.accountEntries ctx.tenant account).filter fun e => !decide (e.createdAt < start)) := by
    refine List.monotone_filter_right _ fun e he => ?_
    simp only [StatementRange.contains, Bool.and_eq_true, decide_eq_true_eq] at he
    have hnot : ¬e.createdAt < start := Int.not_lt.2 he.2.1
    simp [hnot]
  have hle := Money.grossUnits_le_of_sublist (hrest.map (·.receivableDelta))
  rw [← Money.grossUnits_perm (receivableEntries_perm.map _)] at hle
  have hall := Money.grossUnits_perm ((List.filter_append_perm
    (fun e : LedgerEntry => decide (e.createdAt < start))
    (s.accountEntries ctx.tenant account)).map (·.receivableDelta))
  rw [List.map_append, Money.grossUnits_append] at hall
  omega

/-- The opening balance is exact. -/
theorem exists_opening (hroom : Roomy (s.tenantEntries ctx.tenant)) (account : AccountId)
    (start : Instant) :
    ∃ opening, s.receivableBalance ctx account (some start) = .ok opening ∧
      opening.units = s.movement ctx.tenant account (· < start) := by
  have hsome : ((s.accountEntries ctx.tenant account).filter
      (·.createdAt < start)).Sublist (s.tenantEntries ctx.tenant) :=
    List.filter_sublist.trans List.filter_sublist
  obtain ⟨opening, hsum, hunits⟩ := (hroom.of_sublist hsome).receivable
  exact ⟨opening, hsum, hunits⟩

/-- **The lines of a statement are exact**, and lead from the opening balance to that at the end of
the range. -/
theorem exists_lines (hroom : Roomy (s.tenantEntries ctx.tenant)) (hle : start ≤ finish)
    {opening : Money} (hopening : opening.units = s.movement ctx.tenant account (· < start)) :
    ∃ lines closing,
      Statement.run opening (s.receivableEntries ctx account ⟨start, finish⟩) =
        .ok (lines, closing) ∧
      Statement.RunsOn opening closing (s.receivableEntries ctx account ⟨start, finish⟩) lines ∧
      closing.units = s.movement ctx.tenant account (· ≤ finish) := by
  have hroom : Roomy (s.accountEntries ctx.tenant account) := hroom.of_sublist List.filter_sublist
  have hscans : opening.units.natAbs + grossUnits
      ((s.receivableEntries ctx account ⟨start, finish⟩).map (·.receivableDelta)) <
        Decimal.mantissaBound := by
    have hbefore : opening.units.natAbs ≤
        grossUnits (((s.accountEntries ctx.tenant account).filter (·.createdAt < start)).map
          (·.receivableDelta)) := by
      rw [hopening]
      exact Money.natAbs_totalUnits_le
    have hboth := grossUnits_scans_le s ctx account start finish
    have hdeltas := grossUnits_receivableDelta_le (s.accountEntries ctx.tenant account)
    have hbound := hroom.both
    omega
  obtain ⟨lines, closing, hrun, hruns⟩ := Statement.run_exact hscans
  refine ⟨lines, closing, hrun, hruns, ?_⟩
  rw [hruns.total, hopening, movement_upTo hle]

/-! ## How many lines there are -/

/-- At most one entry of a transaction is receivable: its two entries are on different ledger
accounts. -/
theorem length_receivables_le {journal : List LedgerTransaction}
    (hdouble : ∀ t ∈ journal, DoubleEntry t.debit t.credit) :
    ((journal.flatMap (·.entries)).filter (·.ledgerAccount = .accountsReceivable)).length ≤
      journal.length := by
  induction journal with
  | nil => exact Nat.le_refl 0
  | cons t rest ih =>
    have hrest := ih fun t' ht' => hdouble t' (List.mem_cons_of_mem _ ht')
    have hone : (t.entries.filter (·.ledgerAccount = .accountsReceivable)).length ≤ 1 := by
      have hne := (hdouble t (List.mem_cons_self ..)).ledgerAccount
      by_cases hdebit : t.debit.ledgerAccount = .accountsReceivable
      · have hcredit : t.credit.ledgerAccount ≠ .accountsReceivable := hdebit ▸ hne.symm
        simp [LedgerTransaction.entries, hdebit, hcredit]
      · by_cases hcredit : t.credit.ledgerAccount = .accountsReceivable <;>
          simp [LedgerTransaction.entries, hdebit, hcredit]
    rw [List.flatMap_cons, List.filter_append, List.length_append, List.length_cons]
    omega

/-- **A store with a journal has at most half as many receivable entries as entries.** -/
theorem IsJournal.receivables_le {journal : List LedgerTransaction} (h : IsJournal journal s) :
    2 * (s.entries.values.filter (·.ledgerAccount = .accountsReceivable)).length ≤
      s.entries.size := by
  have hsize : s.entries.size = 2 * journal.length := by
    rw [WriteOnce.size, h.entries, List.length_flatMap]
    simp [filedPair, Nat.mul_comm]
  have hle := length_receivables_le h.double
  rw [← h.values] at hle
  omega

/-- A statement has no more lines than the store has receivable entries. -/
theorem length_receivableEntries_le {range : StatementRange} :
    (s.receivableEntries ctx account range).length ≤
      (s.entries.values.filter (·.ledgerAccount = .accountsReceivable)).length := by
  have hselected : ((s.accountEntries ctx.tenant account).filter fun e =>
      e.ledgerAccount = .accountsReceivable && range.contains e.createdAt).Sublist
      (s.entries.values.filter (·.ledgerAccount = .accountsReceivable)) := by
    refine (List.monotone_filter_right _ fun e he => ?_).trans
      ((List.filter_sublist.trans List.filter_sublist).filter _)
    exact (Bool.and_eq_true_iff.1 he).1
  rw [receivableEntries_perm.length_eq]
  exact hselected.length_le

end MemoryStore

/-! ## The statement of a service -/

namespace Ledger

variable {w : Quiet} {ctx : RequestContext} {account : AccountId} {start finish : Instant}

/-- A statement comes out page by page, once its two scans are known. -/
theorem runs_statement {opening closing : Money} {lines : List StatementLine} {a : Account}
    (ha : w.store.account? ctx.tenant account = some a) (hle : start ≤ finish)
    (hopening : w.store.receivableBalance ctx account (some start) = .ok opening)
    (hrun : Statement.run opening (w.store.receivableEntries ctx account ⟨start, finish⟩) =
      .ok (lines, closing)) (page : PageRequest) :
    Runs (statement ctx account start finish page) w
      (.ok { account := account, range := ⟨start, finish⟩, opening := opening, closing := closing
             lines := .ofAll lines page }) w := by
  have hrange : StatementRange.new start finish = .ok ⟨start, finish⟩ := if_pos hle
  have hbalance : w.store.serve false (.receivableBalance ctx account (some start)) =
      .ok (.ok opening, w.store) := by
    rw [MemoryStore.serve, hopening]
    rfl
  have hentries : w.store.serve false (.receivableEntries ctx account ⟨start, finish⟩) =
      .ok (.ok (w.store.receivableEntries ctx account ⟨start, finish⟩), w.store) := rfl
  have hsorted : LedgerEntry.sortByTime (w.store.receivableEntries ctx account ⟨start, finish⟩) =
      w.store.receivableEntries ctx account ⟨start, finish⟩ :=
    List.mergeSort_of_pairwise (MemoryStore.sorted_receivableEntries _)
  have hbelongs : ∀ e ∈ w.store.receivableEntries ctx account ⟨start, finish⟩,
      Statement.belongs account ⟨start, finish⟩ e = true := by
    intro e he
    obtain ⟨hown, hreceivable, hfrom, hupTo⟩ := MemoryStore.mem_receivableEntries.1 he
    have haccount := of_decide_eq_true (List.mem_filter.1 hown).2
    simp [Statement.belongs, StatementRange.contains, haccount, hreceivable, hfrom, hupTo]
  have hbuild := Statement.build_gives hbelongs (hsorted.symm ▸ hrun) page
  refine runs_bind (runs_ofOutcome (r := .ok ⟨start, finish⟩) (by rw [hrange]; rfl)) ?_
  refine runs_bind (runs_get ha) ?_
  refine runs_bind (runs_demand hbalance) ?_
  exact runs_bind (runs_demand hentries) (runs_ofOutcome hbuild)

/-- A statement of a range that ends before it starts is refused, whatever the account. -/
theorem runs_statement_backwards (hlt : finish < start) (page : PageRequest) :
    Runs (statement ctx account start finish page) w
      (.error (.validation (.period (.invalidPeriod start.offsetText finish.offsetText)))) w := by
  have hrange : StatementRange.new start finish =
      .error (.invalidPeriod start.offsetText finish.offsetText) :=
    if_neg (Int.not_le.2 hlt)
  exact runs_bind_error (runs_ofOutcome (by rw [hrange]; rfl))

/-- The statements of an account for a range, one for each page that is asked for, with the entries
that they list and all their lines. -/
structure Issued (w : Quiet) (ctx : RequestContext) (account : AccountId) (start finish : Instant)
    (shown : PageRequest → Statement) (opening closing : Money) (entries : List LedgerEntry)
    (lines : List StatementLine) : Prop where
  runs : ∀ page, Runs (statement ctx account start finish page) w (.ok (shown page)) w
  /-- Every page is headed by the account and the range. -/
  heading : ∀ page, (shown page).account = account ∧ (shown page).range = ⟨start, finish⟩
  /-- Every page shows the same two balances. -/
  balances : ∀ page, (shown page).opening = opening ∧ (shown page).closing = closing
  opening_exact : opening.units = w.store.movement ctx.tenant account (· < start)
  closing_exact : closing.units = w.store.movement ctx.tenant account (· ≤ finish)
  listed : ∀ e, e ∈ entries ↔ e ∈ w.store.accountEntries ctx.tenant account ∧
    e.ledgerAccount = .accountsReceivable ∧ start ≤ e.createdAt ∧ e.createdAt ≤ finish
  /-- Strictly, so no entry is listed twice. -/
  ascending : entries.Pairwise LedgerEntry.Before
  runsOn : Statement.RunsOn opening closing entries lines
  /-- The lines are those of the entries, in their order. -/
  ids : lines.map (·.entry) = entries.map (·.id)
  instants : lines.map (·.postedAt) = entries.map (·.createdAt)
  amounts : lines.map (fun l => (l.debit, l.credit)) =
    entries.map fun e => (e.debitAmount, e.creditAmount)
  /-- The pages of any size, from the first to the last, are all lines. -/
  pages : ∀ perPage, ∃ count, 0 < count ∧ count < 2 ^ 32 ∧
    (∀ page, (shown ⟨page, perPage⟩).lines.totalPages = count) ∧
    ((List.range count).flatMap fun k => (shown ⟨.ofNat (k + 1), perPage⟩).lines.items) = lines

/-- **Statements are issued for every range** of a store that has room for the tenant's entries and
fewer receivable entries than a statement can have pages. -/
theorem exists_issued {a : Account} (hfiled : w.store.Filed)
    (hroom : Roomy (w.store.tenantEntries ctx.tenant))
    (hcount : (w.store.entries.values.filter (·.ledgerAccount = .accountsReceivable)).length <
      2 ^ 32)
    (ha : w.store.account? ctx.tenant account = some a) (hle : start ≤ finish) :
    ∃ shown opening closing entries lines,
      Issued w ctx account start finish shown opening closing entries lines := by
  obtain ⟨opening, hbalance, hopening⟩ := MemoryStore.exists_opening hroom account start
  obtain ⟨lines, closing, hrun, hruns, hclosing⟩ := MemoryStore.exists_lines hroom hle hopening
  have hlength : lines.length < 2 ^ 32 := by
    rw [← hruns.lined.length_eq]
    exact Nat.lt_of_le_of_lt MemoryStore.length_receivableEntries_le hcount
  refine ⟨_, opening, closing, _, lines,
    { runs := runs_statement ha hle hbalance hrun
      heading := fun page => ⟨rfl, rfl⟩
      balances := fun page => ⟨rfl, rfl⟩
      opening_exact := hopening
      closing_exact := hclosing
      listed := fun e => MemoryStore.mem_receivableEntries
      ascending := hfiled.ascending _
      runsOn := hruns
      ids := hruns.map_eq fun e l hshows => hshows.entry
      instants := hruns.map_eq fun e l hshows => hshows.postedAt
      amounts := hruns.map_eq fun e l hshows => Prod.ext hshows.debit hshows.credit
      pages := fun perPage => ?_ }⟩
  exact ⟨_, Page.totalPages_pos _, Page.totalPages_lt _,
    fun page => Page.totalPages_eq page 1, Page.flatMap_items hlength 1⟩

/-- The statements of an account fit together. -/
structure StatementsFit (w : Quiet) (ctx : RequestContext) (account : AccountId) : Prop where
  /-- For every range there are statements, and they are exact. -/
  issued : ∀ start finish, start ≤ finish → ∃ shown opening closing entries lines,
    Issued w ctx account start finish shown opening closing entries lines
  /-- A later statement opens with the balance that an earlier one closed with, if nothing was
  posted to the account between the two. -/
  chained : ∀ {start finish start' finish' page page' earlier later},
    Runs (statement ctx account start finish page) w (.ok earlier) w →
    Runs (statement ctx account start' finish' page') w (.ok later) w → finish < start' →
    (∀ e ∈ w.store.accountEntries ctx.tenant account,
      ¬(finish < e.createdAt ∧ e.createdAt < start')) →
    later.opening.sameValue earlier.closing = true
  /-- A range that ends before it starts is refused. -/
  refused : ∀ start finish page, finish < start → ∃ reason,
    Runs (statement ctx account start finish page) w (.error (.validation reason)) w

/-- Only a range that does not end before it starts has a statement. -/
theorem le_of_runs_statement {page : PageRequest} {st : Statement}
    (h : Runs (statement ctx account start finish page) w (.ok st) w) : start ≤ finish := by
  by_contra hle
  have hback : Runs (statement ctx account start finish page) w _ w :=
    runs_statement_backwards (Int.not_le.1 hle) page
  exact nomatch hback.symm.trans h

/-- **The statements of an account fit together** in every reachable store within the capacity. -/
theorem statementsFit_of_reachable {a : Account}
    (h : w.store.Reachable LedgerTransaction.Built) (hsize : w.store.entries.size ≤ ledgerCapacity)
    (ha : w.store.account? ctx.tenant account = some a) : StatementsFit w ctx account := by
  obtain ⟨hfiled, journal, hjournal⟩ := h.journaled
  have hcount : (w.store.entries.values.filter
      (·.ledgerAccount = .accountsReceivable)).length < 2 ^ 32 := by
    have hhalf := hjournal.receivables_le
    rw [ledgerCapacity] at hsize
    omega
  have hissued (start finish : Instant) (hle : start ≤ finish) :=
    exists_issued hfiled (hjournal.roomy hsize) hcount ha hle
  refine ⟨hissued, ?_, fun start finish page hlt => ⟨_, runs_statement_backwards hlt page⟩⟩
  intro start finish start' finish' page page' earlier later hearlier hlater hlt hquiet
  obtain ⟨shown, _, _, _, _, first⟩ := hissued _ _ (le_of_runs_statement hearlier)
  obtain ⟨shown', _, _, _, _, second⟩ := hissued _ _ (le_of_runs_statement hlater)
  obtain rfl : shown page = earlier := by simpa using (first.runs page).symm.trans hearlier
  obtain rfl : shown' page' = later := by simpa using (second.runs page').symm.trans hlater
  rw [Money.sameValue_iff, (second.balances page').1, (first.balances page).2,
    second.opening_exact, first.closing_exact, MemoryStore.movement, MemoryStore.movement]
  -- no entry lies between the two ranges, so the same entries come before both instants
  congr 2
  refine List.filter_congr fun e he => decide_eq_decide.2 ⟨fun hbefore => ?_, fun hupTo => ?_⟩
  · by_contra hafter
    exact hquiet e he ⟨Int.not_le.1 hafter, hbefore⟩
  · exact Int.lt_of_le_of_lt hupTo hlt

/-- The ride of a first account is on its statements: they open with nothing and close with the
fare. -/
theorem statementsFit_afterFirstRide :
    afterFirstRide.store.Reachable LedgerTransaction.Built ∧
    afterFirstRide.store.entries.size ≤ ledgerCapacity ∧
    StatementsFit afterFirstRide Sample.operator MemoryStore.firstAccount ∧
    afterFirstRide.store.movement Sample.tenant MemoryStore.firstAccount (· < Sample.epoch) = 0 ∧
    afterFirstRide.store.movement Sample.tenant MemoryStore.firstAccount (· ≤ Sample.epoch) =
      Sample.rideFare.units := by
  have hreachable : afterFirstRide.store.Reachable LedgerTransaction.Built :=
    MemoryStore.reachable_storeAfter (by simp [MemoryStore.firstCalls, Operation.Posts])
  have hsize : afterFirstRide.store.entries.size = 2 := by decide +kernel
  have hroom : afterFirstRide.store.entries.size ≤ ledgerCapacity := by
    rw [hsize, ledgerCapacity]
    decide
  have hthere : (afterFirstRide.store.account? Sample.operator.tenant
      MemoryStore.firstAccount).isSome := by decide +kernel
  obtain ⟨a, ha⟩ := Option.isSome_iff_exists.1 hthere
  exact ⟨hreachable, hroom, statementsFit_of_reachable hreachable hroom ha, by decide +kernel,
    by decide +kernel⟩

end Ledger

end RideLedger
