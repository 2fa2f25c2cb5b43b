import Mathlib.Algebra.Order.Group.Nat
import RideLedger.Proofs.Billing
import RideLedger.Proofs.Charges

/-!
# Sweeps — the scheduled invoices of all accounts of a frequency

A sweep invoices the accounts of a frequency one after another (`Succession`). What becomes of an
account is what would have become of it alone (`Sweep.isolated`): an invoice of one account changes
nothing that another one's draft is made of, and a failure changes nothing at all. Afterwards an
account has either nothing left to bill in the period or all that it had, so that a second sweep
writes nothing and says so (`Rerun`).
-/

namespace RideLedger

open MemoryStore

variable {policy : InvoicingPolicy} {ctx : RequestContext} {frequency : InvoiceFrequency}
  {period : BillingPeriod} {asOf : Instant} {s : MemoryStore} {w w' : Quiet}
  {accounts : List Account} {results : List (AccountId × Except BillingError Invoice)}

/-! ## The accounts of a frequency -/

namespace MemoryStore

theorem mem_accountsWithFrequency_iff {a : Account} :
    a ∈ s.accountsWithFrequency ctx frequency ↔
      a ∈ s.accounts ∧ a.tenant = ctx.tenant ∧ a.frequency = frequency := by
  rw [accountsWithFrequency, (List.mergeSort_perm ..).mem_iff]
  simp only [List.mem_filter, Bool.and_eq_true, decide_eq_true_eq]

/-- The accounts of a frequency are different ones. -/
theorem accountsWithFrequency_nodup (hfiled : s.Filed) :
    ((s.accountsWithFrequency ctx frequency).map (·.id)).Nodup := by
  rw [accountsWithFrequency, ((List.mergeSort_perm ..).map _).nodup_iff]
  exact nodup_filter_key hfiled.accounts_nodup _

/-- **They are listed in ascending order.** -/
theorem accountsWithFrequency_ascending (hfiled : s.Filed) :
    ((s.accountsWithFrequency ctx frequency).map (·.id)).Pairwise
      fun a b => compare a b = .lt := by
  exact List.pairwise_map.2 (OrdersBy.mergeSort_strict (compareOn Account.id)
    (fun _ _ => Std.LawfulEqOrd.eq_of_compare) (nodup_filter_key hfiled.accounts_nodup _))

end MemoryStore

/-! ## One after another -/

/-- Accounts that are invoiced one after another, each from where the one before ended. Invoicing
that fails leaves the store as it was. -/
inductive Succession (policy : InvoicingPolicy) (ctx : RequestContext) (period : BillingPeriod) :
    Quiet → List (AccountId × Except BillingError Invoice) → Quiet → Prop
  | nil {w : Quiet} : Succession policy ctx period w [] w
  | cons {w w₁ w' : Quiet} {id : AccountId} {result : Except BillingError Invoice}
      {rest : List (AccountId × Except BillingError Invoice)}
      (first : Runs (Invoices.generate policy ctx id period .default) w result w₁)
      (kept : ∀ x, result = .error x → w₁.store = w.store)
      (others : Succession policy ctx period w₁ rest w') :
      Succession policy ctx period w ((id, result) :: rest) w'

/-- Where all accounts fail, nothing is written. -/
theorem Succession.store_eq (h : Succession policy ctx period w results w')
    (hfailed : ∀ item ∈ results, ∃ x, item.2 = .error x) : w'.store = w.store := by
  induction h with
  | nil => rfl
  | cons first kept others ih =>
    obtain ⟨x, hx⟩ := hfailed _ (List.mem_cons_self ..)
    rw [ih fun item hitem => hfailed item (List.mem_cons_of_mem _ hitem), kept x hx]

/-- The outcomes that a sweep reports. -/
def Invoices.outcomesOf (results : List (AccountId × Except BillingError Invoice)) :
    List (AccountId × SweepOutcome) :=
  results.map fun (id, result) => (id, Invoices.outcomeOf result)

/-- At most as many identifiers as invoicing the accounts draws. -/
def Invoices.draws (ctx : RequestContext) (period : BillingPeriod) (accounts : List Account)
    (s : MemoryStore) : Nat :=
  (accounts.map fun a => (s.unbilledCharges ctx a.id period).length + 2).sum

/-- A state from which some of the tenant's accounts can be invoiced. -/
structure Sweepable (ctx : RequestContext) (accounts : List Account) (w : Quiet) : Prop where
  reachable : w.store.Reachable LedgerTransaction.Built
  size : w.store.entries.size ≤ ledgerCapacity
  found : ∀ a ∈ accounts, w.store.account? ctx.tenant a.id = some a
  distinct : (accounts.map (·.id)).Nodup

/-- What invoicing accounts one after another comes to. -/
structure Swept (policy : InvoicingPolicy) (ctx : RequestContext) (period : BillingPeriod)
    (accounts : List Account) (w : Quiet)
    (results : List (AccountId × Except BillingError Invoice)) (w' : Quiet) : Prop where
  runs : Runs (Invoices.sweep policy ctx period accounts) w
    (.ok (Invoices.outcomesOf results, false)) w'
  succession : Succession policy ctx period w results w'
  ids : results.map (·.1) = accounts.map (·.id)
  /-- Each account is billed what it had to bill at the beginning. -/
  billed : ∀ item ∈ results, ∃ v v',
    Billed ctx (Invoices.selection policy ctx item.1 period .default w) v item.2 v'
  /-- An account that has its invoice has nothing left, one that failed has all that it had. -/
  left : ∀ item ∈ results, w'.store.unbilledCharges ctx item.1 period =
    match item.2 with
    | .ok _ => []
    | .error _ => w.store.unbilledCharges ctx item.1 period
  /-- Other accounts have all that they had, too. -/
  others : ∀ id ∉ accounts.map (·.id),
    w'.store.unbilledCharges ctx id period = w.store.unbilledCharges ctx id period
  now : w'.now = w.now
  accounts : w'.store.accounts = w.store.accounts
  entries : w'.store.entries = w.store.entries
  reachable : w'.store.Reachable LedgerTransaction.Built

/-- What is selected depends on the entries, on what is billed and on the time alone. -/
theorem selection_congr {id : AccountId} (hnow : w'.now = w.now)
    (hentries : w'.store.entries = w.store.entries)
    (hunbilled : w'.store.unbilledCharges ctx id period = w.store.unbilledCharges ctx id period) :
    Invoices.selection policy ctx id period .default w' =
      Invoices.selection policy ctx id period .default w := by
  have hpayments : w'.store.paymentsInPeriod ctx id period =
      w.store.paymentsInPeriod ctx id period := by
    simp only [paymentsInPeriod, accountEntries, tenantEntries, hentries]
  rw [Invoices.selection, Invoices.selection, hnow, hunbilled, hpayments]

/-- Invoicing an account is a call, so what is reachable stays so. -/
theorem Invoices.reachable_of_generated {id : AccountId} {result : Except BillingError Invoice}
    (h : w.store.Reachable LedgerTransaction.Built)
    (hruns : Runs (Invoices.generate policy ctx id period .default) w result w') :
    w'.store.Reachable LedgerTransaction.Built := by
  have hposts : (Operation.generateInvoice ctx id period .default).Posts LedgerTransaction.Built :=
    trivial
  have hrun : ((Operation.generateInvoice ctx id period .default).plan policy).run Quiet.world w =
      .ok ((), w') := run_unheeded hruns
  exact h.quiet hposts hrun

namespace Sweepable

/-- The sums of the tenant have room. -/
theorem roomy (h : Sweepable ctx accounts w) : Roomy (w.store.tenantEntries ctx.tenant) := by
  obtain ⟨-, journal, hjournal⟩ := h.reachable.journaled
  exact hjournal.roomy h.size

/-- Any of the accounts can be invoiced. -/
theorem exists_generated {a : Account} (h : Sweepable ctx accounts w) (ha : a ∈ accounts)
    (hnew : (⟨w.supply.ordered 0⟩ : InvoiceId) ∉ w.store.invoices.keys) :
    ∃ result w', Runs (Invoices.generate policy ctx a.id period .default) w result w' ∧
      Billed ctx (Invoices.selection policy ctx a.id period .default w) w result w' := by
  obtain ⟨hfiled, -, hnumbered⟩ := h.reachable.invoicing
  exact Invoices.exists_generated (h.found a ha) hfiled hnumbered h.roomy
    (h.reachable.lastSequence_lt h.size ctx _) hnew

end Sweepable

theorem draws_cons {a : Account} {rest : List Account} :
    Invoices.draws ctx period (a :: rest) s =
      (s.unbilledCharges ctx a.id period).length + 2 + Invoices.draws ctx period rest s := by
  rw [Invoices.draws, List.map_cons, List.sum_cons]
  rfl

section Cons

variable {a : Account} {rest : List Account} {w₁ : Quiet}
  {result : Except BillingError Invoice}

/-- When the first account is billed, the others can be swept. -/
theorem Sweepable.tail (h : Sweepable ctx (a :: rest) w)
    (hruns : Runs (Invoices.generate policy ctx a.id period .default) w result w₁)
    (hbilled : Billed ctx (Invoices.selection policy ctx a.id period .default w) w result w₁) :
    Sweepable ctx rest w₁ where
  reachable := Invoices.reachable_of_generated h.reachable hruns
  size := by
    rw [hbilled.entries_eq]
    exact h.size
  found b hb := by
    rw [account?, hbilled.accounts_eq]
    exact h.found b (List.mem_cons_of_mem _ hb)
  distinct := (List.nodup_cons.1 h.distinct).2

/-- **One account more is swept** when it is billed before the others. -/
theorem Swept.cons (h : Swept policy ctx period rest w₁ results w') (hnew : a.id ∉ rest.map (·.id))
    (hruns : Runs (Invoices.generate policy ctx a.id period .default) w result w₁)
    (hbilled : Billed ctx (Invoices.selection policy ctx a.id period .default w) w result w₁)
    (hsame : ∀ id ≠ a.id,
      w₁.store.unbilledCharges ctx id period = w.store.unbilledCharges ctx id period) :
    Swept policy ctx period (a :: rest) w ((a.id, result) :: results) w' := by
  have hrest {item} (hitem : item ∈ results) :
      w₁.store.unbilledCharges ctx item.1 period = w.store.unbilledCharges ctx item.1 period := by
    refine hsame _ fun heq => hnew ?_
    rw [← heq, ← h.ids]
    exact List.mem_map_of_mem hitem
  exact
    { runs := runs_bind runs_cancelled (runs_bind (runs_attempt hruns) (runs_bind h.runs runs_pure))
      succession := .cons hruns (fun x hx => (hx ▸ hbilled).store_eq_of_error) h.succession
      ids := congrArg (a.id :: ·) h.ids
      billed := by
        refine List.forall_mem_cons.2 ⟨⟨w, w₁, hbilled⟩, fun item hitem => ?_⟩
        obtain ⟨v, v', hv⟩ := h.billed item hitem
        rw [selection_congr hbilled.now_eq hbilled.entries_eq (hrest hitem)] at hv
        exact ⟨v, v', hv⟩
      left := by
        refine List.forall_mem_cons.2 ⟨?_, fun item hitem => ?_⟩
        · rw [h.others a.id hnew]
          cases result with
          | ok i => exact hbilled.unbilledCharges_of_ok rfl
          | error x => rw [hbilled.store_eq_of_error]
        · rw [h.left item hitem, hrest hitem]
      others := fun id hid => by
        rw [List.map_cons, List.mem_cons, not_or] at hid
        rw [h.others id hid.2, hsame id hid.1]
      now := h.now.trans hbilled.now_eq
      accounts := h.accounts.trans hbilled.accounts_eq
      entries := h.entries.trans hbilled.entries_eq
      reachable := h.reachable }

end Cons

/-- **Accounts can be invoiced one after another**, as long as identifiers are new. -/
theorem exists_swept {spare : Nat} (h : Sweepable ctx accounts w)
    (hfresh : w.Fresh (Invoices.draws ctx period accounts w.store + spare)) :
    ∃ results w', Swept policy ctx period accounts w results w' ∧ w'.Fresh spare := by
  induction accounts generalizing w with
  | nil =>
    exact ⟨[], w,
      { runs := runs_pure, succession := .nil, ids := rfl, billed := by simp, left := by simp
        others := fun _ _ => rfl, now := rfl, accounts := rfl, entries := rfl
        reachable := h.reachable }, by simpa [Invoices.draws] using hfresh⟩
  | cons a rest ih =>
    rw [draws_cons, Nat.add_assoc] at hfresh
    have hnew : (⟨w.supply.ordered 0⟩ : InvoiceId) ∉ w.store.invoices.keys :=
      hfresh.2 0 (by omega)
    obtain ⟨result, w₁, hruns, hbilled⟩ : ∃ result w₁,
        Runs (Invoices.generate policy ctx a.id period .default) w result w₁ ∧
          Billed ctx (Invoices.selection policy ctx a.id period .default w) w result w₁ :=
      h.exists_generated (List.mem_cons_self ..) hnew
    obtain ⟨hfiled, -⟩ := h.reachable.invoicing
    have hsame (id : AccountId) (hid : id ≠ a.id) :
        w₁.store.unbilledCharges ctx id period = w.store.unbilledCharges ctx id period :=
      hbilled.unbilledCharges_of_ne (billable_of_selected hfiled h.roomy rfl
        (List.Sublist.refl _) (List.Sublist.refl _)) hfiled hid
    have hfirst : a.id ∉ rest.map (·.id) := (List.nodup_cons.1 h.distinct).1
    -- the other accounts draw as many identifiers as before
    have hdraws : Invoices.draws ctx period rest w₁.store =
        Invoices.draws ctx period rest w.store := by
      unfold Invoices.draws
      congr 1
      refine List.map_congr_left fun b hb => ?_
      rw [hsame b.id fun heq => hfirst (heq ▸ List.mem_map_of_mem hb)]
    have hfresh₁ : w₁.Fresh (Invoices.draws ctx period rest w₁.store + spare) := by
      rw [hdraws]
      exact hbilled.fresh hfresh
    obtain ⟨results, w', hswept, hspare⟩ := ih (h.tail hruns hbilled) hfresh₁
    exact ⟨(a.id, result) :: results, w', hswept.cons hfirst hruns hbilled hsame, hspare⟩

/-! ## What a sweep reports -/

/-- An outcome, its invoice without number and without identifiers of its own. -/
def SweepOutcome.unnamed : SweepOutcome → SweepOutcome
  | .generated i => .generated i.unnamed
  | .skipped => .skipped
  | .failed x => .failed x

/-- What becomes of an account the next time. -/
def SweepOutcome.again : SweepOutcome → SweepOutcome
  | .generated _ => .skipped
  | .skipped => .skipped
  | .failed x => .failed x

theorem outcomeOf_unnamed (result : Except BillingError Invoice) :
    Invoices.outcomeOf (result.map (·.unnamed)) = (Invoices.outcomeOf result).unnamed := by
  cases result with
  | ok i => rfl
  | error x => cases x <;> rfl

/-- An error is reported as it was. -/
theorem outcomeOf_error_again (x : BillingError) :
    (Invoices.outcomeOf (.error x)).again = Invoices.outcomeOf (.error x) := by
  cases x <;> rfl

theorem outcomesOf_ids : (Invoices.outcomesOf results).map (·.1) = results.map (·.1) := by
  rw [Invoices.outcomesOf, List.map_map]
  rfl

/-- The outcomes of a run, shared out among the three parts of its summary. -/
structure SweepSummary.Divides (summary : SweepSummary)
    (outcomes : List (AccountId × SweepOutcome)) (generated : List (AccountId × Invoice))
    (skipped : List AccountId) (failed : List (AccountId × BillingError)) : Prop where
  all : outcomes.Perm (generated.map (fun (a, i) => (a, .generated i)) ++
    skipped.map (fun a => (a, .skipped)) ++ failed.map fun (a, x) => (a, .failed x))
  invoices : summary.invoices = generated.map fun (_, i) => i.number.text
  skipped : summary.skipped = skipped.length
  failed : summary.failed = failed.map fun (a, x) => { account := a, error := x.message }

/-- **A summary divides the outcomes of its run.** -/
theorem SweepSummary.ofRun_divides (run : ScheduledRun) : ∃ generated skipped failed,
    (ofRun run).Divides run.outcomes generated skipped failed := by
  obtain ⟨frequency, period, outcomes, cancelled⟩ := run
  induction outcomes with
  | nil => exact ⟨[], [], [], ⟨.refl _, rfl, rfl, rfl⟩⟩
  | cons first rest ih =>
    obtain ⟨generated, skipped, failed, hall, hinvoices, hskipped, hfailed⟩ := ih
    obtain ⟨id, outcome⟩ := first
    cases outcome with
    | generated i =>
      exact ⟨(id, i) :: generated, skipped, failed,
        { all := hall.cons _, invoices := congrArg (i.number.text :: ·) hinvoices
          skipped := hskipped, failed := hfailed }⟩
    | skipped =>
      refine ⟨generated, id :: skipped, failed,
        { all := ?_, invoices := hinvoices, skipped := ?_, failed := hfailed }⟩
      · rw [List.append_assoc] at hall ⊢
        exact (hall.cons _).trans List.perm_middle.symm
      · simpa [ofRun, ScheduledRun.skippedCount] using hskipped
    | failed x =>
      exact ⟨generated, skipped, (id, x) :: failed,
        { all := (hall.cons _).trans List.perm_middle.symm, invoices := hinvoices
          skipped := hskipped
          failed := congrArg (FailedAccount.mk id x.message :: ·) hfailed }⟩

/-- An account that is billed again has nothing to bill, or comes to the same error. -/
theorem Swept.item_again {w'' : Quiet} {results' : List (AccountId × Except BillingError Invoice)}
    {id : AccountId} {result result' : Except BillingError Invoice}
    (h : Swept policy ctx period accounts w results w')
    (h' : Swept policy ctx period accounts w' results' w'')
    (hitem : (id, result) ∈ results) (hitem' : (id, result') ∈ results') :
    (∃ x, result' = .error x) ∧
      Invoices.outcomeOf result' = (Invoices.outcomeOf result).again := by
  obtain ⟨v, v', hv⟩ := h.billed _ hitem
  obtain ⟨u, u', hu⟩ := h'.billed _ hitem'
  have hleft := h.left _ hitem
  cases result with
  | ok i =>
    have hempty : (Invoices.selection policy ctx id period .default w').charges = [] := hleft
    have hresult : result' = .error (.noUnbilledCharges ..) := hu.error_of_nil hempty
    rw [hresult]
    exact ⟨⟨_, rfl⟩, rfl⟩
  | error x =>
    -- the same is selected, so the same comes of it
    rw [selection_congr h.now h.entries hleft] at hu
    have hsame := hu.unnamed_eq hv
    cases result' with
    | ok i => cases hsame
    | error y =>
      obtain rfl : y = x := Except.error.inj hsame
      exact ⟨⟨y, rfl⟩, (outcomeOf_error_again y).symm⟩

/-- **A second time, nothing is left to bill**: an invoice leaves nothing, and what failed fails
again. -/
theorem Swept.again {w'' : Quiet} {results' : List (AccountId × Except BillingError Invoice)}
    (h : Swept policy ctx period accounts w results w')
    (h' : Swept policy ctx period accounts w' results' w'') :
    w''.store = w'.store ∧
      Invoices.outcomesOf results' =
        (Invoices.outcomesOf results).map fun (id, outcome) => (id, outcome.again) := by
  have hids : results'.map (·.1) = results.map (·.1) := h'.ids.trans h.ids.symm
  have hlength : results'.length = results.length := by
    rw [← List.length_map (·.1), hids, List.length_map]
  have hitems (n : Nat) (hn : n < results'.length) (hn' : n < results.length) :
      results'[n].1 = results[n].1 ∧ (∃ x, results'[n].2 = .error x) ∧
        Invoices.outcomeOf results'[n].2 = (Invoices.outcomeOf results[n].2).again := by
    have hid : results'[n].1 = results[n].1 := by
      have hplace := congrArg (·[n]?) hids
      simpa [hn, hn'] using hplace
    have hitem : (results'[n].1, results[n].2) ∈ results := by
      rw [hid]
      exact List.getElem_mem hn'
    exact ⟨hid, h.item_again h' hitem (List.getElem_mem hn)⟩
  constructor
  · refine h'.succession.store_eq fun item hitem => ?_
    obtain ⟨n, hn, rfl⟩ := List.mem_iff_getElem.1 hitem
    exact (hitems n hn (hlength ▸ hn)).2.1
  · refine List.ext_getElem (by simp [Invoices.outcomesOf, hlength]) fun n hn hn' => ?_
    simp only [Invoices.outcomesOf, List.length_map] at hn hn'
    simp only [Invoices.outcomesOf, List.getElem_map]
    obtain ⟨hid, -, houtcome⟩ := hitems n hn hn'
    rw [hid, houtcome]

/-! ## Sweeps -/

/-- What a scheduled run comes to. -/
structure Sweep (policy : InvoicingPolicy) (ctx : RequestContext) (frequency : InvoiceFrequency)
    (asOf : Instant) (period : BillingPeriod) (w : Quiet) (run : ScheduledRun) (w' : Quiet) :
    Prop where
  runs : Runs (Invoices.generateScheduled policy ctx frequency asOf) w (.ok run) w'
  /-- It is done with all accounts. -/
  whole : run.frequency = frequency ∧ run.period = period ∧ run.cancelled = false
  /-- There is an outcome for every account of the tenant with the frequency, and for no other. -/
  complete : ∀ id, id ∈ run.outcomes.map (·.1) ↔
    ∃ a ∈ w.store.accounts, a.id = id ∧ a.tenant = ctx.tenant ∧ a.frequency = frequency
  /-- There is one, in ascending order of the accounts. -/
  ascending : (run.outcomes.map (·.1)).Pairwise fun a b => compare a b = .lt
  /-- The accounts are invoiced one after another, and failures leave the store as it was. -/
  oneByOne : ∃ results, Succession policy ctx period w results w' ∧
    run.outcomes = Invoices.outcomesOf results
  /-- An account comes to what it would have come to alone. -/
  isolated : ∀ item ∈ run.outcomes, ∃ result v,
    Runs (Invoices.generate policy ctx item.1 period .default) w result v ∧
      (Invoices.outcomeOf result).unnamed = item.2.unnamed
  /-- The job gives the summary of the run. -/
  summary : Runs (Job.runScheduled policy ctx frequency asOf) w (.ok (.ofRun run)) w'
  /-- Its parts divide the outcomes. -/
  divided : ∃ generated skipped failed,
    (SweepSummary.ofRun run).Divides run.outcomes generated skipped failed
  /-- The clock does not move. -/
  clock : w'.now = w.now

/-- What the same run comes to when it is repeated at once: nothing is written, what had its invoice
is skipped, and what failed fails with the same error. -/
def Rerun (policy : InvoicingPolicy) (ctx : RequestContext) (frequency : InvoiceFrequency)
    (asOf : Instant) (run : ScheduledRun) (w' : Quiet) : Prop :=
  ∃ again w'', Runs (Invoices.generateScheduled policy ctx frequency asOf) w' (.ok again) w'' ∧
    w''.store = w'.store ∧
    again.outcomes = run.outcomes.map fun (id, outcome) => (id, outcome.again)

/-- Sweeping the accounts of a frequency is a scheduled run. -/
theorem Swept.runs_scheduled (h : Swept policy ctx period accounts w results w')
    (hperiod : frequency.periodEndingBefore asOf = .ok period)
    (haccounts : w.store.accountsWithFrequency ctx frequency = accounts) :
    Runs (Invoices.generateScheduled policy ctx frequency asOf) w
      (.ok { frequency := frequency, period := period, outcomes := Invoices.outcomesOf results
             cancelled := false }) w' := by
  have hserve : w.store.serve false (.accountsWithFrequency ctx frequency) =
      .ok (.ok accounts, w.store) := by
    rw [← haccounts]
    rfl
  have hgiven : Runs (Service.ofExcept (frequency.periodEndingBefore asOf)) w (.ok period) w := by
    rw [hperiod]
    exact runs_ofExcept
  exact runs_bind hgiven (runs_bind (runs_demand hserve) (runs_bind h.runs runs_pure))

/-- The accounts can be invoiced again afterwards. -/
theorem Swept.ready (h : Swept policy ctx period accounts w results w')
    (hready : Sweepable ctx accounts w) : Sweepable ctx accounts w' where
  reachable := h.reachable
  size := by
    rw [h.entries]
    exact hready.size
  found a ha := by
    rw [account?, h.accounts]
    exact hready.found a ha
  distinct := hready.distinct

/-- And that draws no more identifiers than before. -/
theorem Swept.draws_le (h : Swept policy ctx period accounts w results w') :
    Invoices.draws ctx period accounts w'.store ≤ Invoices.draws ctx period accounts w.store := by
  refine List.sum_le_sum fun a ha => Nat.add_le_add_right ?_ 2
  have hmem : a.id ∈ results.map (·.1) := by
    rw [h.ids]
    exact List.mem_map_of_mem ha
  obtain ⟨item, hitem, hid⟩ := List.mem_map.1 hmem
  have hleft := h.left item hitem
  rw [hid] at hleft
  rw [hleft]
  cases item.2 with
  | ok i => exact Nat.zero_le _
  | error x => exact Nat.le_refl _

/-- **A scheduled run of all accounts of a frequency is a sweep.** -/
theorem Swept.sweep (h : Swept policy ctx period accounts w results w')
    (hperiod : frequency.periodEndingBefore asOf = .ok period)
    (haccounts : w.store.accountsWithFrequency ctx frequency = accounts)
    (hready : Sweepable ctx accounts w)
    (hnew : (⟨w.supply.ordered 0⟩ : InvoiceId) ∉ w.store.invoices.keys) :
    Sweep policy ctx frequency asOf period w
      { frequency := frequency, period := period, outcomes := Invoices.outcomesOf results
        cancelled := false } w' := by
  subst haccounts
  have hids : (Invoices.outcomesOf results).map (·.1) =
      (w.store.accountsWithFrequency ctx frequency).map (·.id) := outcomesOf_ids.trans h.ids
  have hruns := h.runs_scheduled hperiod rfl
  refine
    { runs := hruns, whole := ⟨rfl, rfl, rfl⟩
      complete := fun id => ?_
      ascending := hids ▸ accountsWithFrequency_ascending hready.reachable.invoicing.1
      oneByOne := ⟨results, h.succession, rfl⟩
      isolated := fun item hitem => ?_
      summary := runs_bind (runs_ofService hruns) runs_pure
      divided := SweepSummary.ofRun_divides _
      clock := h.now }
  · rw [hids, List.mem_map]
    constructor
    · rintro ⟨a, ha, rfl⟩
      obtain ⟨hmem, htenant, hfrequency⟩ := mem_accountsWithFrequency_iff.1 ha
      exact ⟨a, hmem, rfl, htenant, hfrequency⟩
    · rintro ⟨a, hmem, rfl, htenant, hfrequency⟩
      exact ⟨a, mem_accountsWithFrequency_iff.2 ⟨hmem, htenant, hfrequency⟩, rfl⟩
  · obtain ⟨⟨id, result⟩, hresult, rfl⟩ := List.mem_map.1 hitem
    have hmem : id ∈ (w.store.accountsWithFrequency ctx frequency).map (·.id) := by
      rw [← h.ids]
      exact List.mem_map_of_mem hresult
    obtain ⟨a, ha, rfl⟩ := List.mem_map.1 hmem
    obtain ⟨alone, v, halone, hbilled⟩ : ∃ alone v,
        Runs (Invoices.generate policy ctx a.id period .default) w alone v ∧
          Billed ctx (Invoices.selection policy ctx a.id period .default w) w alone v :=
      hready.exists_generated ha hnew
    obtain ⟨u, u', hu⟩ := h.billed _ hresult
    refine ⟨alone, v, halone, ?_⟩
    rw [← outcomeOf_unnamed, hbilled.unnamed_eq hu, outcomeOf_unnamed]

/-- **A scheduled sweep is complete and leaves accounts apart**, and repeating it changes
nothing. -/
theorem exists_sweep_and_rerun (hreachable : w.store.Reachable LedgerTransaction.Built)
    (hsize : w.store.entries.size ≤ ledgerCapacity)
    (hperiod : frequency.periodEndingBefore asOf = .ok period)
    (hfresh : w.Fresh
      (2 * Invoices.draws ctx period (w.store.accountsWithFrequency ctx frequency) w.store + 1)) :
    ∃ run w', Sweep policy ctx frequency asOf period w run w' ∧
      Rerun policy ctx frequency asOf run w' := by
  obtain ⟨hfiled, -⟩ := hreachable.invoicing
  obtain ⟨accounts, haccounts⟩ :
      ∃ accounts, w.store.accountsWithFrequency ctx frequency = accounts := ⟨_, rfl⟩
  have hready : Sweepable ctx accounts w := by
    subst haccounts
    exact
      { reachable := hreachable, size := hsize
        found := fun a ha => by
          obtain ⟨hmem, htenant, -⟩ := mem_accountsWithFrequency_iff.1 ha
          exact hfiled.account?_eq_some_iff.2 ⟨hmem, rfl, htenant⟩
        distinct := accountsWithFrequency_nodup hfiled }
  have hnew := hfresh.2 0 (Nat.succ_pos _)
  rw [haccounts, Nat.two_mul, Nat.add_assoc] at hfresh
  obtain ⟨results, w', hswept, hspare⟩ :
      ∃ results w', Swept policy ctx period accounts w results w' ∧ w'.Fresh _ :=
    exists_swept hready hfresh
  have hless := hswept.draws_le
  have hfresh' : w'.Fresh (Invoices.draws ctx period accounts w'.store + 0) :=
    hspare.mono (by omega)
  obtain ⟨results', w'', hswept', -⟩ :
      ∃ results' w'', Swept policy ctx period accounts w' results' w'' ∧ w''.Fresh 0 :=
    exists_swept (hswept.ready hready) hfresh'
  have haccounts' : w'.store.accountsWithFrequency ctx frequency = accounts := by
    rw [accountsWithFrequency, hswept.accounts]
    exact haccounts
  exact ⟨_, w', hswept.sweep hperiod haccounts hready hnew, _, w'',
    hswept'.runs_scheduled hperiod haccounts', hswept.again hswept'⟩

/-! ## A week in March -/

/-- Two accounts that are invoiced every week, one of them with a ride, and one that is invoiced
every month. -/
def weeklyCalls : List Operation :=
  let opened (name : String) (frequency : InvoiceFrequency) : Operation :=
    .createAccount Sample.operator
      { name := name, accountType := .organization, frequency := frequency }
  firstCalls ++ [opened "Best Couriers" .weekly, opened "City Cargo" .monthly]

/-- The state before the first sweep. -/
def beforeSweep : Quiet := ⟨Sample.epoch, .start, storeAfter weeklyCalls⟩

/-- The day after the first week of March. -/
def eighthOfMarch : Instant := .ofSecond (19790 * secondsPerDay)

/-- What is sent and how many are skipped, if a run comes to its end. -/
def sent (result : Except BillingError ScheduledRun) : Option (List String × Nat) :=
  match result with
  | .ok run => some (run.invoices.map (·.number.text), run.skippedCount)
  | .error _ => none

/-- The account with a ride gets its invoice, the other one has nothing to bill. -/
theorem exists_sweep_and_rerun_week :
    beforeSweep.store.Reachable LedgerTransaction.Built ∧
    beforeSweep.store.entries.size = 2 ∧
    InvoiceFrequency.weekly.periodEndingBefore eighthOfMarch = .ok Sample.firstWeekOfMarch ∧
    beforeSweep.Fresh 11 ∧
    ∃ run w', sent (.ok run) = some (["INV-202403-000001"], 1) ∧
      Sweep .default Sample.operator .weekly eighthOfMarch Sample.firstWeekOfMarch beforeSweep run
        w' ∧
      Rerun .default Sample.operator .weekly eighthOfMarch run w' := by
  have hreachable : beforeSweep.store.Reachable LedgerTransaction.Built :=
    reachable_storeAfter (by simp [weeklyCalls, firstCalls, Operation.Posts])
  have hsize : beforeSweep.store.entries.size = 2 := by decide +kernel
  have hroom : beforeSweep.store.entries.size ≤ ledgerCapacity := by
    rw [hsize]
    decide
  have hperiod : InvoiceFrequency.weekly.periodEndingBefore eighthOfMarch =
      .ok Sample.firstWeekOfMarch := by rfl
  have hkeys : beforeSweep.store.invoices.keys = [] := by decide +kernel
  have hfresh : beforeSweep.Fresh 11 :=
    ⟨by decide, fun place _ hmem => by rw [hkeys] at hmem; cases hmem⟩
  -- the accounts are listed as they were opened
  have haccounts : beforeSweep.store.accountsWithFrequency Sample.operator .weekly =
      beforeSweep.store.accounts.filter fun a =>
        a.tenant = Sample.operator.tenant && a.frequency = .weekly :=
    List.mergeSort_of_pairwise (by decide +kernel)
  have hdraws : Invoices.draws Sample.operator Sample.firstWeekOfMarch
      (beforeSweep.store.accountsWithFrequency Sample.operator .weekly) beforeSweep.store = 5 := by
    rw [haccounts]
    decide +kernel
  obtain ⟨run, w', hsweep, hrerun⟩ := exists_sweep_and_rerun hreachable hroom hperiod
    (by rw [hdraws]; exact hfresh)
  have hsent : ((Invoices.generateScheduled .default Sample.operator .weekly
      eighthOfMarch).run.run Quiet.world beforeSweep).map (fun p => sent p.1) =
        .ok (some (["INV-202403-000001"], 1)) := by
    have hserve : beforeSweep.store.serve false (.accountsWithFrequency Sample.operator .weekly) =
        .ok (.ok (beforeSweep.store.accounts.filter fun a =>
          a.tenant = Sample.operator.tenant && a.frequency = .weekly), beforeSweep.store) := by
      rw [← haccounts]
      rfl
    rw [Invoices.generateScheduled, hperiod, run_bind_of_ok runs_ofExcept,
      run_bind_of_ok (runs_demand hserve)]
    decide +kernel
  rw [hsweep.runs] at hsent
  exact ⟨hreachable, hsize, hperiod, hfresh, run, w', Except.ok.inj hsent, hsweep, hrerun⟩

end RideLedger
