import Mathlib.Algebra.Order.BigOperators.Group.List
import RideLedger.Proofs.Gapless
import RideLedger.Proofs.Journal
import RideLedger.Proofs.Requests
import RideLedger.Proofs.Tracing

/-!
# Charges — which operations post any, and how many invoices they make

Only four operations post rides; all others make no request that posts a charge
(`Operation.chargeless`), so the charges stay what they are (`MemoryStore.charges_kept`).

An invoice bills a charge that no other invoice bills, and at most one entry of a transaction is a
charge. So a ledger within its capacity does not run out of numbers
(`MemoryStore.Reachable.lastSequence_lt`).
-/

namespace RideLedger

/-! ## Operations that post no charge -/

/-- A request that posts no charge. -/
def StoreRequest.PostsNoCharge : StoreRequest → Prop
  | .appendTransaction _ t _ => ∀ e ∈ t.entries, e.isBillable = false
  | _ => True

/-- A payment is no charge. -/
theorem LedgerTransaction.chargeless_of_payment {ids : TransactionIds} {tenant : TenantId}
    {account : AccountId} {payment : String} {amount : Money} {createdAt : Instant}
    {createdBy : String} {description : Option String} {t : LedgerTransaction}
    (ht : (LedgerTransaction.payment ids tenant account payment amount createdAt createdBy
      description).Gives t) : ∀ e ∈ t.entries, e.isBillable = false := by
  intro e he
  obtain ⟨hdebit, hcredit⟩ := LedgerTransaction.postedAs ht
  have hsource : e.sourceType = .payment := by
    rcases List.mem_pair.1 he with rfl | rfl
    · exact hdebit.sourceType
    · exact hcredit.sourceType
  simp [LedgerEntry.isBillable, hsource]

namespace Operation

variable {policy : InvoicingPolicy} {call : Operation}

/-- A call that may post a ride. -/
def PostsRides : Operation → Prop
  | .recordRideCharge .. | .append .. | .ledgerRideCharge .. | .ledgerAppend .. => True
  | _ => False

/-- **Other calls post no charge.** -/
theorem chargeless (h : ¬call.PostsRides) : (call.plan policy).Asks (·.PostsNoCharge) := by
  refine asks (fun request hplain => ?_) (fun ctx t event hoffers => ?_) fun _ _ _ _ => trivial
  · cases request with
    | appendTransaction => exact hplain.elim
    | _ => trivial
  · cases call with
    | recordPayment =>
      obtain ⟨ids, now, ht⟩ := hoffers
      exact LedgerTransaction.chargeless_of_payment ht
    | recordRideCharge => exact absurd trivial h
    | append => exact absurd trivial h
    | ledgerRideCharge => exact absurd trivial h
    | ledgerAppend => exact absurd trivial h
    | _ => exact hoffers.elim

end Operation

namespace MemoryStore

/-- The charges that a store holds. -/
def charges (s : MemoryStore) : List LedgerEntry := s.entries.values.filter (·.isBillable)

/-- A request that posts no charge leaves the charges what they are. -/
theorem charges_kept {request : StoreRequest} {b : Bool} {answer : request.Answer}
    {s s' : MemoryStore} (hmay : request.PostsNoCharge)
    (hserved : s.serve b request = .ok (answer, s')) : s'.charges = s.charges := by
  cases commit_of_serve hserved with
  | @posted ctx t event hadmits hdistinct =>
    have hnone : (t.entries).filter (·.isBillable) = [] := by
      rw [List.filter_eq_nil_iff]
      intro e he
      simp [hmay e he]
    rw [charges, MemoryStore.posted, WriteOnce.extend_values, List.filter_append]
    exact (congrArg _ hnone).trans (List.append_nil _)
  | @halfPosted ctx t event hadmits hsame =>
    have hnone : [t.debit].filter (·.isBillable) = [] := by
      simp [hmay t.debit (List.mem_cons_self ..)]
    rw [charges, MemoryStore.halfPosted, WriteOnce.extend_values, List.filter_append]
    exact (congrArg _ hnone).trans (List.append_nil _)
  | _ => rfl

end MemoryStore

/-! ## A sequence has room -/

namespace MemoryStore

variable {s : MemoryStore}

/-- Every invoice has a charge that no other invoice has. -/
theorem Traced.size_le_charges (h : s.Traced) (hfiled : s.Filed) :
    s.invoices.size ≤ s.charges.length := by
  let billed := s.invoices.values.flatMap fun i => i.lines.map (·.entry)
  have hone : s.invoices.size ≤ billed.length := by
    have hsize : s.invoices.size = (s.invoices.values.map fun i => i.lines.length).length := by
      rw [List.length_map, WriteOnce.values, List.length_map, WriteOnce.size]
    have hlines : billed.length = (s.invoices.values.map fun i => i.lines.length).sum := by
      simp only [billed, List.length_flatMap, List.length_map]
    rw [hsize, hlines]
    refine List.length_le_sum_of_one_le _ fun n hn => ?_
    obtain ⟨i, hi, rfl⟩ := List.mem_map.1 hn
    exact List.length_pos_of_ne_nil (h.invoices i hi).nonempty
  have hcharges : billed ⊆ s.charges.map (·.id) := by
    intro entry hentry
    obtain ⟨i, hi, hline⟩ := List.mem_flatMap.1 hentry
    obtain ⟨l, hl, rfl⟩ := List.mem_map.1 hline
    obtain ⟨-, charge, hget, hbills⟩ := (h.invoices i hi).lines l hl
    obtain ⟨hvalue, hid⟩ := hfiled.get?_eq_some_iff.1 hget
    exact List.mem_map.2 ⟨charge, List.mem_filter.2 ⟨hvalue, hbills.billable⟩, hid⟩
  have hfew := (List.subperm_of_subset (h.lines_nodup hfiled) hcharges).length_le
  rw [List.length_map] at hfew
  exact Nat.le_trans hone hfew

/-- At most one entry of each transaction is a charge. -/
theorem IsJournal.charges_le {journal : List LedgerTransaction} (h : IsJournal journal s) :
    2 * s.charges.length ≤ s.entries.size := by
  have hsize : s.entries.size = s.entries.values.length := (List.length_map _).symm
  rw [charges, hsize, h.values]
  have hdouble := h.double
  clear h hsize
  induction journal with
  | nil => exact Nat.le_refl 0
  | cons t rest ih =>
    have hrest := ih fun t' ht' => hdouble t' (List.mem_cons_of_mem _ ht')
    -- the credit lies on the other side, so it is no charge
    have hcredit : t.credit.isBillable = false := by
      simp [LedgerEntry.isBillable, (hdouble t (List.mem_cons_self ..)).sides.2]
    have hpair : (t.entries.filter (·.isBillable)).length ≤ 1 := by
      cases hdebit : t.debit.isBillable <;> simp [LedgerTransaction.entries, hdebit, hcredit]
    have htwo : t.entries.length = 2 := rfl
    rw [List.flatMap_cons, List.filter_append, List.length_append, List.length_append]
    omega

/-- **A ledger within its capacity does not run out of numbers**: the next sequence of every month
has at most 32 bits. -/
theorem Reachable.lastSequence_lt (h : s.Reachable LedgerTransaction.Built)
    (hsize : s.entries.size ≤ ledgerCapacity) (ctx : RequestContext) (month : Date) :
    s.lastSequence ctx month + 1 < 2 ^ 32 := by
  obtain ⟨hfiled, journal, hjournal⟩ := h.journaled
  obtain ⟨-, htraced, -⟩ := h.invoicing
  have hlast := h.gapless.lastSequence_le ctx month
  have hinvoices := htraced.size_le_charges hfiled
  have hcharges := hjournal.charges_le
  simp only [ledgerCapacity] at hsize
  omega

end MemoryStore

end RideLedger
