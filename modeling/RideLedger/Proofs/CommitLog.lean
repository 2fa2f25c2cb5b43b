import Mathlib.Data.List.DropRight
import RideLedger.Proofs.History
import RideLedger.Proofs.Journal
import RideLedger.Proofs.Posting
import RideLedger.Proofs.Recording

/-!
# The commit log — what the outbox says

Every append that goes through and every invoice that is stored queues one event, in the same
write, and nothing else queues one. So the outbox is a log of the commits, in their order: it has
one event for each record of the transcript, with a payload that says what was recorded
(`MemoryStore.IsLog`). This holds in every run of operations from the empty store, whoever makes
them, and whatever fails on the way (`System.Transcript.isLog`).
-/

namespace RideLedger

/-! ## Entries as they are built or read back -/

/-- Cutting the blanks off twice cuts nothing more. -/
theorem trimBlank_trimBlank (cs : List Char) : trimBlank (trimBlank cs) = trimBlank cs := by
  -- the cut text begins like the one that is only cut at its front, with no blank
  have hfront : (trimBlank cs).dropWhile isBlank = trimBlank cs := by
    refine List.dropWhile_eq_self_iff.2 fun hpos => ?_
    have hbegin : trimBlank cs <+: cs.dropWhile isBlank := List.rdropWhile_prefix ..
    rw [hbegin.getElem hpos]
    exact List.dropWhile_get_zero_not isBlank cs (hpos.trans_le hbegin.length_le)
  change ((trimBlank cs).dropWhile isBlank).rdropWhile isBlank = trimBlank cs
  rw [hfront]
  exact List.rdropWhile_idempotent ..

theorem trim_trim (s : String) : trim (trim s) = trim s := by
  rw [trim, trim, String.toList_ofList, trimBlank_trimBlank]

namespace LedgerEntry

variable {e : LedgerEntry}

/-- An entry that was built, or taken from storage. -/
def Genuine (e : LedgerEntry) : Prop := e.Built ∨ ∃ record, rehydrate record = .ok e

/-- A checked reference is trimmed, and it passes the check again. -/
theorem validReference_eq_ok {reference valid : String}
    (h : validReference reference = .ok valid) :
    valid = trim reference ∧ validReference valid = .ok valid := by
  simp only [validReference] at h
  split at h
  · cases h
  next hblank =>
  split at h
  · cases h
  next hlong =>
  obtain rfl := Except.ok.inj h
  simp only [validReference, trim_trim, if_neg hblank, if_neg hlong, true_and]

/-- A checked reference has no blanks at its ends. -/
theorem trim_of_validReference {reference valid : String}
    (h : validReference reference = .ok valid) : trim valid = valid := by
  rw [(validReference_eq_ok h).1, trim_trim]

/-- **The reference of an entry has no blanks at its ends.** -/
theorem Genuine.trim_reference (h : e.Genuine) : trim e.reference = e.reference := by
  rcases h with ⟨side, id, account, amount, source, hpost⟩ | ⟨record, hrecord⟩
  · unfold LedgerEntry.post at hpost
    simp only [guard_throw_eq_ok] at hpost
    obtain ⟨-, -, hbuild⟩ := hpost
    obtain ⟨reference, hreference, he⟩ := bind_eq_ok.1 hbuild
    obtain rfl := Except.ok.inj he
    exact trim_of_validReference hreference
  · simp only [rehydrate, guard_throw_eq_ok] at hrecord
    obtain ⟨reference, hreference, he⟩ := bind_eq_ok.1 hrecord.2
    obtain rfl := Except.ok.inj he
    exact trim_of_validReference hreference

end LedgerEntry

namespace LedgerTransaction

variable {t : LedgerTransaction}

/-- A transaction of two entries with identifiers of their own. -/
def Genuine (t : LedgerTransaction) : Prop :=
  t.debit.id ≠ t.credit.id ∧
    ∃ id first second, first.Genuine ∧ second.Genuine ∧ (new id first second).Gives t

/-- What holds of both entries that a transaction was put together from holds of both of its
own. -/
theorem of_new {P : LedgerEntry → Prop} {id : TransactionId} {first second : LedgerEntry}
    (h : (new id first second).Gives t) (hfirst : P first) (hsecond : P second) :
    P t.debit ∧ P t.credit := by
  rcases (new_gives h).2.1 with rfl | rfl
  · exact ⟨hfirst, hsecond⟩
  · exact ⟨hsecond, hfirst⟩

/-- A posting under two identifiers is one. -/
theorem genuine_of_post {ids : TransactionIds} {debited credited : LedgerAccount} {amount : Money}
    {source : EntrySource} (hids : ids.debit ≠ ids.credit)
    (h : (post ids debited credited amount source).Gives t) : t.Genuine := by
  have hbuilt : t.Built := built_of_post hids h
  have hdistinct := hbuilt.doubleEntry.2
  obtain ⟨id, first, second, hfirst, hsecond, -, hnew⟩ := hbuilt
  exact ⟨hdistinct, id, first, second, .inl hfirst, .inl hsecond, hnew⟩

end LedgerTransaction

/-! ## Records and their events -/

namespace Record

/-- The event that a record has in the outbox. -/
def event : Record → OutboxEvent
  | .posted t id =>
    { id := id, tenant := t.tenant, eventType := .ledgerEntryCreated, aggregate := t.id.toText
      payload := .object
        [("account_id", toJson t.account), ("amount", toJson t.amount),
          ("entry_ids", toJson [t.debit.id, t.credit.id]),
          ("source_reference_id", toJson t.reference), ("source_type", toJson t.sourceType),
          ("transaction_id", toJson t.id)]
      occurredAt := t.createdAt, dispatchedAt := none }
  | .invoiced i id =>
    { id := id, tenant := i.tenant, eventType := .invoiceGenerated, aggregate := i.id.toText
      payload := .object
        [("account_id", toJson i.account), ("billing_period_end", toJson i.period.finish),
          ("billing_period_start", toJson i.period.start), ("invoice_id", toJson i.id),
          ("invoice_number", toJson i.number), ("line_item_count", toJson i.lines.length),
          ("outstanding_balance", toJson i.outstanding), ("subtotal", toJson i.subtotal)]
      occurredAt := i.generatedAt, dispatchedAt := none }

/-- The entries that a record brought into the store. -/
def entries : Record → List (EntryId × LedgerEntry)
  | .posted t _ => [(t.debit.id, t.debit), (t.credit.id, t.credit)]
  | .invoiced .. => []

/-- The identifiers of entries that the payload of the event lists. -/
def entryIds : Record → List EntryId
  | .posted t _ => [t.debit.id, t.credit.id]
  | .invoiced .. => []

/-- The invoices that a record brought into the store. -/
def invoices : Record → List (InvoiceId × Invoice)
  | .posted .. => []
  | .invoiced i _ => [(i.id, i)]

/-- What is known of a recorded transaction: two entries of one tenant, account and event, and a
reference without blanks at its ends. -/
def Sound : Record → Prop
  | .posted t _ => t.Matched ∧ t.debit.id ≠ t.credit.id ∧ trim t.reference = t.reference
  | .invoiced .. => True

theorem sound_posted {t : LedgerTransaction} {event : EventId} (h : t.Genuine) :
    (posted t event).Sound := by
  obtain ⟨hids, id, first, second, hfirst, hsecond, hnew⟩ := h
  exact ⟨(LedgerTransaction.new_gives hnew).2.2, hids,
    (LedgerTransaction.of_new hnew hfirst hsecond).1.trim_reference⟩

end Record

namespace MemoryStore

variable {cancelled : Bool} {request : StoreRequest} {answer : request.Answer}
  {ctx : RequestContext} {d : InvoiceDraft} {event : EventId} {log : List Record}
  {s s' : MemoryStore}

/-! ## What a store has on record -/

/-- The log of a store: its outbox has the events of the records, its entries and invoices are those
that they brought in. -/
structure IsLog (log : List Record) (s : MemoryStore) : Prop where
  outbox : s.outbox.map (·.unstamped) = log.map (·.event)
  entries : s.entries.items = log.flatMap (·.entries)
  invoices : s.invoices.items = log.flatMap (·.invoices)
  sound : ∀ r ∈ log, r.Sound

theorem isLog_empty : IsLog [] .empty := ⟨rfl, rfl, rfl, by simp⟩

/-- A request that leaves the books alone queues no event. -/
theorem Commit.unstamped_eq (h : Commit cancelled s request s') (hleaves : request.LeavesBooks) :
    s'.outbox.map (·.unstamped) = s.outbox.map (·.unstamped) := by
  cases h with
  | posted => exact hleaves.elim
  | halfPosted => exact hleaves.elim
  | invoiced => exact hleaves.elim
  | halfInvoiced => exact hleaves.elim
  | stamped hfound => exact unstamped_stampEvent hfound
  | _ => rfl

/-- A draft of different entries that goes through is numbered, and stored as the invoice that is
answered; one that does not changes nothing. -/
theorem invoiced_of_insert {answer : Except StoreFault Invoice} (hnodup : d.entryIds.Nodup)
    (h : s.insertInvoice cancelled ctx d event = .ok (answer, s')) :
    (∃ i, answer = .ok i ∧ s.numbered ctx d = .ok i ∧
        s' = s.invoiced ctx (s.nextSequence ctx d.issueDate) i event) ∨
      ((∃ fault, answer = .error fault) ∧ s' = s) := by
  rw [insertInvoice_of_nodup hnodup] at h
  cases hdraft : s.draftFault? ctx d with
  | some fault =>
    simp only [hdraft, Except.ok.injEq, Prod.mk.injEq] at h
    exact .inr ⟨⟨fault, h.1.symm⟩, h.2.symm⟩
  | none =>
    cases hnumbered : s.numbered ctx d with
    | error fault => simp [hdraft, hnumbered, Except.map] at h
    | ok i =>
      simp only [hdraft, hnumbered, Except.map, Except.ok.injEq] at h
      cases hinvoice : s.invoiceFault? cancelled ctx i with
      | some fault =>
        simp only [hinvoice, Prod.mk.injEq] at h
        exact .inr ⟨⟨fault, h.1.symm⟩, h.2.symm⟩
      | none =>
        simp only [hinvoice, Prod.mk.injEq] at h
        exact .inl ⟨i, h.1.symm, rfl, h.2.symm⟩

/-- A store without a new record has the log it had. -/
theorem IsLog.of_eq (h : IsLog log s) (houtbox : s'.outbox.map (·.unstamped) =
      s.outbox.map (·.unstamped)) (hentries : s'.entries = s.entries)
    (hinvoices : s'.invoices = s.invoices) : IsLog log s' :=
  ⟨houtbox.trans h.outbox, hentries ▸ h.entries, hinvoices ▸ h.invoices, h.sound⟩

/-- A posted transaction is the next record. -/
theorem IsLog.posted {t : LedgerTransaction} (h : IsLog log s) (ht : t.Genuine) :
    IsLog (log ++ [.posted t event]) (s.posted ctx t event) where
  outbox := by
    simp only [MemoryStore.posted, List.map_append, h.outbox]
    rfl
  entries := by simp [MemoryStore.posted, h.entries, Record.entries]
  invoices := by simp [MemoryStore.posted, h.invoices, Record.invoices]
  sound := List.forall_mem_append.2 ⟨h.sound, by simpa using Record.sound_posted ht⟩

/-- So is a stored invoice. -/
theorem IsLog.invoiced {sequence : UInt32} {i : Invoice} (h : IsLog log s) :
    IsLog (log ++ [.invoiced i event]) (s.invoiced ctx sequence i event) where
  outbox := by
    simp only [MemoryStore.invoiced, List.map_append, h.outbox]
    rfl
  entries := by simp [MemoryStore.invoiced, h.entries, Record.entries]
  invoices := by simp [MemoryStore.invoiced, h.invoices, Record.invoices]
  sound := List.forall_mem_append.2 ⟨h.sound, by simp [Record.Sound]⟩

/-- **Serving a request adds what it put on record to the log**, and nothing if it failed or put
nothing on record. -/
theorem IsLog.served (h : IsLog log s) (hsound : request.Sound LedgerTransaction.Genuine s)
    (hserved : s.serve cancelled request = .ok (answer, s')) :
    IsLog (log ++ (Exchange.record? ⟨request, answer⟩).toList) s' := by
  by_cases hleaves : request.LeavesBooks
  · have hcommit := commit_of_serve hserved
    obtain ⟨hentries, -, -, hinvoices, -⟩ := hcommit.books_eq hleaves
    rw [Exchange.record?_of_leavesBooks hleaves, Option.toList_none, List.append_nil]
    exact h.of_eq (hcommit.unstamped_eq hleaves) hentries hinvoices
  · cases request with
    | appendTransaction ctx t event =>
      rcases posted_of_append hsound.1 (Except.ok.inj hserved) with
        ⟨rfl, -, rfl⟩ | ⟨⟨fault, rfl⟩, rfl⟩
      · exact h.posted hsound
      · simpa [Exchange.record?] using h
    | insertInvoice ctx d event =>
      rcases invoiced_of_insert hsound.nodup hserved with ⟨i, rfl, -, rfl⟩ | ⟨⟨fault, rfl⟩, rfl⟩
      · exact h.invoiced
      · simpa [Exchange.record?] using h
    | _ => exact absurd trivial hleaves

/-- The bookkeeping of genuine transactions. -/
def genuineKeeping : Bookkeeping where
  postable := LedgerTransaction.Genuine
  holds _ := True
  posts _ := LedgerTransaction.genuine_of_post
  kept _ _ _ _ := trivial

end MemoryStore

/-! ## Runs -/

/-- What a transcript put on record, in order. -/
def records {ι : Type} (lines : List (Option ι × Exchange)) : List Record :=
  lines.filterMap (·.2.record?)

theorem records_append_line {ι : Type} {lines : List (Option ι × Exchange)} {who : Option ι}
    {x : Exchange} : records (lines ++ [(who, x)]) = records lines ++ x.record?.toList := by
  rw [records, List.filterMap_append, records]
  cases hx : x.record? <;> simp [hx]

/-- In lists that share no item, nor hold one twice, an item has one place. -/
theorem existsUnique_place {α β : Type} {lists : List α} {items : α → List β} {b : β}
    (hnodup : (lists.flatMap items).Nodup) (hb : b ∈ lists.flatMap items) :
    ∃! place : Nat, ∃ a, lists[place]? = some a ∧ b ∈ items a := by
  have hdisjoint := List.pairwise_iff_getElem.1 (List.nodup_flatMap.1 hnodup).2
  obtain ⟨a, ha, hba⟩ := List.mem_flatMap.1 hb
  obtain ⟨place, hplace, rfl⟩ := List.mem_iff_getElem.1 ha
  refine ⟨place, ⟨_, List.getElem?_eq_getElem hplace, hba⟩, ?_⟩
  rintro other ⟨a', ha', hba'⟩
  obtain ⟨hother, rfl⟩ := List.getElem?_eq_some_iff.1 ha'
  rcases Nat.lt_trichotomy other place with hlt | heq | hlt
  · exact absurd hba (hdisjoint other place hother hplace hlt hba')
  · exact heq
  · exact absurd hba' (hdisjoint place other hplace hother hlt hba)

namespace System

variable {ι : Type} [DecidableEq ι] {e : ι → Surroundings} {policy : ι → InvoicingPolicy}
  {call : ι → Operation} {σ : System ι Bool} {lines : List (Option ι × Exchange)}

/-- A system of calls that starts from the empty store. -/
abbrev calling (policy : ι → InvoicingPolicy) (call : ι → Operation) : System ι Bool :=
  ⟨.empty, fun i => (call i).verdict (policy i)⟩

/-- Calls of genuine transactions keep to the discipline of their bookkeeping. -/
theorem calling_disciplined (hdistinct : ∀ i, (e i).Distinct)
    (hposts : ∀ i, (call i).Posts LedgerTransaction.Genuine)
    (run : Run e (·.Direct LedgerTransaction.Genuine) (calling policy call) σ) :
    σ.Disciplined MemoryStore.genuineKeeping.discipline e fun _ => Whatever := by
  have hinv : MemoryStore.genuineKeeping.discipline.inv .empty :=
    ⟨MemoryStore.filed_empty, trivial⟩
  have hstart : (calling policy call).Disciplined MemoryStore.genuineKeeping.discipline e
      fun _ => Whatever :=
    { inv := hinv
      meets := fun i => Operation.meets_verdict (hdistinct i) (hposts i) hinv }
  exact (run.disciplined (fun _ h _ _ => MemoryStore.sound_of_direct h) hstart).1

/-- **What is on record is the log of the store**, after every step of a run: a step that serves a
request adds what it put on record, and no other step adds anything. -/
theorem Transcript.isLog
    (h : Transcript e (·.Direct LedgerTransaction.Genuine) (calling policy call) lines σ)
    (hdistinct : ∀ i, (e i).Distinct) (hposts : ∀ i, (call i).Posts LedgerTransaction.Genuine) :
    MemoryStore.IsLog (records lines) σ.store := by
  induction h with
  | begin => exact MemoryStore.isLog_empty
  | @client lines σ x p s before i taken ih =>
    rcases taken.store with ⟨rfl, rfl⟩ | ⟨request, next, b, answer, rfl, hrest, -, -, hserved⟩
    · simpa using ih
    · -- the client may make the request, because it keeps to the discipline
      have hdisciplined := calling_disciplined hdistinct hposts before.run
      have hmeets := hdisciplined.meets i
      rw [hrest] at hmeets
      have hsound := (hmeets σ.store hdisciplined.inv (.refl _)).1
      exact records_append_line ▸ ih.served hsound hserved
  | other before allowed served ih =>
    exact records_append_line ▸ ih.served (MemoryStore.sound_of_direct allowed) served

/-- The outbox of a run is the log of its commits. -/
structure CommitLog (call : ι → Operation) (lines : List (Option ι × Exchange))
    (σ : System ι Bool) : Prop where
  /-- The events are those of the records, in their order, and the stored entries and invoices are
  those that the records brought in. -/
  log : MemoryStore.IsLog (records lines) σ.store
  /-- Every stored entry is listed by one event. -/
  once : ∀ id ∈ σ.store.entries.keys,
    ∃! place : Nat, ∃ r, (records lines)[place]? = some r ∧ id ∈ r.entryIds
  /-- A call that failed has nothing on record. -/
  failed : ∀ i, σ.rest i = .done false → ∀ x ∈ exchangesOf i lines, x.record? = none
  /-- A call that only reads, or writes accounts or stamps, has nothing on record. -/
  unrecorded : ∀ i, (call i).Unrecorded → ∀ x ∈ exchangesOf i lines, x.record? = none

/-- **The outbox is exactly the commit log**, in every run of operations from the empty store. -/
theorem Transcript.commitLog
    (h : Transcript e (·.Direct LedgerTransaction.Genuine) (calling policy call) lines σ)
    (hdistinct : ∀ i, (e i).Distinct) (hposts : ∀ i, (call i).Posts LedgerTransaction.Genuine) :
    CommitLog call lines σ := by
  have hlog := h.isLog hdistinct hposts
  have hkeys : σ.store.entries.keys = (records lines).flatMap (·.entryIds) := by
    rw [WriteOnce.keys, hlog.entries, List.map_flatMap]
    congr 1
    funext r
    cases r <;> rfl
  have hnodup := (calling_disciplined hdistinct hposts h.run).inv.1.entries_nodup
  rw [hkeys] at hnodup
  exact
    { log := hlog
      once := fun id hid => existsUnique_place hnodup (hkeys ▸ hid)
      failed := fun i hend => h.nothing_of_bad Operation.endsWell_verdict hend (by decide)
      unrecorded := fun i hreads => h.nothing_of_reads (Operation.reads_verdict hreads) }

/-! ## The first rides -/

/-- Opening an account and charging a ride, the same ride once more, its invoice, and the dispatch
of the events. -/
def firstRides (place : Nat) : Operation :=
  (MemoryStore.firstCalls ++
    [.recordRideCharge Sample.operator
      { account := MemoryStore.firstAccount, ride := " ride-1 ", amount := Sample.rideFare
        description := none },
     .generateInvoice Sample.operator MemoryStore.firstAccount Sample.firstWeekOfMarch .default]
    )[place]?.getD (.drainOutbox Sample.operator 10)

/-- They are made one after another. -/
def firstRidesMade : Quiet × (Nat → Plan Bool) :=
  MemoryStore.beforeAll.play (fun place => (firstRides place).verdict .default)
    ((List.range 5).flatMap fun place => List.replicate 16 place)

/-- The charge and the invoice are in the outbox, the ride that came again is not. -/
theorem commitLog_firstRides : ∃ lines,
    Transcript (fun _ => .still MemoryStore.beforeAll.now) (·.Direct LedgerTransaction.Genuine)
      (calling (fun _ => .default) firstRides) lines ⟨firstRidesMade.1.store, firstRidesMade.2⟩ ∧
    CommitLog firstRides lines ⟨firstRidesMade.1.store, firstRidesMade.2⟩ ∧
    firstRidesMade.1.store.outbox.map (·.eventType) = [.ledgerEntryCreated, .invoiceGenerated] ∧
    (match firstRidesMade.2 1, firstRidesMade.2 2, firstRidesMade.2 4 with
      | .done true, .done false, .done true => true
      | _, _, _ => false) = true := by
  have hrun : Run (fun _ => .still MemoryStore.beforeAll.now)
      (·.Direct LedgerTransaction.Genuine) (calling (fun _ => .default) firstRides)
      ⟨firstRidesMade.1.store, firstRidesMade.2⟩ :=
    MemoryStore.beforeAll.run_play (fun place => (firstRides place).verdict .default) _
  obtain ⟨lines, hlines⟩ := run_iff_transcript.1 hrun
  have hposts (place : Nat) : (firstRides place).Posts LedgerTransaction.Genuine := by
    rcases place with _ | _ | _ | _ | place <;> trivial
  exact ⟨lines, hlines, hlines.commitLog (fun _ => Surroundings.any_distinct) hposts,
    by decide +kernel, by decide +kernel⟩

end System

end RideLedger
