import RideLedger.Proofs.History
import RideLedger.Proofs.Requests

/-!
# Cancellation — what a cancelled request can still write

A request that was cancelled before it began should write nothing. The requests that open and
update accounts, post and bill look at the cancellation before they write, and refuse then
(`MemoryStore.serve_of_cancelled`). The stamp of an event does not look at it. So of all operations
one alone still changes the store when it is cancelled, the one that stamps an event it is given:
the dispatch of queued events stamps too, but looks at the cancellation itself before each of them.
That is everything: a cancelled call leads to another store exactly if it is that one and the store
stamps the event (`Operation.cancelled_leadsTo_iff`).
-/

namespace RideLedger

variable {ι α : Type} {e : Surroundings} {s s' : MemoryStore}

/-- Surroundings of a request that was cancelled before it began. -/
def Surroundings.Cancelled (e : Surroundings) : Prop := ∀ b, e.token b ↔ b = true

/-! ## Cancelled requests -/

/-- A request that stamps an event. -/
def StoreRequest.Stamps : StoreRequest → Prop
  | .markDispatched .. => True
  | _ => False

/-- **A cancelled request leaves the store as it is**, unless it is a stamp. -/
theorem MemoryStore.serve_of_cancelled {request : StoreRequest} {answer : request.Answer}
    (hstamps : ¬request.Stamps) (h : s.serve true request = .ok (answer, s')) : s' = s := by
  cases commit_of_serve h with
  | unchanged => rfl
  | opened htenant hlive => cases hlive
  | updated htenant hlive => cases hlive
  | posted hadmits => cases hadmits.live
  | halfPosted hadmits => cases hadmits.live
  | invoiced => exact (insertInvoice_of_cancelled h).2
  | halfInvoiced => exact (insertInvoice_of_cancelled h).2
  | stamped => exact absurd trivial hstamps

/-! ## Plans that stamp nothing -/

namespace Plan

/-- A plan that stamps nothing once its request is cancelled. -/
def Inert : Plan α → Prop
  | .done _ => True
  | .fail _ => True
  | .now next => ∀ t, (next t).Inert
  | .fresh _ next => ∀ ids, (next ids).Inert
  | .cancelled next => (next true).Inert
  | .ask request next => ¬request.Stamps ∧ ∀ answer, (next answer).Inert
  | .write _ next => ∀ result, (next result).Inert

/-- What makes no stamp whether cancelled or not makes none when it is. -/
theorem Asks.inert {p : Plan α} (h : p.Asks (¬·.Stamps)) : p.Inert := by
  induction p with
  | done a => trivial
  | fail fault => trivial
  | now next ih => exact fun t => ih t (h t)
  | fresh count next ih => exact fun ids => ih ids (h ids)
  | cancelled next ih => exact ih true (h true)
  | ask request next ih => exact ⟨h.1, fun answer => ih answer (h.2 answer)⟩
  | write piece next ih => exact fun result => ih result (h result)

/-- **A step of such a plan leaves the store as it is**, and the plan goes on as one. -/
theorem Inert.step {p p' : Plan α} (he : e.Cancelled) (hp : p.Inert) (taken : Step e p s p' s') :
    s' = s ∧ p'.Inert := by
  cases taken with
  | now => exact ⟨rfl, hp _⟩
  | fresh => exact ⟨rfl, hp _⟩
  | cancelled read =>
    obtain rfl := (he _).1 read
    exact ⟨rfl, hp⟩
  | ask read served =>
    obtain rfl := (he _).1 read
    exact ⟨MemoryStore.serve_of_cancelled hp.1 served, hp.2 _⟩
  | overrun => exact ⟨rfl, trivial⟩
  | write => exact ⟨rfl, hp _⟩

end Plan

/-- **Cancelled clients whose plans stamp nothing leave the store as it is**, any number of them,
side by side. -/
theorem System.Run.inert [DecidableEq ι] {e : ι → Surroundings} {σ σ' : System ι α}
    (run : System.Run e (fun _ => False) σ σ') (he : ∀ i, (e i).Cancelled)
    (h : ∀ i, (σ.rest i).Inert) : σ'.store = σ.store := by
  suffices hboth : σ'.store = σ.store ∧ ∀ i, (σ'.rest i).Inert from hboth.1
  refine run.keeps (P := fun τ => τ.store = σ.store ∧ ∀ i, (τ.rest i).Inert) ?_ ⟨rfl, h⟩
  rintro τ τ' ⟨hstore, hinert⟩ taken
  cases taken with
  | @client p s i taken =>
    obtain ⟨hs, hp⟩ := (hinert i).step (he i) taken
    refine ⟨hs.trans hstore, ?_⟩
    rw [Function.forall_update_iff τ.rest fun _ q => q.Inert]
    exact ⟨hp, fun j _ => hinert j⟩
  | other allowed => exact allowed.elim

/-! ## Operations -/

namespace Operation

variable {policy : InvoicingPolicy} {call : Operation} {ctx : RequestContext} {event : EventId}

/-- The dispatch of queued events stops before its first event. -/
theorem inert_drainOutbox {limit : UInt32} :
    ((Operation.drainOutbox ctx limit).plan policy).Inert := by
  refine ⟨id, fun answer => ?_⟩
  cases answer with
  | error fault => trivial
  | ok events => cases events <;> trivial

/-- **Other operations than the stamp of an event stamp nothing once they are cancelled.** -/
theorem inert (h : ∀ ctx event, call ≠ .markDispatched ctx event) : (call.plan policy).Inert := by
  by_cases hstamps : call.Stamps
  · cases call with
    | markDispatched ctx event => exact absurd rfl (h ctx event)
    | drainOutbox => exact inert_drainOutbox
    | _ => exact hstamps.elim
  · refine (asks (fun request hplain => ?_) (fun _ _ _ _ => id)
      fun hcall => absurd hcall hstamps).inert
    cases request with
    | markDispatched => exact hplain.elim
    | _ => exact id

/-- A call that runs alone in some surroundings, completely or in part, leads from one store to
another. -/
def LeadsTo (call : Operation) (policy : InvoicingPolicy) (e : Surroundings)
    (s s' : MemoryStore) : Prop :=
  ∃ rest, System.Run (fun _ : Unit => e) (fun _ => False) ⟨s, fun _ => call.plan policy⟩ ⟨s', rest⟩

/-- What is left to do of the stamp of an event, and the store by then. -/
inductive Stamping (policy : InvoicingPolicy) (ctx : RequestContext) (event : EventId)
    (e : Surroundings) (s : MemoryStore) : Plan Unit → MemoryStore → Prop
  | begun : Stamping policy ctx event e s ((Operation.markDispatched ctx event).plan policy) s
  | timed {at_ next} (shown : e.clock at_) (last : ∀ answer, ∃ a, next answer = .done a) :
      Stamping policy ctx event e s (.ask (.markDispatched ctx event at_) next) s
  | ended {at_ a} (shown : e.clock at_) :
      Stamping policy ctx event e s (.done a) (s.markDispatched ctx event at_).2

/-- A step of the stamp of an event. -/
theorem Stamping.step {p p' : Plan Unit} {t t' : MemoryStore}
    (h : Stamping policy ctx event e s p t) (taken : Plan.Step e p t p' t') :
    Stamping policy ctx event e s p' t' := by
  cases h with
  | begun =>
    cases taken with
    | now shown =>
      refine .timed shown fun answer => ?_
      cases answer <;> exact ⟨(), rfl⟩
  | timed shown last =>
    cases taken with
    | @ask _ _ b _ answer _ read served =>
      obtain ⟨a, ha⟩ := last answer
      have hstore : (s.markDispatched ctx event _).2 = t' :=
        congrArg Prod.snd (Except.ok.inj served)
      rw [ha, ← hstore]
      exact .ended shown
    | overrun read served => cases served
  | ended => cases taken

/-- The stamp of an event comes to its end, cancelled or not. -/
theorem exists_run_markDispatched {b : Bool} {at_ : Instant} (hread : e.token b)
    (shown : e.clock at_) (hstamped : s.markDispatched ctx event at_ = (.ok (), s')) :
    ∃ rest, System.Run (fun _ : Unit => e) (fun _ => False)
      ⟨s, fun _ => (Operation.markDispatched ctx event).plan policy⟩ ⟨s', rest⟩ ∧
      rest () = .done () := by
  have hserved : s.serve b (.markDispatched ctx event at_) = .ok (.ok (), s') :=
    congrArg Except.ok hstamped
  refine ⟨_, .head (.client () (.now shown)) (.single (.client () (p := .done ()) ?_)), rfl⟩
  exact .ask hread hserved

/-- **A cancelled request writes nothing but a stamp.** A cancelled call leads to another store
exactly if it is the stamp of an event and the store, at some instant, stamps it. -/
theorem cancelled_leadsTo_iff (he : e.Cancelled) (hne : s' ≠ s) :
    call.LeadsTo policy e s s' ↔ ∃ ctx event at_, call = .markDispatched ctx event ∧
      e.clock at_ ∧ s.markDispatched ctx event at_ = (.ok (), s') := by
  constructor
  · rintro ⟨rest, run⟩
    by_cases hcall : ∃ ctx event, call = .markDispatched ctx event
    · obtain ⟨ctx, event, rfl⟩ := hcall
      have hend : Stamping policy ctx event e s (rest ()) s' := by
        refine run.keeps (P := fun σ => Stamping policy ctx event e s (σ.rest ()) σ.store) ?_ .begun
        rintro σ σ' hσ (⟨i, taken⟩ | ⟨allowed, -⟩)
        · simpa using hσ.step taken
        · exact allowed.elim
      generalize rest () = left at hend
      cases hend with
      | begun => exact absurd rfl hne
      | timed => exact absurd rfl hne
      | @ended at_ _ shown =>
        refine ⟨ctx, event, at_, rfl, shown, ?_⟩
        rw [MemoryStore.markDispatched] at hne ⊢
        split at hne
        · exact absurd rfl hne
        · rfl
    · refine absurd (run.inert (fun _ => he) fun _ => inert fun ctx event heq => ?_) hne
      exact hcall ⟨ctx, event, heq⟩
  · rintro ⟨ctx, event, at_, rfl, shown, hstamped⟩
    obtain ⟨rest, run, -⟩ := exists_run_markDispatched ((he true).2 rfl) shown hstamped
    exact ⟨rest, run⟩

/-! ## The stamp of the first ride's event -/

/-- Surroundings at an instant of a request that was cancelled before it began. -/
def cancelledAt (now : Instant) : Surroundings where
  clock t := t = now
  token b := b = true
  draw := Surroundings.any.draw

/-- The event of the first ride. -/
def rideEvent : EventId := (afterFirstRide.store.outbox.map (·.id)).headD ⟨.ofNat 0⟩

/-- The store once the event of the first ride is stamped. -/
def stampedRide : MemoryStore :=
  (afterFirstRide.store.markDispatched Sample.operator rideEvent Sample.epoch).2

/-- The stamp of the ride's event finds the event. -/
theorem markDispatched_rideEvent :
    afterFirstRide.store.markDispatched Sample.operator rideEvent Sample.epoch =
      (.ok (), stampedRide) :=
  Prod.ext (by decide +kernel) rfl

/-- The event waited before, and no longer does. -/
theorem stampedRide_ne : stampedRide ≠ afterFirstRide.store := by
  have hwaited : MemoryStore.stampAt? afterFirstRide.store.outbox 0 = none := by decide +kernel
  have hstamped : MemoryStore.stampAt? stampedRide.outbox 0 = some Sample.epoch := by
    decide +kernel
  intro heq
  rw [heq, hwaited] at hstamped
  cases hstamped

/-- A ride was charged, and a cancelled stamp of its event leads to another store. -/
theorem cancelled_leadsTo_stampedRide :
    (cancelledAt Sample.epoch).Cancelled ∧ stampedRide ≠ afterFirstRide.store ∧
    (Operation.markDispatched Sample.operator rideEvent).LeadsTo .default
      (cancelledAt Sample.epoch) afterFirstRide.store stampedRide := by
  have hcancelled : (cancelledAt Sample.epoch).Cancelled := fun _ => Iff.rfl
  refine ⟨hcancelled, stampedRide_ne, (cancelled_leadsTo_iff hcancelled stampedRide_ne).2 ?_⟩
  exact ⟨_, _, Sample.epoch, rfl, rfl, markDispatched_rideEvent⟩

/-- A cancelled stamp, run to its end from a reachable store, writes. -/
theorem stamps_though_cancelled :
    afterFirstRide.store.Reachable (fun _ => False) ∧ (cancelledAt Sample.epoch).Cancelled ∧
    stampedRide ≠ afterFirstRide.store ∧
    ∃ rest, System.Run (fun _ : Unit => cancelledAt Sample.epoch) (fun _ => False)
      ⟨afterFirstRide.store,
        fun _ => (Operation.markDispatched Sample.operator rideEvent).plan .default⟩
      ⟨stampedRide, rest⟩ ∧
      rest () = .done () := by
  have hreachable : afterFirstRide.store.Reachable fun _ => False :=
    MemoryStore.reachable_storeAfter (by simp [MemoryStore.firstCalls, Operation.Posts])
  refine ⟨hreachable, fun _ => Iff.rfl, stampedRide_ne, ?_⟩
  exact exists_run_markDispatched rfl rfl markDispatched_rideEvent

end Operation

end RideLedger
