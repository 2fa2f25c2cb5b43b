import RideLedger.Proofs.Alone
import RideLedger.Proofs.History

/-!
# Dispatch — no event is dropped, and none overtakes another

The dispatch of queued events writes each event as a line, passes the line on, and stamps the event
only then. Any piece that it writes may fail, and it ends with the first one that does. So after it
the events with a new stamp are the first ones that waited, each of them was written and passed on
before its stamp, and all others still wait in their order (`Outlet.Drained`). Where nothing fails,
dispatching again and again until nothing is left emits every waiting event once, in order
(`Outlet.Emptied.emittedAll`).

The outlet is any: what a piece comes to may depend on all that was written before
(`Outlet.write`). What was done is kept in a log beside the store (`Desk`), in which the order of
writes and stamps can be read.
-/

namespace RideLedger

variable {ω α β ε : Type}

/-! ## Desks -/

/-- Somewhere to write to: what a piece comes to and what it leaves behind. It tells the time,
too. -/
structure Outlet (ω : Type) where
  write : OutputPiece → ω → Except String Unit × ω
  clock : ω → Instant

/-- What a job did that shows outside of it. -/
inductive Deed
  | wrote (piece : OutputPiece) (result : Except String Unit)
  | asked (request : StoreRequest)

/-- A job's surroundings: its outlet, the store, and the log of what it did. -/
structure Desk (ω : Type) where
  out : ω
  supply : Supply
  store : MemoryStore
  log : List Deed

/-- The desk after a piece was written, or could not be. -/
def Desk.wrote (w : Desk ω) (piece : OutputPiece) (result : Except String Unit) (out : ω) :
    Desk ω :=
  { w with out := out, log := w.log ++ [.wrote piece result] }

namespace Outlet

/-- A desk as a world. Nobody cancels, and nobody else uses the store. -/
def world (o : Outlet ω) : Plan.World (Desk ω) where
  now w := o.clock w.out
  fresh count w := (w.supply.ordered, { w with supply := w.supply.advance count })
  cancelled _ := false
  serve request w := do
    let (answer, store) ← w.store.serve false request
    return (answer, { w with store := store, log := w.log ++ [.asked request] })
  write piece w :=
    let (result, out) := o.write piece w.out
    (result, { w with out := out, log := w.log ++ [.wrote piece result] })

/-- A computation that is run at a desk comes to a result and another state of the desk. -/
def Runs (o : Outlet ω) (m : ExceptT ε Plan α) (w : Desk ω) (r : Except ε α) (w' : Desk ω) : Prop :=
  m.run.run o.world w = .ok (r, w')

section Rules

variable {o : Outlet ω} {m : ExceptT ε Plan α} {f : α → ExceptT ε Plan β} {w w₁ w' : Desk ω}

theorem runs_bind {a : α} {r : Except ε β} (hm : o.Runs m w (.ok a) w₁)
    (hf : o.Runs (f a) w₁ r w') : o.Runs (m >>= f) w r w' :=
  (run_bind_of_ok hm).trans hf

theorem runs_bind_error {x : ε} (hm : o.Runs m w (.error x) w') :
    o.Runs (m >>= f) w (.error x) w' :=
  run_bind_of_error hm

theorem runs_pure {a : α} : o.Runs (pure a : ExceptT ε Plan α) w (.ok a) w := rfl

end Rules

section Steps

variable {o : Outlet ω} {w : Desk ω} {piece : OutputPiece} {wrap : String → JobError} {out : ω}
  {ctx : RequestContext} {id : EventId} {s : MemoryStore}

theorem runs_write (h : o.write piece w.out = (.ok (), out)) :
    o.Runs (Job.write piece wrap) w (.ok ()) (w.wrote piece (.ok ()) out) := by
  change (Plan.write piece .done >>= fun r => _).run o.world w = _
  rw [Plan.run_bind]
  simp only [Plan.run, world, h, ok_bind]
  rfl

theorem runs_write_error {reason : String} (h : o.write piece w.out = (.error reason, out)) :
    o.Runs (Job.write piece wrap) w (.error (wrap reason))
      (w.wrote piece (.error reason) out) := by
  change (Plan.write piece .done >>= fun r => _).run o.world w = _
  rw [Plan.run_bind]
  simp only [Plan.run, world, h, ok_bind]
  rfl

/-- Nobody cancels. -/
theorem runs_cancelled : o.Runs (Job.ofService Service.cancelled) w (.ok false) w := rfl

/-- The events that wait, as many as are asked for. -/
theorem runs_pending {limit : UInt32} :
    o.Runs (Job.ofService (Engine.pendingEvents ctx limit)) w
      (.ok (w.store.pendingEvents ctx limit))
      { w with log := w.log ++ [.asked (.pendingEvents ctx limit)] } := rfl

/-- The stamp of an event that is there, with the time on the clock. -/
theorem runs_stamp (h : w.store.markDispatched ctx id (o.clock w.out) = (.ok (), s)) :
    o.Runs (Job.ofService (Engine.markDispatched ctx id)) w (.ok ())
      { w with store := s
               log := w.log ++ [.asked (.markDispatched ctx id (o.clock w.out))] } := by
  have hserve : w.store.serve false (.markDispatched ctx id (o.clock w.out)) =
      .ok (.ok (), s) := congrArg Except.ok h
  change (Plan.now fun t => (Plan.ask (.markDispatched ctx id t) fun r => _)).run o.world w = _
  simp only [Plan.run, world, hserve, ok_bind]
  rfl

end Steps

end Outlet

/-! ## Stamps -/

/-- Of items with different keys, those without the keys of the first ones are the others. -/
theorem filter_not_mem_take {κ : Type} [DecidableEq κ] {key : α → κ} {l : List α}
    (hnodup : (l.map key).Nodup) (k : Nat) :
    l.filter (fun a => key a ∉ (l.take k).map key) = l.drop k := by
  have hsplit : ((l.take k).map key ++ (l.drop k).map key).Nodup := by
    rwa [← List.map_append, List.take_append_drop]
  have hdisjoint := (List.nodup_append.1 hsplit).2.2
  have hnone : (l.take k).filter (fun a => key a ∉ (l.take k).map key) = [] := by
    refine List.filter_eq_nil_iff.2 fun a ha => ?_
    simpa using List.mem_map_of_mem ha
  have hall : (l.drop k).filter (fun a => key a ∉ (l.take k).map key) = l.drop k := by
    refine List.filter_eq_self.2 fun a ha => decide_eq_true fun hmem => ?_
    exact hdisjoint _ hmem _ (List.mem_map_of_mem ha) rfl
  calc l.filter (fun a => key a ∉ (l.take k).map key)
      = (l.take k ++ l.drop k).filter (fun a => key a ∉ (l.take k).map key) := by
        rw [List.take_append_drop]
    _ = l.drop k := by rw [List.filter_append, hnone, hall, List.nil_append]

namespace OutboxEvent

variable {e : OutboxEvent} {at_ : EventId → Instant} {ids : List EventId}

/-- The event, with a stamp if it is one of some. -/
def stamped (e : OutboxEvent) (at_ : EventId → Instant) (ids : List EventId) : OutboxEvent :=
  if e.id ∈ ids then e.dispatch (at_ e.id) else e

theorem stamped_of_mem (h : e.id ∈ ids) : e.stamped at_ ids = e.dispatch (at_ e.id) := if_pos h

theorem stamped_of_not_mem (h : e.id ∉ ids) : e.stamped at_ ids = e := if_neg h

@[simp] theorem id_stamped : (e.stamped at_ ids).id = e.id := by
  unfold stamped
  split <;> rfl

@[simp] theorem tenant_stamped : (e.stamped at_ ids).tenant = e.tenant := by
  unfold stamped
  split <;> rfl

/-- Events of which none is one of them stay as they are. -/
theorem map_stamped_of_not_mem {l : List OutboxEvent} (h : ∀ e ∈ l, e.id ∉ ids) :
    l.map (·.stamped at_ ids) = l :=
  (List.map_congr_left fun e he => stamped_of_not_mem (h e he)).trans (List.map_id l)

/-- An event still waits if it waited and has no stamp. -/
@[simp] theorem isPending_stamped :
    (e.stamped at_ ids).isPending = (e.isPending && decide (e.id ∉ ids)) := by
  by_cases h : e.id ∈ ids
  · simp [stamped_of_mem h, h, isPending, dispatch]
  · simp [stamped_of_not_mem h, h]

end OutboxEvent

namespace MemoryStore

variable {s : MemoryStore} {tenant other : TenantId} {ids : List EventId} {id : EventId}
  {at_ : EventId → Instant} {t : Instant} {event : OutboxEvent}

/-- A tenant's events that wait for their dispatch. -/
def waiting (s : MemoryStore) (tenant : TenantId) : List OutboxEvent :=
  s.outbox.filter fun e => e.tenant = tenant && e.isPending

theorem mem_waiting : event ∈ s.waiting tenant ↔
    event ∈ s.outbox ∧ event.tenant = tenant ∧ event.isPending = true := by
  simp only [waiting, List.mem_filter, Bool.and_eq_true, decide_eq_true_eq]

/-- The store with stamps on some events, and with nothing else changed. -/
def stamped (s : MemoryStore) (at_ : EventId → Instant) (ids : List EventId) : MemoryStore :=
  { s with outbox := s.outbox.map (·.stamped at_ ids) }

@[simp] theorem stamped_nil : s.stamped at_ [] = s := by
  simp [stamped, OutboxEvent.stamped]

/-- Events keep their identifiers and their places. -/
@[simp] theorem ids_stamped : (s.stamped at_ ids).outbox.map (·.id) = s.outbox.map (·.id) := by
  rw [stamped, List.map_map]
  exact List.map_congr_left fun e _ => OutboxEvent.id_stamped

/-- Stamps on some events, and then on others, are stamps on all of them. -/
theorem stamped_stamped {at' : EventId → Instant} {ids' : List EventId}
    (hother : ∀ id ∈ ids, id ∉ ids') :
    (s.stamped at_ ids).stamped at' ids' =
      s.stamped (fun id => if id ∈ ids then at_ id else at' id) (ids ++ ids') := by
  simp only [stamped, List.map_map]
  congr 1
  refine List.map_congr_left fun e _ => ?_
  rw [Function.comp_apply]
  by_cases hfirst : e.id ∈ ids
  · rw [OutboxEvent.stamped_of_mem hfirst,
      OutboxEvent.stamped_of_mem (List.mem_append_left _ hfirst), if_pos hfirst]
    exact OutboxEvent.stamped_of_not_mem (hother e.id hfirst)
  · rw [OutboxEvent.stamped_of_not_mem hfirst]
    simp [OutboxEvent.stamped, hfirst]

/-- **An event that is there is found and stamped**, if no two have one identifier: by induction on
the outbox. -/
theorem stampEvent_eq {outbox : List OutboxEvent} (hids : (outbox.map (·.id)).Nodup)
    (hmem : event ∈ outbox) (htenant : event.tenant = tenant) :
    stampEvent tenant event.id t outbox =
      some (outbox.map (·.stamped (fun _ => t) [event.id])) := by
  induction outbox with
  | nil => cases hmem
  | cons e rest ih =>
    rw [List.map_cons, List.nodup_cons] at hids
    rw [List.map_cons, stampEvent]
    rcases List.mem_cons.1 hmem with rfl | hmem
    · have hrest : rest.map (·.stamped (fun _ => t) [event.id]) = rest := by
        refine OutboxEvent.map_stamped_of_not_mem fun e he hmem => ?_
        exact hids.1 (List.mem_map.2 ⟨e, he, List.mem_singleton.1 hmem⟩)
      rw [if_pos ⟨rfl, htenant⟩, hrest, OutboxEvent.stamped_of_mem (List.mem_singleton_self _)]
    · have hne : e.id ≠ event.id := fun heq => hids.1 (List.mem_map.2 ⟨event, hmem, heq.symm⟩)
      rw [if_neg fun h => hne h.1, ih hids.2 hmem,
        OutboxEvent.stamped_of_not_mem (mt List.mem_singleton.1 hne)]
      rfl

theorem markDispatched_eq {ctx : RequestContext} (hids : (s.outbox.map (·.id)).Nodup)
    (hmem : event ∈ s.outbox) (htenant : event.tenant = ctx.tenant) :
    s.markDispatched ctx event.id t = (.ok (), s.stamped (fun _ => t) [event.id]) := by
  rw [markDispatched, stampEvent_eq hids hmem htenant]
  rfl

/-- What waits once some events are stamped. -/
theorem waiting_stamped :
    (s.stamped at_ ids).waiting tenant = (s.waiting tenant).filter fun e => e.id ∉ ids := by
  rw [waiting, waiting, stamped, List.filter_map, List.filter_filter]
  refine (OutboxEvent.map_stamped_of_not_mem fun e he => ?_).trans ?_
  · have hwaits := (List.mem_filter.1 he).2
    simp only [Function.comp_apply, OutboxEvent.isPending_stamped, Bool.and_eq_true,
      decide_eq_true_eq] at hwaits
    exact hwaits.2.2
  · refine List.filter_congr fun e _ => ?_
    simp only [Function.comp_apply, OutboxEvent.isPending_stamped, OutboxEvent.tenant_stamped]
    rw [← Bool.and_assoc]
    exact Bool.and_comm ..

/-- **Stamping the first events that wait leaves the others waiting**, in their order. -/
theorem waiting_stamped_take (hids : (s.outbox.map (·.id)).Nodup) (k : Nat) :
    (s.stamped at_ (((s.waiting tenant).take k).map (·.id))).waiting tenant =
      (s.waiting tenant).drop k := by
  rw [waiting_stamped]
  exact filter_not_mem_take (nodup_filter_key hids _) k

/-- A stamp on one tenant's events does not show among those of another one. -/
theorem filter_stamped_other (hids : (s.outbox.map (·.id)).Nodup)
    (hown : ∀ id ∈ ids, ∃ e ∈ s.outbox, e.id = id ∧ e.tenant = tenant) (hother : other ≠ tenant) :
    (s.stamped at_ ids).outbox.filter (·.tenant = other) =
      s.outbox.filter (·.tenant = other) := by
  rw [stamped, List.filter_map]
  have hfilter : s.outbox.filter ((fun e => decide (e.tenant = other)) ∘ (·.stamped at_ ids)) =
      s.outbox.filter (·.tenant = other) :=
    List.filter_congr fun e _ => by simp
  rw [hfilter]
  refine OutboxEvent.map_stamped_of_not_mem fun e he hid => hother ?_
  obtain ⟨hmem, htenant⟩ := List.mem_filter.1 he
  -- the event with this identifier is the tenant's
  obtain ⟨own, hownMem, hownId, hownTenant⟩ := hown _ hid
  obtain rfl : own = e := List.inj_on_of_nodup_map hids hownMem hmem hownId
  exact (of_decide_eq_true htenant).symm.trans hownTenant

end MemoryStore

/-! ## One event -/

/-- What is done for an event that is passed on and stamped. -/
def passedOn (ctx : RequestContext) (event : OutboxEvent) (t : Instant) : List Deed :=
  [.wrote (.text event.line) (.ok ()), .wrote .lineEnd (.ok ()), .wrote .flush (.ok ()),
    .asked (.markDispatched ctx event.id t)]

/-- What is done for an event that is not: the first piece that cannot be written ends it, and
gives the error. -/
inductive BreaksOff (event : OutboxEvent) : List Deed → JobError → Prop
  | text {reason} :
      BreaksOff event [.wrote (.text event.line) (.error reason)] (.serialization reason)
  | lineEnd {reason} :
      BreaksOff event [.wrote (.text event.line) (.ok ()), .wrote .lineEnd (.error reason)]
        (.output reason)
  | flush {reason} :
      BreaksOff event [.wrote (.text event.line) (.ok ()), .wrote .lineEnd (.ok ()),
        .wrote .flush (.error reason)] (.output reason)

namespace Outlet

variable {o : Outlet ω} {w w' : Desk ω} {ctx : RequestContext} {event : OutboxEvent}

/-- An outlet that may fail. -/
def Fails (o : Outlet ω) : Prop :=
  ∃ piece out reason out', o.write piece out = (.error reason, out')

/-- **One event is passed on and stamped, or it breaks off and is not.** -/
theorem runs_dispatch (hids : (w.store.outbox.map (·.id)).Nodup) (hmem : event ∈ w.store.outbox)
    (htenant : event.tenant = ctx.tenant) :
    (∃ t w', o.Runs (Job.dispatch ctx event) w (.ok ()) w' ∧
      w'.store = w.store.stamped (fun _ => t) [event.id] ∧
      w'.log = w.log ++ passedOn ctx event t) ∨
    ∃ x deeds w', o.Runs (Job.dispatch ctx event) w (.error x) w' ∧ o.Fails ∧
      w'.store = w.store ∧ BreaksOff event deeds x ∧ w'.log = w.log ++ deeds := by
  rcases htext : o.write (.text event.line) w.out with ⟨reason | _, out₁⟩
  · exact .inr ⟨_, _, _, runs_bind_error (runs_write_error htext), ⟨_, _, _, _, htext⟩, rfl,
      .text, rfl⟩
  rcases hend : o.write .lineEnd out₁ with ⟨reason | _, out₂⟩
  · exact .inr ⟨_, _, _, runs_bind (runs_write htext) (runs_bind_error (runs_write_error hend)),
      ⟨_, _, _, _, hend⟩, rfl, .lineEnd, by simp [Desk.wrote]⟩
  rcases hflush : o.write .flush out₂ with ⟨reason | _, out₃⟩
  · exact .inr ⟨_, _, _, runs_bind (runs_write htext) (runs_bind (runs_write hend)
      (runs_bind_error (runs_write_error hflush))), ⟨_, _, _, _, hflush⟩, rfl, .flush,
      by simp [Desk.wrote]⟩
  -- with all three written, the event is still where it was, and gets its stamp
  have hstamp : w.store.markDispatched ctx event.id (o.clock out₃) =
      (.ok (), w.store.stamped (fun _ => o.clock out₃) [event.id]) :=
    MemoryStore.markDispatched_eq hids hmem htenant
  exact .inl ⟨o.clock out₃, _, runs_bind (runs_write htext) (runs_bind (runs_write hend)
    (runs_bind (runs_write hflush) (runs_stamp hstamp))), rfl, by simp [Desk.wrote, passedOn]⟩

/-! ## Any number of events -/

/-- Events that were passed on and stamped, one after another. -/
structure Passed (ctx : RequestContext) (at_ : EventId → Instant) (events : List OutboxEvent)
    (w w' : Desk ω) : Prop where
  store : w'.store = w.store.stamped at_ (events.map (·.id))
  log : w'.log = w.log ++ events.flatMap fun e => passedOn ctx e (at_ e.id)

/-- How the dispatch of events ends: all are passed on, or one breaks off and ends it. -/
inductive Ended (o : Outlet ω) (ctx : RequestContext) (at_ : EventId → Instant)
    (events : List OutboxEvent) (w w' : Desk ω) : Except JobError Nat → Prop
  | all (passed : Passed ctx at_ events w w') : Ended o ctx at_ events w w' (.ok events.length)
  | brokeOff {before event after deeds x w₁} (split : events = before ++ event :: after)
      (passed : Passed ctx at_ before w w₁) (fails : o.Fails) (breaks : BreaksOff event deeds x)
      (store : w'.store = w₁.store) (log : w'.log = w₁.log ++ deeds) :
      Ended o ctx at_ events w w' (.error x)

theorem Passed.nil {at_ : EventId → Instant} : Passed ctx at_ [] w w :=
  ⟨by simp, by simp⟩

/-- An event that is passed on comes before the others that are. -/
theorem Passed.cons {w₁ : Desk ω} {at_ : EventId → Instant} {events : List OutboxEvent}
    {t : Instant} (hstore : w₁.store = w.store.stamped (fun _ => t) [event.id])
    (hlog : w₁.log = w.log ++ passedOn ctx event t) (h : Passed ctx at_ events w₁ w')
    (hid : event.id ∉ events.map (·.id)) :
    Passed ctx (fun id => if id ∈ [event.id] then t else at_ id) (event :: events) w w' where
  store := by
    have hother : ∀ id ∈ [event.id], id ∉ events.map (·.id) := by simpa using hid
    rw [h.store, hstore, MemoryStore.stamped_stamped hother]
    rfl
  log := by
    have hothers : events.flatMap (fun e => passedOn ctx e (at_ e.id)) =
        events.flatMap fun e => passedOn ctx e (if e.id ∈ [event.id] then t else at_ e.id) := by
      refine List.flatMap_congr fun e he => ?_
      have hne : e.id ∉ [event.id] := fun hmem =>
        hid (List.mem_map.2 ⟨e, he, List.mem_singleton.1 hmem⟩)
      rw [if_neg hne]
    rw [h.log, hlog, hothers, List.flatMap_cons, if_pos (List.mem_singleton_self _),
      List.append_assoc]

/-- **The dispatch of events comes to an end, and passes on the first of them**: by induction on
the events, of which the store still has those to come, as they were. -/
theorem exists_ended {events : List OutboxEvent} (hids : (w.store.outbox.map (·.id)).Nodup)
    (hnodup : (events.map (·.id)).Nodup)
    (hown : ∀ e ∈ events, e ∈ w.store.outbox ∧ e.tenant = ctx.tenant) :
    ∃ at_ r w', o.Runs (Job.dispatchAll ctx events) w r w' ∧ Ended o ctx at_ events w w' r := by
  induction events generalizing w with
  | nil => exact ⟨fun _ => o.clock w.out, _, w, rfl, .all .nil⟩
  | cons event rest ih =>
    obtain ⟨hid, hnodup⟩ := List.nodup_cons.1 hnodup
    obtain ⟨hmem, htenant⟩ := hown event (List.mem_cons_self ..)
    rcases runs_dispatch hids hmem htenant with
      ⟨t, w₁, hrun, hstore, hlog⟩ | ⟨x, deeds, w', hrun, hfails, hstore, hbreaks, hlog⟩
    · have hids₁ : (w₁.store.outbox.map (·.id)).Nodup := by
        rwa [hstore, MemoryStore.ids_stamped]
      have hown₁ : ∀ e ∈ rest, e ∈ w₁.store.outbox ∧ e.tenant = ctx.tenant := by
        intro e he
        obtain ⟨hmem, htenant⟩ := hown e (List.mem_cons_of_mem _ he)
        have hne : e.id ∉ [event.id] := fun heq =>
          hid (List.mem_map.2 ⟨e, he, List.mem_singleton.1 heq⟩)
        refine ⟨?_, htenant⟩
        rw [hstore]
        exact List.mem_map.2 ⟨e, hmem, OutboxEvent.stamped_of_not_mem hne⟩
      obtain ⟨at_, r, w', hrest, hended⟩ := ih hids₁ hnodup hown₁
      refine ⟨fun id => if id ∈ [event.id] then t else at_ id, ?_⟩
      cases hended with
      | all passed =>
        refine ⟨_, w', ?_, .all (passed.cons hstore hlog hid)⟩
        exact runs_bind runs_cancelled (runs_bind hrun (runs_bind hrest runs_pure))
      | brokeOff split passed fails breaks store log =>
        rw [split, List.map_append, List.mem_append, not_or] at hid
        refine ⟨_, w', ?_, .brokeOff (by rw [split]; rfl) (passed.cons hstore hlog hid.1) fails
          breaks store log⟩
        exact runs_bind runs_cancelled (runs_bind hrun (runs_bind_error hrest))
    · refine ⟨fun _ => o.clock w.out, _, w', ?_, .brokeOff rfl .nil hfails hbreaks hstore hlog⟩
      exact runs_bind runs_cancelled (runs_bind_error hrun)

/-! ## The outbox -/

/-- What a dispatch of a tenant's first events came to, of which the first `k` were passed on. -/
structure Drained (o : Outlet ω) (ctx : RequestContext) (limit : UInt32) (w w' : Desk ω)
    (r : Except JobError Nat) (k : Nat) (at_ : EventId → Instant) : Prop where
  le : k ≤ min limit.toNat (w.store.waiting ctx.tenant).length
  /-- Exactly these events have new stamps, and nothing else in the store is changed. -/
  store : w'.store = w.store.stamped at_ (((w.store.waiting ctx.tenant).take k).map (·.id))
  /-- All others wait as before. -/
  waiting : w'.store.waiting ctx.tenant = (w.store.waiting ctx.tenant).drop k
  others : ∀ tenant, tenant ≠ ctx.tenant → w'.store.outbox.filter (·.tenant = tenant) =
    w.store.outbox.filter (·.tenant = tenant)
  /-- Each of them was written and passed on before its stamp, in order. If all went well, that was
  all. Else the next one broke off, and gave the error. -/
  deeds : ∃ broken, w'.log = w.log ++ .asked (.pendingEvents ctx limit) ::
      ((w.store.waiting ctx.tenant).take k).flatMap (fun e => passedOn ctx e (at_ e.id)) ++
        broken ∧
    ((r = .ok k ∧ k = min limit.toNat (w.store.waiting ctx.tenant).length ∧ broken = []) ∨
      o.Fails ∧ ∃ event x, r = .error x ∧ k < limit.toNat ∧
        (w.store.waiting ctx.tenant)[k]? = some event ∧ BreaksOff event broken x)

/-- Events that were passed on from the front of those that waited. -/
theorem drained_of_passed {limit : UInt32} {w₁ : Desk ω} {at_ : EventId → Instant}
    {events : List OutboxEvent} {r : Except JobError Nat} {broken : List Deed}
    (hids : (w.store.outbox.map (·.id)).Nodup) (hfirst : events <+: w.store.waiting ctx.tenant)
    (hlimit : events.length ≤ limit.toNat)
    (passed : Passed ctx at_ events
      { w with log := w.log ++ [.asked (.pendingEvents ctx limit)] } w₁)
    (hstore : w'.store = w₁.store) (hlog : w'.log = w₁.log ++ broken)
    (hend : (r = .ok events.length ∧
        events.length = min limit.toNat (w.store.waiting ctx.tenant).length ∧ broken = []) ∨
      o.Fails ∧ ∃ event x, r = .error x ∧ events.length < limit.toNat ∧
        (w.store.waiting ctx.tenant)[events.length]? = some event ∧ BreaksOff event broken x) :
    Drained o ctx limit w w' r events.length at_ := by
  have hevents : (w.store.waiting ctx.tenant).take events.length = events :=
    (List.prefix_iff_eq_take.1 hfirst).symm
  have hstamped : w'.store = w.store.stamped at_ (events.map (·.id)) := hstore.trans passed.store
  have hown : ∀ id ∈ events.map (·.id),
      ∃ e ∈ w.store.outbox, e.id = id ∧ e.tenant = ctx.tenant := by
    intro id hid
    obtain ⟨e, he, rfl⟩ := List.mem_map.1 hid
    obtain ⟨hmem, htenant, -⟩ := MemoryStore.mem_waiting.1 (hfirst.subset he)
    exact ⟨e, hmem, rfl, htenant⟩
  refine
    { le := Nat.le_min.2 ⟨hlimit, hfirst.length_le⟩
      store := by rw [hevents, hstamped]
      waiting := ?_
      others := fun tenant hother => ?_
      deeds := ⟨broken, ?_, hend⟩ }
  · rw [hstamped, ← MemoryStore.waiting_stamped_take hids, hevents]
  · rw [hstamped]
    exact MemoryStore.filter_stamped_other hids hown hother
  · rw [hlog, passed.log, hevents]
    simp

/-- **A dispatch of the outbox comes to an end, and passes on the first events that waited.** -/
theorem exists_drained (hids : (w.store.outbox.map (·.id)).Nodup) (ctx : RequestContext)
    (limit : UInt32) :
    ∃ r w' k at_, o.Runs (Job.drainOutbox ctx limit) w r w' ∧ Drained o ctx limit w w' r k at_ := by
  have hfirst : w.store.pendingEvents ctx limit <+: w.store.waiting ctx.tenant :=
    List.take_prefix ..
  have hlength : (w.store.pendingEvents ctx limit).length =
      min limit.toNat (w.store.waiting ctx.tenant).length := List.length_take
  have hnodup : ((w.store.pendingEvents ctx limit).map (·.id)).Nodup :=
    hids.sublist ((hfirst.sublist.trans List.filter_sublist).map _)
  have hown : ∀ e ∈ w.store.pendingEvents ctx limit,
      e ∈ w.store.outbox ∧ e.tenant = ctx.tenant := by
    intro e he
    obtain ⟨hmem, htenant, -⟩ := MemoryStore.mem_waiting.1 (hfirst.subset he)
    exact ⟨hmem, htenant⟩
  obtain ⟨at_, r, w', hrun, hended⟩ : ∃ at_ r w',
      o.Runs (Job.dispatchAll ctx (w.store.pendingEvents ctx limit))
        { w with log := w.log ++ [.asked (.pendingEvents ctx limit)] } r w' ∧
      Ended o ctx at_ _ _ w' r := exists_ended hids hnodup hown
  refine ⟨r, w', ?_⟩
  have hdrain : o.Runs (Job.drainOutbox ctx limit) w r w' := runs_bind runs_pending hrun
  cases hended with
  | all passed =>
    refine ⟨_, at_, hdrain, drained_of_passed hids hfirst ?_ passed rfl
      (List.append_nil _).symm (.inl ?_)⟩
    · omega
    · exact ⟨rfl, hlength, rfl⟩
  | @brokeOff before event after deeds x w₁ split passed fails breaks store log =>
    have hbefore : before <+: w.store.waiting ctx.tenant :=
      (List.prefix_append _ _).trans (split ▸ hfirst)
    have hlt : before.length < (w.store.pendingEvents ctx limit).length := by
      rw [split, List.length_append, List.length_cons]
      omega
    have hnext : (w.store.waiting ctx.tenant)[before.length]? = some event := by
      obtain ⟨rest, hrest⟩ := hfirst
      rw [← hrest, split]
      simp
    refine ⟨_, at_, hdrain, drained_of_passed hids hbefore ?_ passed store log (.inr ?_)⟩
    · omega
    · exact ⟨fails, event, x, rfl, by omega, hnext, breaks⟩

/-! ## Until nothing is left -/

/-- Dispatching again and again, until there was nothing to dispatch. -/
inductive Emptied (o : Outlet ω) (ctx : RequestContext) (limit : UInt32) : Desk ω → Desk ω → Prop
  | last {w w' : Desk ω} (drain : o.Runs (Job.drainOutbox ctx limit) w (.ok 0) w') :
      Emptied o ctx limit w w'
  | again {w w₁ w' : Desk ω} {n : Nat}
      (drain : o.Runs (Job.drainOutbox ctx limit) w (.ok (n + 1)) w₁)
      (rest : Emptied o ctx limit w₁ w') : Emptied o ctx limit w w'

/-- The pieces that were written, in order. -/
def emitted (log : List Deed) : List OutputPiece :=
  log.filterMap fun
    | .wrote piece (.ok ()) => some piece
    | _ => none

/-- The pieces of an event: its line, the end of the line, and the demand to pass it on. -/
def pieces (event : OutboxEvent) : List OutputPiece := [.text event.line, .lineEnd, .flush]

/-- All events that waited were written, each once and in order, and have a stamp. -/
structure EmittedAll (ctx : RequestContext) (w w' : Desk ω) : Prop where
  emitted : emitted w'.log = emitted w.log ++ (w.store.waiting ctx.tenant).flatMap pieces
  store : ∃ at_, w'.store = w.store.stamped at_ ((w.store.waiting ctx.tenant).map (·.id))
  waiting : w'.store.waiting ctx.tenant = []

/-- What a dispatch wrote that came to a number. -/
theorem Drained.emitted {limit : UInt32} {n k : Nat} {at_ : EventId → Instant}
    (h : Drained o ctx limit w w' (.ok n) k at_) :
    n = k ∧ k = min limit.toNat (w.store.waiting ctx.tenant).length ∧
      emitted w'.log =
        Outlet.emitted w.log ++ ((w.store.waiting ctx.tenant).take k).flatMap pieces := by
  obtain ⟨broken, hlog, ⟨hr, hk, rfl⟩ | ⟨-, event, x, hr, -⟩⟩ := h.deeds
  · obtain rfl : n = k := Except.ok.inj hr
    refine ⟨rfl, hk, ?_⟩
    rw [hlog, List.append_nil, Outlet.emitted, List.filterMap_append, List.filterMap_cons,
      List.filterMap_flatMap]
    rfl
  · cases hr

/-- A dispatch comes to what it comes to. -/
theorem drained_of_runs {limit : UInt32} {r : Except JobError Nat}
    (hids : (w.store.outbox.map (·.id)).Nodup) (h : o.Runs (Job.drainOutbox ctx limit) w r w') :
    ∃ k at_, Drained o ctx limit w w' r k at_ := by
  obtain ⟨r', w'', k, at_, hrun, hdrained⟩ := exists_drained (o := o) hids ctx limit
  obtain ⟨rfl, rfl⟩ : r' = r ∧ w'' = w' := by simpa using hrun.symm.trans h
  exact ⟨k, at_, hdrained⟩

/-- Events that have stamps leave the identifiers of the outbox as they are. -/
theorem Drained.ids_nodup {limit : UInt32} {r : Except JobError Nat} {k : Nat}
    {at_ : EventId → Instant} (h : Drained o ctx limit w w' r k at_)
    (hids : (w.store.outbox.map (·.id)).Nodup) : (w'.store.outbox.map (·.id)).Nodup := by
  rwa [h.store, MemoryStore.ids_stamped]

/-- **What was dispatched until nothing was left is everything**: by induction on the dispatches,
each of which leaves the events waiting that the next ones write. -/
theorem Emptied.emittedAll {limit : UInt32} (h : Emptied o ctx limit w w')
    (hids : (w.store.outbox.map (·.id)).Nodup) (hlimit : limit ≠ 0) : EmittedAll ctx w w' := by
  have hpos : 0 < limit.toNat :=
    Nat.pos_of_ne_zero fun hzero => hlimit (UInt32.toNat_inj.1 hzero)
  induction h with
  | @last w w' drain =>
    obtain ⟨k, at_, hdrained⟩ := drained_of_runs hids drain
    obtain ⟨rfl, hk, hemitted⟩ := hdrained.emitted
    have hnone : w.store.waiting ctx.tenant = [] := List.length_eq_zero_iff.1 (by omega)
    exact
      { emitted := by simpa [hnone] using hemitted
        store := ⟨at_, by simpa [hnone] using hdrained.store⟩
        waiting := by simpa [hnone] using hdrained.waiting }
  | @again w w₁ w' n drain rest ih =>
    obtain ⟨k, at_, hdrained⟩ := drained_of_runs hids drain
    obtain ⟨-, -, hemitted⟩ := hdrained.emitted
    have hrest := ih (hdrained.ids_nodup hids)
    refine { emitted := ?_, store := ?_, waiting := hrest.waiting }
    · rw [hrest.emitted, hemitted, hdrained.waiting, List.append_assoc, ← List.flatMap_append,
        List.take_append_drop]
    · obtain ⟨at', hstore⟩ := hrest.store
      have hsplit : (((w.store.waiting ctx.tenant).take k).map (·.id) ++
          ((w.store.waiting ctx.tenant).drop k).map (·.id)).Nodup := by
        rw [← List.map_append, List.take_append_drop]
        exact nodup_filter_key hids _
      have hother : ∀ id ∈ ((w.store.waiting ctx.tenant).take k).map (·.id),
          id ∉ ((w.store.waiting ctx.tenant).drop k).map (·.id) :=
        fun id hid hid' => (List.nodup_append.1 hsplit).2.2 id hid id hid' rfl
      refine ⟨fun id => if id ∈ ((w.store.waiting ctx.tenant).take k).map (·.id) then at_ id
        else at' id, ?_⟩
      rw [hstore, hdrained.waiting, hdrained.store, MemoryStore.stamped_stamped hother,
        ← List.map_append, List.take_append_drop]

/-- **An outlet that does not fail is dispatched to until nothing is left**: by induction on the
number of events that wait. -/
theorem exists_emptied {limit : UInt32} (hnever : ¬o.Fails)
    (hids : (w.store.outbox.map (·.id)).Nodup) : ∃ w', Emptied o ctx limit w w' := by
  induction hn : (w.store.waiting ctx.tenant).length using Nat.strongRecOn
    generalizing w with
  | ind n ih =>
    obtain ⟨r, w₁, k, at_, hrun, hdrained⟩ := exists_drained (o := o) hids ctx limit
    obtain ⟨broken, -, ⟨rfl, hk, -⟩ | ⟨hfails, -⟩⟩ := hdrained.deeds
    · cases k with
      | zero => exact ⟨w₁, .last hrun⟩
      | succ k =>
        have hfewer : (w₁.store.waiting ctx.tenant).length < n := by
          rw [hdrained.waiting, List.length_drop]
          omega
        obtain ⟨w', hrest⟩ := ih _ hfewer (hdrained.ids_nodup hids) rfl
        exact ⟨w', .again hrun hrest⟩
    · exact absurd hfails hnever

/-- **Dispatching drops no event, and none overtakes another.** A dispatch of the outbox comes to an
end, whatever the outlet does, and has passed on the first events that waited. With an outlet that
does not fail, dispatching until nothing is left comes to an end too, and has emitted every event
that waited, once and in order. -/
theorem drainOutbox_drained (hids : (w.store.outbox.map (·.id)).Nodup) (ctx : RequestContext)
    (limit : UInt32) :
    (∃ r w' k at_, o.Runs (Job.drainOutbox ctx limit) w r w' ∧
      Drained o ctx limit w w' r k at_) ∧
    (¬o.Fails → limit ≠ 0 → (∃ w', Emptied o ctx limit w w') ∧
      ∀ w', Emptied o ctx limit w w' → EmittedAll ctx w w') :=
  ⟨exists_drained hids ctx limit, fun hnever hlimit =>
    ⟨exists_emptied hnever hids, fun _ h => h.emittedAll hids hlimit⟩⟩

/-! ## Two rides -/

/-- The store after two rides. -/
def twoRides : MemoryStore :=
  MemoryStore.storeAfter <| MemoryStore.firstCalls ++
    [.recordRideCharge Sample.operator
      { account := MemoryStore.firstAccount, ride := "ride-2", amount := Sample.shortRide
        description := none }]

/-- An outlet with room for a number of pieces. -/
def narrow : Outlet Nat where
  write _ room := if room = 0 then (.error "no room", 0) else (.ok (), room - 1)
  clock _ := Sample.epoch

/-- An outlet with room for everything. -/
def wide : Outlet Unit where
  write _ _ := (.ok (), ())
  clock _ := Sample.epoch

/-- Two events wait. They are dispatched to an outlet that has no room for the end of the second
line, and one by one to an outlet that has. -/
theorem drainOutbox_twoRides :
    (twoRides.outbox.map (·.id)).Nodup ∧ (twoRides.waiting Sample.tenant).length = 2 ∧
    (∃ r w' k at_, narrow.Runs (Job.drainOutbox Sample.operator 10) ⟨4, .start, twoRides, []⟩ r w' ∧
      Drained narrow Sample.operator 10 ⟨4, .start, twoRides, []⟩ w' r k at_) ∧
    ¬wide.Fails ∧ ∃ w', Emptied wide Sample.operator 1 ⟨(), .start, twoRides, []⟩ w' ∧
      EmittedAll Sample.operator ⟨(), .start, twoRides, []⟩ w' := by
  have hids : (twoRides.outbox.map (·.id)).Nodup := by decide +kernel
  have hnever : ¬wide.Fails := fun ⟨_, _, _, _, h⟩ => nomatch h
  obtain ⟨hfirst, -⟩ := drainOutbox_drained (o := narrow) (w := ⟨4, .start, twoRides, []⟩) hids
    Sample.operator 10
  obtain ⟨-, hall⟩ := drainOutbox_drained (o := wide) (w := ⟨(), .start, twoRides, []⟩) hids
    Sample.operator 1
  obtain ⟨⟨w', hemptied⟩, hemitted⟩ := hall hnever (by decide)
  exact ⟨hids, by decide +kernel, hfirst, hnever, w', hemptied, hemitted w' hemptied⟩

end Outlet

end RideLedger
