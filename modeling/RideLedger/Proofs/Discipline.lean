import RideLedger.Proofs.Interleaving

/-!
# Disciplines — what clients keep up for each other

A client cannot rely on what it read: by its next step the store may have moved on. It can rely on
what every writer keeps up. A `Discipline` says what that is: an invariant of the store, the ways
in which a store may differ from an earlier one, and the requests that may be made in a store. A
plan meets a discipline (`Plan.Meets`) if it makes only such requests, whatever it is told and
however far the store moves on between its steps; then its result satisfies what the rules of this
file let it promise. If every client of a system meets the discipline, the invariant survives
every run, and every promise is kept (`System.Run.disciplined`).
-/

namespace RideLedger

/-- What writers of a shared store keep up. -/
structure Discipline where
  /-- What always holds of the store. -/
  inv : MemoryStore → Prop
  /-- How a store may differ from an earlier one. -/
  later : MemoryStore → MemoryStore → Prop
  /-- The requests that may be made in a store. -/
  may : MemoryStore → StoreRequest → Prop
  /-- Whether a plan's arithmetic may run out of range. -/
  mayFail : Prop
  refl : ∀ s, later s s
  trans : ∀ {s s' s''}, later s s' → later s' s'' → later s s''
  /-- Serving a request that may be made keeps the invariant and moves the store on. -/
  kept : ∀ {s request b answer s'}, inv s → may s request →
    s.serve b request = .ok (answer, s') → inv s' ∧ later s s'

variable {ι α β ε : Type} {d : Discipline} {e : Surroundings}

namespace Plan

/-- A plan keeps to a discipline from a store on, and ends with a result that satisfies `post`
from then on. -/
def Meets (d : Discipline) (e : Surroundings) (post : α → MemoryStore → Prop) :
    Plan α → MemoryStore → Prop
  | .done a, s => ∀ s', d.inv s' → d.later s s' → post a s'
  | .fail _, _ => d.mayFail
  | .now next, s => ∀ t, e.clock t → (next t).Meets d e post s
  | .fresh count next, s => ∀ ids, e.draw count ids → (next ids).Meets d e post s
  | .cancelled next, s => ∀ b, e.token b → (next b).Meets d e post s
  | .ask request next, s => ∀ s', d.inv s' → d.later s s' →
      d.may s' request ∧
      (∀ b fault, e.token b → s'.serve b request = .error fault → d.mayFail) ∧
      ∀ b answer s'', e.token b → s'.serve b request = .ok (answer, s'') →
        (next answer).Meets d e post s''
  | .write _ next, s => ∀ result, (next result).Meets d e post s

variable {post : α → MemoryStore → Prop} {post' : β → MemoryStore → Prop} {p p' : Plan α}
  {s s' : MemoryStore}

/-- A plan that meets a discipline from a store on meets it from every later one on. -/
theorem Meets.later (h : p.Meets d e post s) (hl : d.later s s') : p.Meets d e post s' := by
  induction p with
  | done a => exact fun t ht hlt => h t ht (d.trans hl hlt)
  | fail fault => exact h
  | now next ih => exact fun t ht => ih t (h t ht)
  | fresh count next ih => exact fun ids hids => ih ids (h ids hids)
  | cancelled next ih => exact fun b hb => ih b (h b hb)
  | ask request next ih => exact fun t ht hlt => h t ht (d.trans hl hlt)
  | write piece next ih => exact fun result => ih result (h result)

/-- A promise that follows from another one in every store from `s` on. -/
theorem Meets.mono {weaker : α → MemoryStore → Prop} (hs : d.inv s) (h : p.Meets d e post s)
    (hpost : ∀ a s', d.inv s' → d.later s s' → post a s' → weaker a s') :
    p.Meets d e weaker s := by
  induction p generalizing s with
  | done a => exact fun t ht hlt => hpost a t ht hlt (h t ht hlt)
  | fail fault => exact h
  | now next ih => exact fun t ht => ih t hs (h t ht) hpost
  | fresh count next ih => exact fun ids hids => ih ids hs (h ids hids) hpost
  | cancelled next ih => exact fun b hb => ih b hs (h b hb) hpost
  | ask request next ih =>
    intro s₁ hs₁ hl₁
    obtain ⟨hmay, hrange, hnext⟩ := h s₁ hs₁ hl₁
    refine ⟨hmay, hrange, fun b answer s₂ hb hserved => ?_⟩
    obtain ⟨hs₂, hl₂⟩ := d.kept hs₁ hmay hserved
    exact ih answer hs₂ (hnext b answer s₂ hb hserved) fun a s₃ hs₃ hl₃ =>
      hpost a s₃ hs₃ (d.trans hl₁ (d.trans hl₂ hl₃))
  | write piece next ih => exact fun result => ih result hs (h result) hpost

/-- Plans in a row: what the first promises is what the second may rely on. -/
theorem Meets.bind {f : α → Plan β} (hs : d.inv s) (hp : p.Meets d e post s)
    (hf : ∀ a s', d.inv s' → d.later s s' → post a s' → (f a).Meets d e post' s') :
    (p >>= f).Meets d e post' s := by
  change (p.bind f).Meets d e post' s
  induction p generalizing s with
  | done a => exact hf a s hs (d.refl s) (hp s hs (d.refl s))
  | fail fault => exact hp
  | now next ih => exact fun t ht => ih t hs (hp t ht) hf
  | fresh count next ih => exact fun ids hids => ih ids hs (hp ids hids) hf
  | cancelled next ih => exact fun b hb => ih b hs (hp b hb) hf
  | ask request next ih =>
    -- others move the store on to `s₁` before the request, and serving it moves it on to `s₂`
    intro s₁ hs₁ hl₁
    obtain ⟨hmay, hrange, hnext⟩ := hp s₁ hs₁ hl₁
    refine ⟨hmay, hrange, fun b answer s₂ hb hserved => ?_⟩
    obtain ⟨hs₂, hl₂⟩ := d.kept hs₁ hmay hserved
    exact ih answer hs₂ (hnext b answer s₂ hb hserved) fun a s₃ hs₃ hl₃ =>
      hf a s₃ hs₃ (d.trans hl₁ (d.trans hl₂ hl₃))
  | write piece next ih => exact fun result => ih result hs (hp result) hf

theorem Meets.pure {a : α} (h : ∀ s', d.inv s' → d.later s s' → post a s') :
    (Pure.pure a : Plan α).Meets d e post s := h

/-- A step of a plan in a store that keeps the invariant leads to another such store, and the plan
goes on keeping to the discipline. -/
theorem Meets.step (hs : d.inv s) (hp : p.Meets d e post s) (taken : Step e p s p' s') :
    d.inv s' ∧ d.later s s' ∧ p'.Meets d e post s' := by
  cases taken with
  | now shown => exact ⟨hs, d.refl s, hp _ shown⟩
  | fresh drawn => exact ⟨hs, d.refl s, hp _ drawn⟩
  | cancelled read => exact ⟨hs, d.refl s, hp _ read⟩
  | ask read served =>
    obtain ⟨hmay, -, hnext⟩ := hp s hs (d.refl s)
    obtain ⟨hs', hl⟩ := d.kept hs hmay served
    exact ⟨hs', hl, hnext _ _ _ read served⟩
  | overrun read served => exact ⟨hs, d.refl s, (hp s hs (d.refl s)).2.1 _ _ read served⟩
  | write => exact ⟨hs, d.refl s, hp _⟩

end Plan

/-! ## Systems -/

namespace System

variable [DecidableEq ι] {surroundings : ι → Surroundings} {others : StoreRequest → Prop}
  {σ σ' : System ι α} {post : ι → α → MemoryStore → Prop}

/-- A system all of whose clients keep to a discipline. -/
structure Disciplined (d : Discipline) (surroundings : ι → Surroundings)
    (post : ι → α → MemoryStore → Prop) (σ : System ι α) : Prop where
  inv : d.inv σ.store
  meets : ∀ i, (σ.rest i).Meets d (surroundings i) (post i) σ.store

/-- A step of a disciplined system. -/
theorem Disciplined.step (h : σ.Disciplined d surroundings post)
    (hothers : ∀ request, others request → ∀ s, d.inv s → d.may s request)
    (taken : Step surroundings others σ σ') :
    σ'.Disciplined d surroundings post ∧ d.later σ.store σ'.store := by
  cases taken with
  | @client p s i taken =>
    obtain ⟨hs, hl, hp⟩ := (h.meets i).step h.inv taken
    refine ⟨⟨hs, ?_⟩, hl⟩
    rw [Function.forall_update_iff σ.rest fun j q => q.Meets d (surroundings j) (post j) s]
    exact ⟨hp, fun j _ => (h.meets j).later hl⟩
  | other allowed served =>
    obtain ⟨hs, hl⟩ := d.kept h.inv (hothers _ allowed _ h.inv) served
    exact ⟨⟨hs, fun j => (h.meets j).later hl⟩, hl⟩

/-- **A disciplined system stays disciplined.** So the invariant holds at the end of every run,
and whatever the clients promise still holds there. -/
theorem Run.disciplined (run : Run surroundings others σ σ')
    (hothers : ∀ request, others request → ∀ s, d.inv s → d.may s request)
    (h : σ.Disciplined d surroundings post) :
    σ'.Disciplined d surroundings post ∧ d.later σ.store σ'.store := by
  induction run with
  | refl => exact ⟨h, d.refl _⟩
  | tail _ taken ih =>
    obtain ⟨hmid, hl⟩ := ih
    obtain ⟨hlast, hl'⟩ := hmid.step hothers taken
    exact ⟨hlast, d.trans hl hl'⟩

/-- A client comes to its end if it does once it has taken a step. -/
theorem Disciplined.finishes_after (h : σ.Disciplined d surroundings post)
    (hothers : ∀ request, others request → ∀ s, d.inv s → d.may s request) {i : ι}
    {p p' : Plan α} {s : MemoryStore} (hp : σ.rest i = p)
    (taken : Plan.Step (surroundings i) p σ.store p' s)
    (hfinishes : ∀ {σ : System ι α}, σ.Disciplined d surroundings post → σ.rest i = p' →
      ∃ σ', Run surroundings others σ σ' ∧ ∃ a, σ'.rest i = .done a) :
    ∃ σ', Run surroundings others σ σ' ∧ ∃ a, σ'.rest i = .done a := by
  have first : Step surroundings others σ ⟨s, Function.update σ.rest i p'⟩ :=
    .client i (hp ▸ taken)
  obtain ⟨σ', later, hdone⟩ := hfinishes (h.step hothers first).1 (Function.update_self ..)
  exact ⟨σ', .head first later, hdone⟩

/-- **A client whose plan may not run out of range comes to its end**, when nobody else takes a
step: by induction on what it has left to do. -/
theorem Disciplined.finishes_one (h : σ.Disciplined d surroundings post)
    (hothers : ∀ request, others request → ∀ s, d.inv s → d.may s request) (hrange : ¬d.mayFail)
    {i : ι} (hi : (surroundings i).Answers) :
    ∃ σ', Run surroundings others σ σ' ∧ ∃ a, σ'.rest i = .done a := by
  obtain ⟨t, ht⟩ := hi.clock
  obtain ⟨b, hb⟩ := hi.token
  have hmeets := h.meets i
  -- the store differs from step to step, so the induction is over all systems with this rest
  generalize hp : σ.rest i = p at hmeets
  induction p generalizing σ with
  | done a => exact ⟨σ, .refl, a, hp⟩
  | fail fault => exact absurd hmeets hrange
  | now next ih =>
    exact h.finishes_after hothers hp (.now ht) fun h' hp' => ih t h' hp' (hp' ▸ h'.meets i)
  | fresh count next ih =>
    obtain ⟨ids, hids⟩ := hi.draw count
    exact h.finishes_after hothers hp (.fresh hids) fun h' hp' =>
      ih ids h' hp' (hp' ▸ h'.meets i)
  | cancelled next ih =>
    exact h.finishes_after hothers hp (.cancelled hb) fun h' hp' =>
      ih b h' hp' (hp' ▸ h'.meets i)
  | ask request next ih =>
    cases hserve : σ.store.serve b request with
    | error fault =>
      -- out of range, which the discipline rules out
      exact absurd ((hmeets σ.store h.inv (d.refl _)).2.1 b fault hb hserve) hrange
    | ok reply =>
      exact h.finishes_after hothers hp (.ask hb hserve) fun h' hp' =>
        ih reply.1 h' hp' (hp' ▸ h'.meets i)
  | write piece next ih =>
    have taken : Plan.Step (surroundings i) (.write piece next) σ.store (next (.ok ())) σ.store :=
      .write
    exact h.finishes_after hothers hp taken fun h' hp' =>
      ih (.ok ()) h' hp' (hp' ▸ h'.meets i)

/-- **So do any clients, one after another**: by induction on the list of them. -/
theorem Disciplined.finishes (h : σ.Disciplined d surroundings post)
    (hothers : ∀ request, others request → ∀ s, d.inv s → d.may s request) (hrange : ¬d.mayFail)
    (hanswers : ∀ i, (surroundings i).Answers) (clients : List ι) :
    ∃ σ', Run surroundings others σ σ' ∧ ∀ i ∈ clients, ∃ a, σ'.rest i = .done a := by
  induction clients generalizing σ with
  | nil => exact ⟨σ, .refl, fun _ hi => absurd hi List.not_mem_nil⟩
  | cons i rest ih =>
    -- the first comes to its end, then the others from there, which leaves the first where it is
    obtain ⟨σ₁, first, a, hdone⟩ := h.finishes_one hothers hrange (hanswers i)
    obtain ⟨σ₂, later, hrest⟩ := ih (first.disciplined hothers h).1
    refine ⟨σ₂, first.trans later, fun j hj => ?_⟩
    rcases List.mem_cons.1 hj with rfl | hj
    · exact ⟨a, later.done hdone⟩
    · exact hrest j hj

omit [DecidableEq ι] in
/-- What a client promised holds when it is done. -/
theorem Disciplined.done (h : σ.Disciplined d surroundings post) {i : ι} {a : α}
    (hi : σ.rest i = .done a) : post i a σ.store := by
  have hmeets := h.meets i
  rw [hi] at hmeets
  exact hmeets σ.store h.inv (d.refl _)

end System

/-! ## Plans that may end in an error -/

/-- What is promised of a result and of an error. -/
def Ends (ok : α → MemoryStore → Prop) (err : ε → MemoryStore → Prop) :
    Except ε α → MemoryStore → Prop
  | .ok a, s => ok a s
  | .error x, s => err x s

/-- No promise. -/
def Whatever (_ : α) (_ : MemoryStore) : Prop := True

section Rules

variable {ok : α → MemoryStore → Prop} {ok' : β → MemoryStore → Prop}
  {err : ε → MemoryStore → Prop} {s : MemoryStore}

theorem meets_pure {a : α} (h : ∀ s', d.inv s' → d.later s s' → ok a s') :
    (pure a : ExceptT ε Plan α).run.Meets d e (Ends ok err) s := h

theorem meets_throw {x : ε} (h : ∀ s', d.inv s' → d.later s s' → err x s') :
    (throw x : ExceptT ε Plan α).run.Meets d e (Ends ok err) s := h

/-- Parts in a row: an error of the first is the error of both. -/
theorem meets_bind {m : ExceptT ε Plan α} {f : α → ExceptT ε Plan β} (hs : d.inv s)
    (hm : m.run.Meets d e (Ends ok err) s)
    (hf : ∀ a s', d.inv s' → d.later s s' → ok a s' → (f a).run.Meets d e (Ends ok' err) s')
    (herr : ∀ {x s' s''}, err x s' → d.inv s'' → d.later s' s'' → err x s'') :
    (m >>= f).run.Meets d e (Ends ok' err) s := by
  refine Plan.Meets.bind hs hm fun r s₁ hs₁ hl₁ hr => ?_
  cases r with
  | ok a => exact hf a s₁ hs₁ hl₁ hr
  | error x => exact meets_throw fun s₂ hs₂ hl₂ => herr hr hs₂ hl₂

end Rules

/-! ## Requests -/

/-- A request was given an answer, by a store that kept the discipline then. -/
def Answered (d : Discipline) (e : Surroundings) (request : StoreRequest)
    (answer : request.Answer) (s : MemoryStore) : Prop :=
  ∃ (b : Bool) (before after : MemoryStore), e.token b ∧ d.inv before ∧
    before.serve b request = .ok (answer, after) ∧ d.later after s

section Requests

variable {request : StoreRequest} {s s' : MemoryStore} {err : BillingError → MemoryStore → Prop}

/-- An answer stays given. -/
theorem Answered.later {answer : request.Answer} (h : Answered d e request answer s)
    (hl : d.later s s') : Answered d e request answer s' := by
  obtain ⟨b, before, after, hb, hinv, hserved, hlater⟩ := h
  exact ⟨b, before, after, hb, hinv, hserved, d.trans hlater hl⟩

/-- A request that may be made is answered, if its arithmetic stays in range where it has to. -/
theorem meets_ask (hmay : ∀ s', d.inv s' → d.later s s' → d.may s' request)
    (hrange : ∀ s' b fault, d.inv s' → d.later s s' → s'.serve b request = .error fault →
      d.mayFail) :
    (Service.ask request).run.Meets d e (Ends (Answered d e request) err) s :=
  fun s' hs' hl => ⟨hmay s' hs' hl, fun b fault _ hserved => hrange s' b fault hs' hl hserved,
    fun b _ _ hb hserved _ _ hlater => ⟨b, s', _, hb, hs', hserved, hlater⟩⟩

/-- A request that has to succeed: its fault becomes the error. -/
theorem meets_demand (hs : d.inv s) (hmay : ∀ s', d.inv s' → d.later s s' → d.may s' request)
    (hrange : ∀ s' b fault, d.inv s' → d.later s s' → s'.serve b request = .error fault →
      d.mayFail)
    (herr : ∀ fault s', Answered d e request (.error fault) s' → err (.ofStoreFault fault) s') :
    (Service.demand request).run.Meets d e
      (Ends (fun reply => Answered d e request (.ok reply)) err) s := by
  have hasked : (Service.ask request).run.Meets d e
      (Ends (Answered d e request) fun _ _ => False) s := meets_ask hmay hrange
  refine Plan.Meets.bind hs hasked fun r s₁ _ _ hr => ?_
  cases r with
  | error x => exact hr.elim
  | ok answer =>
    cases answer with
    | ok reply => exact meets_pure fun _ _ hl => hr.later hl
    | error fault => exact meets_throw fun s₂ _ hl => herr fault s₂ (hr.later hl)

/-- Identifiers promise nothing here. -/
theorem meets_freshId : Service.freshId.run.Meets d e (Ends Whatever err) s :=
  fun _ _ _ _ _ => trivial

end Requests

end RideLedger
