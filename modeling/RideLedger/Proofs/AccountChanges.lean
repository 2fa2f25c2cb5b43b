import Mathlib.Data.List.Induction
import RideLedger.Proofs.Appending
import RideLedger.Proofs.History
import RideLedger.Proofs.Transcript

/-!
# Changes of an account — one after another, or side by side

A change of an account reads it, changes a field and writes all of it back. When two changes
overlap, the later write can take back what the earlier one did: a deactivation is lost that way.
When no account is written between the reading and the writing of any change, the account is at the
end what the same changes make of it one after another, in some order (`Changing.Serializable`).
-/

namespace RideLedger

/-- A change that a client can make to an account. -/
inductive AccountChange
  | activate
  | deactivate
  | frequency (f : InvoiceFrequency)

namespace AccountChange

/-- The call of a change. -/
def call (ctx : RequestContext) (id : AccountId) : AccountChange → Service Account
  | .activate => Accounts.activate ctx id
  | .deactivate => Accounts.deactivate ctx id
  | .frequency f => Accounts.changeFrequency ctx id f

/-- What a change makes of an account; nothing if it changes nothing. -/
def edit? : AccountChange → Account → String → Instant → Option Account
  | .activate => Account.activate?
  | .deactivate => Account.deactivate?
  | .frequency f => fun a => a.setFrequency? f

variable {change : AccountChange} {a a' : Account} {actor : String} {now : Instant}

theorem call_eq (ctx : RequestContext) (id : AccountId) :
    change.call ctx id = Accounts.change ctx id change.edit? := by
  cases change <;> rfl

/-- A change leaves the identifier, the tenant and the name. -/
theorem edit?_own (h : change.edit? a actor now = some a') :
    a'.id = a.id ∧ a'.tenant = a.tenant ∧ a'.name = a.name := by
  cases change <;>
    simp only [edit?, Account.activate?, Account.deactivate?, Account.setStatus?,
      Account.setFrequency?, Option.ite_none_left_eq_some, Option.some.injEq] at h <;>
    exact h.2 ▸ ⟨rfl, rfl, rfl⟩

end AccountChange

/-- A client that changes an account: who it is, what it changes, and when. -/
structure Changer where
  actor : String
  change : AccountChange
  now : Instant

/-- Clients that change one account. -/
structure Changing (ι : Type) where
  tenant : TenantId
  account : AccountId
  clients : ι → Changer

namespace MemoryStore

variable {b : Bool} {ctx : RequestContext} {request : StoreRequest} {tenant : TenantId}
  {id : AccountId} {a cur : Account} {s s' : MemoryStore}

/-- The account of a tenant is the one that its identifier stands for. -/
theorem account?_eq_some_iff :
    s.account? tenant id = some a ↔ s.holder? id = some a ∧ a.tenant = tenant := by
  rw [account?, holder?, Option.filter_eq_some_iff, decide_eq_true_eq]

/-- The store with an account in the place of the one that has its identifier. -/
def replaced (a : Account) (s : MemoryStore) : MemoryStore :=
  { s with accounts := s.accounts.map fun b => if b.id = a.id then a else b }

/-- The replaced account is found in the place of the one that was there. -/
theorem account?_replaced (hcur : s.account? tenant id = some cur) (hid : a.id = id)
    (htenant : a.tenant = tenant) : (s.replaced a).account? tenant id = some a := by
  have hheld := (account?_eq_some_iff.1 hcur).1
  rw [holder?] at hheld
  rw [account?_eq_some_iff, holder?, replaced, find?_replaced, if_pos hid.symm, hheld]
  exact ⟨rfl, htenant⟩

/-- An update of an account that is there goes through, unless it is cancelled. -/
theorem serve_updateAccount (hcur : s.account? tenant id = some cur) (hid : a.id = id)
    (htenant : a.tenant = tenant) (hctx : ctx.tenant = tenant) :
    s.serve b (.updateAccount ctx a) =
      .ok (if b then (.error .cancelled, s) else (.ok (), s.replaced a)) := by
  subst hid htenant
  change Except.ok (s.updateAccount b ctx a) = _
  rw [updateAccount, if_neg (by simp [hctx]), hctx, hcur]
  rfl

/-- A request that is no update leaves the account as it is. -/
theorem Commit.account?_eq (h : Commit b s request s') (ha : s.account? tenant id = some a)
    (hrequest : ∀ ctx a, request ≠ .updateAccount ctx a) : s'.account? tenant id = some a := by
  cases h with
  | @opened ctx x htenant hlive hname hid =>
    rw [account?_eq_some_iff] at ha ⊢
    refine ⟨?_, ha.2⟩
    have hheld := ha.1
    rw [holder?] at hheld ⊢
    rw [List.find?_append, hheld]
    rfl
  | updated => exact absurd rfl (hrequest _ _)
  | _ => exact ha

end MemoryStore

/-! ## The steps of a change -/

namespace Exchange

/-- Whether an account was looked for. -/
def finds : Exchange → Bool
  | ⟨.findAccount .., _⟩ => true
  | _ => false

/-- Whether an account was written. -/
def updates : Exchange → Bool
  | ⟨.updateAccount .., .ok _⟩ => true
  | _ => false

end Exchange

namespace Changing

variable {ι : Type} {c : Changing ι} {i : ι} {a a' : Account} {order : List ι}
  {s s' : MemoryStore}

/-- The context of a client. -/
def context (c : Changing ι) (i : ι) : RequestContext := ⟨c.tenant, (c.clients i).actor⟩

/-- What a client does. -/
def plan (c : Changing ι) (i : ι) : Plan (Except BillingError Account) :=
  ((c.clients i).change.call (c.context i) c.account).run

/-- What a client's change makes of an account; nothing if it changes nothing. -/
def edit? (c : Changing ι) (i : ι) (a : Account) : Option Account :=
  (c.clients i).change.edit? a (c.clients i).actor (c.clients i).now

/-- What an account is after a client's change. -/
def after (c : Changing ι) (i : ι) (a : Account) : Account := (c.edit? i a).getD a

/-- What an account is after the changes of clients, one after another. -/
def serially (c : Changing ι) (order : List ι) (a : Account) : Account :=
  order.foldl (fun a i => c.after i a) a

/-- The end of a change, when the account is written. -/
def written (a : Account) : Except StoreFault Unit → Plan (Except BillingError Account)
  | .ok () => .done (.ok a)
  | .error fault => .done (.error (.ofStoreFault fault))

/-- The rest of a change, when it is known what it makes of the account. -/
def decided (c : Changing ι) (i : ι) (a : Account) :
    Option Account → Plan (Except BillingError Account)
  | none => .done (.ok a)
  | some changed => .ask (.updateAccount (c.context i) changed) (written changed)

/-- The rest of a change, when the account was looked for. -/
def found (c : Changing ι) (i : ι) :
    Except StoreFault (Option Account) → Plan (Except BillingError Account)
  | .ok (some a) => .now fun now =>
    c.decided i a ((c.clients i).change.edit? a (c.clients i).actor now)
  | .ok none => .done (.error (.notFound "Account" c.account.toText))
  | .error fault => .done (.error (.ofStoreFault fault))

/-- **A change looks for the account, decides, and writes.** -/
theorem plan_eq : c.plan i = .ask (.findAccount (c.context i) c.account) (c.found i) := by
  rw [plan, AccountChange.call_eq]
  refine congrArg (Plan.ask _) (funext fun answer => ?_)
  rcases answer with fault | _ | a
  · rfl
  · rfl
  · refine congrArg Plan.now (funext fun now => ?_)
    change (ExceptT.run (match (c.clients i).change.edit? a (c.clients i).actor now with
      | none => (pure a : Service Account)
      | some changed => do
        Service.demand (.updateAccount (c.context i) changed)
        return changed)) = _
    cases (c.clients i).change.edit? a (c.clients i).actor now with
    | none => rfl
    | some changed =>
      refine congrArg (Plan.ask _) (funext fun answer => ?_)
      rcases answer with fault | _ <;> rfl

/-! ## One after another -/

/-- The clients of a list make their changes one after another, each alone and each with success. -/
inductive InTurn (c : Changing ι) (s : MemoryStore) : List ι → MemoryStore → Prop
  | nil : InTurn c s [] s
  | snoc {order s' i a w} (supply : Supply) (before : InTurn c s order s')
      (ran : (c.plan i).run Quiet.world ⟨(c.clients i).now, supply, s'⟩ = .ok (.ok a, w)) :
      InTurn c s (order ++ [i]) w.store

theorem serially_append : c.serially (order ++ [i]) a = c.after i (c.serially order a) := by
  rw [serially, serially, List.foldl_append]
  rfl

/-- A change alone comes to its end, with the account that it makes. -/
theorem run_plan {supply : Supply} (ha : s.account? c.tenant c.account = some a) :
    ∃ w, (c.plan i).run Quiet.world ⟨(c.clients i).now, supply, s⟩ =
        .ok (.ok (c.after i a), w) ∧
      w.store.account? c.tenant c.account = some (c.after i a) := by
  have hasked : (c.plan i).run Quiet.world ⟨(c.clients i).now, supply, s⟩ =
      (c.decided i a (c.edit? i a)).run Quiet.world ⟨(c.clients i).now, supply, s⟩ := by
    rw [plan_eq]
    change (c.found i (.ok (s.account? c.tenant c.account))).run Quiet.world _ = _
    rw [ha]
    rfl
  rw [hasked, after]
  cases hedit : c.edit? i a with
  | none => exact ⟨_, rfl, ha⟩
  | some changed =>
    obtain ⟨hid, htenant, -⟩ := AccountChange.edit?_own hedit
    have hid' := hid.trans (MemoryStore.id_of_account? ha)
    have htenant' := htenant.trans (MemoryStore.account?_eq_some_iff.1 ha).2
    have hserved : s.serve false (.updateAccount (c.context i) changed) =
        .ok (.ok (), s.replaced changed) :=
      MemoryStore.serve_updateAccount ha hid' htenant' rfl
    refine ⟨⟨(c.clients i).now, supply, s.replaced changed⟩, ?_,
      MemoryStore.account?_replaced ha hid' htenant'⟩
    simp only [decided, Plan.run, Quiet.world, hserved, ok_bind]
    rfl

/-- Changes one after another make of the account what it says. -/
theorem InTurn.account? (h : InTurn c s order s')
    (ha : s.account? c.tenant c.account = some a) :
    s'.account? c.tenant c.account = some (c.serially order a) := by
  induction h with
  | nil => exact ha
  | snoc supply before ran ih =>
    obtain ⟨w, hrun, hstored⟩ := run_plan ih
    rw [hrun] at ran
    obtain ⟨-, rfl⟩ := Prod.mk.inj (Except.ok.inj ran)
    rw [hstored, serially_append]

/-- Changes can be made in any order, one after another. -/
theorem exists_inTurn (order : List ι) (ha : s.account? c.tenant c.account = some a) :
    ∃ s', InTurn c s order s' := by
  induction order using List.reverseRec with
  | nil => exact ⟨s, .nil⟩
  | append_singleton order i ih =>
    obtain ⟨s', hbefore⟩ := ih
    obtain ⟨w, hrun, -⟩ := run_plan (hbefore.account? ha)
    exact ⟨w.store, .snoc .start hbefore hrun⟩

/-! ## Side by side -/

variable {lines : List (Option ι × Exchange)} {σ : System ι (Except BillingError Account)}

/-- No account is written between the reading and the writing of a client's change. -/
def Undisturbed (lines : List (Option ι × Exchange)) : Prop :=
  ∀ before between rest i x y,
    lines = before ++ (some i, x) :: (between ++ (some i, y) :: rest) → x.finds → y.updates →
      ∀ line ∈ between, ¬line.2.updates

theorem Undisturbed.of_append {more : List (Option ι × Exchange)}
    (h : Undisturbed (lines ++ more)) : Undisturbed lines := by
  rintro before between rest i x y rfl hx hy
  exact h before between (rest ++ more) i x y (by simp) hx hy

/-- A client has read an account that it is going to write; it is the current one, unless another
one was written since. -/
structure Pending (c : Changing ι) (lines : List (Option ι × Exchange)) (cur : Account) (i : ι)
    (a changed : Account) : Prop where
  edit : c.edit? i a = some changed
  id : changed.id = c.account
  tenant : changed.tenant = c.tenant
  read : ∃ before rest x, lines = before ++ (some i, x) :: rest ∧ x.finds ∧
    ((∀ line ∈ rest, ¬line.2.updates) → a = cur)

/-- How far a client has come with its change: those of `order` have made it. -/
inductive Stage (c : Changing ι) (lines : List (Option ι × Exchange)) (order : List ι)
    (cur : Account) (i : ι) : Plan (Except BillingError Account) → Prop
  | waiting (open_ : i ∉ order) : Stage c lines order cur i (c.plan i)
  | reading {seen changed} (open_ : i ∉ order) (pending : c.Pending lines cur i seen changed) :
      Stage c lines order cur i (c.found i (.ok (some seen)))
  | writing {seen changed} (open_ : i ∉ order) (pending : c.Pending lines cur i seen changed) :
      Stage c lines order cur i (c.decided i seen (some changed))
  | settled {seen} (closed : i ∈ order) (kept : c.edit? i seen = none) :
      Stage c lines order cur i (c.found i (.ok (some seen)))
  | done {seen} (closed : i ∈ order) : Stage c lines order cur i (.done (.ok seen))
  | failed {x} (open_ : i ∉ order) : Stage c lines order cur i (.done (.error x))

/-- The changes that were made so far came one after another, in some order. -/
structure Serial (c : Changing ι) (a : Account) (lines : List (Option ι × Exchange))
    (order : List ι) (σ : System ι (Except BillingError Account)) : Prop where
  account : σ.store.account? c.tenant c.account = some (c.serially order a)
  nodup : order.Nodup
  stage : ∀ i, c.Stage lines order (c.serially order a) i (σ.rest i)

variable {cur cur' : Account} {order' : List ι} {line : Option ι × Exchange}
  {p : Plan (Except BillingError Account)}

/-- What a client has read stays current until an account is written. -/
theorem Pending.later {changed : Account} (h : c.Pending lines cur i a changed)
    (hcur : ¬line.2.updates → cur' = cur) : c.Pending (lines ++ [line]) cur' i a changed := by
  obtain ⟨before, rest, x, rfl, hx, hcurrent⟩ := h.read
  refine { h with read := ⟨before, rest ++ [line], x, by simp, hx, fun hnone => ?_⟩ }
  obtain ⟨hrest, hline⟩ := List.forall_mem_append.1 hnone
  rw [hcur (hline line (List.mem_singleton_self _)), hcurrent hrest]

/-- The others are as far as they were when one client has gone on. -/
theorem Stage.later (h : c.Stage lines order cur i p) (horder : i ∈ order' ↔ i ∈ order)
    (hcur : ¬line.2.updates → cur' = cur) : c.Stage (lines ++ [line]) order' cur' i p := by
  cases h with
  | waiting hopen => exact .waiting (mt horder.1 hopen)
  | reading hopen hpending => exact .reading (mt horder.1 hopen) (hpending.later hcur)
  | writing hopen hpending => exact .writing (mt horder.1 hopen) (hpending.later hcur)
  | settled hclosed hkept => exact .settled (horder.2 hclosed) hkept
  | done hclosed => exact .done (horder.2 hclosed)
  | failed hopen => exact .failed (mt horder.1 hopen)

/-- A client that succeeded has made its change. -/
theorem Stage.mem_of_done (h : c.Stage lines order cur i p) (hp : p = .done (.ok a)) :
    i ∈ order := by
  cases h with
  | waiting =>
    rw [plan_eq] at hp
    cases hp
  | done hclosed => exact hclosed
  | _ => cases hp

variable [DecidableEq ι]

/-- A system in which one client has gone on with an exchange. -/
theorem Serial.exchanged {x : Exchange} {order more : List ι} (h : c.Serial a lines order σ)
    (hmore : more = [] ∨ more = [i] ∧ i ∉ order)
    (hstored : s.account? c.tenant c.account = some (c.serially (order ++ more) a))
    (hcur : ¬x.updates → c.serially (order ++ more) a = c.serially order a)
    (hstage : c.Stage (lines ++ [(some i, x)]) (order ++ more) (c.serially (order ++ more) a) i p) :
    c.Serial a (lines ++ [(some i, x)]) (order ++ more) ⟨s, Function.update σ.rest i p⟩ where
  account := hstored
  nodup := by
    rcases hmore with rfl | ⟨rfl, hopen⟩
    · simpa using h.nodup
    · exact List.nodup_append.2 ⟨h.nodup, List.nodup_singleton i, by
        rintro j hj _ hi rfl
        exact hopen (List.mem_singleton.1 hi ▸ hj)⟩
  stage := by
    rw [Function.forall_update_iff σ.rest fun j q =>
      c.Stage (lines ++ [(some i, x)]) (order ++ more) (c.serially (order ++ more) a) j q]
    refine ⟨hstage, fun j hj => (h.stage j).later ?_ hcur⟩
    rcases hmore with rfl | ⟨rfl, -⟩ <;> simp [hj]

/-- A system in which one client has gone on without an exchange. -/
theorem Serial.moved (h : c.Serial a lines order σ)
    (hstage : c.Stage lines order (c.serially order a) i p) :
    c.Serial a lines order ⟨σ.store, Function.update σ.rest i p⟩ where
  account := h.account
  nodup := h.nodup
  stage := by
    rw [Function.forall_update_iff σ.rest fun j q =>
      c.Stage lines order (c.serially order a) j q]
    exact ⟨hstage, fun j _ => h.stage j⟩

variable {e : ι → Surroundings} {others : StoreRequest → Prop} {x : Option Exchange}
  {s : MemoryStore}

/-- A client reads the account as it is now, and may find nothing to change. -/
theorem Serial.reads (h : c.Serial a lines order σ) (hopen : i ∉ order) :
    ∃ order', c.Serial a
      (lines ++ [(some i, ⟨.findAccount (c.context i) c.account, .ok (some (c.serially order a))⟩)])
      order'
      ⟨σ.store, Function.update σ.rest i (c.found i (.ok (some (c.serially order a))))⟩ := by
  cases hedit : c.edit? i (c.serially order a) with
  | none =>
    have hsame : c.serially (order ++ [i]) a = c.serially order a := by
      rw [serially_append, after, hedit]
      rfl
    exact ⟨order ++ [i], h.exchanged (.inr ⟨rfl, hopen⟩) (hsame ▸ h.account) (fun _ => hsame)
      (.settled (by simp) hedit)⟩
  | some changed =>
    obtain ⟨hid, htenant, -⟩ := AccountChange.edit?_own hedit
    have hpending : c.Pending (lines ++ [(some i, ⟨.findAccount (c.context i) c.account,
        .ok (some (c.serially order a))⟩)]) (c.serially order a) i (c.serially order a) changed :=
      { edit := hedit
        id := hid.trans (MemoryStore.id_of_account? h.account)
        tenant := htenant.trans (MemoryStore.account?_eq_some_iff.1 h.account).2
        read := ⟨lines, [], _, rfl, rfl, fun _ => rfl⟩ }
    refine ⟨order ++ [], h.exchanged (.inl rfl) ?_ (fun _ => ?_) ?_⟩ <;> rw [List.append_nil]
    · exact h.account
    · exact .reading hopen hpending

/-- A client writes what it made of the account that it read. If no account was written since, that
one is still current, and the client makes its change next in order. -/
theorem Serial.writes {seen changed : Account} (h : c.Serial a lines order σ) (hopen : i ∉ order)
    (hpending : c.Pending lines (c.serially order a) i seen changed)
    (hundisturbed : Undisturbed
      (lines ++ [(some i, ⟨.updateAccount (c.context i) changed, .ok ()⟩)])) :
    ∃ order', c.Serial a (lines ++ [(some i, ⟨.updateAccount (c.context i) changed, .ok ()⟩)])
      order' ⟨σ.store.replaced changed, Function.update σ.rest i (.done (.ok changed))⟩ := by
  obtain ⟨before, rest, x, hlines, hx, hcurrent⟩ := hpending.read
  have hquiet : ∀ line ∈ rest, ¬line.2.updates :=
    hundisturbed before rest [] i x ⟨.updateAccount (c.context i) changed, .ok ()⟩
      (by simp [hlines]) hx rfl
  have hnext : c.serially (order ++ [i]) a = changed := by
    rw [serially_append, after, ← hcurrent hquiet, hpending.edit]
    rfl
  refine ⟨order ++ [i], h.exchanged (.inr ⟨rfl, hopen⟩) ?_ (fun hnot => ?_) (.done (by simp))⟩
  · rw [hnext]
    exact MemoryStore.account?_replaced h.account hpending.id hpending.tenant
  · exact absurd rfl hnot

/-- A step of a client, if no account was written since it read the one that it writes. -/
theorem Serial.client (h : c.Serial a lines order σ)
    (hclock : ∀ t, (e i).clock t → t = (c.clients i).now)
    (taken : Plan.Move (e i) (σ.rest i) σ.store x p s)
    (hundisturbed : Undisturbed (lines ++ (x.map fun x => (some i, x)).toList)) :
    ∃ order', c.Serial a (lines ++ (x.map fun x => (some i, x)).toList) order'
      ⟨s, Function.update σ.rest i p⟩ := by
  have hstage := h.stage i
  generalize hrest : σ.rest i = rest at taken hstage
  cases hstage with
  | waiting hopen =>
    rw [plan_eq] at taken
    cases taken with
    | overrun read served => cases served
    | ask read served =>
      obtain ⟨rfl, rfl⟩ := Prod.mk.inj (Except.ok.inj served)
      have hcur : σ.store.account? (c.context i).tenant c.account =
        some (c.serially order a) := h.account
      rw [hcur]
      exact h.reads hopen
  | @reading seen changed hopen hpending =>
    cases taken with
    | now shown =>
      obtain rfl := hclock _ shown
      refine ⟨order, (List.append_nil lines).symm ▸ h.moved ?_⟩
      change c.Stage lines order _ i (c.decided i seen (c.edit? i seen))
      exact hpending.edit ▸ .writing hopen hpending
  | @writing seen changed hopen hpending =>
    have hserved (b : Bool) : σ.store.serve b (.updateAccount (c.context i) changed) =
        .ok (if b then (.error .cancelled, σ.store) else (.ok (), σ.store.replaced changed)) :=
      MemoryStore.serve_updateAccount h.account hpending.id hpending.tenant rfl
    cases taken with
    | overrun read served =>
      rw [hserved] at served
      cases served
    | @ask _ _ b _ answer _ read served =>
      rw [hserved] at served
      cases b with
      | true =>
        obtain ⟨rfl, rfl⟩ := Prod.mk.inj (Except.ok.inj served)
        refine ⟨order ++ [], h.exchanged (.inl rfl) ?_ (fun _ => ?_) ?_⟩ <;> rw [List.append_nil]
        · exact h.account
        · exact .failed hopen
      | false =>
        obtain ⟨rfl, rfl⟩ := Prod.mk.inj (Except.ok.inj served)
        exact h.writes hopen hpending hundisturbed
  | @settled seen hclosed hkept =>
    cases taken with
    | now shown =>
      obtain rfl := hclock _ shown
      refine ⟨order, (List.append_nil lines).symm ▸ h.moved ?_⟩
      change c.Stage lines order _ i (c.decided i seen (c.edit? i seen))
      exact hkept ▸ .done hclosed
  | done hclosed => cases taken
  | failed hopen => cases taken

omit [DecidableEq ι] in
/-- A step of somebody else. -/
theorem Serial.other {request : StoreRequest} {b : Bool} {answer : request.Answer}
    (h : c.Serial a lines order σ) (hrequest : ∀ ctx a, request ≠ .updateAccount ctx a)
    (served : σ.store.serve b request = .ok (answer, s)) :
    c.Serial a (lines ++ [(none, ⟨request, answer⟩)]) order ⟨s, σ.rest⟩ where
  account := (MemoryStore.commit_of_serve served).account?_eq h.account hrequest
  nodup := h.nodup
  stage j := (h.stage j).later Iff.rfl fun _ => rfl

/-- **The changes of an undisturbed run come one after another**, by induction on the run. -/
theorem Serial.transcript (hclock : ∀ i t, (e i).clock t → t = (c.clients i).now)
    (hothers : ∀ ctx a, ¬others (.updateAccount ctx a)) {start : MemoryStore}
    (ha : start.account? c.tenant c.account = some a)
    (h : System.Transcript e others ⟨start, c.plan⟩ lines σ) (hundisturbed : Undisturbed lines) :
    ∃ order, c.Serial a lines order σ := by
  induction h with
  | begin => exact ⟨[], ha, List.nodup_nil, fun i => .waiting List.not_mem_nil⟩
  | client before i taken ih =>
    obtain ⟨order, hserial⟩ := ih hundisturbed.of_append
    exact hserial.client (hclock i) taken hundisturbed
  | other before allowed served ih =>
    obtain ⟨order, hserial⟩ := ih hundisturbed.of_append
    exact ⟨order, hserial.other (fun ctx b hrequest => hothers ctx b (hrequest ▸ allowed)) served⟩

/-- The stored account is what the changes of all clients make of it one after another, in some
order. -/
def Serializable (c : Changing ι) (start s : MemoryStore) : Prop :=
  ∃ order s', order.Nodup ∧ (∀ i, i ∈ order) ∧ c.InTurn start order s' ∧
    s.account? c.tenant c.account = s'.account? c.tenant c.account

/-- **Changes that do not overlap are serializable**: if all clients came to their end with
success, and no account was written between the reading and the writing of any of them, the account
is what they make of it one after another. -/
theorem serializable (hclock : ∀ i t, (e i).clock t → t = (c.clients i).now)
    (hothers : ∀ ctx a, ¬others (.updateAccount ctx a)) {start : MemoryStore}
    (ha : start.account? c.tenant c.account = some a)
    (h : System.Transcript e others ⟨start, c.plan⟩ lines σ)
    (hdone : ∀ i, ∃ r, σ.rest i = .done (.ok r)) (hundisturbed : Undisturbed lines) :
    c.Serializable start σ.store := by
  obtain ⟨order, hserial⟩ := Serial.transcript hclock hothers ha h hundisturbed
  obtain ⟨s', hturns⟩ := exists_inTurn order ha
  refine ⟨order, s', hserial.nodup, fun i => ?_, hturns, ?_⟩
  · obtain ⟨r, hr⟩ := hdone i
    exact (hserial.stage i).mem_of_done hr
  · rw [hserial.account, hturns.account? ha]

/-! ## A lost deactivation -/

omit [DecidableEq ι] in
/-- Where an account is written once, nothing comes in between. -/
theorem undisturbed_of_countP (h : lines.countP (·.2.updates) ≤ 1) : Undisturbed lines := by
  rintro before between rest i x y rfl hx hy line hline hupdates
  have hbetween : 0 < between.countP (·.2.updates) := List.countP_pos_iff.2 ⟨line, hline, hupdates⟩
  simp only [List.countP_append, List.countP_cons, hy, ↓reduceIte] at h
  omega

/-- Two clients that change one account at one moment. -/
def sameMoment (first second : AccountChange) : Changing Bool where
  tenant := Sample.tenant
  account := Sample.unknownAccount
  clients b :=
    { actor := Sample.operator.actor, change := if b then first else second, now := Sample.epoch }

/-- A store with one active account, on its own. -/
def oneActive : Quiet := ⟨Sample.epoch, .start, MemoryStore.oneAccount⟩

/-- Making an account inactive, while it is made active: the second client reads the account before
it is written, and finds nothing to do. -/
def nothingToDo : List Bool := [false, true, true, true, false]

/-- Two changes of which one finds nothing to do are serializable, in whatever order they take their
steps. -/
theorem serializable_nothingToDo :
    Undisturbed (oneActive.minutes (sameMoment .deactivate .activate).plan nothingToDo) ∧
    (sameMoment .deactivate .activate).Serializable oneActive.store
      (oneActive.play (sameMoment .deactivate .activate).plan nothingToDo).1.store := by
  have hundisturbed :
      Undisturbed (oneActive.minutes (sameMoment .deactivate .activate).plan nothingToDo) :=
    undisturbed_of_countP (by decide +kernel)
  have hplayed : System.Transcript (fun _ => .still oneActive.now) (fun _ => False)
      ⟨oneActive.store, (sameMoment .deactivate .activate).plan⟩ _ _ :=
    oneActive.transcript_play _ nothingToDo
  refine ⟨hundisturbed, serializable (fun i t h => ?_) (fun _ _ h => h) rfl hplayed (fun i => ?_)
    hundisturbed⟩
  · cases i <;> exact h
  · cases i <;> exact ⟨_, rfl⟩

/-- Making an account inactive, while another client changes its frequency: both read the account
before either writes it. -/
def overlapping : Quiet × (Bool → Plan (Except BillingError Account)) :=
  oneActive.play (sameMoment .deactivate (.frequency .daily)).plan
    [true, false, true, false, true, false]

/-- Two clients, each once, come in one of two orders. -/
theorem two_orders {order : List Bool} (hnodup : order.Nodup) (hall : ∀ i, i ∈ order) :
    order = [true, false] ∨ order = [false, true] := by
  have hperm : order.Perm [true, false] :=
    (List.perm_ext_iff_of_nodup hnodup (by decide)).2 fun i => by simpa using hall i
  obtain ⟨first, second, rfl⟩ := List.length_eq_two.1 hperm.length_eq
  cases first <;> cases second <;> simp at hnodup ⊢

/-- **A deactivation that is lost.** Both clients succeed, one of them with an inactive account, and
the account is active at the end. One after another, in either order, the two changes leave it
inactive. -/
theorem lost_deactivation :
    System.Run (fun _ => .still oneActive.now) (fun _ => False)
      ⟨oneActive.store, (sameMoment .deactivate (.frequency .daily)).plan⟩
      ⟨overlapping.1.store, overlapping.2⟩ ∧
    (∃ a, overlapping.2 true = .done (.ok a) ∧ a.status = .inactive) ∧
    (∃ a, overlapping.2 false = .done (.ok a) ∧ a.frequency = .daily) ∧
    (overlapping.1.store.account? Sample.tenant Sample.unknownAccount).map (·.status) =
      some .active ∧
    (∀ order s', order.Nodup → (∀ i, i ∈ order) →
      (sameMoment .deactivate (.frequency .daily)).InTurn oneActive.store order s' →
      (s'.account? Sample.tenant Sample.unknownAccount).map (·.status) = some .inactive) ∧
    ¬(sameMoment .deactivate (.frequency .daily)).Serializable oneActive.store
      overlapping.1.store := by
  have hturns {order : List Bool} {s' : MemoryStore} (hnodup : order.Nodup)
      (hall : ∀ i, i ∈ order)
      (hturns : (sameMoment .deactivate (.frequency .daily)).InTurn oneActive.store order s') :
      (s'.account? Sample.tenant Sample.unknownAccount).map (·.status) = some .inactive := by
    have hstored : s'.account? Sample.tenant Sample.unknownAccount = some _ := hturns.account? rfl
    rw [hstored]
    rcases two_orders hnodup hall with rfl | rfl <;> rfl
  refine ⟨oneActive.run_play .., ⟨_, rfl, rfl⟩, ⟨_, rfl, rfl⟩, rfl,
    fun _ _ hnodup hall h => hturns hnodup hall h, ?_⟩
  rintro ⟨order, s', hnodup, hall, h, hsame⟩
  have hstatus := congrArg (Option.map (·.status)) hsame
  cases hstatus.trans (hturns hnodup hall h)

end Changing

end RideLedger
