import Mathlib.Data.List.Infix
import RideLedger.Proofs.AccountChanges
import RideLedger.Proofs.Filing

/-!
# Account names — kept apart when accounts are opened, not when they are updated

No two accounts of a tenant should have one name. Opening an account looks for its name first; an
update does not, and it writes the whole account, its name and its origin included
(`MemoryStore.exists_supplanted`). So the names of a tenant stay apart over a sequence of calls
exactly as long as no update names an account after another one
(`AccountCall.namesDistinct_along_iff`), and an update changes no more than status, frequency and
the note of the change exactly if the account that it writes agrees with the stored one in the rest.
-/

namespace RideLedger

/-- The account with the status, the frequency and the note of its last change of another. -/
def Account.persisting (old a : Account) : Account :=
  { old with
    status := a.status, frequency := a.frequency
    modifiedAt := a.modifiedAt, modifiedBy := a.modifiedBy }

/-- Two accounts agree in what never changes. -/
def Account.SameOrigin (a b : Account) : Prop :=
  a.name = b.name ∧ a.accountType = b.accountType ∧ a.createdAt = b.createdAt ∧
    a.createdBy = b.createdBy

/-- An account of one origin with the stored one changes nothing else. -/
theorem Account.persisting_eq_iff {old a : Account} (hid : old.id = a.id)
    (htenant : old.tenant = a.tenant) : old.persisting a = a ↔ old.SameOrigin a := by
  cases old
  cases a
  simp only at hid htenant
  simp [persisting, SameOrigin, hid, htenant]

namespace MemoryStore

variable {cancelled : Bool} {ctx : RequestContext} {a old : Account} {front back : List Account}
  {s s' : MemoryStore}

/-! ## What an update does -/

/-- When an account is updated. -/
theorem updateAccount_ok_iff :
    s.updateAccount cancelled ctx a = (.ok (), s') ↔
      a.tenant = ctx.tenant ∧ cancelled = false ∧
        (∃ old, s.account? ctx.tenant a.id = some old) ∧ s' = s.replaced a := by
  unfold updateAccount
  by_cases htenant : a.tenant = ctx.tenant
  swap
  · simp [htenant]
  rw [if_neg (not_not.2 htenant)]
  cases cancelled with
  | true => simp
  | false =>
    cases hfound : s.account? ctx.tenant a.id with
    | none => simp
    | some old => simp [htenant, replaced, eq_comm]

/-- An update that is refused changes nothing. -/
theorem updateAccount_refused {fault : StoreFault}
    (h : s.updateAccount cancelled ctx a = (.error fault, s')) : s' = s := by
  unfold updateAccount at h
  split at h
  · exact (Prod.mk.inj h).2.symm
  · split at h
    · exact (Prod.mk.inj h).2.symm
    · split at h
      · exact (Prod.mk.inj h).2.symm
      · cases h

/-- Only the account with the identifier is replaced. -/
theorem replaced_eq (hplace : s.accounts = front ++ old :: back) (hid : old.id = a.id)
    (hothers : ∀ b ∈ front ++ back, b.id ≠ a.id) :
    s.replaced a = { s with accounts := front ++ a :: back } := by
  have hkeep (part : List Account) (hpart : ∀ b ∈ part, b.id ≠ a.id) :
      part.map (fun b => if b.id = a.id then a else b) = part :=
    (List.map_congr_left fun b hb => if_neg (hpart b hb)).trans (List.map_id _)
  rw [replaced, hplace, List.map_append, List.map_cons, if_pos hid,
    hkeep front fun b hb => hothers b (List.mem_append_left _ hb),
    hkeep back fun b hb => hothers b (List.mem_append_right _ hb)]

/-- An account was put in the place of the stored one with its identifier, and nothing else was
changed. -/
structure Supplanted (ctx : RequestContext) (a old : Account) (s s' : MemoryStore) : Prop where
  id : old.id = a.id
  /-- It was the caller's own, and it still is. -/
  tenant : old.tenant = ctx.tenant ∧ a.tenant = ctx.tenant
  place : ∃ front back, s.accounts = front ++ old :: back ∧ (∀ b ∈ front ++ back, b.id ≠ a.id) ∧
    s' = { s with accounts := front ++ a :: back }
  /-- That was a matter of status, frequency and the note of the change exactly if the two agree in
  the rest. -/
  promised_iff : s' = s.replaced (old.persisting a) ↔ old.SameOrigin a

/-- **A successful update supplants one account, whatever the new one says.** -/
theorem exists_supplanted (hs : s.Filed)
    (h : s.updateAccount cancelled ctx a = (.ok (), s')) : ∃ old, Supplanted ctx a old s s' := by
  obtain ⟨htenant, -, ⟨old, hfound⟩, rfl⟩ := updateAccount_ok_iff.1 h
  obtain ⟨hmem, hid, hown⟩ := hs.account?_eq_some_iff.1 hfound
  obtain ⟨front, back, hplace⟩ := List.append_of_mem hmem
  have hothers : ∀ b ∈ front ++ back, b.id ≠ a.id := by
    have hnodup := hs.accounts_nodup
    rw [hplace, List.map_append, List.map_cons, List.nodup_middle, ← List.map_append,
      List.nodup_cons, hid] at hnodup
    exact fun b hb hsame => hnodup.1 (hsame ▸ List.mem_map_of_mem hb)
  refine ⟨old, hid, ⟨hown, htenant⟩, ⟨front, back, hplace, hothers, replaced_eq hplace hid hothers⟩,
    ?_⟩
  rw [← Account.persisting_eq_iff hid (hown.trans htenant.symm), replaced_eq hplace hid hothers,
    replaced_eq (a := old.persisting a) hplace rfl fun b hb => hid ▸ hothers b hb]
  constructor
  · intro hsame
    have haccounts := congrArg accounts hsame
    exact (List.cons.inj (List.append_cancel_left haccounts)).1.symm
  · intro hsame
    rw [hsame]

/-! ## Names -/

/-- No two accounts of a tenant have one name. -/
def NamesDistinct (s : MemoryStore) : Prop := (s.accounts.map fun a => (a.tenant, a.name)).Nodup

instance : Decidable s.NamesDistinct := inferInstanceAs (Decidable (List.Nodup _))

/-- An account is opened under a name of its own. -/
theorem Commit.namesDistinct_opened {cancelled : Bool}
    (h : Commit cancelled s (.insertAccount ctx a) s') (hs : s.NamesDistinct) :
    s'.NamesDistinct := by
  cases h with
  | unchanged => exact hs
  | opened htenant hlive hname hid =>
    rw [NamesDistinct, List.map_append, List.map_cons, List.map_nil]
    refine nodup_append_of_new hs (List.nodup_singleton _) fun key hkey hmem => ?_
    rw [List.mem_singleton.1 hkey] at hmem
    obtain ⟨b, hb, hsame⟩ := List.mem_map.1 hmem
    obtain ⟨hown, hsame⟩ := Prod.mk.inj hsame
    exact hname b hb (hown.trans htenant) hsame

/-- **An update keeps the names apart exactly if it takes none of another account.** -/
theorem Supplanted.namesDistinct_iff (h : Supplanted ctx a old s s') (hs : s.NamesDistinct) :
    s'.NamesDistinct ↔
      ∀ b ∈ s.accounts, b.id ≠ a.id → b.tenant = a.tenant → b.name ≠ a.name := by
  obtain ⟨front, back, hplace, hothers, rfl⟩ := h.place
  -- the keys before and after differ in the one at the place, so that one decides
  rw [NamesDistinct, hplace, List.map_append, List.map_cons, List.nodup_middle, ← List.map_append,
    List.nodup_cons] at hs
  rw [NamesDistinct, List.map_append, List.map_cons, List.nodup_middle, ← List.map_append,
    List.nodup_cons, and_iff_left hs.2, hplace]
  constructor
  · intro hfree b hb hne htenant hname
    rcases List.mem_cons.1 (List.perm_middle.mem_iff.1 hb) with rfl | hb
    · exact hne h.id
    · exact hfree (List.mem_map.2 ⟨b, hb, Prod.ext htenant hname⟩)
  · intro hfree hmem
    obtain ⟨b, hb, hkey⟩ := List.mem_map.1 hmem
    obtain ⟨htenant, hname⟩ := Prod.mk.inj hkey
    have hstored : b ∈ front ++ old :: back :=
      List.perm_middle.mem_iff.2 (List.mem_cons_of_mem _ hb)
    exact hfree b hstored (hothers b hb) htenant hname

end MemoryStore

/-! ## Calls in a row -/

/-- A call that writes an account. -/
inductive AccountCall
  | insert (cancelled : Bool) (ctx : RequestContext) (a : Account)
  | update (cancelled : Bool) (ctx : RequestContext) (a : Account)

namespace AccountCall

variable {call : AccountCall} {calls : List AccountCall} {s : MemoryStore}

/-- What the store makes of a call. -/
def serve (s : MemoryStore) : AccountCall → MemoryStore.Result Unit
  | .insert cancelled ctx a => s.insertAccount cancelled ctx a
  | .update cancelled ctx a => s.updateAccount cancelled ctx a

/-- The store that calls bring about from the empty one. -/
def storeOf (calls : List AccountCall) : MemoryStore :=
  calls.foldl (fun s call => (call.serve s).2) .empty

theorem storeOf_concat : storeOf (calls ++ [call]) = (call.serve (storeOf calls)).2 := by
  rw [storeOf, List.foldl_append]
  rfl

/-- Everything has its place. -/
theorem filed_storeOf (calls : List AccountCall) : (storeOf calls).Filed := by
  induction calls using List.reverseRecOn with
  | nil => exact MemoryStore.filed_empty
  | append_singleton before call ih =>
    rw [storeOf_concat]
    cases call with
    | insert => exact MemoryStore.commit_of_insertAccount.filed ih
    | update => exact MemoryStore.commit_of_updateAccount.filed ih

/-- A call that does not give an account the name of another one. Opening never does. -/
def NamesFreely (s : MemoryStore) : AccountCall → Prop
  | .insert .. => True
  | .update cancelled ctx a => (s.updateAccount cancelled ctx a).1 = .ok () →
    ∀ b ∈ s.accounts, b.id ≠ a.id → b.tenant = a.tenant → b.name ≠ a.name

/-- **One call keeps the names apart exactly if it names freely.** -/
theorem namesDistinct_serve_iff (hs : s.Filed) (h : s.NamesDistinct) :
    (call.serve s).2.NamesDistinct ↔ call.NamesFreely s := by
  cases call with
  | insert cancelled ctx a =>
    exact iff_of_true (MemoryStore.commit_of_insertAccount.namesDistinct_opened h) trivial
  | update cancelled ctx a =>
    rw [serve, NamesFreely]
    rcases hserved : s.updateAccount cancelled ctx a with ⟨_ | _, s'⟩
    · obtain rfl := MemoryStore.updateAccount_refused hserved
      exact iff_of_true h fun hok => nomatch hok
    · obtain ⟨old, hsupplanted⟩ := MemoryStore.exists_supplanted hs hserved
      exact (hsupplanted.namesDistinct_iff h).trans ⟨fun hfree _ => hfree, fun hfree => hfree rfl⟩

/-- **Names stay apart exactly as long as every call names freely.** -/
theorem namesDistinct_along_iff (calls : List AccountCall) :
    (∀ before, before <+: calls → (storeOf before).NamesDistinct) ↔
      ∀ before call, before ++ [call] <+: calls → call.NamesFreely (storeOf before) := by
  induction calls using List.reverseRecOn with
  | nil =>
    refine iff_of_true (fun before hbefore => ?_) fun before call hbefore => ?_
    · rw [List.prefix_nil.1 hbefore]
      exact List.nodup_nil
    · simp at hbefore
  | append_singleton calls call ih =>
    -- a prefix is the whole, which the last call decides, or one of the calls before it
    have hlast (h : (storeOf calls).NamesDistinct) :
        (storeOf (calls ++ [call])).NamesDistinct ↔ call.NamesFreely (storeOf calls) := by
      rw [storeOf_concat]
      exact namesDistinct_serve_iff (filed_storeOf calls) h
    constructor
    · intro hdistinct before call' hbefore
      have hearlier := ih.1 fun before hbefore =>
        hdistinct before (hbefore.trans (List.prefix_append ..))
      rcases List.prefix_concat_iff.1 hbefore with hsame | hbefore
      · obtain ⟨rfl, hcall⟩ := List.append_inj' hsame rfl
        obtain rfl := List.singleton_inj.1 hcall
        exact (hlast (hdistinct _ (List.prefix_append ..))).1 (hdistinct _ List.prefix_rfl)
      · exact hearlier before call' hbefore
    · intro hfree before hbefore
      have hearlier := ih.2 fun before call hbefore =>
        hfree before call (hbefore.trans (List.prefix_append ..))
      rcases List.prefix_concat_iff.1 hbefore with rfl | hbefore
      · exact (hlast (hearlier _ List.prefix_rfl)).2 (hfree _ _ List.prefix_rfl)
      · exact hearlier before hbefore

/-- **What becomes of names and of updates**, after any calls by any tenants, with any accounts. The
names were distinct all along exactly if no update took the name of another account. And an update
that succeeds puts the given account in the place of the one that has its identifier, in the
caller's tenant, and changes nothing else; that comes to status, frequency and the note of the
change exactly if the two agree in name, type and origin. -/
theorem names_and_updates (calls : List AccountCall) :
    ((∀ before, before <+: calls → (storeOf before).NamesDistinct) ↔
      ∀ before call, before ++ [call] <+: calls → call.NamesFreely (storeOf before)) ∧
    ∀ {cancelled : Bool} {ctx : RequestContext} {a : Account} {s' : MemoryStore},
      (storeOf calls).updateAccount cancelled ctx a = (.ok (), s') →
      ∃ old, MemoryStore.Supplanted ctx a old (storeOf calls) s' :=
  ⟨namesDistinct_along_iff calls, MemoryStore.exists_supplanted (filed_storeOf calls)⟩

/-! ## Two accounts -/

/-- An account. -/
def acme : Account :=
  { id := ⟨{ value := 31 }⟩, tenant := Sample.tenant, name := "Acme"
    accountType := .organization, status := .active, frequency := .weekly
    createdAt := Sample.epoch, createdBy := Sample.operator.actor
    modifiedAt := none, modifiedBy := none }

/-- Another account of the tenant. -/
def beta : Account := { acme with id := ⟨{ value := 32 }⟩, name := "Beta" }

/-- The second account, closed. -/
def closedBeta : Account :=
  { beta with
    status := .inactive, modifiedAt := some Sample.epoch, modifiedBy := some "operator" }

/-- The second account under the name of the first. -/
def renamedBeta : Account := { beta with name := "Acme" }

/-- Both are opened. -/
def opening : List AccountCall :=
  [.insert false Sample.operator acme, .insert false Sample.operator beta]

/-- The second one is closed. -/
theorem names_and_updates_closedBeta :
    ∃ old, MemoryStore.Supplanted Sample.operator closedBeta old (storeOf opening)
      ((storeOf opening).replaced closedBeta) :=
  (names_and_updates opening).2 (show (storeOf opening).updateAccount false _ _ = _ from rfl)

/-- **An update gives an account the name of another one**, and writes more than status, frequency
and the note of the change. All three accounts pass the check of stored accounts, and all three
calls succeed. -/
theorem names_meet_renamedBeta :
    (∀ a ∈ [acme, beta, renamedBeta], a.rehydrate = .ok a) ∧
    MemoryStore.empty.insertAccount false Sample.operator acme =
      (.ok (), storeOf [.insert false Sample.operator acme]) ∧
    (storeOf [.insert false Sample.operator acme]).insertAccount false Sample.operator beta =
      (.ok (), storeOf opening) ∧
    (storeOf opening).updateAccount false Sample.operator renamedBeta =
      (.ok (), storeOf (opening ++ [.update false Sample.operator renamedBeta])) ∧
    (storeOf opening).NamesDistinct ∧
    ¬(storeOf (opening ++ [.update false Sample.operator renamedBeta])).NamesDistinct ∧
    storeOf (opening ++ [.update false Sample.operator renamedBeta]) ≠
      (storeOf opening).replaced (beta.persisting renamedBeta) := by
  refine ⟨?_, rfl, rfl, rfl, by decide, by decide, fun hsame => ?_⟩
  · simp only [List.forall_mem_cons, List.not_mem_nil, false_implies, implies_true, and_true]
    exact ⟨rfl, rfl, rfl⟩
  · have haccounts := congrArg MemoryStore.accounts hsame
    exact absurd haccounts (by decide)

end AccountCall

end RideLedger
