import RideLedger.Plan

/-!
# Account operations

Opening accounts, finding them, and switching their status and frequency. A
change that changes nothing writes nothing.
-/

namespace RideLedger

namespace Accounts

/-- Opens an account. -/
def create (ctx : RequestContext) (request : NewAccount) : Service Account := do
  let id ← Service.freshId
  let account ← Service.ofExcept (Account.opened ⟨id⟩ ctx.tenant request ctx.actor (← Service.now))
  match ← Service.ask (.insertAccount ctx account) with
  | .ok () => return account
  | .error (.conflict _) =>
    throw (.conflict ("an account named '" ++ account.name ++ "' already exists"))
  | .error fault => throw (.ofStoreFault fault)

/-- The account with an identifier. -/
def get (ctx : RequestContext) (id : AccountId) : Service Account := do
  match ← Service.demand (.findAccount ctx id) with
  | some account => return account
  | none => throw (.notFound "Account" id.toText)

/-- A page of the tenant's accounts. -/
def list (ctx : RequestContext) (page : PageRequest) : Service (Page Account) :=
  Service.demand (.listAccounts ctx page)

/-- Reads an account, changes it, and writes it back if that changed anything. -/
def change (ctx : RequestContext) (id : AccountId)
    (edit? : Account → String → Instant → Option Account) : Service Account := do
  let account ← get ctx id
  match edit? account ctx.actor (← Service.now) with
  | none => return account
  | some changed =>
    Service.demand (.updateAccount ctx changed)
    return changed

/-- Makes an account active. -/
def activate (ctx : RequestContext) (id : AccountId) : Service Account :=
  change ctx id Account.activate?

/-- Makes an account inactive. -/
def deactivate (ctx : RequestContext) (id : AccountId) : Service Account :=
  change ctx id Account.deactivate?

/-- Changes how often an account is invoiced. -/
def changeFrequency (ctx : RequestContext) (id : AccountId) (frequency : InvoiceFrequency) :
    Service Account :=
  change ctx id fun account => account.setFrequency? frequency

end Accounts

end RideLedger
