import RideLedger.Engine
import RideLedger.Supply

/-!
# Labels

Fresh identifiers differ from run to run. A rehearsal therefore shows each as
a label: the kind and the place in which it came up, such as `<acc2>` for the
second account. Identifiers that were not supplied are shown as they are, and
supplied ones that have no label either as they are or all in the same way.
-/

namespace RideLedger

/-- The first letters of a label. -/
def IdKind.short : IdKind → String
  | .tenant => "ten"
  | .account => "acc"
  | .ledgerEntry => "led"
  | .invoice => "inv"
  | .invoiceLine => "lin"
  | .transaction => "txn"
  | .event => "evt"

/-- A labelled identifier. -/
structure Label where
  kind : IdKind
  uuid : Uuid
  text : String

/-- The labels so far, in the order they came up. -/
structure Labels where
  given : List Label
  /-- What supplied identifiers without a label are shown as. -/
  others : Option String

namespace Labels

def empty : Labels := { given := [], others := none }

/-- The label of an identifier. -/
def text? (l : Labels) (u : Uuid) : Option String := (l.given.find? (·.uuid = u)).map (·.text)

/-- What an identifier is shown as, if not as it is. -/
def shown? (l : Labels) (u : Uuid) : Option String :=
  l.text? u <|> if u.isSupplied then l.others else none

/-- The identifier with a label. -/
def uuid? (l : Labels) (text : String) : Option Uuid :=
  (l.given.find? (·.text = text)).map (·.uuid)

/-- Labels a supplied identifier that has no label. -/
def note (l : Labels) (kind : IdKind) (u : Uuid) : Labels :=
  if !u.isSupplied || (l.text? u).isSome then l
  else
    let place := l.given.countP (·.kind = kind) + 1
    let label := { kind := kind, uuid := u, text := "<" ++ kind.short ++ Nat.repr place ++ ">" }
    { l with given := l.given ++ [label] }

/-- Whether five groups of digits may begin here. -/
def mayStart (cs : List Char) : Bool := (cs.drop 8).head? == some '-'

/-- The number of characters of a written identifier. -/
abbrev uuidLength : Nat := 36

/-- The text with the labels in the place of identifiers; the fuel is its
length. -/
def hideChars (l : Labels) : (fuel : Nat) → List Char → List Char
  | 0, cs => cs
  | _, [] => []
  | fuel + 1, c :: cs =>
    let found := if mayStart (c :: cs) then
        (Uuid.ofGroups? ((c :: cs).take uuidLength)).bind l.shown?
      else none
    match found with
    | some label => label.toList ++ hideChars l fuel ((c :: cs).drop uuidLength)
    | none => c :: hideChars l fuel cs

/-- The text with the labels in the place of identifiers. -/
def hide (l : Labels) (s : String) : String :=
  String.ofList (hideChars l s.length s.toList)

end Labels

/-- Types whose values carry identifiers of their own. -/
class Named (α : Type) where
  /-- The identifiers, in the order in which they come up. -/
  names : α → List (IdKind × Uuid)

export Named (names)

instance : Named Account := ⟨fun a => [(.account, a.id.uuid)]⟩
instance : Named LedgerEntry := ⟨fun e => [(.ledgerEntry, e.id.uuid)]⟩

instance : Named LedgerTransaction where
  names t := (.transaction, t.id.uuid) :: t.entries.map fun e => (.ledgerEntry, e.id.uuid)

instance : Named Invoice where
  names i := (.invoice, i.id.uuid) :: i.lines.map fun l => (.invoiceLine, l.id.uuid)

instance : Named InvoiceDraft where
  names d := (.invoice, d.id.uuid) :: d.lines.map fun l => (.invoiceLine, l.id.uuid)

instance : Named OutboxEvent where
  names e :=
    let about : List (IdKind × Uuid) := match e.eventType with
      | .ledgerEntryCreated =>
        ((Id.ofText? e.aggregate : Option TransactionId).map fun i =>
          (.transaction, i.uuid)).toList
      | .invoiceGenerated =>
        ((Id.ofText? e.aggregate : Option InvoiceId).map fun i => (.invoice, i.uuid)).toList
    (.event, e.id.uuid) :: about

instance {α : Type} [Named α] : Named (Option α) := ⟨fun a => a.toList.flatMap names⟩
instance {α : Type} [Named α] : Named (List α) := ⟨fun as => as.flatMap names⟩
instance {α : Type} [Named α] : Named (Page α) := ⟨fun p => names p.items⟩

instance : Named RecordedCharge where
  names r := names r.transaction ++ match r.perRide with
    | some (.ok i) => names i
    | _ => []

instance : Named ScheduledRun := ⟨fun r => names r.invoices⟩
instance : Named Statement := ⟨fun s => s.lines.items.map fun l => (.ledgerEntry, l.entry.uuid)⟩

end RideLedger
