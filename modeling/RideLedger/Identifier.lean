import RideLedger.Json.Parser
import RideLedger.Json.Printer

/-!
# Identifiers

An identifier is a number of 128 bits together with the kind of thing it
names, so that identifiers of two kinds cannot be mixed up. It is shown with
the mark of its kind in front, and written bare in documents.

Reading takes the bare forms, with or without the mark of the kind: 32
hexadecimal digits, or five groups of them divided by hyphens, which may stand
in braces or behind `urn:uuid:` in any letter case.
-/

namespace RideLedger

/-- A number of 128 bits. -/
structure Uuid where
  value : Nat
  value_lt : value < 2 ^ 128 := by decide
deriving DecidableEq

namespace Uuid

def nil : Uuid := { value := 0 }

instance : Inhabited Uuid := ⟨nil⟩

instance : Ord Uuid := ⟨fun a b => compare a.value b.value⟩

/-- The number with the given low 128 bits. -/
def ofNat (n : Nat) : Uuid :=
  { value := n % 2 ^ 128, value_lt := Nat.mod_lt _ (by decide) }

/-- The last `count` hexadecimal digits of a number. -/
def hexDigits (n : Nat) : (count : Nat) → List Char
  | 0 => []
  | count + 1 => hexDigits (n / 16) count ++ [Json.hexDigit (n % 16)]

/-- The lengths of the groups of digits. -/
def groups : List Nat := [8, 4, 4, 4, 12]

/-- Cuts a list into pieces of the given lengths. -/
def pieces {α : Type} : List Nat → List α → List (List α)
  | [], _ => []
  | n :: ns, xs => xs.take n :: pieces ns (xs.drop n)

/-- The written form: five groups of digits. -/
def toText (u : Uuid) : String :=
  String.ofList (['-'].intercalate (pieces groups (hexDigits u.value 32)))

instance : ToString Uuid := ⟨toText⟩

/-- The value of hexadecimal digits. -/
def ofHex? (cs : List Char) : Option Nat :=
  cs.foldlM (fun n c => (Json.hexValue? c).map (n * 16 + ·)) 0

/-- Takes the hyphens out from between the groups; nothing if one is missing. -/
def ungroup? : List Nat → List Char → Option (List Char)
  | [], cs => if cs = [] then some [] else none
  | [n], cs => if cs.length = n then some cs else none
  | n :: ns, cs =>
    match cs.drop n with
    | '-' :: rest => (ungroup? ns rest).map (cs.take n ++ ·)
    | _ => none

/-- Reads the grouped form. -/
def ofGroups? (cs : List Char) : Option Uuid := do
  let n ← ofHex? (← ungroup? groups cs)
  some (ofNat n)

/-- The letters in front of an identifier that is used as a name, in any letter
case. -/
def nameMark : List Char := "urn:uuid:".toList

/-- Reads any of the accepted forms. -/
def ofChars? (cs : List Char) : Option Uuid :=
  if cs.length = 32 then (ofHex? cs).map ofNat
  else if cs.length = 36 then ofGroups? cs
  else match cs with
    | '\x7b' :: rest =>
      if rest.length = 37 ∧ rest.getLast? = some '\x7d' then ofGroups? rest.dropLast else none
    | cs =>
      if cs.length = 45 ∧ (cs.take 9).map Char.toLower = nameMark then ofGroups? (cs.drop 9)
      else none

/-- Reads any of the accepted forms. -/
def ofText? (s : String) : Option Uuid := ofChars? s.toList

instance : ToJson Uuid := ⟨fun u => .string u.toText⟩
instance : OfJson Uuid := ⟨fun | .string s => ofText? s | _ => none⟩

end Uuid

/-- The kinds of things that have identifiers. -/
inductive IdKind
  | tenant
  | account
  | ledgerEntry
  | invoice
  | invoiceLine
  | transaction
  | event
deriving DecidableEq

/-- The letters shown in front of an identifier. -/
def IdKind.mark : IdKind → String
  | .tenant => "TEN"
  | .account => "ACC"
  | .ledgerEntry => "LED"
  | .invoice => "INV"
  | .invoiceLine => "INVL"
  | .transaction => "TXN"
  | .event => "EVT"

/-- An identifier of one kind. -/
structure Id (kind : IdKind) where
  uuid : Uuid
deriving DecidableEq

abbrev TenantId := Id .tenant
abbrev AccountId := Id .account
abbrev EntryId := Id .ledgerEntry
abbrev InvoiceId := Id .invoice
abbrev InvoiceLineId := Id .invoiceLine
abbrev TransactionId := Id .transaction
abbrev EventId := Id .event

namespace Id

variable {kind : IdKind}

instance : Inhabited (Id kind) := ⟨⟨.nil⟩⟩

instance : Ord (Id kind) := ⟨fun a b => compare a.uuid b.uuid⟩

/-- Whether all bits are zero. -/
def isNil (i : Id kind) : Bool := i.uuid == .nil

/-- The shown form: the mark and the bare form. -/
def toText (i : Id kind) : String := kind.mark ++ "-" ++ i.uuid.toText

instance : ToString (Id kind) := ⟨toText⟩

/-- The text behind a mark and a hyphen, or the whole text if they are not in
front. -/
def withoutMark (mark : List Char) (cs : List Char) : List Char :=
  if (mark ++ ['-']).isPrefixOf cs then cs.drop (mark.length + 1) else cs

/-- Reads an identifier, with or without its mark. -/
def ofText? (s : String) : Option (Id kind) :=
  (Uuid.ofChars? (withoutMark kind.mark.toList s.toList)).map Id.mk

instance : ToJson (Id kind) := ⟨fun i => toJson i.uuid⟩
instance : OfJson (Id kind) := ⟨fun j => (ofJson? j).map Id.mk⟩

end Id

end RideLedger
