import RideLedger.BillingError

/-!
# Invoice numbers

An invoice number is `INV-`, the month of issue, a hyphen, and the sequence of
the invoice in its month with at least six digits. A text is accepted as a
number if it has this form, with six digits for the month.
-/

namespace RideLedger

/-- The letters in front of every invoice number. -/
def invoiceMark : String := "INV"

/-- The number of an invoice. -/
structure InvoiceNumber where
  text : String
deriving DecidableEq

namespace InvoiceNumber

/-- The month of a date: its year and two digits. -/
def periodKey (issueDate : Date) : String :=
  yearText issueDate.year ++ padded issueDate.month 2

/-- The number with a sequence in the month of a date. -/
def new (issueDate : Date) (sequence : Nat) : InvoiceNumber :=
  ⟨invoiceMark ++ "-" ++ periodKey issueDate ++ "-" ++ padded sequence 6⟩

/-- Cuts a text at every occurrence of a character. -/
def splitAt (mark : Char) : List Char → List (List Char)
  | [] => [[]]
  | c :: rest =>
    if c = mark then [] :: splitAt mark rest
    else match splitAt mark rest with
      | [] => [[c]]
      | part :: parts => (c :: part) :: parts

/-- Whether a text has the form of an invoice number. -/
def wellFormed (text : String) : Bool :=
  match splitAt '-' text.toList with
  | [mark, period, sequence] =>
    mark == invoiceMark.toList && period.length == 6 && period.all Char.isDigit
      && 6 ≤ sequence.length && sequence.all Char.isDigit
      && (Decimal.natOfDigits? (period.drop 4)).any fun month => 1 ≤ month && month ≤ 12
  | _ => false

/-- Reads an invoice number. -/
def parse (text : String) : Except BillingError InvoiceNumber :=
  if wellFormed text then .ok ⟨text⟩ else .error (.validation (.malformedNumber text))

/-- The sequence in the month; zero if 32 bits do not hold it. -/
def sequence (n : InvoiceNumber) : Nat :=
  match (splitAt '-' n.text.toList).getLast?.bind Decimal.natOfDigits? with
  | some k => if k < 2 ^ 32 then k else 0
  | none => 0

instance : Ord InvoiceNumber := ⟨fun a b => compare a.text b.text⟩

instance : ToJson InvoiceNumber := ⟨fun n => .string n.text⟩
instance : OfJson InvoiceNumber :=
  ⟨fun | .string s => if wellFormed s then some ⟨s⟩ else none | _ => none⟩

end InvoiceNumber

end RideLedger
