import RideLedger.Json.Basic

/-!
# Named values

Kinds, states and frequencies are types of a few named values. Each value has
a name, used in documents, and a word, used in storage and in texts. Reading
takes exactly these names and words.
-/

namespace RideLedger

/-- A type of finitely many named values. -/
class Choice (α : Type) where
  /-- All values, in their order. -/
  values : List α
  /-- The name in documents. -/
  name : α → String
  /-- The word in storage and in texts. -/
  word : α → String

namespace Choice

variable {α : Type} [Choice α]

/-- The value with a name. -/
def ofName? (s : String) : Option α := values.find? fun a => name a == s

/-- The value with a word. -/
def ofWord? (s : String) : Option α := values.find? fun a => word a == s

instance : ToJson α := ⟨fun a => .string (name a)⟩
instance : OfJson α := ⟨fun j => j.choice?.bind ofName?⟩

end Choice

end RideLedger
