import RideLedger.Binary64.Shortest

/-!
# Documents

A document is a tree of null, truth values, numbers, texts, lists and objects.
Whole numbers of 64 bits are kept exactly; all other numbers are binary
fractions. An object keeps its fields in the order they came in, each name
once.
-/

namespace RideLedger

/-- A document. -/
inductive Json
  | null
  | bool (b : Bool)
  | integer (n : Int)
  | fraction (x : Binary64)
  | string (s : String)
  | array (items : List Json)
  | object (fields : List (String × Json))
deriving Repr, Inhabited

namespace Json

/-- The value of a field. -/
def field? (name : String) : Json → Option Json
  | .object fields => fields.lookup name
  | _ => none

/-- Sets a field: a present one keeps its place. -/
def setField (name : String) (value : Json) : List (String × Json) → List (String × Json)
  | [] => [(name, value)]
  | (n, v) :: rest => if n = name then (n, value) :: rest else (n, v) :: setField name value rest

/-- An object with further fields behind its own. -/
def extend (j : Json) (more : List (String × Json)) : Json :=
  match j with
  | .object fields => .object (fields ++ more)
  | other => other

/-- An object with a field set. -/
def withField (j : Json) (name : String) (value : Json) : Json :=
  match j with
  | .object fields => .object (setField name value fields)
  | other => other

/-- Whether the document is null. -/
def isNull : Json → Bool
  | .null => true
  | _ => false

end Json

/-- Types whose values have a document form. -/
class ToJson (α : Type) where
  toJson : α → Json

/-- Types whose values can be read from a document. -/
class OfJson (α : Type) where
  ofJson? : Json → Option α

export ToJson (toJson)
export OfJson (ofJson?)

instance : ToJson Json := ⟨id⟩
instance : OfJson Json := ⟨some⟩

instance : ToJson String := ⟨.string⟩
instance : OfJson String := ⟨fun | .string s => some s | _ => none⟩

instance : ToJson Bool := ⟨.bool⟩
instance : OfJson Bool := ⟨fun | .bool b => some b | _ => none⟩

instance : ToJson Nat := ⟨fun n => .integer n⟩
instance : ToJson Int := ⟨.integer⟩

instance {α : Type} [ToJson α] : ToJson (Option α) := ⟨fun | none => .null | some a => toJson a⟩

instance {α : Type} [ToJson α] : ToJson (List α) := ⟨fun items => .array (items.map toJson)⟩

instance {α : Type} [OfJson α] : OfJson (List α) :=
  ⟨fun | .array items => items.mapM ofJson? | _ => none⟩

instance {α : Type} [OfJson α] : OfJson (Option α) :=
  ⟨fun | .null => some none | j => (ofJson? j).map some⟩

namespace Json

/-- A whole number below `bound`. -/
def natBelow? (bound : Nat) : Json → Option Nat
  | .integer n => if 0 ≤ n ∧ n.toNat < bound then some n.toNat else none
  | _ => none

instance : ToJson UInt32 := ⟨fun n => toJson n.toNat⟩
instance : OfJson UInt32 := ⟨fun j => (j.natBelow? (2 ^ 32)).map UInt32.ofNat⟩

/-- The values of a record's fields, in their order. A record is an object, in
which a field may be absent and others are skipped, or a list of all the
values, in which only the fields of `optional`, at the end, may be absent. -/
def fields? (names : List String) (optional : Nat) : Json → Option (List (Option Json))
  | .object fields => some (names.map fun name => fields.lookup name)
  | .array items =>
    if items.length ≤ names.length ∧ names.length ≤ items.length + optional then
      some (items.map some ++ List.replicate (names.length - items.length) none)
    else none
  | _ => none

/-- A field that has to be there. -/
def required? {α : Type} [OfJson α] (field : Option Json) : Option α := field.bind ofJson?

/-- A field that may be absent or null. -/
def optional? {α : Type} [OfJson α] : Option Json → Option (Option α)
  | none => some none
  | some j => ofJson? j

/-- The name of a choice without parts: a text, or an object whose only field,
of that name, is null. -/
def choice? : Json → Option String
  | .string s => some s
  | .object [(name, .null)] => some name
  | _ => none

end Json

end RideLedger
