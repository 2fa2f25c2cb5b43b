import RideLedger.Json.Basic

/-!
# Pages

A request names a page, counted from one, and a size; a page carries its items
and the total. Pages of at most `maxPageSize` items are given out: the page
and size of a request are brought into range when they are used.
-/

namespace RideLedger

/-- The largest size of a page. -/
abbrev maxPageSize : Nat := 500

/-- Which page is wanted. -/
structure PageRequest where
  page : UInt32
  perPage : UInt32
deriving DecidableEq

/-- A number brought between two bounds. -/
def clamp (low high n : Nat) : Nat := max low (min high n)

namespace PageRequest

/-- The page asked for when nothing is said. -/
def default : PageRequest := { page := 1, perPage := 50 }

/-- A request brought into range. -/
def new (page perPage : UInt32) : PageRequest :=
  { page := max page 1, perPage := UInt32.ofNat (clamp 1 maxPageSize perPage.toNat) }

/-- The size in range. -/
def limit (r : PageRequest) : Nat := clamp 1 maxPageSize r.perPage.toNat

/-- The page in range. -/
def number (r : PageRequest) : Nat := max r.page.toNat 1

/-- How many items come before the page. -/
def offset (r : PageRequest) : Nat := (r.number - 1) * r.limit

/-- The items of the page. -/
def slice {α : Type} (r : PageRequest) (items : List α) : List α :=
  (items.drop r.offset).take r.limit

end PageRequest

/-- One page and the total number of items. -/
structure Page (α : Type) where
  items : List α
  page : Nat
  perPage : Nat
  total : Nat

namespace Page

variable {α : Type}

/-- The page of a request. -/
def new (items : List α) (r : PageRequest) (total : Nat) : Page α :=
  { items := items, page := r.number, perPage := r.limit, total := total }

/-- The page of a request, cut out of all items. -/
def ofAll (items : List α) (r : PageRequest) : Page α := new (r.slice items) r items.length

/-- The number of pages, at least one and at most what 32 bits hold. -/
def totalPages (p : Page α) : Nat :=
  if p.total = 0 then 1
  else min ((p.total + max p.perPage 1 - 1) / max p.perPage 1) (2 ^ 32 - 1)

/-- Whether there is a page after this one. -/
def hasNext (p : Page α) : Bool := p.page < p.totalPages

end Page

instance : ToJson PageRequest :=
  ⟨fun r => .object [("page", toJson r.page), ("per_page", toJson r.perPage)]⟩

instance : OfJson PageRequest where
  ofJson? j := do
    match ← j.fields? ["page", "per_page"] 2 with
    | [page, perPage] =>
      let read (field : Option Json) (default : UInt32) : Option UInt32 :=
        match field with
        | none => some default
        | some j => ofJson? j
      some { page := ← read page PageRequest.default.page
             perPage := ← read perPage PageRequest.default.perPage }
    | _ => none

instance {α : Type} [ToJson α] : ToJson (Page α) :=
  ⟨fun p => .object [("items", toJson p.items), ("page", toJson p.page),
    ("per_page", toJson p.perPage), ("total", toJson p.total)]⟩

instance {α : Type} [OfJson α] : OfJson (Page α) where
  ofJson? j := do
    match ← j.fields? ["items", "page", "per_page", "total"] 0 with
    | [items, page, perPage, total] =>
      some { items := ← Json.required? items
             page := ← page.bind (Json.natBelow? (2 ^ 32))
             perPage := ← perPage.bind (Json.natBelow? (2 ^ 32))
             total := ← total.bind (Json.natBelow? (2 ^ 64)) }
    | _ => none

end RideLedger
