import RideLedger.Json.Basic

/-!
# Reading documents

The reader takes any text of the grammar, blanks included, and nothing else.
Every step returns what is left of the text. Nesting is bounded by `fuel`,
which `ofText?` takes from the length of the text, so the bound is never met.
-/

namespace RideLedger

namespace Json

/-- What is left after blanks. -/
def skipBlanks (cs : List Char) : List Char :=
  cs.dropWhile fun c => c = ' ' || c = '\n' || c = '\t' || c = '\r'

/-- The value of a hexadecimal digit. -/
def hexValue? (c : Char) : Option Nat :=
  if '0' ≤ c ∧ c ≤ '9' then some (c.toNat - '0'.toNat)
  else if 'a' ≤ c ∧ c ≤ 'f' then some (c.toNat - 'a'.toNat + 10)
  else if 'A' ≤ c ∧ c ≤ 'F' then some (c.toNat - 'A'.toNat + 10)
  else none

/-- The unit that four hexadecimal digits stand for. -/
def unit? : List Char → Option (Nat × List Char)
  | a :: b :: c :: d :: rest => do
    let n := ((← hexValue? a) * 16 + (← hexValue? b)) * 256 + (← hexValue? c) * 16 + (← hexValue? d)
    some (n, rest)
  | _ => none

/-- The character of a code point; surrogates have none. -/
def charOf? (n : Nat) : Option Char :=
  if n.isValidChar then some (Char.ofNat n) else none

/-- The character behind `\u`: one unit, or two that make a pair. -/
def escapedUnit? (cs : List Char) : Option (Char × List Char) := do
  let (high, rest) ← unit? cs
  if 0xD800 ≤ high ∧ high < 0xDC00 then
    match rest with
    | '\\' :: 'u' :: rest => do
      let (low, rest) ← unit? rest
      if 0xDC00 ≤ low ∧ low < 0xE000 then
        some (← charOf? ((high - 0xD800) * 0x400 + (low - 0xDC00) + 0x10000), rest)
      else none
    | _ => none
  else some (← charOf? high, rest)

/-- The character that a letter behind a backslash stands for. -/
def escapedLetter? : Char → Option Char
  | '"' => some '"'
  | '\\' => some '\\'
  | '/' => some '/'
  | 'b' => some (Char.ofNat 8)
  | 'f' => some (Char.ofNat 12)
  | 'n' => some '\n'
  | 'r' => some '\r'
  | 't' => some '\t'
  | _ => none

/-- Reads a text behind its opening quote, up to the closing one. -/
def text? : (fuel : Nat) → List Char → Option (List Char × List Char)
  | 0, _ => none
  | _ + 1, [] => none
  | fuel + 1, c :: rest =>
    if c = '"' then some ([], rest)
    else if c = '\\' then
      match rest with
      | 'u' :: rest => do
        let (c, rest) ← escapedUnit? rest
        let (cs, rest) ← text? fuel rest
        some (c :: cs, rest)
      | letter :: rest => do
        let c ← escapedLetter? letter
        let (cs, rest) ← text? fuel rest
        some (c :: cs, rest)
      | [] => none
    else if c.toNat < 32 then none
    else do
      let (cs, rest) ← text? fuel rest
      some (c :: cs, rest)

/-! ## Numbers -/

/-- A run of digits and what follows it. -/
def digitRun (cs : List Char) : List Char × List Char := cs.span Char.isDigit

/-- The digits as a number. -/
def numberOf (ds : List Char) : Nat := ds.foldl (fun n c => n * 10 + (c.toNat - '0'.toNat)) 0

/-- Takes digits into a significand below `2 ^ 64`; gives it, how many digits
went in, and how many had no room. -/
def significand (start : Nat) (ds : List Char) : Nat × Nat × Nat :=
  go start 0 ds
where
  /-- Stops at the first digit without room. -/
  go (n used : Nat) : List Char → Nat × Nat × Nat
    | [] => (n, used, 0)
    | c :: rest =>
      let next := n * 10 + (c.toNat - '0'.toNat)
      if next < 2 ^ 64 then go next (used + 1) rest else (n, used, rest.length + 1)

/-- The exponent behind its mark. -/
def exponent? (cs : List Char) : Option (Int × List Char) :=
  let (negative, cs) :=
    match cs with
    | '-' :: rest => (true, rest)
    | '+' :: rest => (false, rest)
    | cs => (false, cs)
  match digitRun cs with
  | ([], _) => none
  | (ds, rest) => some (if negative then -(numberOf ds : Int) else numberOf ds, rest)

/-- Reads a number behind its sign. Digits for which 64 bits have no room are
not looked at; those before the point still count as places. -/
def number? (negative : Bool) (cs : List Char) : Option (Json × List Char) := do
  let (whole, rest) := digitRun cs
  if whole = [] ∨ (2 ≤ whole.length ∧ whole.head? = some '0') then none
  let (n, _, spare) := significand 0 whole
  let (decimals, rest) ←
    match rest with
    | '.' :: rest =>
      let (digits, rest) := digitRun rest
      if digits = [] then none else some (some digits, rest)
    | rest => some (none, rest)
  let (n, places, _) := significand n (decimals.getD [])
  let (power, rest) ←
    match rest with
    | 'e' :: rest => (exponent? rest).map fun (e, r) => (some e, r)
    | 'E' :: rest => (exponent? rest).map fun (e, r) => (some e, r)
    | rest => some (none, rest)
  let asFraction : Option (Json × List Char) := do
    let x ← Binary64.ofParts? n ((power.getD 0) + spare - places)
    some (.fraction { x with negative := negative }, rest)
  if decimals.isNone ∧ power.isNone ∧ spare = 0 then
    if ¬ negative then some (.integer n, rest)
    else if 0 < n ∧ n ≤ 2 ^ 63 then some (.integer (-(n : Int)), rest)
    else asFraction
  else asFraction

/-! ## Values -/

mutual

/-- Reads a value. -/
def value? : (fuel : Nat) → List Char → Option (Json × List Char)
  | 0, _ => none
  | fuel + 1, cs =>
    match skipBlanks cs with
    | 'n' :: 'u' :: 'l' :: 'l' :: rest => some (.null, rest)
    | 't' :: 'r' :: 'u' :: 'e' :: rest => some (.bool true, rest)
    | 'f' :: 'a' :: 'l' :: 's' :: 'e' :: rest => some (.bool false, rest)
    | '"' :: rest => (text? (rest.length + 1) rest).map fun (s, r) => (.string (String.ofList s), r)
    | '[' :: rest =>
      match skipBlanks rest with
      | ']' :: rest => some (.array [], rest)
      | rest => (items? fuel rest).map fun (items, r) => (.array items, r)
    | '\x7b' :: rest =>
      match skipBlanks rest with
      | '\x7d' :: rest => some (.object [], rest)
      | rest => (members? fuel [] rest).map fun (fields, r) => (.object fields, r)
    | '-' :: rest => number? true rest
    | rest => number? false rest

/-- Reads the items of a list, up to its closing bracket. -/
def items? : (fuel : Nat) → List Char → Option (List Json × List Char)
  | 0, _ => none
  | fuel + 1, cs => do
    let (j, rest) ← value? fuel cs
    match skipBlanks rest with
    | ',' :: rest => (items? fuel rest).map fun (js, r) => (j :: js, r)
    | ']' :: rest => some ([j], rest)
    | _ => none

/-- Reads the fields of an object, up to its closing brace; of two fields of
one name the later value counts. -/
def members? : (fuel : Nat) → List (String × Json) → List Char →
    Option (List (String × Json) × List Char)
  | 0, _, _ => none
  | fuel + 1, done, cs => do
    match skipBlanks cs with
    | '"' :: rest =>
      let (name, rest) ← text? (rest.length + 1) rest
      match skipBlanks rest with
      | ':' :: rest =>
        let (j, rest) ← value? fuel rest
        let done := setField (String.ofList name) j done
        match skipBlanks rest with
        | ',' :: rest => members? fuel done rest
        | '\x7d' :: rest => some (done, rest)
        | _ => none
      | _ => none
    | _ => none

end

/-- Reads a text that is one document. -/
def ofText? (s : String) : Option Json :=
  let cs := s.toList
  match value? (cs.length + 1) cs with
  | some (j, rest) => if skipBlanks rest = [] then some j else none
  | none => none

end Json

end RideLedger
