import RideLedger.Json.Basic

/-!
# Writing documents

A document is written on one line without blanks. In texts, quotes,
backslashes and control characters are escaped, the usual ones by a letter;
all other characters stand for themselves.
-/

namespace RideLedger

namespace Json

/-- A hexadecimal digit, in lower case. -/
def hexDigit (n : Nat) : Char :=
  if n < 10 then Char.ofNat (n + '0'.toNat) else Char.ofNat (n - 10 + 'a'.toNat)

/-- The characters that stand for `c` inside a text. -/
def escape (c : Char) : List Char :=
  if c = '"' then ['\\', '"']
  else if c = '\\' then ['\\', '\\']
  else if c = '\n' then ['\\', 'n']
  else if c = '\r' then ['\\', 'r']
  else if c = '\t' then ['\\', 't']
  else if c.toNat = 8 then ['\\', 'b']
  else if c.toNat = 12 then ['\\', 'f']
  else if c.toNat < 32 then ['\\', 'u', '0', '0', hexDigit (c.toNat / 16), hexDigit (c.toNat % 16)]
  else [c]

/-- A text in quotes. -/
def quoted (s : String) : List Char := '"' :: s.toList.flatMap escape ++ ['"']

mutual

/-- The written form, as characters. -/
def print : Json → List Char
  | .null => "null".toList
  | .bool true => "true".toList
  | .bool false => "false".toList
  | .integer n => (toString n).toList
  | .fraction x => x.documentText.toList
  | .string s => quoted s
  | .array items => '[' :: printItems items ++ [']']
  | .object fields => '\x7b' :: printFields fields ++ ['\x7d']

/-- The items of a list, divided by commas. -/
def printItems : List Json → List Char
  | [] => []
  | [j] => print j
  | j :: rest => print j ++ ',' :: printItems rest

/-- The fields of an object, divided by commas. -/
def printFields : List (String × Json) → List Char
  | [] => []
  | [(name, j)] => quoted name ++ ':' :: print j
  | (name, j) :: rest => quoted name ++ ':' :: print j ++ ',' :: printFields rest

end

/-- The written form. -/
def render (j : Json) : String := String.ofList (print j)

end Json

end RideLedger
