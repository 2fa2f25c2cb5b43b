import RideLedger.Json.Printer
import RideLedger.Text.Visible

/-!
# Texts in quotes

A key is shown in quotes, with quotes, backslashes and invisible characters
escaped, so that a message stays on one line and shows every character.
-/

namespace RideLedger

/-- A number in hexadecimal digits, as few as possible. -/
def hexText (n : Nat) : List Char :=
  go n 6 []
where
  /-- Digits in front of those already there. -/
  go (n : Nat) : (fuel : Nat) → List Char → List Char
    | 0, done => done
    | fuel + 1, done =>
      let done := Json.hexDigit (n % 16) :: done
      if n < 16 then done else go (n / 16) fuel done

/-- The characters that stand for `c` between quotes. -/
def shownChar (c : Char) : List Char :=
  if c = '"' then ['\\', '"']
  else if c = '\\' then ['\\', '\\']
  else if c = '\n' then ['\\', 'n']
  else if c = '\r' then ['\\', 'r']
  else if c = '\t' then ['\\', 't']
  else if c.toNat = 0 then ['\\', '0']
  else if isVisible c then [c]
  else ['\\', 'u', '\x7b'] ++ hexText c.toNat ++ ['\x7d']

/-- A text in quotes. -/
def shown (s : String) : String := String.ofList ('"' :: s.toList.flatMap shownChar ++ ['"'])

end RideLedger
