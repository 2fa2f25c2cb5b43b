import RideLedger.Json.Printer

/-!
# Writing documents on several lines

Every item and every field has a line of its own, two blanks further in than
the list or object that holds it. Empty lists and objects stay on one line.
-/

namespace RideLedger

namespace Json

/-- The end of a line and the beginning of the next one at a depth. -/
def newLine (depth : Nat) : List Char := '\n' :: List.replicate (2 * depth) ' '

mutual

/-- The written form at a depth, as characters. -/
def layOut (depth : Nat) : Json → List Char
  | .array (j :: rest) =>
    '[' :: layOutItems (depth + 1) (j :: rest) ++ newLine depth ++ [']']
  | .object (f :: rest) =>
    '\x7b' :: layOutFields (depth + 1) (f :: rest) ++ newLine depth ++ ['\x7d']
  | j => print j

/-- The items of a list, divided by commas. -/
def layOutItems (depth : Nat) : List Json → List Char
  | [] => []
  | [j] => newLine depth ++ layOut depth j
  | j :: rest => newLine depth ++ layOut depth j ++ ',' :: layOutItems depth rest

/-- The fields of an object, divided by commas. -/
def layOutFields (depth : Nat) : List (String × Json) → List Char
  | [] => []
  | [(name, j)] => newLine depth ++ quoted name ++ [':', ' '] ++ layOut depth j
  | (name, j) :: rest =>
    newLine depth ++ quoted name ++ [':', ' '] ++ layOut depth j ++ ','
      :: layOutFields depth rest

end

/-- The written form on several lines. -/
def renderLines (j : Json) : String := String.ofList (layOut 0 j)

end Json

end RideLedger
