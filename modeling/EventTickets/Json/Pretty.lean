import EventTickets.Json.Value

/-!
# Indented JSON

Two spaces for each level, a line for each item and field; what is empty stays on its line.
-/

namespace EventTickets

namespace Json

def indent (depth : Nat) : String := String.ofList ('\n' :: List.replicate (2 * depth) ' ')

def block (depth : Nat) (opening closing : String) (lines : List String) : String :=
  if lines.isEmpty then opening ++ closing
  else opening ++ ",".intercalate (lines.map (indent (depth + 1) ++ ·)) ++ indent depth ++ closing

mutual

def prettyAt (depth : Nat) : Json → String
  | .arr items => block depth "[" "]" (prettyItems (depth + 1) items)
  | .obj fields => block depth "\x7b" "\x7d" (prettyFields (depth + 1) fields)
  | j => j.compact

def prettyItems (depth : Nat) : List Json → List String
  | [] => []
  | j :: js => prettyAt depth j :: prettyItems depth js

def prettyFields (depth : Nat) : List (String × Json) → List String
  | [] => []
  | (name, j) :: rest => (strText name ++ ": " ++ prettyAt depth j) :: prettyFields depth rest

end

def pretty (j : Json) : String := prettyAt 0 j

end Json

end EventTickets
