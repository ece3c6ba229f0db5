import EventTickets.Json.Value

/-!
# Masking

Puts one text in the place of every value under certain names, so that answers from different days
can be compared. Nulls are left, since they say that there is no value.
-/

namespace EventTickets

namespace Json

def isNull : Json → Bool
  | .null => true
  | _ => false

mutual

def mask (names : List String) (shown : String) : Json → Json
  | .arr items => .arr (maskItems names shown items)
  | .obj fields => .obj (maskFields names shown fields)
  | j => j

def maskItems (names : List String) (shown : String) : List Json → List Json
  | [] => []
  | j :: js => mask names shown j :: maskItems names shown js

def maskFields (names : List String) (shown : String) : List (String × Json) → List (String × Json)
  | [] => []
  | (name, j) :: rest =>
    (name, if names.contains name && !isNull j then .str shown else mask names shown j) ::
      maskFields names shown rest

end

end Json

end EventTickets
