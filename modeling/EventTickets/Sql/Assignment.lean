import EventTickets.Sql.Cell

/-!
# Assignments of a patch

The part of an update that says what becomes of each column. Parameters are numbered from one, and
the first is the identifier of the row.
-/

namespace EventTickets.Sql

inductive Assignment where
  /-- The parameter, or what is there if that is null. -/
  | given (column : String) (param : Nat)
  /-- The second parameter if the first is true, or else what is there. -/
  | switched (column : String) (flag param : Nat)
  /-- The time of the transaction. -/
  | stamped (column : String)
  deriving DecidableEq

namespace Assignment

def placeholder (param : Nat) : String := "$" ++ toString param

def text : Assignment → String
  | .given column param => column ++ " = COALESCE(" ++ placeholder param ++ ", " ++ column ++ ")"
  | .switched column flag param =>
    column ++ " = CASE WHEN " ++ placeholder flag ++ " THEN " ++ placeholder param ++
      " ELSE " ++ column ++ " END"
  | .stamped column => column ++ " = now()"

def listText (assignments : List Assignment) : String := ", ".intercalate (assignments.map text)

end Assignment

end EventTickets.Sql
