import EventTickets.Program
import EventTickets.Sql.Rows
import EventTickets.Sql.Statement

/-!
# Asking the database

A connection is sent one statement after the other. Each is answered with rows and the number of
rows it concerned, or with the server's error.
-/

namespace EventTickets.Sql

structure Outcome where
  rows : List Row
  affected : Nat

structure ServerError where
  message : String
  code : String
  deriving DecidableEq

abbrev Answer := Except ServerError Outcome

abbrev signature : Signature := ⟨Statement, fun _ => Answer⟩

namespace ServerError

def uniqueViolation : String := "23505"

def storeError (e : ServerError) : StoreError :=
  .database ("error returned from database: " ++ e.message)

end ServerError

abbrev Asking := ExceptT StoreError (Program signature)

namespace Asking

def trySend (s : Statement) : Asking Answer := ExceptT.lift (Program.perform (S := signature) s)

def send (s : Statement) : Asking Outcome := do
  match ← trySend s with
  | .ok outcome => return outcome
  | .error e => throw e.storeError

def execute (s : Statement) : Asking Unit := do
  let _ ← send s

def affected (s : Statement) : Asking Nat := do
  return (← send s).affected

def rows {α : Type} (s : Statement) (read : Row → Reading α) : Asking (List α) := do
  liftExcept ((← send s).rows.mapM read)

def row? {α : Type} (s : Statement) (read : Row → Reading α) : Asking (Option α) := do
  match (← send s).rows with
  | [] => return none
  | row :: _ => some <$> liftExcept (read row)

def noRow : StoreError :=
  .database "no rows returned by a query that expected to return at least one row"

def firstRow (outcome : Outcome) : Asking Row :=
  match outcome.rows with
  | [] => throw noRow
  | row :: _ => pure row

def row {α : Type} (s : Statement) (read : Row → Reading α) : Asking α := do
  liftExcept (read (← firstRow (← send s)))

end Asking

end EventTickets.Sql
