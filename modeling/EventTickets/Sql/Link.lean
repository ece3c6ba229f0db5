import EventTickets.Sql.Connection

/-!
# The link to the database

A store works over one connection at a time. A new connection is told first how long statements may
take, and one that refuses is replaced by the next, for as many attempts as there is time for. After
a transaction the connection is rolled back if anything is left open; if that fails it is lost, and
whatever comes next needs a new one.
-/

namespace EventTickets.Sql

structure Link where
  /-- In milliseconds; any time if zero. -/
  statementTimeout : UInt64
  /-- How many new connections are tried before the link gives up. -/
  attempts : Nat
  isOpen : Bool

namespace Link

abbrev Over (α : Type) := StateT Link (Program signature) α

def closed (statementTimeout : UInt64) (attempts : Nat) : Link :=
  ⟨statementTimeout, attempts, false⟩

def greet (statementTimeout : UInt64) : Asking Unit :=
  if 0 < statementTimeout then Asking.execute (.setTimeout statementTimeout) else pure ()

def connect (statementTimeout : UInt64) : Nat → Asking Unit
  | 0 => throw (.database "no connection")
  | more + 1 => tryCatch (greet statementTimeout) fun _ => connect statementTimeout more

def ensureOpen : Over (Except StoreError Unit) := fun link => do
  if link.isOpen then return (.ok (), link)
  match ← (connect link.statementTimeout link.attempts).run with
  | .ok () => return (.ok (), { link with isOpen := true })
  | .error e => return (.error e, link)

def ask {α : Type} (asking : Asking α) : Over (Except StoreError α) := fun link => do
  match ← ensureOpen link with
  | (.ok (), link) => return (← asking.run, link)
  | (.error e, link) => return (.error e, link)

def abandon : Over Unit := fun link => do
  match ← Program.perform (S := signature) .rollback with
  | .ok _ => return ((), link)
  | .error _ => return ((), { link with isOpen := false })

/-- Ends the transaction. If it cannot be ended it is abandoned. -/
def finish (s : Statement) : Over (Except StoreError Unit) := fun link => do
  match ← Program.perform (S := signature) s with
  | .ok _ => return (.ok (), link)
  | .error e =>
    let (_, link) ← abandon link
    return (.error e.storeError, link)

/-- Makes one statement a transaction of its own. -/
def alone (s : Statement) : Over (Except StoreError Unit) := fun link => do
  match ← ask (Asking.execute .begin) link with
  | (.error e, link) => return (.error e, link)
  | (.ok (), link) =>
    match ← (Asking.execute s).run with
    | .ok () => finish .commit link
    | .error e =>
      let (_, link) ← abandon link
      return (.error e, link)

end Link

end EventTickets.Sql
