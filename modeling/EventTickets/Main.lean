import EventTickets.Json.Pretty
import EventTickets.Json.Reader
import EventTickets.Operator.Invocation
import EventTickets.Sources.Seeded
import EventTickets.Sql.Script

/-!
# The operator's program

The database is reached through a relay. The relay first writes the current time on standard input;
each statement then goes to standard error as a line of JSON, and its reply comes back as a line.
The result is printed on standard output.
-/

namespace EventTickets

namespace Operator

def variableNames : List String := [
  "DATABASE_URL", "DATABASE_MAX_CONNECTIONS", "DATABASE_MIN_CONNECTIONS",
    "DATABASE_CONNECT_TIMEOUT",
  "DATABASE_STATEMENT_TIMEOUT_MS", "ORDER_CURRENCY", "ORDER_MAX_QUANTITY_PER_PRODUCT",
  "TICKET_HMAC_SECRET", "HMAC_SECRET", "BOXOFFICE_ADMIN_ID"]

def readVariables : IO Variables :=
  variableNames.filterMapM fun name => do return (← IO.getEnv name).map (name, ·)

/-- The time of the relay; what cannot be read counts as the beginning of 1970. -/
def readTime : IO Time.Instant := do
  return (Time.Instant.ofText? (Text.trim (← (← IO.getStdin).getLine))).getD .epoch

def relay (s : Sql.Statement) : IO Sql.Answer := do
  IO.eprintln (Sql.Script.sentJson id s).compact
  let line ← (← IO.getStdin).getLine
  return ((Json.parse? line).bind Sql.Script.replyOfJson?).getD
    (.error ⟨"the relay gave no reply", "08006"⟩)

end Operator

end EventTickets

open EventTickets in
def main (words : List String) : IO UInt32 := do
  let seed ← IO.getRandomBytes 32
  let world : Operator.Surroundings := {
    vars := ← Operator.readVariables,
    sources := .seeded (.fixed (← Operator.readTime)) seed.toList,
    reaches := fun _ => true,
    attempts := 1 }
  let exit ← Program.run (S := Sql.signature) Operator.relay (Operator.invoke world words)
  if let some result := exit.printed then IO.println result.pretty
  return exit.code
