import EventTickets.Operator.Command
import EventTickets.Service.Cancellation
import EventTickets.Service.Catalog
import EventTickets.Service.Confirmation
import EventTickets.Service.Listing
import EventTickets.Service.PromoCheck
import EventTickets.Service.Redemption
import EventTickets.Settings
import EventTickets.Sql.Store

/-!
# Invocations

One run of the operator's program: the command line is read, then the settings, then the secret, and
only then the database is spoken to. A business error is printed like a result; any other failure
prints nothing, and so does a program that stops in the middle.
-/

namespace EventTickets.Operator

open CommandLine

namespace Command

def printed {α : Type} [Encode α] (service : Service α) : Service (Option Json) := do
  return some (encode (← service))

/-- What a command does, and what it prints, unless the program stops in the middle of it. -/
def perform (env : Environment) : Command → Service (Option Json)
  | .migrate => do
    Service.store .migrate
    return some (.obj [("migrated", .bool true)])
  | .confirm order operator deliver =>
    if deliver then printed (confirmAndDeliver env order operator) else
      printed (confirmOrder env order operator)
  | .cancel order operator reason => printed (cancelOrder order operator reason)
  | .redeem ticket operator token => printed (redeemTicket env ticket operator token)
  | .stats event => do return (← ticketStats event).map encode
  | .promoCheck event code subtotalCents => printed (validatePromoCode event code subtotalCents)
  | .products event => printed (purchasableProducts event)
  | .listOrders query => printed (EventTickets.listOrders query)
  | .showOrder order withPurchaser => printed (orderDetail order withPurchaser)
  | .userOrders user event limit offset => do
    let orders ← listUserOrders user limit offset
    let tickets ← listUserTickets user event
    return some (.obj [("orders", encode orders), ("tickets", encode tickets)])

def failureMessage (command : Command) (e : TicketingError) : String :=
  let attempt := match command with
    | .migrate => "running migrations: "
    | _ => ""
  let cause := match e with
    | .signing inner => ": " ++ inner.message
    | _ => ""
  attempt ++ e.message ++ cause

end Command

structure Exit where
  code : UInt32
  printed : Option Json

namespace Exit

def failed : Exit := ⟨1, none⟩

def stopped : Exit := ⟨101, none⟩

def ofUsage (e : UsageError) : Exit := ⟨e.exitCode, none⟩

def ofResult : Except TicketingError (Option Json) → Exit
  | .ok (some j) => ⟨0, some j⟩
  | .ok none => stopped
  | .error e =>
    if e.isBusiness then ⟨1, some (.obj [("error", .str e.code), ("message", .str e.message)])⟩
    else failed

end Exit

structure Surroundings where
  vars : Variables
  sources : Sources
  /-- Whether there is a server at an address. -/
  reaches : String → Bool
  /-- How many connections can be tried in the time for connecting. -/
  attempts : Nat

def serve (env : Environment) (start : Sql.State Unit) (command : Command) :
    Program Sql.signature Exit := do
  match ← Sql.State.ensureOpen start with
  | (.error _, _) => return .failed
  | (.ok (), opened) =>
    let answer := Sql.State.answer (Channel.log (σ := Unit))
    let (result, _) ← (Program.run (S := Request.signature) answer (command.perform env).run).run
      opened
    return Exit.ofResult result

/-- Without time to wait for a connection there is none. -/
def run (world : Surroundings) (command : Command) : Program Sql.signature Exit :=
  let settings := Settings.ofVariables world.vars
  match Settings.signingSecret world.vars with
  | .error _ => return .failed
  | .ok secret =>
    if settings.database.connectTimeout = 0 ∨
      ¬world.reaches settings.database.url then return .failed
    else
      let start := Sql.State.start settings.database.statementTimeout
        world.attempts world.sources ()
      serve ⟨secret, settings.orders.policy⟩ start command

def invoke (world : Surroundings) (words : List String) : Program Sql.signature Exit :=
  match Command.parse world.vars words with
  | .error e => return .ofUsage e
  | .ok command => run world command

end EventTickets.Operator
