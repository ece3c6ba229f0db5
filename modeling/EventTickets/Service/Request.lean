import EventTickets.Delivery
import EventTickets.Program
import EventTickets.Sources
import EventTickets.Store.Call

/-!
# Services

A service is a program that asks a store, the sources of time and chance and a delivery channel, and
ends with a result or an error. `transaction` makes one unit of work of its body: it commits if the
body succeeds, and otherwise rolls back and passes the error on, whatever becomes of the rollback.
-/

namespace EventTickets

open Time (Instant)

inductive Request where
  | store (c : StoreCall)
  | now
  | newId
  | newNonce (size : Nat)
  | deliver (recipient : Purchaser) (detail : OrderDetail)

namespace Request

abbrev Reply : Request → Type
  | .store c => Except StoreError c.Reply
  | .now => Instant
  | .newId => Uuid
  | .newNonce _ => String
  | .deliver _ _ => Except String Unit

abbrev signature : Signature := ⟨Request, Reply⟩

end Request

structure OrderPolicy where
  currency : String
  maxQuantityPerProduct : UInt32
  nonceBytes : Nat
  deriving DecidableEq

namespace OrderPolicy

def standard : OrderPolicy := ⟨"USD", 100, Sources.minNonceBytes⟩

end OrderPolicy

structure Environment where
  secret : SigningSecret
  policy : OrderPolicy

abbrev Service := ExceptT TicketingError (Program Request.signature)

namespace Service

theorem run_bind {α β : Type} {m : Type → Type} [Monad m] [LawfulMonad m]
    (answer : (r : Request) → m (Request.signature.Reply r)) (p : Service α) (f : α → Service β) :
    Program.run (S := Request.signature) answer (p >>= f).run =
      Program.run (S := Request.signature) answer p.run >>= fun outcome =>
        match outcome with
        | .ok a => Program.run (S := Request.signature) answer (f a).run
        | .error e => pure (.error e) := by
  refine (Program.run_bind (S := Request.signature) answer p.run (ExceptT.bindCont f)).trans ?_
  refine bind_congr fun outcome => ?_
  cases outcome <;> rfl

def ask (r : Request) : Service r.Reply := ExceptT.lift (Program.perform (S := Request.signature) r)

def store (c : StoreCall) : Service c.Reply := do
  match ← ask (.store c) with
  | .ok reply => return reply
  | .error e => throw (.store e)

def within (c : TransactionCall) : Service c.Reply := store (.within c)

def now : Service Instant := ask .now

def demand {α : Type} (absent : TicketingError) : Option α → Service α
  | some a => pure a
  | none => throw absent

def require (otherwise : TicketingError) (holds : Bool) : Service Unit :=
  if holds then pure () else throw otherwise

/-- Ends the open transaction as its outcome says. -/
def settle {α : Type} : Except TicketingError α → Service α
  | .ok a => do
    store .commit
    return a
  | .error e => do
    let _ ← ask (.store .rollback)
    throw e

def transaction {α : Type} (body : Service α) : Service α := do
  store .begin
  settle (← ExceptT.lift body.run)

end Service

end EventTickets
