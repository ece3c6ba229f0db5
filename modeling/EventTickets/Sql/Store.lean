import EventTickets.Service.Request
import EventTickets.Sql.Link
import EventTickets.Sql.Transaction

/-!
# The store in the database

Catalog changes are one statement each, whose returned row is the answer. The schema is set up in a
transaction of its own.
-/

namespace EventTickets.Sql

namespace Asking

def total (s : Statement) : Asking UInt64 := do
  let count : Int64 ← row s Row.first
  return UInt64.ofNat count.toInt.toNat

def summaries (list count : Statement) : Asking (Page OrderSummary) := do
  let found ← send list
  let total ← total count
  return ⟨← liftExcept (found.rows.mapM Row.orderSummary), total⟩

def deleted (s : Statement) : Asking Bool := do
  return 0 < (← affected s)

def insertPromoCode (id : PromoCodeId) (draft : PromoCodeDraft) : Asking PromoCode := do
  match ← trySend (.insertPromoCode id draft) with
  | .ok outcome => liftExcept (Row.promoCode (← firstRow outcome))
  | .error e =>
    if e.code = ServerError.uniqueViolation then
      throw (.database ("promo code " ++ draft.code ++ " already exists"))
    else throw e.storeError

end Asking

structure State (σ : Type) where
  link : Link
  sources : Sources
  ledger : LockLedger
  channel : σ

namespace State

variable {σ : Type}

abbrev Run (σ α : Type) := StateT (State σ) (Program signature) α

def start (statementTimeout : UInt64) (attempts : Nat) (sources : Sources) (channel : σ) :
    State σ :=
  ⟨.closed statementTimeout attempts, sources, .empty, channel⟩

def sourced {α : Type} (draw : StateM Sources α) : Run σ α := fun s =>
  let (a, sources) := draw s.sources
  return (a, { s with sources := sources })

def linked {α : Type} (action : Link.Over α) : Run σ α := fun s => do
  let (a, link) ← action s.link
  return (a, { s with link := link })

def ensureOpen : Run σ (Except StoreError Unit) := linked Link.ensureOpen

def ask {α : Type} (asking : Asking α) : Run σ (Except StoreError α) := linked (Link.ask asking)

def within (c : TransactionCall) : Run σ (Except StoreError c.Reply) := fun s => do
  let (reply, ledger) ← Locking.answer c s.ledger
  return (reply, { s with ledger := ledger })

def begin : Run σ (Except StoreError Unit) := fun s =>
  ask (Asking.execute .begin) { s with ledger := .empty }

def abandon : Run σ (Except StoreError Unit) := do
  linked Link.abandon
  return .ok ()

def migrate : Run σ (Except StoreError Unit) := do
  match ← linked (Link.alone .schema) with
  | .ok () => return .ok ()
  | .error _ => return .error (.database ("migration failed: " ++ unreadable))

def answerStore : (c : StoreCall) → Run σ (Except StoreError c.Reply)
  | .begin => begin
  | .within c => within c
  | .commit => linked (Link.finish .commit)
  | .rollback => linked (Link.finish .rollback)
  | .abandon => abandon
  | .findPromoByCode code => ask (Asking.row? (.findPromoByCode code) Row.promoCode)
  | .orderDetail order withPurchaser => ask (Asking.orderDetail order withPurchaser)
  | .listOrders query => ask (Asking.summaries (.listOrders query) (.countOrders query))
  | .listUserOrders user limit offset =>
    ask (Asking.summaries (.listUserOrders user limit offset) (.countUserOrders user))
  | .listUserTickets user event => ask (Asking.rows (.listUserTickets user event) Row.ticket)
  | .statsRows event => ask (Asking.rows (.statsRows event) Row.statsRow)
  | .checkInRows event => ask (Asking.rows (.checkInRows event) Row.checkInRow)
  | .listTicketProducts filter => ask (Asking.rows (.listTicketProducts filter) Row.ticketProduct)
  | .createTicketProduct draft => do
    let id ← sourced Sources.newId
    ask (Asking.row (.insertTicketProduct ⟨id⟩ draft) Row.ticketProduct)
  | .updateTicketProduct id patch =>
    ask (Asking.row? (.updateTicketProduct id patch) Row.ticketProduct)
  | .deleteTicketProduct id => ask (Asking.deleted (.deleteTicketProduct id))
  | .listTransferProducts filter =>
    ask (Asking.rows (.listTransferProducts filter) Row.transferProduct)
  | .createTransferProduct draft => do
    let id ← sourced Sources.newId
    ask (Asking.row (.insertTransferProduct ⟨id⟩ draft) Row.transferProduct)
  | .updateTransferProduct id patch =>
    ask (Asking.row? (.updateTransferProduct id patch) Row.transferProduct)
  | .deleteTransferProduct id => ask (Asking.deleted (.deleteTransferProduct id))
  | .listPromoCodes filter => ask (Asking.rows (.listPromoCodes filter) Row.promoCode)
  | .createPromoCode draft => do
    let id ← sourced Sources.newId
    ask (Asking.insertPromoCode ⟨id⟩ draft)
  | .updatePromoCode id patch => ask (Asking.row? (.updatePromoCode id patch) Row.promoCode)
  | .deletePromoCode id => ask (Asking.deleted (.deletePromoCode id))
  | .migrate => migrate

def answer (channel : Channel σ) : (r : Request) → Run σ r.Reply
  | .store c => answerStore c
  | .now => sourced Sources.now
  | .newId => sourced Sources.newId
  | .newNonce size => sourced (Sources.newNonce size)
  | .deliver recipient detail => fun s =>
    let (reply, inner) := channel recipient detail s.channel
    return (reply, { s with channel := inner })

end State

end EventTickets.Sql
