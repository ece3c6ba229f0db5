import EventTickets.Memory.Tables
import EventTickets.Store.Ledger

/-!
# Transactions in memory

A transaction works on its own copy of the tables and keeps a ledger of its locks. A refused lock
leaves both as they were.
-/

namespace EventTickets.Memory

structure Transaction where
  tables : Tables
  ledger : LockLedger

namespace Transaction

def read {α : Type} (f : Tables → α) : StateM Transaction (Except StoreError α) :=
  fun t => (.ok (f t.tables), t)

def locking {α : Type} (stage : LockStage) (f : Tables → α) :
    StateM Transaction (Except StoreError α) := fun t =>
  match t.ledger.acquire stage with
  | .ok ledger => (.ok (f t.tables), { t with ledger := ledger })
  | .error e => (.error e, t)

def write (f : Tables → Tables) : StateM Transaction (Except StoreError Unit) := fun t =>
  (.ok (), { t with tables := f t.tables })

def writeIf (f : Tables → Option Tables) : StateM Transaction (Except StoreError Bool) := fun t =>
  match f t.tables with
  | some tables => (.ok true, { t with tables := tables })
  | none => (.ok false, t)

def insertOrder (order : NewOrder) : StateM Transaction (Except StoreError Unit) := fun t =>
  match t.tables.orders.get? order.id with
  | some _ => (.error (.database ("duplicate order id " ++ order.id.text)), t)
  | none => (.ok (), { t with tables :=
      { t.tables with orders := t.tables.orders.insert order.id order.order } })

def issueToken (id : TicketId) (issued : IssuedToken) :
    StateM Transaction (Except StoreError Unit) := fun t =>
  match t.tables.ticket? id with
  | some _ => (.ok (), { t with tables := t.tables.modifyTicket id issued.attach })
  | none => (.error (.database ("ticket " ++ id.text ++ " vanished")), t)

/-- Locks the order of a ticket and then the ticket, whether or not there is one. -/
def lockTicket (id : TicketId) : StateM Transaction (Except StoreError (Option LockedTicket)) :=
    fun t =>
  match t.ledger.acquire .order with
  | .error e => (.error e, t)
  | .ok ledger =>
    match ledger.acquire .ticket with
    | .error e => (.error e, { t with ledger := ledger })
    | .ok ledger =>
      let t := { t with ledger := ledger }
      match t.tables.ticket? id with
      | none => (.ok none, t)
      | some ticket =>
        match t.tables.orders.get? ticket.orderId with
        | some order => (.ok (some ⟨ticket, order.status⟩), t)
        | none => (.error (.decode "ticket" ("order " ++ ticket.orderId.text ++ " missing")), t)

def markRedeemed? (id : TicketId) (operator : OperatorId) (time : Time.Instant) (t : Tables) :
    Option Tables := do
  let ticket ← t.ticket? id
  if ticket.isRedeemed then none
  else
    some (t.modifyTicket id fun k =>
      { k with redeemedAt := some time, redeemedBy := some operator })

def answer : (c : TransactionCall) → StateM Transaction (Except StoreError c.Reply)
  | .eventTitle event => read fun t => t.events.get? event
  | .lockTicketProduct id => locking .product fun t => t.ticketProducts.get? id
  | .lockTransferProduct id => locking .product fun t => t.transferProducts.get? id
  | .lockPromoByCode code => locking .promo fun t => t.promoByCode? code
  | .consumePromo id => writeIf fun t => t.consumePromo? id
  | .releasePromo id => write fun t => t.releasePromo id
  | .insertOrder order => insertOrder order
  | .insertOrderItem item => write fun t => t.insertItem item
  | .insertTicket ticket => write fun t => t.insertTicket ticket
  | .lockOrder id => locking .order fun t => (t.orders.get? id).map t.titled
  | .lockOrderItems order => locking .orderItem fun t => t.itemsOf order
  | .reserveInventory itemType product quantity => writeIf fun t =>
    t.reserve? itemType product quantity
  | .releaseInventory itemType product quantity => write fun t =>
    t.release itemType product quantity
  | .transitionOrder id transition => writeIf fun t => t.transition? id transition
  | .lockOrderTickets order => locking .ticket fun t => t.ticketsOf order
  | .issueTicketToken ticket issued => issueToken ticket issued
  | .lockTicket id => lockTicket id
  | .markTicketRedeemed id operator time => writeIf (markRedeemed? id operator time)
  | .countUnredeemedTickets order => read fun t =>
    ((t.ticketsOf order).filter (!·.isRedeemed)).length
  | .orderDetail order withPurchaser => read fun t => t.detail? order withPurchaser
  | .purchaser user => read fun t => t.users.get? user

end Transaction

end EventTickets.Memory
