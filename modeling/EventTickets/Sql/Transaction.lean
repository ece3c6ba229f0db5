import EventTickets.Sql.Connection
import EventTickets.Store.Ledger

/-!
# Transactions of the database

Rows are locked by selecting them for update, in the order of the ledger; a refused lock sends
nothing. The counters are changed by single conditional updates, and the number of rows says whether
they applied.
-/

namespace EventTickets.Sql

namespace Asking

def quantity? (n : UInt32) : Option Int32 :=
  if 2147483647 < n then none else some (Int32.ofNat n.toNat)

def quantity (n : UInt32) : Asking Int32 :=
  match quantity? n with
  | some q => pure q
  | none => throw (.database ("quantity " ++ toString n.toNat ++ " out of range"))

def purchaser (user : UserId) : Asking (Option Purchaser) := do
  return (← row? (.purchaser user) Row.purchaser).join

def orderDetail (id : OrderId) (withPurchaser : Bool) : Asking (Option OrderDetail) := do
  let some order ← row? (.order id) Row.order | return none
  let items ← rows (.orderItems id) Row.orderItem
  let tickets ← rows (.orderTickets id) Row.ticket
  let purchaser ← if withPurchaser then purchaser order.userId else pure none
  return some ⟨order, purchaser, items, tickets⟩

def reserve (itemType : ItemType) (product : ProductId) (n : UInt32) : Asking Bool :=
  match quantity? n with
  | some q => do return (← affected (.reserve itemType product q)) == 1
  | none => pure false

def issueToken (id : TicketId) (issued : IssuedToken) : Asking Unit := do
  if (← affected (.issueToken id issued)) = 0 then
    throw (.database ("ticket " ++ id.text ++ " vanished"))

def countUnredeemed (order : OrderId) : Asking Nat := do
  let count : Int64 ← row (.countUnredeemed order) Row.first
  if count < 0 then throw (.decode "ticket_count" (toString count.toInt))
  return count.toInt.toNat

def lockedTicket (id : TicketId) : Asking (Option LockedTicket) := do
  let some ticket ← row? (.lockTicket id) Row.ticket | return none
  match ticket.orderStatus with
  | some status => return some ⟨ticket, status⟩
  | none => throw (.decode "ticket" "order status missing")

end Asking

abbrev Locking (α : Type) := StateT LockLedger (Program signature) (Except StoreError α)

namespace Locking

def free {α : Type} (asking : Asking α) : Locking α := fun ledger => do
  return (← asking.run, ledger)

def locked {α : Type} (stage : LockStage) (next : Locking α) : Locking α := fun ledger =>
  match ledger.acquire stage with
  | .ok ledger => next ledger
  | .error e => return (.error e, ledger)

/-- The order of a ticket is locked first; a ticket never changes its order. -/
def lockTicket (id : TicketId) : Locking (Option LockedTicket) :=
  locked .order fun ledger => do
    match ← (Asking.send (.lockOrderOfTicket id)).run with
    | .error e => return (.error e, ledger)
    | .ok outcome =>
      if outcome.rows.isEmpty then return (.ok none, ledger)
      else locked .ticket (free (Asking.lockedTicket id)) ledger

def answer : (c : TransactionCall) → Locking c.Reply
  | .eventTitle event => free (Asking.row? (.eventTitle event) Row.first)
  | .lockTicketProduct id =>
    locked .product (free (Asking.row? (.lockTicketProduct id) Row.ticketProduct))
  | .lockTransferProduct id =>
    locked .product (free (Asking.row? (.lockTransferProduct id) Row.transferProduct))
  | .lockPromoByCode code =>
    locked .promo (free (Asking.row? (.lockPromoByCode (Text.trim code)) Row.promoCode))
  | .consumePromo id => free do return (← Asking.affected (.consumePromo id)) == 1
  | .releasePromo id => free (Asking.execute (.releasePromo id))
  | .insertOrder order => free (Asking.execute (.insertOrder order))
  | .insertOrderItem item =>
    free do Asking.execute (.insertOrderItem item (← Asking.quantity item.quantity))
  | .insertTicket ticket =>
    free do Asking.execute (.insertTicket ticket (← Asking.quantity ticket.quantity))
  | .lockOrder id => locked .order (free (Asking.row? (.lockOrder id) Row.order))
  | .lockOrderItems order =>
    locked .orderItem (free (Asking.rows (.lockOrderItems order) Row.orderItem))
  | .reserveInventory itemType product quantity => free (Asking.reserve itemType product quantity)
  | .releaseInventory itemType product quantity => free do
    Asking.execute (.release itemType product (← Asking.quantity quantity))
  | .transitionOrder id transition =>
    free do return (← Asking.affected (.transition id transition)) == 1
  | .lockOrderTickets order =>
    locked .ticket (free (Asking.rows (.lockOrderTickets order) Row.ticket))
  | .issueTicketToken ticket issued => free (Asking.issueToken ticket issued)
  | .lockTicket id => lockTicket id
  | .markTicketRedeemed id operator time => free do
    return (← Asking.affected (.markRedeemed id operator time)) == 1
  | .countUnredeemedTickets order => free (Asking.countUnredeemed order)
  | .orderDetail order withPurchaser => free (Asking.orderDetail order withPurchaser)
  | .purchaser user => free (Asking.purchaser user)

end Locking

end EventTickets.Sql
