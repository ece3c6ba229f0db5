import EventTickets.Service.Request

/-!
# Confirming an order

Confirmation reserves stock for every line, marks the order paid and issues a signed token for each
of its tickets. Lines are taken in the order in which their products were locked when the order was
placed. Delivery comes after the commit and cannot undo it.
-/

namespace EventTickets

open Time (Instant)

structure ConfirmedOrder where
  detail : OrderDetail
  purchaser : Option Purchaser

instance : Encode ConfirmedOrder where
  encode r := .obj [("detail", encode r.detail), ("purchaser", encode r.purchaser)]

structure DeliveredOrder where
  confirmed : ConfirmedOrder
  delivery : DeliveryOutcome

instance : Encode DeliveredOrder where
  encode r := .obj [("confirmed", encode r.confirmed), ("delivery", encode r.delivery)]

namespace OrderItem

/-- Tickets come before transfers, and each in the order of products. -/
def reservedBefore (a b : OrderItem) : Bool :=
  match a.itemType, b.itemType with
  | .ticket, .transfer => true
  | .transfer, .ticket => false
  | _, _ => decide (Ranked.rank a.productId ≤ Ranked.rank b.productId)

def reservationOrder (items : List OrderItem) : List OrderItem := items.mergeSort reservedBefore

end OrderItem

namespace Confirmation

def reserveItems : List OrderItem → Service Unit
  | [] => pure ()
  | item :: rest => do
    Service.require (.inventoryLimitReached item.productId)
      (← Service.within (.reserveInventory item.itemType item.productId item.quantity))
    reserveItems rest

def issueToken (env : Environment) (ticket : Ticket) (now : Instant) : Service IssuedToken := do
  let nonce ← Service.ask (.newNonce env.policy.nonceBytes)
  let token := Token.sign env.secret (Claims.ofTicket ticket nonce now)
  return ⟨token, Token.digest token, now⟩

def issueTokens (env : Environment) (now : Instant) : List Ticket → Service Unit
  | [] => pure ()
  | ticket :: rest => do
    let issued ← issueToken env ticket now
    Service.within (.issueTicketToken ticket.id issued)
    issueTokens env now rest

def confirm (env : Environment) (id : OrderId) (operator : OperatorId) :
    Service ConfirmedOrder := do
  let now ← Service.now
  let order ← Service.demand (.orderNotFound id) (← Service.within (.lockOrder id))
  Service.require (.orderStateNotAllowed order.status) (order.status = .pending)
  let items ← Service.within (.lockOrderItems id)
  reserveItems (OrderItem.reservationOrder items)
  Service.require (.orderStateNotAllowed order.status)
    (← Service.within (.transitionOrder id (.confirm operator now)))
  issueTokens env now (← Service.within (.lockOrderTickets id))
  let purchaser ← Service.within (.purchaser order.userId)
  let detail ← Service.demand (.orderNotFound id) (← Service.within (.orderDetail id false))
  return ⟨detail, purchaser⟩

end Confirmation

def confirmOrder (env : Environment) (id : OrderId) (operator : OperatorId) :
    Service ConfirmedOrder :=
  Service.transaction (Confirmation.confirm env id operator)

def deliverOrder (confirmed : ConfirmedOrder) : Service DeliveryOutcome :=
  match confirmed.purchaser with
  | none => pure .noRecipient
  | some purchaser => do
    match ← Service.ask (.deliver purchaser confirmed.detail) with
    | .ok () => return .delivered
    | .error reason => return .failed reason

def confirmAndDeliver (env : Environment) (id : OrderId) (operator : OperatorId) :
    Service DeliveredOrder := do
  let confirmed ← confirmOrder env id operator
  return ⟨confirmed, ← deliverOrder confirmed⟩

end EventTickets
