import EventTickets.Service.Confirmation

/-!
# Canceling an order

A pending or paid order can be canceled. The use of its promo code is given back in either case, its
stock only if it was paid, because only then it was reserved.
-/

namespace EventTickets

namespace Cancellation

def releaseItems : List OrderItem → Service Unit
  | [] => pure ()
  | item :: rest => do
    Service.within (.releaseInventory item.itemType item.productId item.quantity)
    releaseItems rest

def releaseStock (id : OrderId) (status : OrderStatus) : Service Unit :=
  if status = .paid then do
    releaseItems (OrderItem.reservationOrder (← Service.within (.lockOrderItems id)))
  else pure ()

def releasePromoGiven : Option PromoCodeId → Service Unit
  | some promo => Service.within (.releasePromo promo)
  | none => pure ()

def cancel (id : OrderId) (operator : OperatorId) (reason : Option String) :
    Service OrderDetail := do
  let order ← Service.demand (.orderNotFound id) (← Service.within (.lockOrder id))
  Service.require (.orderStateNotAllowed order.status) (!order.status.isTerminal)
  releaseStock id order.status
  releasePromoGiven order.promoCodeId
  let now ← Service.now
  Service.require (.orderStateNotAllowed order.status)
    (← Service.within (.transitionOrder id (.cancel operator now reason)))
  Service.demand (.orderNotFound id) (← Service.within (.orderDetail id false))

end Cancellation

def cancelOrder (id : OrderId) (operator : OperatorId) (reason : Option String) :
    Service OrderDetail :=
  Service.transaction (Cancellation.cancel id operator (reason.bind Text.nonBlank?))

end EventTickets
