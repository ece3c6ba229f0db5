import EventTickets.Order.Record

/-!
# Order transitions

Confirming, canceling and redeeming are the only ways for an order to change its status. A
transition applies only from the statuses it allows; redeeming a redeemed order again keeps the
first time.
-/

namespace EventTickets

open Time (Instant)

inductive OrderTransition where
  | confirm (operator : OperatorId) (time : Instant)
  | cancel (operator : OperatorId) (time : Instant) (reason : Option String)
  | redeem (time : Instant)
  deriving DecidableEq

namespace OrderTransition

def target : OrderTransition → OrderStatus
  | .confirm _ _ => .paid
  | .cancel _ _ _ => .canceled
  | .redeem _ => .redeemed

def allowedFrom : OrderTransition → List OrderStatus
  | .confirm _ _ => [.pending]
  | .cancel _ _ _ => [.pending, .paid]
  | .redeem _ => [.paid, .redeemed]

def appliesTo (transition : OrderTransition) (status : OrderStatus) : Bool :=
  transition.allowedFrom.contains status

def apply (transition : OrderTransition) (order : Order) : Order :=
  match transition with
  | .confirm operator time =>
    { order with
      status := .paid, confirmedAt := some time, confirmedBy := some operator, updatedAt := time }
  | .cancel operator time reason =>
    { order with
      status := .canceled,
      canceledAt := some time,
      canceledBy := some operator,
      canceledReason := reason,
      updatedAt := time }
  | .redeem time =>
    { order with
      status := .redeemed, redeemedAt := order.redeemedAt <|> some time, updatedAt := time }

end OrderTransition

end EventTickets
