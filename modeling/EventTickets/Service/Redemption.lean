import EventTickets.Service.Request

/-!
# Checking in

A ticket is redeemed at most once. With a token the ticket must be the one the token was issued for;
without one the operator answers for it. The last ticket of an order redeems the order.
-/

namespace EventTickets

open Time (Instant)

structure RedemptionOutcome where
  ticket : Ticket
  orderStatus : OrderStatus
  deriving DecidableEq

instance : Encode RedemptionOutcome where
  encode r := .obj [("ticket", encode r.ticket), ("orderStatus", encode r.orderStatus)]

namespace Redemption

/-- Whether a token was issued for the ticket: its claims must agree, and so must its digest if one
is kept. -/
def authenticate (secret : SigningSecret) (ticket : Ticket) (token : String) :
    Except TicketingError Unit := do
  let claims ← (Token.verify secret token).mapError fun e => .tokenMismatch (.ofTokenError e)
  if let some field := claims.mismatch? ticket then throw (.tokenMismatch (.field field))
  match ticket.qrPayloadHash with
  | some digest =>
    if !digest.isEmpty && digest ≠ Token.digest token then throw (.tokenMismatch .hash)
  | none => return ()

def authenticateGiven (secret : SigningSecret) (ticket : Ticket) :
    Option String → Except TicketingError Unit
  | some token => authenticate secret ticket token
  | none => .ok ()

def redeemOrder (order : OrderId) (status : OrderStatus) (now : Instant) : Service OrderStatus := do
  let left ← Service.within (.countUnredeemedTickets order)
  if left ≠ 0 then pure status
  else do
    let applied ← Service.within (.transitionOrder order (.redeem now))
    if applied then pure .redeemed
    else do
      let current ← Service.demand (.orderNotFound order)
        (← Service.within (.orderDetail order false))
      throw (.orderStateNotAllowed current.order.status)

def redeem (env : Environment) (id : TicketId) (operator : OperatorId) (token : Option String) :
    Service RedemptionOutcome := do
  let now ← Service.now
  let locked ← Service.demand (.ticketNotFound id) (← Service.within (.lockTicket id))
  Service.require (.ticketAlreadyRedeemed id) (!locked.ticket.isRedeemed)
  Service.require (.orderStateNotAllowed locked.orderStatus) locked.orderStatus.isPurchased
  liftExcept (authenticateGiven env.secret locked.ticket token)
  Service.require (.ticketAlreadyRedeemed id)
    (← Service.within (.markTicketRedeemed id operator now))
  let status ← redeemOrder locked.ticket.orderId locked.orderStatus now
  return {
    ticket := { locked.ticket with
      redeemedAt := some now,
      redeemedBy := some operator,
      orderStatus := some status },
    orderStatus := status }

end Redemption

def redeemTicket (env : Environment) (id : TicketId) (operator : OperatorId)
    (token : Option String) : Service RedemptionOutcome :=
  Service.transaction (Redemption.redeem env id operator (token.bind Text.nonBlank?))

end EventTickets
