import EventTickets.Service.Pricing

/-!
# Placing an order

An order is placed as pending. Its promo code is used up at once; stock is not touched before
payment is confirmed, so that nobody holds stock without paying.
-/

namespace EventTickets

namespace Purchase

def manualPaymentNote : String := "waiting_for_manual_confirmation"

structure Discount where
  promoCodeId : Option PromoCodeId
  cents : Int64

def applyPromo (code : String) (event : EventId) (subtotalCents : Int64) : Service Discount := do
  let found ← Service.within (.lockPromoByCode code)
  let promo ← Service.demand (.promoInvalid .notFound) found
  let now ← Service.now
  let verdict := promo.rule.validate ⟨now, event, subtotalCents⟩
  let cents ← liftExcept (verdict.result.mapError fun reason =>
    TicketingError.promoInvalid (.rejected reason))
  Service.require (.promoInvalid (.rejected .usageLimitReached))
    (← Service.within (.consumePromo promo.id))
  return ⟨some promo.id, cents⟩

def applyPromoGiven (code : Option String) (event : EventId) (subtotalCents : Int64) :
    Service Discount :=
  match code with
  | some code => applyPromo code event subtotalCents
  | none => pure ⟨none, 0⟩

def insertItems : List NewOrderItem → Service Unit
  | [] => pure ()
  | item :: rest => do
    Service.within (.insertOrderItem item)
    insertItems rest

def insertTickets : List NewTicket → Service Unit
  | [] => pure ()
  | ticket :: rest => do
    Service.within (.insertTicket ticket)
    insertTickets rest

/-- A request whose parts that need no store are checked. -/
structure Intent where
  userId : UserId
  eventId : EventId
  paymentMethod : PaymentMethod
  paymentReference : Option String
  tickets : List (ProductId × UInt32)
  transfers : List (ProductId × UInt32)
  promoCode : Option String

def check (policy : OrderPolicy) (request : CreateOrderRequest) : Except TicketingError Intent := do
  if !request.userId.isValid || !request.eventId.isValid then
    throw (.invalidProduct "user and event are required")
  let some paymentMethod := PaymentMethod.parse? request.paymentMethod
    | throw (.invalidProduct ("unsupported payment method " ++ Text.quoted request.paymentMethod))
  let tickets := Basket.merge request.ticketItems policy.maxQuantityPerProduct
  if tickets.isEmpty then throw (.invalidProduct "at least one ticket is required")
  return {
    userId := request.userId,
    eventId := request.eventId,
    paymentMethod := paymentMethod,
    paymentReference := request.paymentReference.bind Text.nonBlank?,
    tickets := tickets,
    transfers := Basket.merge request.transferItems policy.maxQuantityPerProduct,
    promoCode := (request.promoCode.map Text.normalizeToken).filter (!·.isEmpty) }

def Intent.newOrder (order : Intent) (policy : OrderPolicy) (id : OrderId)
    (start : Time.Instant) (quote : Quote) (discount : Discount) : NewOrder where
  id := id
  userId := order.userId
  eventId := order.eventId
  paymentMethod := order.paymentMethod
  paymentReference := order.paymentReference
  paymentNotes := some manualPaymentNote
  promoCodeId := discount.promoCodeId
  subtotalCents := quote.subtotalCents
  discountCents := discount.cents
  totalCents := max (quote.subtotalCents - discount.cents) 0
  currency := policy.currency
  createdAt := start

def place (policy : OrderPolicy) (order : Intent) : Service OrderDetail := do
  let start ← Service.now
  let title ← Service.within (.eventTitle order.eventId)
  Service.require (.invalidProduct ("event " ++ order.eventId.text ++ " not found")) title.isSome
  let orderId : OrderId := ⟨← Service.ask .newId⟩
  let time ← Service.now
  let quote ← Quote.ofBasket ⟨orderId, order.userId, order.eventId, time⟩
    order.tickets order.transfers
  Service.require (.invalidProduct "order subtotal must be positive") (0 < quote.subtotalCents)
  let discount ← applyPromoGiven order.promoCode order.eventId quote.subtotalCents
  Service.within (.insertOrder (order.newOrder policy orderId start quote discount))
  insertItems quote.items
  insertTickets quote.tickets
  Service.demand (.orderNotFound orderId) (← Service.within (.orderDetail orderId false))

end Purchase

def createOrder (env : Environment) (request : CreateOrderRequest) : Service OrderDetail := do
  let order ← liftExcept (Purchase.check env.policy request)
  Service.transaction (Purchase.place env.policy order)

end EventTickets
