import EventTickets.Amount
import EventTickets.Order.Basket
import EventTickets.Service.Request

/-!
# Pricing

Prices a basket within a transaction. Each product is locked in the order of the basket and must be
on sale for the event; a line keeps its price as of now. Every unit of a ticket product becomes a
ticket.
-/

namespace EventTickets

open Time (Instant)

structure Quote where
  items : List NewOrderItem
  tickets : List NewTicket
  subtotalCents : Int64

structure QuoteFor where
  orderId : OrderId
  userId : UserId
  eventId : EventId
  time : Instant

namespace Quote

def empty : Quote := ⟨[], [], 0⟩

def notOnSale (kind : String) (product : ProductId) : TicketingError :=
  .invalidProduct (kind ++ " product " ++ product.text ++ " is not on sale")

def lineTotal (unitPriceCents : Int64) (quantity : UInt32) : Service Int64 :=
  Service.demand (.invalidProduct "line total overflows") (Amount.times? unitPriceCents quantity)

def subtotalWith (quote : Quote) (lineTotalCents : Int64) : Service Int64 :=
  Service.demand (.invalidProduct "order subtotal overflows")
    (Amount.add? quote.subtotalCents lineTotalCents)

def ticketDetails (tier : TicketType) : Meta :=
  [("groupSize", encode tier.groupSize), ("ticketType", encode tier)]

def transferDetails (product : TransferProduct) : Meta :=
  [("direction", encode product.direction), ("info", encode product.info)]

def ticket (who : QuoteFor) (tier : TicketType) (id : Uuid) : NewTicket where
  id := ⟨id⟩
  orderId := who.orderId
  userId := who.userId
  eventId := who.eventId
  ticketType := tier
  quantity := tier.groupSize
  createdAt := who.time

def ticketItem (who : QuoteFor) (p : TicketProduct) (product : ProductId) (quantity : UInt32)
    (lineTotalCents : Int64) : NewOrderItem where
  orderId := who.orderId
  itemType := .ticket
  productId := product
  productRef := p.ticketType.name
  quantity := quantity
  unitPriceCents := p.priceCents
  lineTotalCents := lineTotalCents
  details := ticketDetails p.ticketType
  createdAt := who.time

def transferItem (who : QuoteFor) (p : TransferProduct) (product : ProductId) (quantity : UInt32)
    (lineTotalCents : Int64) : NewOrderItem where
  orderId := who.orderId
  itemType := .transfer
  productId := product
  productRef := p.direction.name
  quantity := quantity
  unitPriceCents := p.priceCents
  lineTotalCents := lineTotalCents
  details := transferDetails p
  createdAt := who.time

def addTickets (who : QuoteFor) (tier : TicketType) (tickets : List NewTicket) :
    Nat → Service (List NewTicket)
  | 0 => pure tickets
  | n + 1 => do
    let id ← Service.ask .newId
    addTickets who tier (tickets ++ [ticket who tier id]) n

def addTicketLine (who : QuoteFor) (quote : Quote) (product : ProductId) (quantity : UInt32) :
    Service Quote := do
  let found ← Service.within (.lockTicketProduct product)
  let p ← Service.demand (notOnSale "ticket" product)
    (found.filter fun p => p.eventId == who.eventId && p.isActive)
  let lineTotalCents ← lineTotal p.priceCents quantity
  let subtotalCents ← quote.subtotalWith lineTotalCents
  let tickets ← addTickets who p.ticketType quote.tickets quantity.toNat
  return ⟨quote.items ++ [ticketItem who p product quantity lineTotalCents], tickets, subtotalCents⟩

def addTransferLine (who : QuoteFor) (quote : Quote) (product : ProductId) (quantity : UInt32) :
    Service Quote := do
  let found ← Service.within (.lockTransferProduct product)
  let p ← Service.demand (notOnSale "transfer" product)
    (found.filter fun p => p.eventId == who.eventId && p.isActive)
  let lineTotalCents ← lineTotal p.priceCents quantity
  let subtotalCents ← quote.subtotalWith lineTotalCents
  return ⟨quote.items ++ [transferItem who p product quantity lineTotalCents],
    quote.tickets, subtotalCents⟩

def addTicketLines (who : QuoteFor) (quote : Quote) : List (ProductId × UInt32) → Service Quote
  | [] => pure quote
  | (product, quantity) :: rest => do
    addTicketLines who (← addTicketLine who quote product quantity) rest

def addTransferLines (who : QuoteFor) (quote : Quote) : List (ProductId × UInt32) → Service Quote
  | [] => pure quote
  | (product, quantity) :: rest => do
    addTransferLines who (← addTransferLine who quote product quantity) rest

def ofBasket (who : QuoteFor) (tickets transfers : List (ProductId × UInt32)) : Service Quote := do
  addTransferLines who (← addTicketLines who empty tickets) transfers

end Quote

end EventTickets
