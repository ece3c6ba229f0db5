import EventTickets.Order.Record

/-!
# New rows of an order

What is written when an order is placed and when its tickets are issued.
-/

namespace EventTickets

open Time (Instant)

structure NewOrder where
  id : OrderId
  userId : UserId
  eventId : EventId
  paymentMethod : PaymentMethod
  paymentReference : Option String
  paymentNotes : Option String
  promoCodeId : Option PromoCodeId
  subtotalCents : Int64
  discountCents : Int64
  totalCents : Int64
  currency : String
  createdAt : Instant
  deriving DecidableEq

def NewOrder.order (n : NewOrder) : Order where
  id := n.id
  userId := n.userId
  eventId := n.eventId
  eventTitle := ""
  status := .pending
  paymentMethod := n.paymentMethod
  paymentReference := n.paymentReference
  paymentNotes := n.paymentNotes
  promoCodeId := n.promoCodeId
  subtotalCents := n.subtotalCents
  discountCents := n.discountCents
  totalCents := n.totalCents
  currency := n.currency
  confirmedAt := none
  confirmedBy := none
  canceledAt := none
  canceledBy := none
  canceledReason := none
  redeemedAt := none
  createdAt := n.createdAt
  updatedAt := n.createdAt

structure NewOrderItem where
  orderId : OrderId
  itemType : ItemType
  productId : ProductId
  productRef : String
  quantity : UInt32
  unitPriceCents : Int64
  lineTotalCents : Int64
  details : Meta
  createdAt : Instant

def NewOrderItem.item (n : NewOrderItem) (id : Int64) : OrderItem where
  id := id
  orderId := n.orderId
  itemType := n.itemType
  productId := n.productId
  productRef := n.productRef
  quantity := n.quantity
  unitPriceCents := n.unitPriceCents
  lineTotalCents := n.lineTotalCents
  details := n.details
  createdAt := n.createdAt

structure NewTicket where
  id : TicketId
  orderId : OrderId
  userId : UserId
  eventId : EventId
  ticketType : TicketType
  quantity : UInt32
  createdAt : Instant
  deriving DecidableEq

def NewTicket.ticket (n : NewTicket) : Ticket where
  id := n.id
  orderId := n.orderId
  orderStatus := none
  userId := n.userId
  eventId := n.eventId
  ticketType := n.ticketType
  quantity := n.quantity
  qrPayload := none
  qrPayloadHash := none
  qrIssuedAt := none
  redeemedAt := none
  redeemedBy := none
  createdAt := n.createdAt

structure IssuedToken where
  token : String
  digest : String
  issuedAt : Instant
  deriving DecidableEq

def IssuedToken.attach (issued : IssuedToken) (ticket : Ticket) : Ticket :=
  { ticket with
    qrPayload := some issued.token,
    qrPayloadHash := some issued.digest,
    qrIssuedAt := some issued.issuedAt }

structure LockedTicket where
  ticket : Ticket
  orderStatus : OrderStatus
  deriving DecidableEq

instance : Encode LockedTicket where
  encode l := .obj [("ticket", encode l.ticket), ("orderStatus", encode l.orderStatus)]

end EventTickets
