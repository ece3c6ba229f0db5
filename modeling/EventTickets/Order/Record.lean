import EventTickets.Catalog.Kind
import EventTickets.Id
import EventTickets.Order.PaymentMethod
import EventTickets.Order.Status

/-!
# Orders, their lines and tickets

An order has a line per product, priced when it was placed, and a ticket per unit of a ticket
product. Event titles and the order status on a ticket are filled in only by some listings; they are
left out of the written form when they are empty.
-/

namespace EventTickets

open Time (Instant)

def encodePresent {α : Type} [Encode α] (name : String) : Option α → List (String × Json)
  | some a => [(name, encode a)]
  | none => []

def encodeNonEmpty (name value : String) : List (String × Json) :=
  if value.isEmpty then [] else [(name, .str value)]

structure Order where
  id : OrderId
  userId : UserId
  eventId : EventId
  eventTitle : String
  status : OrderStatus
  paymentMethod : PaymentMethod
  paymentReference : Option String
  paymentNotes : Option String
  promoCodeId : Option PromoCodeId
  subtotalCents : Int64
  discountCents : Int64
  totalCents : Int64
  currency : String
  confirmedAt : Option Instant
  confirmedBy : Option OperatorId
  canceledAt : Option Instant
  canceledBy : Option OperatorId
  canceledReason : Option String
  redeemedAt : Option Instant
  createdAt : Instant
  updatedAt : Instant
  deriving DecidableEq

namespace Order

def fieldNames : List String := [
  "id", "userId", "eventId", "eventTitle", "status", "paymentMethod", "paymentReference",
  "paymentNotes", "promoCodeId", "subtotalCents", "discountCents", "totalCents", "currency",
  "confirmedAt", "confirmedBy", "canceledAt", "canceledBy", "canceledReason", "redeemedAt",
  "createdAt", "updatedAt"]

instance : Encode Order where
  encode r := .obj (
    [
      ("id", encode r.id),
      ("userId", encode r.userId),
      ("eventId", encode r.eventId)] ++
    encodeNonEmpty "eventTitle" r.eventTitle ++
    [
      ("status", encode r.status),
      ("paymentMethod", encode r.paymentMethod),
      ("paymentReference", encode r.paymentReference),
      ("paymentNotes", encode r.paymentNotes),
      ("promoCodeId", encode r.promoCodeId),
      ("subtotalCents", encode r.subtotalCents),
      ("discountCents", encode r.discountCents),
      ("totalCents", encode r.totalCents),
      ("currency", encode r.currency),
      ("confirmedAt", encode r.confirmedAt),
      ("confirmedBy", encode r.confirmedBy),
      ("canceledAt", encode r.canceledAt),
      ("canceledBy", encode r.canceledBy),
      ("canceledReason", encode r.canceledReason),
      ("redeemedAt", encode r.redeemedAt),
      ("createdAt", encode r.createdAt),
      ("updatedAt", encode r.updatedAt)])

instance : Decode Order where
  decode? j := do
    let c ← Components.of? fieldNames j
    return {
      id := ← c.required "id",
      userId := ← c.required "userId",
      eventId := ← c.required "eventId",
      eventTitle := ← c.withDefault "eventTitle" "",
      status := ← c.required "status",
      paymentMethod := ← c.required "paymentMethod",
      paymentReference := ← c.optional "paymentReference",
      paymentNotes := ← c.optional "paymentNotes",
      promoCodeId := ← c.optional "promoCodeId",
      subtotalCents := ← c.required "subtotalCents",
      discountCents := ← c.required "discountCents",
      totalCents := ← c.required "totalCents",
      currency := ← c.required "currency",
      confirmedAt := ← c.optional "confirmedAt",
      confirmedBy := ← c.optional "confirmedBy",
      canceledAt := ← c.optional "canceledAt",
      canceledBy := ← c.optional "canceledBy",
      canceledReason := ← c.optional "canceledReason",
      redeemedAt := ← c.optional "redeemedAt",
      createdAt := ← c.required "createdAt",
      updatedAt := ← c.required "updatedAt" }

end Order

/-- A line of an order. `productRef` names the tier or direction that was bought. -/
structure OrderItem where
  id : Int64
  orderId : OrderId
  itemType : ItemType
  productId : ProductId
  productRef : String
  quantity : UInt32
  unitPriceCents : Int64
  lineTotalCents : Int64
  details : Meta
  createdAt : Instant

namespace OrderItem

def fieldNames : List String := [
  "id", "orderId", "itemType", "productId", "productRef", "quantity", "unitPriceCents",
  "lineTotalCents", "meta", "createdAt"]

instance : Encode OrderItem where
  encode r := .obj [
    ("id", encode r.id),
    ("orderId", encode r.orderId),
    ("itemType", encode r.itemType),
    ("productId", encode r.productId),
    ("productRef", encode r.productRef),
    ("quantity", encode r.quantity),
    ("unitPriceCents", encode r.unitPriceCents),
    ("lineTotalCents", encode r.lineTotalCents),
    ("meta", encode r.details),
    ("createdAt", encode r.createdAt)]

instance : Decode OrderItem where
  decode? j := do
    let c ← Components.of? fieldNames j
    return {
      id := ← c.required "id",
      orderId := ← c.required "orderId",
      itemType := ← c.required "itemType",
      productId := ← c.required "productId",
      productRef := ← c.required "productRef",
      quantity := ← c.required "quantity",
      unitPriceCents := ← c.required "unitPriceCents",
      lineTotalCents := ← c.required "lineTotalCents",
      details := ← c.required "meta",
      createdAt := ← c.required "createdAt" }

end OrderItem

/-- Admits `quantity` people once. The token and its digest are set when the order is confirmed. -/
structure Ticket where
  id : TicketId
  orderId : OrderId
  orderStatus : Option OrderStatus
  userId : UserId
  eventId : EventId
  ticketType : TicketType
  quantity : UInt32
  qrPayload : Option String
  qrPayloadHash : Option String
  qrIssuedAt : Option Instant
  redeemedAt : Option Instant
  redeemedBy : Option OperatorId
  createdAt : Instant
  deriving DecidableEq

namespace Ticket

def fieldNames : List String := [
  "id", "orderId", "orderStatus", "userId", "eventId", "ticketType", "quantity", "qrPayload",
  "qrPayloadHash", "qrIssuedAt", "redeemedAt", "redeemedBy", "createdAt"]

instance : Encode Ticket where
  encode r := .obj (
    [
      ("id", encode r.id),
      ("orderId", encode r.orderId)] ++
    encodePresent "orderStatus" r.orderStatus ++
    [
      ("userId", encode r.userId),
      ("eventId", encode r.eventId),
      ("ticketType", encode r.ticketType),
      ("quantity", encode r.quantity),
      ("qrPayload", encode r.qrPayload),
      ("qrPayloadHash", encode r.qrPayloadHash),
      ("qrIssuedAt", encode r.qrIssuedAt),
      ("redeemedAt", encode r.redeemedAt),
      ("redeemedBy", encode r.redeemedBy),
      ("createdAt", encode r.createdAt)])

instance : Decode Ticket where
  decode? j := do
    let c ← Components.of? fieldNames j
    return {
      id := ← c.required "id",
      orderId := ← c.required "orderId",
      orderStatus := ← c.withDefault "orderStatus" none,
      userId := ← c.required "userId",
      eventId := ← c.required "eventId",
      ticketType := ← c.required "ticketType",
      quantity := ← c.required "quantity",
      qrPayload := ← c.optional "qrPayload",
      qrPayloadHash := ← c.optional "qrPayloadHash",
      qrIssuedAt := ← c.optional "qrIssuedAt",
      redeemedAt := ← c.optional "redeemedAt",
      redeemedBy := ← c.optional "redeemedBy",
      createdAt := ← c.required "createdAt" }

def isRedeemed (t : Ticket) : Bool := t.redeemedAt.isSome

end Ticket

structure Purchaser where
  userId : UserId
  messengerId : Option Int64
  firstName : String
  lastName : String
  username : String
  deriving DecidableEq

namespace Purchaser

def fieldNames : List String := ["userId", "messengerId", "firstName", "lastName", "username"]

instance : Encode Purchaser where
  encode r := .obj [
    ("userId", encode r.userId),
    ("messengerId", encode r.messengerId),
    ("firstName", encode r.firstName),
    ("lastName", encode r.lastName),
    ("username", encode r.username)]

instance : Decode Purchaser where
  decode? j := do
    let c ← Components.of? fieldNames j
    return {
      userId := ← c.required "userId",
      messengerId := ← c.optional "messengerId",
      firstName := ← c.required "firstName",
      lastName := ← c.required "lastName",
      username := ← c.required "username" }

end Purchaser

structure OrderDetail where
  order : Order
  purchaser : Option Purchaser
  items : List OrderItem
  tickets : List Ticket

namespace OrderDetail

def fieldNames : List String := ["order", "purchaser", "items", "tickets"]

instance : Encode OrderDetail where
  encode r := .obj (
    [
      ("order", encode r.order)] ++
    encodePresent "purchaser" r.purchaser ++
    [
      ("items", encode r.items),
      ("tickets", encode r.tickets)])

instance : Decode OrderDetail where
  decode? j := do
    let c ← Components.of? fieldNames j
    return {
      order := ← c.required "order",
      purchaser := ← c.withDefault "purchaser" none,
      items := ← c.required "items",
      tickets := ← c.required "tickets" }

end OrderDetail

structure OrderSummary where
  order : Order
  purchaser : Option Purchaser
  deriving DecidableEq

namespace OrderSummary

def fieldNames : List String := ["order", "purchaser"]

instance : Encode OrderSummary where
  encode r := .obj [
    ("order", encode r.order),
    ("purchaser", encode r.purchaser)]

instance : Decode OrderSummary where
  decode? j := do
    let c ← Components.of? fieldNames j
    return {
      order := ← c.required "order",
      purchaser := ← c.optional "purchaser" }

end OrderSummary

/-- Some of the matching rows, and how many match in all. -/
structure Page (α : Type) where
  items : List α
  total : UInt64

namespace Page

instance {α : Type} [Encode α] : Encode (Page α) where
  encode r := .obj [
    ("items", encode r.items),
    ("total", encode r.total)]

instance {α : Type} [Decode α] : Decode (Page α) where
  decode? j := do
    let c ← Components.of? ["items", "total"] j
    return {
      items := ← c.required "items",
      total := ← c.required "total" }

end Page

end EventTickets
