import EventTickets.Catalog.Kind
import EventTickets.Id

/-!
# Products

What an event has on sale: ticket tiers and transport. `soldCount` is the number of units held by
confirmed orders; the limit, if there is one, bounds it.
-/

namespace EventTickets

open Time (Instant)

structure TicketProduct where
  id : ProductId
  eventId : EventId
  name : String
  ticketType : TicketType
  priceCents : Int64
  inventoryLimit : Option UInt32
  soldCount : UInt32
  isActive : Bool
  createdBy : Option UserId
  createdAt : Instant
  updatedAt : Instant
  deriving DecidableEq

namespace TicketProduct

def fieldNames : List String := [
  "id", "eventId", "name", "type", "priceCents", "inventoryLimit", "soldCount", "isActive",
  "createdBy", "createdAt", "updatedAt"]

instance : Encode TicketProduct where
  encode r := .obj [
    ("id", encode r.id),
    ("eventId", encode r.eventId),
    ("name", encode r.name),
    ("type", encode r.ticketType),
    ("priceCents", encode r.priceCents),
    ("inventoryLimit", encode r.inventoryLimit),
    ("soldCount", encode r.soldCount),
    ("isActive", encode r.isActive),
    ("createdBy", encode r.createdBy),
    ("createdAt", encode r.createdAt),
    ("updatedAt", encode r.updatedAt)]

instance : Decode TicketProduct where
  decode? j := do
    let c ← Components.of? fieldNames j
    return {
      id := ← c.required "id",
      eventId := ← c.required "eventId",
      name := ← c.required "name",
      ticketType := ← c.required "type",
      priceCents := ← c.required "priceCents",
      inventoryLimit := ← c.optional "inventoryLimit",
      soldCount := ← c.required "soldCount",
      isActive := ← c.required "isActive",
      createdBy := ← c.optional "createdBy",
      createdAt := ← c.required "createdAt",
      updatedAt := ← c.required "updatedAt" }

end TicketProduct

structure TransferProduct where
  id : ProductId
  eventId : EventId
  name : String
  direction : TransferDirection
  priceCents : Int64
  info : Meta
  inventoryLimit : Option UInt32
  soldCount : UInt32
  isActive : Bool
  createdBy : Option UserId
  createdAt : Instant
  updatedAt : Instant

namespace TransferProduct

def fieldNames : List String := [
  "id", "eventId", "name", "direction", "priceCents", "info", "inventoryLimit", "soldCount",
  "isActive", "createdBy", "createdAt", "updatedAt"]

instance : Encode TransferProduct where
  encode r := .obj [
    ("id", encode r.id),
    ("eventId", encode r.eventId),
    ("name", encode r.name),
    ("direction", encode r.direction),
    ("priceCents", encode r.priceCents),
    ("info", encode r.info),
    ("inventoryLimit", encode r.inventoryLimit),
    ("soldCount", encode r.soldCount),
    ("isActive", encode r.isActive),
    ("createdBy", encode r.createdBy),
    ("createdAt", encode r.createdAt),
    ("updatedAt", encode r.updatedAt)]

instance : Decode TransferProduct where
  decode? j := do
    let c ← Components.of? fieldNames j
    return {
      id := ← c.required "id",
      eventId := ← c.required "eventId",
      name := ← c.required "name",
      direction := ← c.required "direction",
      priceCents := ← c.required "priceCents",
      info := ← c.required "info",
      inventoryLimit := ← c.optional "inventoryLimit",
      soldCount := ← c.required "soldCount",
      isActive := ← c.required "isActive",
      createdBy := ← c.optional "createdBy",
      createdAt := ← c.required "createdAt",
      updatedAt := ← c.required "updatedAt" }

end TransferProduct

end EventTickets
