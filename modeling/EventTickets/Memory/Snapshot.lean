import EventTickets.Memory.Tables

/-!
# Snapshots

The counters of all rows at a glance: what is sold of each product, how often each code is used, and
how far each order and its tickets have come.
-/

namespace EventTickets.Memory

structure OrderProgress where
  id : OrderId
  status : OrderStatus
  items : Nat
  tickets : Nat
  issued : Nat
  redeemed : Nat
  deriving DecidableEq

instance : Encode OrderProgress where
  encode p := .obj [
    ("id", encode p.id),
    ("status", encode p.status),
    ("items", encode p.items),
    ("tickets", encode p.tickets),
    ("issued", encode p.issued),
    ("redeemed", encode p.redeemed)]

structure Snapshot where
  ticketProducts : List (ProductId × UInt32 × Option UInt32)
  transferProducts : List (ProductId × UInt32 × Option UInt32)
  promoCodes : List (PromoCodeId × String × UInt32 × Option UInt32)
  orders : List OrderProgress
  deriving DecidableEq

instance : Encode Snapshot where
  encode s :=
    let product (p : ProductId × UInt32 × Option UInt32) : Json :=
      .arr [encode p.1, encode p.2.1, encode p.2.2]
    .obj [
      ("ticketProducts", .arr (s.ticketProducts.map product)),
      ("transferProducts", .arr (s.transferProducts.map product)),
      ("promoCodes", .arr (s.promoCodes.map fun p =>
        .arr [encode p.1, encode p.2.1, encode p.2.2.1, encode p.2.2.2])),
      ("orders", encode s.orders)]

namespace Tables

def progress (t : Tables) (order : Order) : OrderProgress where
  id := order.id
  status := order.status
  items := (t.itemsOf order.id).length
  tickets := (t.ticketsOf order.id).length
  issued := ((t.ticketsOf order.id).filter (·.qrPayloadHash.isSome)).length
  redeemed := ((t.ticketsOf order.id).filter (·.isRedeemed)).length

def snapshot (t : Tables) : Snapshot where
  ticketProducts := t.ticketProducts.values.map fun p => (p.id, p.soldCount, p.inventoryLimit)
  transferProducts := t.transferProducts.values.map fun p => (p.id, p.soldCount, p.inventoryLimit)
  promoCodes := t.promoCodes.values.map fun p => (p.id, p.code, p.usedCount, p.usageLimit)
  orders := t.orders.values.map t.progress

end Tables

end EventTickets.Memory
