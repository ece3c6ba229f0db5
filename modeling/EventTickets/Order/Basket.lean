import EventTickets.Id

/-!
# Baskets

A basket is a list of selections. Before anything is priced, selections of nothing are dropped, each
of the others is cut to the cap, and those of one product are added up; products then stand in the
order of their identifiers, which is the order in which they are locked.
-/

namespace EventTickets

structure ProductSelection where
  productId : ProductId
  quantity : UInt32
  deriving DecidableEq

namespace ProductSelection

def fieldNames : List String := ["productId", "quantity"]

instance : Encode ProductSelection where
  encode r := .obj [
    ("productId", encode r.productId),
    ("quantity", encode r.quantity)]

instance : Decode ProductSelection where
  decode? j := do
    let c ← Components.of? fieldNames j
    return {
      productId := ← c.required "productId",
      quantity := ← c.required "quantity" }

end ProductSelection

structure CreateOrderRequest where
  userId : UserId
  eventId : EventId
  paymentMethod : String
  paymentReference : Option String
  ticketItems : List ProductSelection
  transferItems : List ProductSelection
  promoCode : Option String
  deriving DecidableEq

namespace CreateOrderRequest

def fieldNames : List String := [
  "userId", "eventId", "paymentMethod", "paymentReference", "ticketItems", "transferItems",
  "promoCode"]

instance : Encode CreateOrderRequest where
  encode r := .obj [
    ("userId", encode r.userId),
    ("eventId", encode r.eventId),
    ("paymentMethod", encode r.paymentMethod),
    ("paymentReference", encode r.paymentReference),
    ("ticketItems", encode r.ticketItems),
    ("transferItems", encode r.transferItems),
    ("promoCode", encode r.promoCode)]

instance : Decode CreateOrderRequest where
  decode? j := do
    let c ← Components.of? fieldNames j
    return {
      userId := ← c.required "userId",
      eventId := ← c.required "eventId",
      paymentMethod := ← c.required "paymentMethod",
      paymentReference := ← c.withDefault "paymentReference" none,
      ticketItems := ← c.required "ticketItems",
      transferItems := ← c.withDefault "transferItems" [],
      promoCode := ← c.withDefault "promoCode" none }

end CreateOrderRequest

namespace Basket

def saturatingAdd (a b : UInt32) : UInt32 :=
  if a.toNat + b.toNat ≤ 0xFFFFFFFF then a + b else 0xFFFFFFFF

/-- Adds units of a product to a basket that is in the order of identifiers. -/
def add (product : ProductId) (quantity : UInt32) : List (ProductId × UInt32) →
    List (ProductId × UInt32)
  | [] => [(product, quantity)]
  | (p, n) :: rest =>
    if Ranked.rank product < Ranked.rank p then (product, quantity) :: (p, n) :: rest
    else if product = p then (p, saturatingAdd n quantity) :: rest
    else (p, n) :: add product quantity rest

def merge (selections : List ProductSelection) (cap : UInt32) : List (ProductId × UInt32) :=
  (selections.filter (0 < ·.quantity)).foldl
    (fun basket s => add s.productId (min s.quantity cap) basket) []

end Basket

end EventTickets
