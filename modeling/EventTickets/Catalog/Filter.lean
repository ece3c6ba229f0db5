import EventTickets.Catalog.Product
import EventTickets.Promo.Code

/-!
# Catalog filters

Listings may be narrowed to an event and to active or inactive entries. A promo code without an
event serves every event, so it is listed with each.
-/

namespace EventTickets

structure ProductFilter where
  eventId : Option EventId
  active : Option Bool
  deriving DecidableEq

namespace ProductFilter

def fieldNames : List String := ["eventId", "active"]

instance : Encode ProductFilter where
  encode r := .obj [
    ("eventId", encode r.eventId),
    ("active", encode r.active)]

instance : Decode ProductFilter where
  decode? j := do
    let c ← Components.of? fieldNames j
    return {
      eventId := ← c.optional "eventId",
      active := ← c.optional "active" }

def purchasable (event : EventId) : ProductFilter := ⟨some event, some true⟩

def admitsEvent (filter : ProductFilter) (event : EventId) : Bool := filter.eventId.all (event == ·)

def admitsScope (filter : ProductFilter) (scope : Option EventId) : Bool :=
  filter.eventId.all fun event => scope.isNone || scope == some event

def admitsActive (filter : ProductFilter) (isActive : Bool) : Bool :=
  filter.active.all (isActive == ·)

def admitsTicket (filter : ProductFilter) (p : TicketProduct) : Bool :=
  filter.admitsEvent p.eventId && filter.admitsActive p.isActive

def admitsTransfer (filter : ProductFilter) (p : TransferProduct) : Bool :=
  filter.admitsEvent p.eventId && filter.admitsActive p.isActive

def admitsPromo (filter : ProductFilter) (p : PromoCode) : Bool :=
  filter.admitsScope p.eventId && filter.admitsActive p.isActive

end ProductFilter

structure PurchasableProducts where
  tickets : List TicketProduct
  transfers : List TransferProduct

namespace PurchasableProducts

def fieldNames : List String := ["tickets", "transfers"]

instance : Encode PurchasableProducts where
  encode r := .obj [
    ("tickets", encode r.tickets),
    ("transfers", encode r.transfers)]

instance : Decode PurchasableProducts where
  decode? j := do
    let c ← Components.of? fieldNames j
    return {
      tickets := ← c.required "tickets",
      transfers := ← c.required "transfers" }

end PurchasableProducts

end EventTickets
