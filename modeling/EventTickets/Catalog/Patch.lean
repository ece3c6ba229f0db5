import EventTickets.Catalog.Limit
import EventTickets.Catalog.Product
import EventTickets.Promo.Code

/-!
# Changes to catalog entries

A patch names the fields it changes and leaves the others alone. Applying it also stamps the row. In
the written form of a patch a limit may be any integer, as in `LimitUpdate.ofInput`.
-/

namespace EventTickets

open Time (Instant)

structure TicketProductPatch where
  name : Option String
  priceCents : Option Int64
  inventoryLimit : LimitUpdate
  isActive : Option Bool
  deriving DecidableEq

instance : Decode TicketProductPatch where
  decode? j := do
    let c ← Components.of? ["name", "priceCents", "inventoryLimit", "isActive"] j
    return {
      name := ← c.optional "name",
      priceCents := ← c.optional "priceCents",
      inventoryLimit := .ofInput (← c.optional "inventoryLimit"),
      isActive := ← c.optional "isActive" }

def TicketProductPatch.apply (patch : TicketProductPatch) (now : Instant) (p : TicketProduct) :
    TicketProduct :=
  { p with
    name := patch.name.getD p.name,
    priceCents := patch.priceCents.getD p.priceCents,
    inventoryLimit := patch.inventoryLimit.apply p.inventoryLimit,
    isActive := patch.isActive.getD p.isActive,
    updatedAt := now }

structure TransferProductPatch where
  name : Option String
  priceCents : Option Int64
  info : Option Meta
  inventoryLimit : LimitUpdate
  isActive : Option Bool

instance : Decode TransferProductPatch where
  decode? j := do
    let c ← Components.of? ["name", "priceCents", "info", "inventoryLimit", "isActive"] j
    return {
      name := ← c.optional "name",
      priceCents := ← c.optional "priceCents",
      info := ← c.optional "info",
      inventoryLimit := .ofInput (← c.optional "inventoryLimit"),
      isActive := ← c.optional "isActive" }

def TransferProductPatch.apply (patch : TransferProductPatch) (now : Instant)
    (p : TransferProduct) : TransferProduct :=
  { p with
    name := patch.name.getD p.name,
    priceCents := patch.priceCents.getD p.priceCents,
    info := patch.info.getD p.info,
    inventoryLimit := patch.inventoryLimit.apply p.inventoryLimit,
    isActive := patch.isActive.getD p.isActive,
    updatedAt := now }

/-- A window bound or a scope can be replaced but not removed. -/
structure PromoCodePatch where
  discountType : Option DiscountType
  value : Option Int64
  usageLimit : LimitUpdate
  activeFrom : Option Instant
  activeTo : Option Instant
  eventId : Option EventId
  isActive : Option Bool
  deriving DecidableEq

instance : Decode PromoCodePatch where
  decode? j := do
    let c ← Components.of?
      ["discountType", "value", "usageLimit", "activeFrom", "activeTo", "eventId", "isActive"] j
    return {
      discountType := ← c.optional "discountType",
      value := ← c.optional "value",
      usageLimit := .ofInput (← c.optional "usageLimit"),
      activeFrom := ← c.optional "activeFrom",
      activeTo := ← c.optional "activeTo",
      eventId := ← c.optional "eventId",
      isActive := ← c.optional "isActive" }

def PromoCodePatch.apply (patch : PromoCodePatch) (now : Instant) (p : PromoCode) : PromoCode :=
  { p with
    discountType := patch.discountType.getD p.discountType,
    value := patch.value.getD p.value,
    usageLimit := patch.usageLimit.apply p.usageLimit,
    activeFrom := patch.activeFrom <|> p.activeFrom,
    activeTo := patch.activeTo <|> p.activeTo,
    eventId := patch.eventId <|> p.eventId,
    isActive := patch.isActive.getD p.isActive,
    updatedAt := now }

end EventTickets
