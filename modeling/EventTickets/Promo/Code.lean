import EventTickets.Id
import EventTickets.Promo.DiscountType

/-!
# Promo codes

`usedCount` is the number of orders that hold the code. Both ends of the activity window belong to
it. A code without an event serves every event.
-/

namespace EventTickets

open Time (Instant)

structure PromoCode where
  id : PromoCodeId
  code : String
  discountType : DiscountType
  value : Int64
  usageLimit : Option UInt32
  usedCount : UInt32
  activeFrom : Option Instant
  activeTo : Option Instant
  eventId : Option EventId
  isActive : Bool
  createdBy : Option UserId
  createdAt : Instant
  updatedAt : Instant
  deriving DecidableEq

namespace PromoCode

def fieldNames : List String := [
  "id", "code", "discountType", "value", "usageLimit", "usedCount", "activeFrom", "activeTo",
  "eventId", "isActive", "createdBy", "createdAt", "updatedAt"]

instance : Encode PromoCode where
  encode r := .obj [
    ("id", encode r.id),
    ("code", encode r.code),
    ("discountType", encode r.discountType),
    ("value", encode r.value),
    ("usageLimit", encode r.usageLimit),
    ("usedCount", encode r.usedCount),
    ("activeFrom", encode r.activeFrom),
    ("activeTo", encode r.activeTo),
    ("eventId", encode r.eventId),
    ("isActive", encode r.isActive),
    ("createdBy", encode r.createdBy),
    ("createdAt", encode r.createdAt),
    ("updatedAt", encode r.updatedAt)]

instance : Decode PromoCode where
  decode? j := do
    let c ← Components.of? fieldNames j
    return {
      id := ← c.required "id",
      code := ← c.required "code",
      discountType := ← c.required "discountType",
      value := ← c.required "value",
      usageLimit := ← c.optional "usageLimit",
      usedCount := ← c.required "usedCount",
      activeFrom := ← c.optional "activeFrom",
      activeTo := ← c.optional "activeTo",
      eventId := ← c.optional "eventId",
      isActive := ← c.required "isActive",
      createdBy := ← c.optional "createdBy",
      createdAt := ← c.required "createdAt",
      updatedAt := ← c.required "updatedAt" }

end PromoCode

end EventTickets
