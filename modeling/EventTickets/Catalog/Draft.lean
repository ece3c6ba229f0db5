import EventTickets.Catalog.Limit
import EventTickets.Catalog.Product
import EventTickets.Error
import EventTickets.Text.Quoted

/-!
# New catalog entries

What callers ask for becomes a draft once it is checked: kinds and codes are normalised, names
trimmed, limits read, and an entry is active unless it says otherwise.
-/

namespace EventTickets

open Time (Instant)

namespace Catalog

def checkEvent (event : EventId) : Except TicketingError Unit :=
  if event.isValid then .ok () else .error (.invalidProduct "event id must be positive")

def checkPrice (priceCents : Int64) : Except TicketingError Unit :=
  if priceCents < 0 then .error (.invalidProduct "price must not be negative") else .ok ()

def checkWindow (start stop : Option Instant) : Except TicketingError Unit :=
  match start, stop with
  | some start, some stop => if stop < start then .error (.promoInvalid .invalidInput) else .ok ()
  | _, _ => .ok ()

def supportedDiscount : DiscountType → Except TicketingError DiscountType
  | .other _ => .error (.promoInvalid (.rejected .unsupportedDiscountType))
  | supported => .ok supported

end Catalog

structure TicketProductInput where
  eventId : EventId
  name : String
  ticketType : String
  priceCents : Int64
  inventoryLimit : Option Int64
  isActive : Option Bool
  deriving DecidableEq

namespace TicketProductInput

def fieldNames : List String := [
  "eventId", "name", "type", "priceCents", "inventoryLimit", "isActive"]

instance : Encode TicketProductInput where
  encode r := .obj [
    ("eventId", encode r.eventId),
    ("name", encode r.name),
    ("type", encode r.ticketType),
    ("priceCents", encode r.priceCents),
    ("inventoryLimit", encode r.inventoryLimit),
    ("isActive", encode r.isActive)]

instance : Decode TicketProductInput where
  decode? j := do
    let c ← Components.of? fieldNames j
    return {
      eventId := ← c.required "eventId",
      name := ← c.withDefault "name" "",
      ticketType := ← c.required "type",
      priceCents := ← c.required "priceCents",
      inventoryLimit := ← c.optional "inventoryLimit",
      isActive := ← c.optional "isActive" }

end TicketProductInput

structure TicketProductDraft where
  eventId : EventId
  name : String
  ticketType : TicketType
  priceCents : Int64
  inventoryLimit : Option UInt32
  isActive : Bool
  createdBy : Option UserId
  deriving DecidableEq

namespace TicketProductDraft

instance : Encode TicketProductDraft where
  encode r := .obj [
    ("eventId", encode r.eventId),
    ("name", encode r.name),
    ("type", encode r.ticketType),
    ("priceCents", encode r.priceCents),
    ("inventoryLimit", encode r.inventoryLimit),
    ("isActive", encode r.isActive),
    ("createdBy", encode r.createdBy)]

end TicketProductDraft

def TicketProductDraft.product (draft : TicketProductDraft) (id : ProductId) (now : Instant) :
    TicketProduct where
  id := id
  eventId := draft.eventId
  name := draft.name
  ticketType := draft.ticketType
  priceCents := draft.priceCents
  inventoryLimit := draft.inventoryLimit
  soldCount := 0
  isActive := draft.isActive
  createdBy := draft.createdBy
  createdAt := now
  updatedAt := now

def TicketProductInput.intoDraft (input : TicketProductInput) (createdBy : Option UserId) :
    Except TicketingError TicketProductDraft := do
  let some ticketType := TicketType.parse? input.ticketType
    | throw (.invalidProduct ("unknown ticket type " ++ Text.quoted input.ticketType))
  Catalog.checkEvent input.eventId
  Catalog.checkPrice input.priceCents
  return {
    eventId := input.eventId,
    name := Text.trim input.name,
    ticketType := ticketType,
    priceCents := input.priceCents,
    inventoryLimit := Limit.ofInput input.inventoryLimit,
    isActive := input.isActive.getD true,
    createdBy := createdBy }

structure TransferProductInput where
  eventId : EventId
  name : String
  direction : String
  priceCents : Int64
  info : Meta
  inventoryLimit : Option Int64
  isActive : Option Bool

namespace TransferProductInput

def fieldNames : List String := [
  "eventId", "name", "direction", "priceCents", "info", "inventoryLimit", "isActive"]

instance : Encode TransferProductInput where
  encode r := .obj [
    ("eventId", encode r.eventId),
    ("name", encode r.name),
    ("direction", encode r.direction),
    ("priceCents", encode r.priceCents),
    ("info", encode r.info),
    ("inventoryLimit", encode r.inventoryLimit),
    ("isActive", encode r.isActive)]

instance : Decode TransferProductInput where
  decode? j := do
    let c ← Components.of? fieldNames j
    return {
      eventId := ← c.required "eventId",
      name := ← c.withDefault "name" "",
      direction := ← c.required "direction",
      priceCents := ← c.required "priceCents",
      info := ← c.withDefault "info" [],
      inventoryLimit := ← c.optional "inventoryLimit",
      isActive := ← c.optional "isActive" }

end TransferProductInput

structure TransferProductDraft where
  eventId : EventId
  name : String
  direction : TransferDirection
  priceCents : Int64
  info : Meta
  inventoryLimit : Option UInt32
  isActive : Bool
  createdBy : Option UserId

namespace TransferProductDraft

instance : Encode TransferProductDraft where
  encode r := .obj [
    ("eventId", encode r.eventId),
    ("name", encode r.name),
    ("direction", encode r.direction),
    ("priceCents", encode r.priceCents),
    ("info", encode r.info),
    ("inventoryLimit", encode r.inventoryLimit),
    ("isActive", encode r.isActive),
    ("createdBy", encode r.createdBy)]

end TransferProductDraft

def TransferProductDraft.product (draft : TransferProductDraft) (id : ProductId) (now : Instant) :
    TransferProduct where
  id := id
  eventId := draft.eventId
  name := draft.name
  direction := draft.direction
  priceCents := draft.priceCents
  info := draft.info
  inventoryLimit := draft.inventoryLimit
  soldCount := 0
  isActive := draft.isActive
  createdBy := draft.createdBy
  createdAt := now
  updatedAt := now

def TransferProductInput.intoDraft (input : TransferProductInput) (createdBy : Option UserId) :
    Except TicketingError TransferProductDraft := do
  let some direction := TransferDirection.parse? input.direction
    | throw (.invalidProduct ("unknown transfer direction " ++ Text.quoted input.direction))
  Catalog.checkEvent input.eventId
  Catalog.checkPrice input.priceCents
  return {
    eventId := input.eventId,
    name := Text.trim input.name,
    direction := direction,
    priceCents := input.priceCents,
    info := input.info,
    inventoryLimit := Limit.ofInput input.inventoryLimit,
    isActive := input.isActive.getD true,
    createdBy := createdBy }

structure PromoCodeInput where
  code : String
  discountType : String
  value : Int64
  usageLimit : Option Int64
  activeFrom : Option Instant
  activeTo : Option Instant
  eventId : Option EventId
  isActive : Option Bool
  deriving DecidableEq

namespace PromoCodeInput

def fieldNames : List String := [
  "code", "discountType", "value", "usageLimit", "activeFrom", "activeTo", "eventId", "isActive"]

instance : Encode PromoCodeInput where
  encode r := .obj [
    ("code", encode r.code),
    ("discountType", encode r.discountType),
    ("value", encode r.value),
    ("usageLimit", encode r.usageLimit),
    ("activeFrom", encode r.activeFrom),
    ("activeTo", encode r.activeTo),
    ("eventId", encode r.eventId),
    ("isActive", encode r.isActive)]

instance : Decode PromoCodeInput where
  decode? j := do
    let c ← Components.of? fieldNames j
    return {
      code := ← c.required "code",
      discountType := ← c.required "discountType",
      value := ← c.required "value",
      usageLimit := ← c.optional "usageLimit",
      activeFrom := ← c.optional "activeFrom",
      activeTo := ← c.optional "activeTo",
      eventId := ← c.optional "eventId",
      isActive := ← c.optional "isActive" }

end PromoCodeInput

structure PromoCodeDraft where
  code : String
  discountType : DiscountType
  value : Int64
  usageLimit : Option UInt32
  activeFrom : Option Instant
  activeTo : Option Instant
  eventId : Option EventId
  isActive : Bool
  createdBy : Option UserId
  deriving DecidableEq

namespace PromoCodeDraft

instance : Encode PromoCodeDraft where
  encode r := .obj [
    ("code", encode r.code),
    ("discountType", encode r.discountType),
    ("value", encode r.value),
    ("usageLimit", encode r.usageLimit),
    ("activeFrom", encode r.activeFrom),
    ("activeTo", encode r.activeTo),
    ("eventId", encode r.eventId),
    ("isActive", encode r.isActive),
    ("createdBy", encode r.createdBy)]

end PromoCodeDraft

def PromoCodeDraft.promo (draft : PromoCodeDraft) (id : PromoCodeId) (now : Instant) :
    PromoCode where
  id := id
  code := draft.code
  discountType := draft.discountType
  value := draft.value
  usageLimit := draft.usageLimit
  usedCount := 0
  activeFrom := draft.activeFrom
  activeTo := draft.activeTo
  eventId := draft.eventId
  isActive := draft.isActive
  createdBy := draft.createdBy
  createdAt := now
  updatedAt := now

def PromoCodeInput.intoDraft (input : PromoCodeInput) (createdBy : Option UserId) :
    Except TicketingError PromoCodeDraft := do
  let code := Text.normalizeToken input.code
  if code.isEmpty then throw (.promoInvalid .invalidInput)
  let discountType ← Catalog.supportedDiscount (DiscountType.parse input.discountType)
  Catalog.checkWindow input.activeFrom input.activeTo
  return {
    code := code,
    discountType := discountType,
    value := input.value,
    usageLimit := Limit.ofInput input.usageLimit,
    activeFrom := input.activeFrom,
    activeTo := input.activeTo,
    eventId := input.eventId.filter NumberId.isValid,
    isActive := input.isActive.getD true,
    createdBy := createdBy }

end EventTickets
