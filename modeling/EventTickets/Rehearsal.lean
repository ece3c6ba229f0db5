import EventTickets.Memory.Store
import EventTickets.Sample
import EventTickets.Service.Catalog
import EventTickets.Service.Confirmation
import EventTickets.Service.Listing
import EventTickets.Service.Purchase
import EventTickets.Service.Redemption

/-!
# Rehearsals

A rehearsal takes one order through its whole life: products and a promo code are created,
everything is bought at once, confirmed, delivered and redeemed with the tokens that were issued. It
is held at the sample event.
-/

namespace EventTickets

def Memory.State.seeded {σ : Type} (s : Memory.State σ) : Memory.State σ :=
  (s.addEvent Sample.event Sample.eventTitle).addUser Sample.buyer

structure RehearsedProduct where
  kind : String
  priceCents : Int64
  limit : Option Int64
  quantity : UInt32
  deriving DecidableEq

instance : Decode RehearsedProduct where
  decode?
    | .arr [kind, price, limit, quantity] => do
      return ⟨← decode? kind, ← decode? price, ← decode? limit, ← decode? quantity⟩
    | _ => none

structure RehearsedPromo where
  code : String
  discountType : String
  value : Int64
  deriving DecidableEq

instance : Decode RehearsedPromo where
  decode?
    | .arr [code, discountType, value] =>
      do return ⟨← decode? code, ← decode? discountType, ← decode? value⟩
    | _ => none

structure Rehearsal where
  tickets : List RehearsedProduct
  transfers : List RehearsedProduct
  promo : Option RehearsedPromo
  deriving DecidableEq

structure RehearsalReport where
  created : OrderDetail
  delivery : DeliveryOutcome
  redeemed : List (TicketId × OrderStatus)
  products : PurchasableProducts
  stats : TicketStats

instance : Encode RehearsalReport where
  encode r := .obj [
    ("created", encode r.created),
    ("delivery", encode r.delivery),
    ("redeemed", encode r.redeemed),
    ("products", encode r.products),
    ("stats", encode r.stats)]

namespace Rehearsal

instance : Decode Rehearsal where
  decode? j := do
    let c ← Components.of? ["tickets", "transfers", "promo"] j
    return {
      tickets := ← c.required "tickets",
      transfers := ← c.required "transfers",
      promo := ← c.optional "promo" }

def createTicket (p : RehearsedProduct) : Service ProductSelection := do
  let product ← createTicketProduct Sample.operator {
    eventId := Sample.event,
    name := p.kind ++ " pass",
    ticketType := p.kind,
    priceCents := p.priceCents,
    inventoryLimit := p.limit,
    isActive := none }
  return ⟨product.id, p.quantity⟩

def createTransfer (p : RehearsedProduct) : Service ProductSelection := do
  let product ← createTransferProduct Sample.operator {
    eventId := Sample.event,
    name := "Shuttle " ++ p.kind,
    direction := p.kind,
    priceCents := p.priceCents,
    info := [],
    inventoryLimit := p.limit,
    isActive := none }
  return ⟨product.id, p.quantity⟩

def createPromo (p : RehearsedPromo) : Service String := do
  let promo ← createPromoCode Sample.operator {
    code := p.code,
    discountType := p.discountType,
    value := p.value,
    usageLimit := none,
    activeFrom := none,
    activeTo := none,
    eventId := none,
    isActive := none }
  return promo.code

def redeemAll (env : Environment) : List Ticket → Service (List (TicketId × OrderStatus))
  | [] => pure []
  | ticket :: rest => do
    let outcome ← redeemTicket env ticket.id Sample.operator ticket.qrPayload
    return (ticket.id, outcome.orderStatus) :: (← redeemAll env rest)

/-- A rehearsal whose figures cannot be reported has no report either. -/
def perform (env : Environment) (rehearsal : Rehearsal) : Service (Option RehearsalReport) := do
  let tickets ← rehearsal.tickets.mapM createTicket
  let transfers ← rehearsal.transfers.mapM createTransfer
  let code ← match rehearsal.promo with
    | some promo => some <$> createPromo promo
    | none => pure none
  let created ← createOrder env {
    userId := Sample.buyer.userId,
    eventId := Sample.event,
    paymentMethod := "phone",
    paymentReference := none,
    ticketItems := tickets,
    transferItems := transfers,
    promoCode := code }
  let delivered ← confirmAndDeliver env created.order.id Sample.operator
  let redeemed ← redeemAll env delivered.confirmed.detail.tickets
  let products ← purchasableProducts Sample.event
  let stats ← ticketStats none
  return stats.map fun stats => ⟨created, delivered.delivery, redeemed, products, stats⟩

end Rehearsal

end EventTickets
