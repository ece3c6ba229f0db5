import EventTickets.Catalog.Product
import EventTickets.Promo.Code
import EventTickets.Sales.Tally
import EventTickets.Sql.Cell
import EventTickets.Store.Error
import EventTickets.Text.Quoted

/-!
# Reading rows

A row becomes a record column by column; the first column that cannot be read is the error, under
the name of the record. Counters must not be negative, limits that are not positive are none, and
kinds must be known.
-/

namespace EventTickets.Sql

open Time (Instant)

def unreadable : String := "<sqlx>"

abbrev Reading (α : Type) := Except StoreError α

namespace Row

def column {α : Type} [OfCell α] (row : Row) (entity name : String) : Reading α :=
  match (row.lookup name).bind ofCell? with
  | some a => .ok a
  | none => .error (.decode entity (name ++ ": " ++ unreadable))

def first {α : Type} [OfCell α] (row : Row) : Reading α :=
  match row.head?.bind fun (_, cell) => ofCell? cell with
  | some a => .ok a
  | none => .error (.database unreadable)

def count (row : Row) (entity name : String) : Reading UInt32 := do
  let raw : Int32 ← row.column entity name
  if raw < 0 then throw (.decode entity (name ++ " is negative: " ++ toString raw.toInt))
  return UInt32.ofNat raw.toInt.toNat

def limit (row : Row) (entity name : String) : Reading (Option UInt32) := do
  let raw : Option Int32 ← row.column entity name
  return (raw.filter (0 < ·)).map fun n => UInt32.ofNat n.toInt.toNat

def user (row : Row) (entity name : String) : Reading (Option UserId) := do
  let raw : Option Int64 ← row.column entity name
  return raw.map .mk

def kind {α : Type} (row : Row) (entity name : String) (parse? : String → Option α) :
    Reading α := do
  let raw : String ← row.column entity name
  match parse? raw with
  | some a => return a
  | none => throw (.decode entity ("unknown " ++ name ++ " " ++ Text.quoted raw))

def details (row : Row) (entity name : String) : Reading Meta := do
  let raw : Option Json ← row.column entity name
  match raw with
  | some (.obj fields) => return fields
  | _ => return []

def ticketProduct (row : Row) : Reading TicketProduct := do
  let e := "ticket_product"
  return {
    id := ⟨← row.column e "id"⟩,
    eventId := ⟨← row.column e "event_id"⟩,
    name := ← row.column e "name",
    ticketType := ← row.kind e "type" TicketType.parse?,
    priceCents := ← row.column e "price_cents",
    inventoryLimit := ← row.limit e "inventory_limit",
    soldCount := ← row.count e "sold_count",
    isActive := ← row.column e "is_active",
    createdBy := ← row.user e "created_by",
    createdAt := ← row.column e "created_at",
    updatedAt := ← row.column e "updated_at" }

def transferProduct (row : Row) : Reading TransferProduct := do
  let e := "transfer_product"
  return {
    id := ⟨← row.column e "id"⟩,
    eventId := ⟨← row.column e "event_id"⟩,
    name := ← row.column e "name",
    direction := ← row.kind e "direction" TransferDirection.parse?,
    priceCents := ← row.column e "price_cents",
    info := ← row.details e "info_json",
    inventoryLimit := ← row.limit e "inventory_limit",
    soldCount := ← row.count e "sold_count",
    isActive := ← row.column e "is_active",
    createdBy := ← row.user e "created_by",
    createdAt := ← row.column e "created_at",
    updatedAt := ← row.column e "updated_at" }

/-- A scope that is no event is none. -/
def promoCode (row : Row) : Reading PromoCode := do
  let e := "promo_code"
  let discountType : String ← row.column e "discount_type"
  let scope : Option Int64 ← row.column e "event_id"
  return {
    id := ⟨← row.column e "id"⟩,
    code := ← row.column e "code",
    discountType := .parse discountType,
    value := ← row.column e "value",
    usageLimit := ← row.limit e "usage_limit",
    usedCount := ← row.count e "used_count",
    activeFrom := ← row.column e "active_from",
    activeTo := ← row.column e "active_to",
    eventId := (scope.map NumberId.mk).filter NumberId.isValid,
    isActive := ← row.column e "is_active",
    createdBy := ← row.user e "created_by",
    createdAt := ← row.column e "created_at",
    updatedAt := ← row.column e "updated_at" }

def order (row : Row) : Reading Order := do
  let e := "order"
  let promo : Option Uuid ← row.column e "promo_code_id"
  return {
    id := ⟨← row.column e "id"⟩,
    userId := ⟨← row.column e "user_id"⟩,
    eventId := ⟨← row.column e "event_id"⟩,
    eventTitle := ← row.column e "event_title",
    status := ← row.kind e "status" OrderStatus.parse?,
    paymentMethod := ← row.kind e "payment_method" PaymentMethod.parse?,
    paymentReference := ← row.column e "payment_reference",
    paymentNotes := ← row.column e "payment_notes",
    promoCodeId := promo.map .mk,
    subtotalCents := ← row.column e "subtotal_cents",
    discountCents := ← row.column e "discount_cents",
    totalCents := ← row.column e "total_cents",
    currency := ← row.column e "currency",
    confirmedAt := ← row.column e "confirmed_at",
    confirmedBy := ← row.user e "confirmed_by",
    canceledAt := ← row.column e "canceled_at",
    canceledBy := ← row.user e "canceled_by",
    canceledReason := ← row.column e "canceled_reason",
    redeemedAt := ← row.column e "redeemed_at",
    createdAt := ← row.column e "created_at",
    updatedAt := ← row.column e "updated_at" }

def purchaser (row : Row) : Reading (Option Purchaser) := do
  let e := "purchaser"
  let some userId ← row.user e "purchaser_id" | return none
  let messengerId : Option Int64 ← row.column e "telegram_id"
  let firstName : Option String ← row.column e "first_name"
  let lastName : Option String ← row.column e "last_name"
  let username : Option String ← row.column e "username"
  return some ⟨userId, messengerId, firstName.getD "", lastName.getD "", username.getD ""⟩

def orderSummary (row : Row) : Reading OrderSummary := do
  let order ← row.order
  return ⟨order, ← row.purchaser⟩

def orderItem (row : Row) : Reading OrderItem := do
  let e := "order_item"
  return {
    id := ← row.column e "id",
    orderId := ⟨← row.column e "order_id"⟩,
    itemType := ← row.kind e "item_type" ItemType.parse?,
    productId := ⟨← row.column e "product_id"⟩,
    productRef := ← row.column e "product_ref",
    quantity := ← row.count e "quantity",
    unitPriceCents := ← row.column e "unit_price_cents",
    lineTotalCents := ← row.column e "line_total_cents",
    details := ← row.details e "meta_json",
    createdAt := ← row.column e "created_at" }

def orderStatus (row : Row) (entity name : String) : Reading (Option OrderStatus) := do
  let raw : Option String ← row.column entity name
  match raw with
  | some _ => some <$> row.kind entity name OrderStatus.parse?
  | none => return none

def ticket (row : Row) : Reading Ticket := do
  let e := "ticket"
  let orderStatus ← row.orderStatus e "order_status"
  return {
    id := ⟨← row.column e "id"⟩,
    orderId := ⟨← row.column e "order_id"⟩,
    orderStatus := orderStatus,
    userId := ⟨← row.column e "user_id"⟩,
    eventId := ⟨← row.column e "event_id"⟩,
    ticketType := ← row.kind e "ticket_type" TicketType.parse?,
    quantity := ← row.count e "quantity",
    qrPayload := ← row.column e "qr_payload",
    qrPayloadHash := ← row.column e "qr_payload_hash",
    qrIssuedAt := ← row.column e "qr_issued_at",
    redeemedAt := ← row.column e "redeemed_at",
    redeemedBy := ← row.user e "redeemed_by",
    createdAt := ← row.column e "created_at" }

/-- An order without lines has nulls for them; units of an unknown kind are none. -/
def statsRow (row : Row) : Reading StatsRow := do
  let e := "stats_row"
  let itemType : Option String ← row.column e "item_type"
  let productRef : Option String ← row.column e "product_ref"
  let quantity : Option Int32 ← row.column e "quantity"
  return {
    orderId := ⟨← row.column e "order_id"⟩,
    eventId := ⟨← row.column e "event_id"⟩,
    eventTitle := ← row.column e "event_title",
    status := ← row.kind e "status" OrderStatus.parse?,
    totalCents := ← row.column e "total_cents",
    itemType := itemType.bind ItemType.parse?,
    productRef := productRef.getD "",
    quantity := quantity.elim 0 fun n => Int64.ofInt n.toInt }

def checkInRow (row : Row) : Reading CheckInRow := do
  let e := "check_in_row"
  let quantity : Int32 ← row.column e "quantity"
  return ⟨⟨← row.column e "event_id"⟩, Int64.ofInt quantity.toInt⟩

end Row

end EventTickets.Sql
