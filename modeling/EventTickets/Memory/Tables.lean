import EventTickets.Table
import EventTickets.Store.Call

/-!
# The tables of the store in memory

Order lines and tickets stand in the order in which they were written. Queries read the tables; the
writes change one table each.
-/

namespace EventTickets

open Time (Instant)

namespace Memory

structure Tables where
  events : Table EventId String
  users : Table UserId Purchaser
  ticketProducts : Table ProductId TicketProduct
  transferProducts : Table ProductId TransferProduct
  promoCodes : Table PromoCodeId PromoCode
  orders : Table OrderId Order
  orderItems : List OrderItem
  tickets : List Ticket
  lastItemId : Int64

namespace Tables

def empty : Tables := ⟨.empty, .empty, .empty, .empty, .empty, .empty, [], [], 0⟩

/-- Codes are found whatever the case of their letters. -/
def promoByCode? (t : Tables) (code : String) : Option PromoCode :=
  t.promoCodes.values.find? fun p => Text.sameIgnoringCase p.code (Text.trim code)

def titled (t : Tables) (order : Order) : Order :=
  { order with eventTitle := (t.events.get? order.eventId).getD "" }

def itemsOf (t : Tables) (order : OrderId) : List OrderItem :=
  t.orderItems.filter (·.orderId == order)

def ticketsOf (t : Tables) (order : OrderId) : List Ticket := t.tickets.filter (·.orderId == order)

def ticket? (t : Tables) (id : TicketId) : Option Ticket := t.tickets.find? (·.id == id)

def detail? (t : Tables) (id : OrderId) (withPurchaser : Bool) : Option OrderDetail :=
  (t.orders.get? id).map fun order => {
    order := t.titled order,
    purchaser := if withPurchaser then t.users.get? order.userId else none,
    items := t.itemsOf id,
    tickets := t.ticketsOf id }

/-- Later orders first, and of two at one time the one with the greater identifier. -/
def listedBefore (a b : Order) : Bool :=
  decide (b.createdAt < a.createdAt) ||
    (a.createdAt == b.createdAt && decide (Ranked.rank b.id ≤ Ranked.rank a.id))

def summary (t : Tables) (order : Order) : OrderSummary :=
  ⟨t.titled order, t.users.get? order.userId⟩

def page (t : Tables) (passes : Order → Bool) (limit offset : UInt32) : Page OrderSummary :=
  let found := (t.orders.values.filter passes).mergeSort listedBefore
  ⟨((found.drop offset.toNat).take limit.toNat).map t.summary, UInt64.ofNat found.length⟩

def newestFirst {α : Type} (createdAt : α → Instant) (rows : List α) : List α :=
  rows.mergeSort fun a b => decide (createdAt b ≤ createdAt a)

def userTickets (t : Tables) (user : UserId) (event : Option EventId) : List Ticket :=
  newestFirst (·.createdAt) <|
    (t.tickets.reverse.filter fun k => k.userId == user && event.all (k.eventId == ·)).map fun k =>
      { k with orderStatus := (t.orders.get? k.orderId).map (·.status) }

/-- One row per line of an order; an order without lines has one row of its own. -/
def statsRowsOf (t : Tables) (order : Order) : List StatsRow :=
  let alone : StatsRow := {
    orderId := order.id,
    eventId := order.eventId,
    eventTitle := (t.events.get? order.eventId).getD "",
    status := order.status,
    totalCents := order.totalCents,
    itemType := none,
    productRef := "",
    quantity := 0 }
  match t.itemsOf order.id with
  | [] => [alone]
  | items => items.map fun item =>
    { alone with
      itemType := some item.itemType,
      productRef := item.productRef,
      quantity := Int64.ofNat item.quantity.toNat }

def statsRows (t : Tables) (event : Option EventId) : List StatsRow :=
  (t.orders.values.filter fun order => event.all (order.eventId == ·)).flatMap t.statsRowsOf

def checkInRows (t : Tables) (event : Option EventId) : List CheckInRow :=
  (t.tickets.filter fun k => k.isRedeemed && event.all (k.eventId == ·)).map fun k =>
    ⟨k.eventId, Int64.ofNat k.quantity.toNat⟩

def insertItem (t : Tables) (item : NewOrderItem) : Tables :=
  { t with
    lastItemId := t.lastItemId + 1, orderItems := t.orderItems ++ [item.item (t.lastItemId + 1)] }

def insertTicket (t : Tables) (ticket : NewTicket) : Tables :=
  { t with tickets := t.tickets ++ [ticket.ticket] }

def modifyTicket (t : Tables) (id : TicketId) (f : Ticket → Ticket) : Tables :=
  let rec go : List Ticket → List Ticket
    | [] => []
    | k :: rest => if k.id = id then f k :: rest else k :: go rest
  { t with tickets := go t.tickets }

/-- A counter with more on it, as long as it stays within its limit and its range. -/
def reserved? (count : UInt32) (limit : Option UInt32) (quantity : UInt32) : Option UInt32 :=
  let next := count.toNat + quantity.toNat
  if next ≤ 0xFFFFFFFF ∧ limit.all (fun limit => decide (next ≤ limit.toNat)) then
    some (count + quantity) else none

/-- A counter with less on it, but not below zero. -/
def released (count quantity : UInt32) : UInt32 := if count < quantity then 0 else count - quantity

def reserve? (t : Tables) (itemType : ItemType) (product : ProductId) (quantity : UInt32) :
    Option Tables :=
  match itemType with
  | .ticket => do
    let p ← t.ticketProducts.get? product
    let soldCount ← reserved? p.soldCount p.inventoryLimit quantity
    return { t with
      ticketProducts := t.ticketProducts.modify product ({ · with soldCount := soldCount }) }
  | .transfer => do
    let p ← t.transferProducts.get? product
    let soldCount ← reserved? p.soldCount p.inventoryLimit quantity
    return { t with transferProducts := t.transferProducts.modify product ({ · with
      soldCount := soldCount }) }

def release (t : Tables) (itemType : ItemType) (product : ProductId) (quantity : UInt32) : Tables :=
  match itemType with
  | .ticket =>
    { t with ticketProducts := t.ticketProducts.modify product fun p =>
        { p with soldCount := released p.soldCount quantity } }
  | .transfer =>
    { t with transferProducts := t.transferProducts.modify product fun p =>
        { p with soldCount := released p.soldCount quantity } }

/-- A use taken from a promo code; a limit of zero limits nothing. -/
def consumePromo? (t : Tables) (id : PromoCodeId) : Option Tables := do
  let p ← t.promoCodes.get? id
  let usedCount ← reserved? p.usedCount (p.usageLimit.filter (0 < ·)) 1
  return { t with promoCodes := t.promoCodes.modify id ({ · with usedCount := usedCount }) }

def releasePromo (t : Tables) (id : PromoCodeId) : Tables :=
  { t with promoCodes := t.promoCodes.modify id fun p =>
    { p with usedCount := released p.usedCount 1 } }

def transition? (t : Tables) (id : OrderId) (transition : OrderTransition) : Option Tables := do
  let order ← t.orders.get? id
  if transition.appliesTo order.status then
    some { t with orders := t.orders.modify id transition.apply }
  else none

end Tables

end Memory

end EventTickets
