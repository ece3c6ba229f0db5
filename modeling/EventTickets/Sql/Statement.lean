import EventTickets.Sql.Assignment
import EventTickets.Sql.Schema
import EventTickets.Store.Call

/-!
# Statements

All that is ever sent to the database: a text with numbered places and a value for each place.
Control statements and the schema script have no parameters. Quantities come as 32-bit integers, so
one that is larger never gets this far.
-/

namespace EventTickets.Sql

open Time (Instant)

inductive Statement where
  | begin
  | commit
  | rollback
  | setTimeout (milliseconds : UInt64)
  | schema
  | eventTitle (event : EventId)
  | lockTicketProduct (id : ProductId)
  | lockTransferProduct (id : ProductId)
  | lockPromoByCode (code : String)
  | consumePromo (id : PromoCodeId)
  | releasePromo (id : PromoCodeId)
  | insertOrder (order : NewOrder)
  | insertOrderItem (item : NewOrderItem) (quantity : Int32)
  | insertTicket (ticket : NewTicket) (quantity : Int32)
  | lockOrder (id : OrderId)
  | lockOrderItems (order : OrderId)
  | reserve (itemType : ItemType) (product : ProductId) (quantity : Int32)
  | release (itemType : ItemType) (product : ProductId) (quantity : Int32)
  | transition (id : OrderId) (transition : OrderTransition)
  | lockOrderTickets (order : OrderId)
  | issueToken (ticket : TicketId) (issued : IssuedToken)
  | lockOrderOfTicket (ticket : TicketId)
  | lockTicket (id : TicketId)
  | markRedeemed (ticket : TicketId) (operator : OperatorId) (time : Instant)
  | countUnredeemed (order : OrderId)
  | order (id : OrderId)
  | orderItems (order : OrderId)
  | orderTickets (order : OrderId)
  | purchaser (user : UserId)
  | findPromoByCode (code : String)
  | listOrders (query : OrderQuery)
  | countOrders (query : OrderQuery)
  | listUserOrders (user : UserId) (limit offset : UInt32)
  | countUserOrders (user : UserId)
  | listUserTickets (user : UserId) (event : Option EventId)
  | statsRows (event : Option EventId)
  | checkInRows (event : Option EventId)
  | listTicketProducts (filter : ProductFilter)
  | insertTicketProduct (id : ProductId) (draft : TicketProductDraft)
  | updateTicketProduct (id : ProductId) (patch : TicketProductPatch)
  | deleteTicketProduct (id : ProductId)
  | listTransferProducts (filter : ProductFilter)
  | insertTransferProduct (id : ProductId) (draft : TransferProductDraft)
  | updateTransferProduct (id : ProductId) (patch : TransferProductPatch)
  | deleteTransferProduct (id : ProductId)
  | listPromoCodes (filter : ProductFilter)
  | insertPromoCode (id : PromoCodeId) (draft : PromoCodeDraft)
  | updatePromoCode (id : PromoCodeId) (patch : PromoCodePatch)
  | deletePromoCode (id : PromoCodeId)

namespace Statement

def ticketProductColumns : String :=
  "id, event_id, name, type, price_cents, inventory_limit, sold_count, is_active, created_by, " ++
  "created_at, updated_at"

def transferProductColumns : String :=
  "id, event_id, name, direction, price_cents, info_json, inventory_limit, sold_count, " ++
  "is_active, created_by, created_at, updated_at"

def promoCodeColumns : String :=
  "id, code, discount_type, value, usage_limit, used_count, active_from, active_to, event_id, " ++
  "is_active, created_by, created_at, updated_at"

def orderColumns : String :=
  "o.id, o.user_id, o.event_id, COALESCE(e.title, '') AS event_title, o.status, " ++
  "o.payment_method, o.payment_reference, o.payment_notes, o.promo_code_id, o.subtotal_cents, " ++
  "o.discount_cents, o.total_cents, o.currency, o.confirmed_at, o.confirmed_by, " ++
  "o.canceled_at, o.canceled_by, o.canceled_reason, o.redeemed_at, o.created_at, o.updated_at"

def ordersWithTitle : String := " FROM orders o LEFT JOIN events e ON e.id = o.event_id"

def selectOrder : String := "SELECT " ++ orderColumns ++ ordersWithTitle

def selectOrderSummary : String :=
  "SELECT " ++ orderColumns ++
  ", u.id AS purchaser_id, u.telegram_id, u.first_name, u.last_name, u.username" ++
  ordersWithTitle ++ " LEFT JOIN users u ON u.id = o.user_id"

def orderItemColumns : String :=
  "id, order_id, item_type, product_id, product_ref, quantity, unit_price_cents, " ++
  "line_total_cents, meta_json, created_at"

def ticketColumns : String :=
  "t.id, t.order_id, t.user_id, t.event_id, t.ticket_type, t.quantity, t.qr_payload, " ++
  "t.qr_payload_hash, t.qr_issued_at, t.redeemed_at, t.redeemed_by, t.created_at"

def purchaserColumns : String := "id AS purchaser_id, telegram_id, first_name, last_name, username"

def orderFilter : String :=
  "($1::bigint IS NULL OR o.event_id = $1) AND ($2::text IS NULL OR o.status = $2) " ++
  "AND ($3::timestamptz IS NULL OR o.created_at >= $3) AND ($4::timestamptz IS NULL OR " ++
  "o.created_at <= $4)"

def catalogFilter : String :=
  "($1::bigint IS NULL OR event_id = $1) AND ($2::boolean IS NULL OR is_active = $2)"

def promoFilter : String :=
  "($1::bigint IS NULL OR event_id IS NULL OR event_id = $1) AND ($2::boolean IS NULL OR " ++
  "is_active = $2)"

def productTable : ItemType → String
  | .ticket => "ticket_products"
  | .transfer => "transfer_products"

def ticketProductAssignments : List Assignment := [
  .given "name" 2,
  .given "price_cents" 3,
  .switched "inventory_limit" 4 5,
  .given "is_active" 6,
  .stamped "updated_at"]

def transferProductAssignments : List Assignment := [
  .given "name" 2,
  .given "price_cents" 3,
  .given "info_json" 4,
  .switched "inventory_limit" 5 6,
  .given "is_active" 7,
  .stamped "updated_at"]

def promoCodeAssignments : List Assignment := [
  .given "discount_type" 2,
  .given "value" 3,
  .switched "usage_limit" 4 5,
  .given "active_from" 6,
  .given "active_to" 7,
  .given "event_id" 8,
  .given "is_active" 9,
  .stamped "updated_at"]

def updateText (table columns : String) (assignments : List Assignment) : String :=
  "UPDATE " ++ table ++ " SET " ++ Assignment.listText assignments ++
  " WHERE id = $1 RETURNING " ++ columns

def deleteText (table : String) : String := "DELETE FROM " ++ table ++ " WHERE id = $1"

def transitionText : OrderTransition → String
  | .confirm _ _ =>
    "UPDATE orders SET status = $2, confirmed_at = $3, confirmed_by = $4, updated_at = $3 " ++
    "WHERE id = $1 AND status = ANY($5)"
  | .cancel _ _ _ =>
    "UPDATE orders SET status = $2, canceled_at = $3, canceled_by = $4, canceled_reason = $6, " ++
    "updated_at = $3 WHERE id = $1 AND status = ANY($5)"
  | .redeem _ =>
    "UPDATE orders SET status = $2, redeemed_at = COALESCE(redeemed_at, $3), updated_at = $3 " ++
    "WHERE id = $1 AND status = ANY($4)"

def text : Statement → String
  | .begin => "BEGIN"
  | .commit => "COMMIT"
  | .rollback => "ROLLBACK"
  | .setTimeout milliseconds => "SET statement_timeout = " ++ toString milliseconds.toNat
  | .schema => schemaScript
  | .eventTitle _ => "SELECT title FROM events WHERE id = $1"
  | .lockTicketProduct _ =>
    "SELECT " ++ ticketProductColumns ++ " FROM ticket_products WHERE id = $1 FOR UPDATE"
  | .lockTransferProduct _ =>
    "SELECT " ++ transferProductColumns ++ " FROM transfer_products WHERE id = $1 FOR UPDATE"
  | .lockPromoByCode _ =>
    "SELECT " ++ promoCodeColumns ++ " FROM promo_codes WHERE upper(code) = upper($1) FOR UPDATE"
  | .consumePromo _ =>
    "UPDATE promo_codes SET used_count = used_count + 1, updated_at = now() WHERE id = $1 " ++
    "AND (usage_limit IS NULL OR usage_limit <= 0 OR used_count < usage_limit)"
  | .releasePromo _ =>
    "UPDATE promo_codes SET used_count = GREATEST(used_count - 1, 0), updated_at = now() " ++
    "WHERE id = $1"
  | .insertOrder _ =>
    "INSERT INTO orders ( id, user_id, event_id, status, payment_method, payment_reference, " ++
    "payment_notes, promo_code_id, subtotal_cents, discount_cents, total_cents, currency, " ++
    "created_at, updated_at ) VALUES ($1, $2, $3, $4, $5, $6, $7, $8, $9, $10, $11, $12, $13, $13)"
  | .insertOrderItem _ _ =>
    "INSERT INTO order_items ( order_id, item_type, product_id, product_ref, quantity, " ++
    "unit_price_cents, line_total_cents, meta_json, created_at ) " ++
    "VALUES ($1, $2, $3, $4, $5, $6, $7, $8, $9)"
  | .insertTicket _ _ =>
    "INSERT INTO tickets (id, order_id, user_id, event_id, ticket_type, quantity, created_at) " ++
    "VALUES ($1, $2, $3, $4, $5, $6, $7)"
  | .lockOrder _ => selectOrder ++ " WHERE o.id = $1 FOR UPDATE OF o"
  | .lockOrderItems _ =>
    "SELECT " ++ orderItemColumns ++ " FROM order_items WHERE order_id = $1 ORDER BY id FOR UPDATE"
  | .reserve itemType _ _ =>
    "UPDATE " ++ productTable itemType ++
    " SET sold_count = sold_count + $2, updated_at = now() " ++
    "WHERE id = $1 AND (inventory_limit IS NULL OR sold_count + $2 <= inventory_limit)"
  | .release itemType _ _ =>
    "UPDATE " ++ productTable itemType ++
    " SET sold_count = GREATEST(sold_count - $2, 0), updated_at = now() WHERE id = $1"
  | .transition _ t => transitionText t
  | .lockOrderTickets _ =>
    "SELECT " ++ ticketColumns ++ ", NULL::text AS order_status FROM tickets t " ++
    "WHERE t.order_id = $1 ORDER BY t.created_at, t.id FOR UPDATE"
  | .issueToken _ _ =>
    "UPDATE tickets SET qr_payload = $2, qr_payload_hash = $3, qr_issued_at = $4 WHERE id = $1"
  | .lockOrderOfTicket _ =>
    "SELECT o.id FROM orders o JOIN tickets t ON t.order_id = o.id WHERE t.id = $1 FOR UPDATE OF o"
  | .lockTicket _ =>
    "SELECT " ++ ticketColumns ++ ", o.status AS order_status FROM tickets t " ++
    "JOIN orders o ON o.id = t.order_id WHERE t.id = $1 FOR UPDATE OF t"
  | .markRedeemed _ _ _ =>
    "UPDATE tickets SET redeemed_at = $2, redeemed_by = $3 WHERE id = $1 AND redeemed_at IS NULL"
  | .countUnredeemed _ =>
    "SELECT count(*) FROM tickets WHERE order_id = $1 AND redeemed_at IS NULL"
  | .order _ => selectOrder ++ " WHERE o.id = $1"
  | .orderItems _ =>
    "SELECT " ++ orderItemColumns ++ " FROM order_items WHERE order_id = $1 ORDER BY id"
  | .orderTickets _ =>
    "SELECT " ++ ticketColumns ++ ", NULL::text AS order_status FROM tickets t " ++
    "WHERE t.order_id = $1 ORDER BY t.created_at, t.id"
  | .purchaser _ => "SELECT " ++ purchaserColumns ++ " FROM users WHERE id = $1"
  | .findPromoByCode _ =>
    "SELECT " ++ promoCodeColumns ++ " FROM promo_codes WHERE upper(code) = upper($1)"
  | .listOrders _ =>
    selectOrderSummary ++ " WHERE " ++ orderFilter ++
    " ORDER BY o.created_at DESC, o.id DESC LIMIT $5 OFFSET $6"
  | .countOrders _ => "SELECT COUNT(*) FROM orders o WHERE " ++ orderFilter
  | .listUserOrders _ _ _ =>
    selectOrderSummary ++
    " WHERE o.user_id = $1 ORDER BY o.created_at DESC, o.id DESC LIMIT $2 OFFSET $3"
  | .countUserOrders _ => "SELECT COUNT(*) FROM orders WHERE user_id = $1"
  | .listUserTickets _ _ =>
    "SELECT " ++ ticketColumns ++ ", o.status AS order_status FROM tickets t " ++
    "JOIN orders o ON o.id = t.order_id WHERE t.user_id = $1 " ++
    "AND ($2::bigint IS NULL OR t.event_id = $2) ORDER BY t.created_at DESC, t.id DESC"
  | .statsRows _ =>
    "SELECT o.id AS order_id, o.event_id, COALESCE(e.title, '') AS event_title, o.status, " ++
    "o.total_cents, i.item_type, i.product_ref, i.quantity" ++ ordersWithTitle ++
    " LEFT JOIN order_items i ON i.order_id = o.id " ++
    "WHERE ($1::bigint IS NULL OR o.event_id = $1) ORDER BY o.created_at, o.id, i.id"
  | .checkInRows _ =>
    "SELECT event_id, quantity FROM tickets WHERE redeemed_at IS NOT NULL " ++
    "AND ($1::bigint IS NULL OR event_id = $1)"
  | .listTicketProducts _ =>
    "SELECT " ++ ticketProductColumns ++ " FROM ticket_products WHERE " ++ catalogFilter ++
    " ORDER BY created_at DESC, id"
  | .insertTicketProduct _ _ =>
    "INSERT INTO ticket_products " ++
    "(id, event_id, name, type, price_cents, inventory_limit, is_active, created_by) " ++
    "VALUES ($1, $2, $3, $4, $5, $6, $7, $8) RETURNING " ++ ticketProductColumns
  | .updateTicketProduct _ _ =>
    updateText "ticket_products" ticketProductColumns ticketProductAssignments
  | .deleteTicketProduct _ => deleteText "ticket_products"
  | .listTransferProducts _ =>
    "SELECT " ++ transferProductColumns ++ " FROM transfer_products WHERE " ++ catalogFilter ++
    " ORDER BY created_at DESC, id"
  | .insertTransferProduct _ _ =>
    "INSERT INTO transfer_products " ++
    "(id, event_id, name, direction, price_cents, info_json, inventory_limit, is_active, " ++
    "created_by) VALUES ($1, $2, $3, $4, $5, $6, $7, $8, $9) RETURNING " ++ transferProductColumns
  | .updateTransferProduct _ _ =>
    updateText "transfer_products" transferProductColumns transferProductAssignments
  | .deleteTransferProduct _ => deleteText "transfer_products"
  | .listPromoCodes _ =>
    "SELECT " ++ promoCodeColumns ++ " FROM promo_codes WHERE " ++ promoFilter ++
    " ORDER BY created_at DESC, id"
  | .insertPromoCode _ _ =>
    "INSERT INTO promo_codes " ++
    "(id, code, discount_type, value, usage_limit, active_from, active_to, event_id, is_active, " ++
    "created_by) VALUES ($1, $2, $3, $4, $5, $6, $7, $8, $9, $10) RETURNING " ++ promoCodeColumns
  | .updatePromoCode _ _ => updateText "promo_codes" promoCodeColumns promoCodeAssignments
  | .deletePromoCode _ => deleteText "promo_codes"

def eventCell (event : Option EventId) : Cell := .optional (fun e => .int8 e.number) event

def userCell (user : Option UserId) : Cell := .optional (fun u => .int8 u.number) user

/-- Limits beyond the range of the column count as the largest in it. -/
def limitCell (limit : Option UInt32) : Cell :=
  .optional (fun n => .int4 (if 2147483647 < n then Int32.maxValue else Int32.ofNat n.toNat)) limit

def limitChange : LimitUpdate → Cell × Cell
  | .keep => (.bool false, .null)
  | .clear => (.bool true, .null)
  | .set limit => (.bool true, limitCell (some limit))

def filterParams (filter : ProductFilter) : List Cell :=
  [eventCell filter.eventId, .optional .bool filter.active]

def orderFilterParams (query : OrderQuery) : List Cell := [
  eventCell query.eventId,
  .optional (fun s => .text s.name) query.status,
  .optional .time query.start,
  .optional .time query.stop]

def transitionParams (id : OrderId) (transition : OrderTransition) : List Cell :=
  let target := Cell.text transition.target.name
  let allowed := Cell.texts (transition.allowedFrom.map OrderStatus.name)
  match transition with
  | .confirm operator time => [.uuid id.uuid, target, .time time, .int8 operator.number, allowed]
  | .cancel operator time reason =>
    [.uuid id.uuid, target, .time time, .int8 operator.number, allowed, .optional .text reason]
  | .redeem time => [.uuid id.uuid, target, .time time, allowed]

def params : Statement → List Cell
  | .begin => []
  | .commit => []
  | .rollback => []
  | .setTimeout _ => []
  | .schema => []
  | .eventTitle event => [.int8 event.number]
  | .lockTicketProduct id => [.uuid id.uuid]
  | .lockTransferProduct id => [.uuid id.uuid]
  | .lockPromoByCode code => [.text code]
  | .consumePromo id => [.uuid id.uuid]
  | .releasePromo id => [.uuid id.uuid]
  | .insertOrder o => [
    .uuid o.id.uuid,
    .int8 o.userId.number,
    .int8 o.eventId.number,
    .text OrderStatus.pending.name,
    .text o.paymentMethod.name,
    .optional .text o.paymentReference,
    .optional .text o.paymentNotes,
    .optional (fun id => .uuid id.uuid) o.promoCodeId,
    .int8 o.subtotalCents,
    .int8 o.discountCents,
    .int8 o.totalCents,
    .text o.currency,
    .time o.createdAt]
  | .insertOrderItem i quantity => [
    .uuid i.orderId.uuid,
    .text i.itemType.name,
    .uuid i.productId.uuid,
    .text i.productRef,
    .int4 quantity,
    .int8 i.unitPriceCents,
    .int8 i.lineTotalCents,
    .jsonb (.obj i.details),
    .time i.createdAt]
  | .insertTicket t quantity => [
    .uuid t.id.uuid,
    .uuid t.orderId.uuid,
    .int8 t.userId.number,
    .int8 t.eventId.number,
    .text t.ticketType.name,
    .int4 quantity,
    .time t.createdAt]
  | .lockOrder id => [.uuid id.uuid]
  | .lockOrderItems o => [.uuid o.uuid]
  | .reserve _ product quantity => [.uuid product.uuid, .int4 quantity]
  | .release _ product quantity => [.uuid product.uuid, .int4 quantity]
  | .transition id t => transitionParams id t
  | .lockOrderTickets o => [.uuid o.uuid]
  | .issueToken ticket issued =>
    [.uuid ticket.uuid, .text issued.token, .text issued.digest, .time issued.issuedAt]
  | .lockOrderOfTicket ticket => [.uuid ticket.uuid]
  | .lockTicket id => [.uuid id.uuid]
  | .markRedeemed ticket operator time => [.uuid ticket.uuid, .time time, .int8 operator.number]
  | .countUnredeemed o => [.uuid o.uuid]
  | .order id => [.uuid id.uuid]
  | .orderItems o => [.uuid o.uuid]
  | .orderTickets o => [.uuid o.uuid]
  | .purchaser user => [.int8 user.number]
  | .findPromoByCode code => [.text code]
  | .listOrders query =>
    orderFilterParams query ++
      [.int8 (Int64.ofNat query.limit.toNat), .int8 (Int64.ofNat query.offset.toNat)]
  | .countOrders query => orderFilterParams query
  | .listUserOrders user limit offset =>
    [.int8 user.number, .int8 (Int64.ofNat limit.toNat), .int8 (Int64.ofNat offset.toNat)]
  | .countUserOrders user => [.int8 user.number]
  | .listUserTickets user event => [.int8 user.number, eventCell event]
  | .statsRows event => [eventCell event]
  | .checkInRows event => [eventCell event]
  | .listTicketProducts filter => filterParams filter
  | .insertTicketProduct id d => [
    .uuid id.uuid,
    .int8 d.eventId.number,
    .text d.name,
    .text d.ticketType.name,
    .int8 d.priceCents,
    limitCell d.inventoryLimit,
    .bool d.isActive,
    userCell d.createdBy]
  | .updateTicketProduct id p => [
    .uuid id.uuid,
    .optional (fun name => .text (Text.trim name)) p.name,
    .optional .int8 p.priceCents,
    (limitChange p.inventoryLimit).1,
    (limitChange p.inventoryLimit).2,
    .optional .bool p.isActive]
  | .deleteTicketProduct id => [.uuid id.uuid]
  | .listTransferProducts filter => filterParams filter
  | .insertTransferProduct id d => [
    .uuid id.uuid,
    .int8 d.eventId.number,
    .text d.name,
    .text d.direction.name,
    .int8 d.priceCents,
    .jsonb (.obj d.info),
    limitCell d.inventoryLimit,
    .bool d.isActive,
    userCell d.createdBy]
  | .updateTransferProduct id p => [
    .uuid id.uuid,
    .optional (fun name => .text (Text.trim name)) p.name,
    .optional .int8 p.priceCents,
    .optional (fun info => .jsonb (.obj info)) p.info,
    (limitChange p.inventoryLimit).1,
    (limitChange p.inventoryLimit).2,
    .optional .bool p.isActive]
  | .deleteTransferProduct id => [.uuid id.uuid]
  | .listPromoCodes filter => filterParams filter
  | .insertPromoCode id d => [
    .uuid id.uuid,
    .text d.code,
    .text d.discountType.name,
    .int8 d.value,
    limitCell d.usageLimit,
    .optional .time d.activeFrom,
    .optional .time d.activeTo,
    eventCell d.eventId,
    .bool d.isActive,
    userCell d.createdBy]
  | .updatePromoCode id p => [
    .uuid id.uuid,
    .optional (fun kind => .text kind.name) p.discountType,
    .optional .int8 p.value,
    (limitChange p.usageLimit).1,
    (limitChange p.usageLimit).2,
    .optional .time p.activeFrom,
    .optional .time p.activeTo,
    eventCell p.eventId,
    .optional .bool p.isActive]
  | .deletePromoCode id => [.uuid id.uuid]

/-- The word for a statement that controls the connection rather than asking for data. -/
def control? : Statement → Option String
  | .begin => some "BEGIN"
  | .commit => some "COMMIT"
  | .rollback => some "ROLLBACK"
  | .setTimeout _ => some "SET"
  | .schema => some "MIGRATION"
  | _ => none

def asksForRows : Statement → Bool
  | .begin => false
  | .commit => false
  | .rollback => false
  | .setTimeout _ => false
  | .schema => false
  | .consumePromo _ => false
  | .releasePromo _ => false
  | .insertOrder _ => false
  | .insertOrderItem _ _ => false
  | .insertTicket _ _ => false
  | .reserve _ _ _ => false
  | .release _ _ _ => false
  | .transition _ _ => false
  | .issueToken _ _ => false
  | .markRedeemed _ _ _ => false
  | .deleteTicketProduct _ => false
  | .deleteTransferProduct _ => false
  | .deletePromoCode _ => false
  | _ => true

end Statement

end EventTickets.Sql
