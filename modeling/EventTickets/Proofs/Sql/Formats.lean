import EventTickets.Proofs.Sql.Layout
import EventTickets.Sample
import EventTickets.Sql.Transaction

/-!
# Rows of products, promo codes and orders

The columns of each kind of record. Counters, limits and quantities are kept in 32 bits with a sign,
discount types under their names, and the scope of a code as the number of an event.
-/

namespace EventTickets

namespace Sql

open Layout RowField
open Time (Instant)

namespace Format

def ticketProduct : Format TicketProduct where
  entity := "ticket_product"
  layout :=
    next (required "id") (·.id.uuid) <|
    next (required "event_id") (·.eventId.number) <|
    next (required "name") (·.name) <|
    next (kind "type" TicketType.parse? TicketType.name TicketType.parse?_name) (·.ticketType) <|
    next (required "price_cents") (·.priceCents) <|
    next (limit "inventory_limit") (·.inventoryLimit) <|
    next (count "sold_count") (·.soldCount) <|
    next (required "is_active") (·.isActive) <|
    next (user "created_by") (·.createdBy) <|
    next (required "created_at") (·.createdAt) <|
    next (required "updated_at") (·.updatedAt) <|
    done
  make id event name ticketType price limit sold active createdBy createdAt updatedAt :=
    ⟨⟨id⟩, ⟨event⟩, name, ticketType, price, limit, sold, active, createdBy, createdAt, updatedAt⟩
  decode := Row.ticketProduct
  decode_eq _ := rfl
  record_eq _ := rfl
  agrees := by simp [Agrees]

def transferProduct : Format TransferProduct where
  entity := "transfer_product"
  layout :=
    next (required "id") (·.id.uuid) <|
    next (required "event_id") (·.eventId.number) <|
    next (required "name") (·.name) <|
    next (kind "direction" TransferDirection.parse? TransferDirection.name
      TransferDirection.parse?_name)
      (·.direction) <|
    next (required "price_cents") (·.priceCents) <|
    next (details "info_json") (·.info) <|
    next (limit "inventory_limit") (·.inventoryLimit) <|
    next (count "sold_count") (·.soldCount) <|
    next (required "is_active") (·.isActive) <|
    next (user "created_by") (·.createdBy) <|
    next (required "created_at") (·.createdAt) <|
    next (required "updated_at") (·.updatedAt) <|
    done
  make id event name direction price info limit sold active createdBy createdAt updatedAt :=
    ⟨⟨id⟩, ⟨event⟩, name, direction, price, info, limit, sold, active, createdBy,
      createdAt, updatedAt⟩
  decode := Row.transferProduct
  decode_eq _ := rfl
  record_eq _ := rfl
  agrees := by simp [Agrees]

def promoCode : Format PromoCode where
  entity := "promo_code"
  layout :=
    next (discount "discount_type") (·.discountType) <|
    next (scope "event_id") (·.eventId) <|
    next (required "id") (·.id.uuid) <|
    next (required "code") (·.code) <|
    next (required "value") (·.value) <|
    next (limit "usage_limit") (·.usageLimit) <|
    next (count "used_count") (·.usedCount) <|
    next (nullable "active_from") (·.activeFrom) <|
    next (nullable "active_to") (·.activeTo) <|
    next (required "is_active") (·.isActive) <|
    next (user "created_by") (·.createdBy) <|
    next (required "created_at") (·.createdAt) <|
    next (required "updated_at") (·.updatedAt) <|
    done
  make discountType scope id code value limit used start stop active createdBy
    createdAt updatedAt :=
    ⟨⟨id⟩, code, discountType, value, limit, used, start, stop, scope, active, createdBy,
      createdAt, updatedAt⟩
  decode := Row.promoCode
  decode_eq row := by
    simp only [Layout.read, discount, scope, through, bind_assoc]
    rfl
  record_eq _ := rfl
  agrees := by simp [Agrees]

def order : Format Order where
  entity := "order"
  layout :=
    next (nullable "promo_code_id") (fun o => o.promoCodeId.map (·.uuid)) <|
    next (required "id") (·.id.uuid) <|
    next (required "user_id") (·.userId.number) <|
    next (required "event_id") (·.eventId.number) <|
    next (required "event_title") (·.eventTitle) <|
    next (kind "status" OrderStatus.parse? OrderStatus.name OrderStatus.parse?_name) (·.status) <|
    next (kind "payment_method" PaymentMethod.parse? PaymentMethod.name PaymentMethod.parse?_name)
      (·.paymentMethod) <|
    next (nullable "payment_reference") (·.paymentReference) <|
    next (nullable "payment_notes") (·.paymentNotes) <|
    next (required "subtotal_cents") (·.subtotalCents) <|
    next (required "discount_cents") (·.discountCents) <|
    next (required "total_cents") (·.totalCents) <|
    next (required "currency") (·.currency) <|
    next (nullable "confirmed_at") (·.confirmedAt) <|
    next (user "confirmed_by") (·.confirmedBy) <|
    next (nullable "canceled_at") (·.canceledAt) <|
    next (user "canceled_by") (·.canceledBy) <|
    next (nullable "canceled_reason") (·.canceledReason) <|
    next (nullable "redeemed_at") (·.redeemedAt) <|
    next (required "created_at") (·.createdAt) <|
    next (required "updated_at") (·.updatedAt) <|
    done
  make promo id user event title status method reference notes subtotal discount total
    currency confirmedAt
      confirmedBy canceledAt canceledBy reason redeemedAt createdAt updatedAt :=
    ⟨⟨id⟩, ⟨user⟩, ⟨event⟩, title, status, method, reference, notes,
      promo.map UuidId.mk, subtotal, discount, total, currency, confirmedAt, confirmedBy,
      canceledAt, canceledBy, reason, redeemedAt, createdAt, updatedAt⟩
  decode := Row.order
  decode_eq _ := rfl
  record_eq o := by simp [record, Function.comp_def]
  agrees := by simp [Agrees, Function.comp_def]

def orderItem : Format OrderItem where
  entity := "order_item"
  layout :=
    next (required "id") (·.id) <|
    next (required "order_id") (·.orderId.uuid) <|
    next (kind "item_type" ItemType.parse? ItemType.name ItemType.parse?_name) (·.itemType) <|
    next (required "product_id") (·.productId.uuid) <|
    next (required "product_ref") (·.productRef) <|
    next (count "quantity") (·.quantity) <|
    next (required "unit_price_cents") (·.unitPriceCents) <|
    next (required "line_total_cents") (·.lineTotalCents) <|
    next (details "meta_json") (·.details) <|
    next (required "created_at") (·.createdAt) <|
    done
  make id order itemType product ref quantity unitPrice lineTotal details createdAt :=
    ⟨id, ⟨order⟩, itemType, ⟨product⟩, ref, quantity, unitPrice, lineTotal, details, createdAt⟩
  decode := Row.orderItem
  decode_eq _ := rfl
  record_eq _ := rfl
  agrees := by simp [Agrees]

def ticket : Format Ticket where
  entity := "ticket"
  layout :=
    next (optionalKind "order_status" OrderStatus.parse? OrderStatus.name OrderStatus.parse?_name
      (fun row entity => row.orderStatus entity "order_status") fun _ _ => rfl) (·.orderStatus) <|
    next (required "id") (·.id.uuid) <|
    next (required "order_id") (·.orderId.uuid) <|
    next (required "user_id") (·.userId.number) <|
    next (required "event_id") (·.eventId.number) <|
    next (kind "ticket_type" TicketType.parse? TicketType.name TicketType.parse?_name)
      (·.ticketType) <|
    next (count "quantity") (·.quantity) <|
    next (nullable "qr_payload") (·.qrPayload) <|
    next (nullable "qr_payload_hash") (·.qrPayloadHash) <|
    next (nullable "qr_issued_at") (·.qrIssuedAt) <|
    next (nullable "redeemed_at") (·.redeemedAt) <|
    next (user "redeemed_by") (·.redeemedBy) <|
    next (required "created_at") (·.createdAt) <|
    done
  make status id order user event ticketType quantity payload digest issuedAt redeemedAt
    redeemedBy createdAt :=
    ⟨⟨id⟩, ⟨order⟩, status, ⟨user⟩, ⟨event⟩, ticketType, quantity, payload, digest, issuedAt,
      redeemedAt, redeemedBy, createdAt⟩
  decode := Row.ticket
  decode_eq _ := rfl
  record_eq _ := rfl
  agrees := by simp [Agrees]

theorem hasRoom_ticketProduct (p : TicketProduct) :
    HasRoom ticketProduct.layout.columns p ↔ LimitFits p.inventoryLimit ∧
      CounterFits p.soldCount := by
  simp [HasRoom, ticketProduct, columns, required, kind, limit, count, user, through]

theorem hasRoom_transferProduct (p : TransferProduct) :
    HasRoom transferProduct.layout.columns p ↔ LimitFits p.inventoryLimit ∧
      CounterFits p.soldCount := by
  simp [HasRoom, transferProduct, columns, required, kind, details, limit, count, user, through]

theorem hasRoom_promoCode (p : PromoCode) :
    HasRoom promoCode.layout.columns p ↔
      DiscountType.parse p.discountType.name = p.discountType ∧
        (∀ event ∈ p.eventId, event.isValid = true) ∧ LimitFits p.usageLimit ∧
          CounterFits p.usedCount := by
  simp [HasRoom, promoCode, columns, required, nullable, discount, scope, limit,
    count, user, through]

theorem hasRoom_order (o : Order) : HasRoom order.layout.columns o := by
  simp [HasRoom, order, columns, required, nullable, kind, user, through]

theorem hasRoom_orderItem (i : OrderItem) :
    HasRoom orderItem.layout.columns i ↔ CounterFits i.quantity := by
  simp [HasRoom, orderItem, columns, required, kind, details, count, through]

theorem hasRoom_ticket (k : Ticket) : HasRoom ticket.layout.columns k ↔ CounterFits k.quantity := by
  simp [HasRoom, ticket, columns, required, nullable, optionalKind, kind, count, user, through]

theorem limit_of_limitCell {limit : Option UInt32} (hfits : LimitFits limit) {row : Row}
    {name : String} (h : row.lookup (RowField.limit name).name = some (Statement.limitCell limit))
    (entity : String) : row.limit entity name = .ok limit := by
  have hreads := (RowField.limit name).reads row entity
  rw [h] at hreads
  exact hreads.eq_ok_iff.mpr ((RowField.limit name).value?_cell hfits)

theorem optional_map {α β : Type} (cell : β → Cell) (f : α → β) (a : Option α) :
    Cell.optional cell (a.map f) = Cell.optional (fun a => cell (f a)) a := by
  cases a <;> rfl

theorem time_eq : Cell.time = fun t => .timestamp (Cell.microseconds t) := rfl

theorem eq_of_quantity? {n : UInt32} {quantity : Int32} (h : Asking.quantity? n = some quantity) :
    Int32.ofNat n.toNat = quantity :=
  (Option.ite_none_left_eq_some.mp h).2 |> Option.some.inj

theorem puts_ticketProduct (id : ProductId) (draft : TicketProductDraft) (now : Instant) :
    Puts ticketProduct.layout.columns (draft.product id now)
      (["id", "event_id", "name", "type", "price_cents", "inventory_limit",
        "is_active", "created_by"].zip
        (Statement.params (.insertTicketProduct id draft))) := by
  simp [Puts, Statement.params, ticketProduct, columns, required, kind, limit, count, user,
    through, CellOf.cell, TicketProductDraft.product]

theorem puts_transferProduct (id : ProductId) (draft : TransferProductDraft) (now : Instant) :
    Puts transferProduct.layout.columns (draft.product id now)
      (["id", "event_id", "name", "direction", "price_cents", "info_json",
        "inventory_limit", "is_active", "created_by"].zip
        (Statement.params (.insertTransferProduct id draft))) := by
  simp [Puts, Statement.params, transferProduct, columns, required, kind, details, limit,
    count, user, through, CellOf.cell, TransferProductDraft.product]

theorem puts_promoCode (id : PromoCodeId) (draft : PromoCodeDraft) (now : Instant) :
    Puts promoCode.layout.columns
      ({ draft with
        activeFrom := draft.activeFrom.map Cell.microseconds,
        activeTo := draft.activeTo.map Cell.microseconds }.promo id now)
      (["id", "code", "discount_type", "value", "usage_limit", "active_from", "active_to",
        "event_id", "is_active", "created_by"].zip
        (Statement.params (.insertPromoCode id draft))) := by
  simp [Puts, Statement.params, promoCode, columns, required, nullable, discount, scope, limit,
    count, user, through, CellOf.cell, PromoCodeDraft.promo, optional_map, time_eq]

theorem puts_order (o : NewOrder) :
    Puts order.layout.columns ({ o with createdAt := Cell.microseconds o.createdAt }.order)
      (["id", "user_id", "event_id", "status", "payment_method",
        "payment_reference", "payment_notes", "promo_code_id", "subtotal_cents", "discount_cents",
        "total_cents", "currency", "created_at", "updated_at"].zip
        (Statement.params (.insertOrder o) ++ [.time o.createdAt])) := by
  simp [Puts, Statement.params, order, columns, required, nullable, kind, user, through,
    CellOf.cell, NewOrder.order, optional_map, time_eq]

theorem puts_orderItem (i : NewOrderItem) (id : Int64) {quantity : Int32}
    (h : Asking.quantity? i.quantity = some quantity) :
    Puts orderItem.layout.columns ({ i with createdAt := Cell.microseconds i.createdAt }.item id)
      (["order_id", "item_type", "product_id", "product_ref", "quantity",
        "unit_price_cents", "line_total_cents", "meta_json", "created_at"].zip
        (Statement.params (.insertOrderItem i quantity))) := by
  simp [Puts, Statement.params, orderItem, columns, required, kind, details, count,
    through, CellOf.cell, NewOrderItem.item, time_eq, eq_of_quantity? h]

theorem puts_ticket (k : NewTicket) {quantity : Int32}
    (h : Asking.quantity? k.quantity = some quantity) :
    Puts ticket.layout.columns ({ k with createdAt := Cell.microseconds k.createdAt }.ticket)
      (["id", "order_id", "user_id", "event_id", "ticket_type", "quantity", "created_at"].zip
        (Statement.params (.insertTicket k quantity))) := by
  simp [Puts, Statement.params, ticket, columns, required, nullable, optionalKind, kind,
    count, user, through, CellOf.cell, NewTicket.ticket, time_eq, eq_of_quantity? h]

end Format

open Format

/-- A row that has what is put into the columns for a record is read as that record, if the counters
and limits of the record are in range, its scope is an event and its discount type is in its normal
form. A row with a column that does not hold what it has to is an error that names the kind of
record. What the inserts put into the columns is what these get for the record, with its times in
microseconds. A limit is read as it was given, whatever number it was given as. -/
theorem rows_restore_records :
    (Keeps "ticket_product" Row.ticketProduct ticketProduct.layout.columns ∧
      (∀ p, HasRoom ticketProduct.layout.columns p ↔ LimitFits p.inventoryLimit ∧
        CounterFits p.soldCount) ∧
      ∀ id (draft : TicketProductDraft) now,
        Puts ticketProduct.layout.columns (draft.product id now)
          (["id", "event_id", "name", "type", "price_cents", "inventory_limit",
            "is_active", "created_by"].zip
            (Statement.params (.insertTicketProduct id draft)))) ∧
    (Keeps "transfer_product" Row.transferProduct transferProduct.layout.columns ∧
      (∀ p, HasRoom transferProduct.layout.columns p ↔ LimitFits p.inventoryLimit ∧
        CounterFits p.soldCount) ∧
      ∀ id (draft : TransferProductDraft) now,
        Puts transferProduct.layout.columns (draft.product id now)
          (["id", "event_id", "name", "direction", "price_cents", "info_json",
            "inventory_limit", "is_active", "created_by"].zip
            (Statement.params (.insertTransferProduct id draft)))) ∧
    (Keeps "promo_code" Row.promoCode promoCode.layout.columns ∧
      (∀ p, HasRoom promoCode.layout.columns p ↔
        DiscountType.parse p.discountType.name = p.discountType ∧
          (∀ event ∈ p.eventId, event.isValid = true) ∧ LimitFits p.usageLimit ∧
            CounterFits p.usedCount) ∧
      ∀ id (draft : PromoCodeDraft) now, Puts promoCode.layout.columns
        ({ draft with
          activeFrom := draft.activeFrom.map Cell.microseconds,
          activeTo := draft.activeTo.map Cell.microseconds }.promo id now)
        (["id", "code", "discount_type", "value", "usage_limit", "active_from", "active_to",
          "event_id", "is_active", "created_by"].zip
          (Statement.params (.insertPromoCode id draft)))) ∧
    (Keeps "order" Row.order order.layout.columns ∧ (∀ o, HasRoom order.layout.columns o) ∧
      ∀ o : NewOrder, Puts order.layout.columns
        ({ o with createdAt := Cell.microseconds o.createdAt }.order)
        (["id", "user_id", "event_id", "status", "payment_method",
          "payment_reference", "payment_notes", "promo_code_id", "subtotal_cents", "discount_cents",
          "total_cents", "currency", "created_at", "updated_at"].zip
          (Statement.params (.insertOrder o) ++ [.time o.createdAt]))) ∧
    (Keeps "order_item" Row.orderItem orderItem.layout.columns ∧
      (∀ i, HasRoom orderItem.layout.columns i ↔ CounterFits i.quantity) ∧
      ∀ (i : NewOrderItem) id quantity, Asking.quantity? i.quantity = some quantity →
        Puts orderItem.layout.columns
          ({ i with createdAt := Cell.microseconds i.createdAt }.item id)
          (["order_id", "item_type", "product_id", "product_ref", "quantity",
            "unit_price_cents", "line_total_cents", "meta_json", "created_at"].zip
            (Statement.params (.insertOrderItem i quantity)))) ∧
    (Keeps "ticket" Row.ticket ticket.layout.columns ∧
      (∀ k, HasRoom ticket.layout.columns k ↔ CounterFits k.quantity) ∧
      ∀ (k : NewTicket) quantity, Asking.quantity? k.quantity = some quantity →
        Puts ticket.layout.columns ({ k with createdAt := Cell.microseconds k.createdAt }.ticket)
          (["id", "order_id", "user_id", "event_id", "ticket_type", "quantity", "created_at"].zip
            (Statement.params (.insertTicket k quantity)))) ∧
    ∀ raw : Option Int64, LimitFits (Limit.ofInput raw) ∧ ∀ (row : Row) entity name,
      row.lookup name = some (Statement.limitCell (Limit.ofInput raw)) →
        row.limit entity name = .ok (Limit.ofInput raw) := by
  refine ⟨⟨ticketProduct.keeps, hasRoom_ticketProduct, puts_ticketProduct⟩,
    ⟨transferProduct.keeps, hasRoom_transferProduct, puts_transferProduct⟩,
    ⟨promoCode.keeps, hasRoom_promoCode, puts_promoCode⟩, ⟨order.keeps, hasRoom_order, puts_order⟩,
    ⟨orderItem.keeps, hasRoom_orderItem, fun i id _ => puts_orderItem i id⟩,
    ⟨ticket.keeps, hasRoom_ticket, fun k _ => puts_ticket k⟩, fun raw => ?_⟩
  exact ⟨limitFits_ofInput raw, fun row entity name h =>
    limit_of_limitCell (limitFits_ofInput raw) h entity⟩

end Sql

namespace Sample

def winter : PromoCode where
  id := ⟨⟨0⟩⟩
  code := "WINTER"
  discountType := .fixed
  value := 500
  usageLimit := some 2147483647
  usedCount := 3
  activeFrom := some time
  activeTo := none
  eventId := some event
  isActive := true
  createdBy := some operator
  createdAt := time
  updatedAt := time

def winterRow : Sql.Row := [
  ("id", .uuid ⟨0⟩),
  ("code", .text "WINTER"),
  ("discount_type", .text "FIXED"),
  ("value", .int8 500),
  ("usage_limit", .int4 2147483647),
  ("used_count", .int4 3),
  ("active_from", .timestamp time),
  ("active_to", .null),
  ("event_id", .int8 1),
  ("is_active", .bool true),
  ("created_by", .int8 900),
  ("created_at", .timestamp time),
  ("updated_at", .timestamp time)]

end Sample

namespace Sql

open Format Layout

theorem rows_restore_records_winter :
    Row.promoCode Sample.winterRow = .ok Sample.winter ∧
      (∃ detail,
        Row.promoCode (("used_count", .int4 (-1)) :: Sample.winterRow) =
          .error (.decode "promo_code" detail)) ∧
      Row.limit [("usage_limit", .int4 2147483647)] "promo_code" "usage_limit" =
        .ok (Limit.ofInput (some 9223372036854775807)) := by
  obtain ⟨-, -, ⟨hkeeps, hroom, -⟩, -, -, -, hlimits⟩ := rows_restore_records
  have hcells : Holds promoCode.layout.columns Sample.winter Sample.winterRow := by
    simp only [Holds, promoCode, columns, List.forall_mem_cons]
    exact ⟨rfl, rfl, rfl, rfl, rfl, rfl, rfl, rfl, rfl, rfl, rfl, rfl, rfl, List.forall_mem_nil _⟩
  refine ⟨hkeeps.restores _ _ ((hroom _).mpr (by decide +kernel)) hcells, hkeeps.refuses _ ?_,
    (hlimits _).2 _ _ _ rfl⟩
  have hused : promoCode.layout.columns[6]? = some
      ⟨"used_count", .counter, fun p => .int4 (.ofNat p.usedCount.toNat),
        fun p => CounterFits p.usedCount⟩ := rfl
  refine ⟨_, List.mem_of_getElem? hused, ?_⟩
  rintro ⟨cell, hcell, hadmits⟩
  cases hcell
  exact absurd hadmits (by decide)

end Sql

end EventTickets
