import EventTickets.Sample
import EventTickets.Store.Call

/-!
# Calls as JSON

A call within a transaction is an object with its name and its arguments. An order that does not say
otherwise is one of the sample buyer for the sample event, and the time is 1970-01-01T00:00:00Z.
-/

namespace EventTickets

open Time (Instant)

instance : Decode OrderTransition where
  decode? j := do
    let c ← Components.of? ["kind", "by", "at", "reason"] j
    let kind : String ← c.required "kind"
    let operator ← c.givenOr "by" Sample.operator
    let time ← c.required "at"
    let reason ← c.optional "reason"
    if kind = "confirm" then some (.confirm operator time)
    else if kind = "cancel" then some (.cancel operator time reason)
    else if kind = "redeem" then some (.redeem time)
    else none

namespace TransactionCall

def ofFields? (c : Components) : Option TransactionCall := do
  let call : String ← c.required "call"
  let time : Option Instant := c.givenOr "at" .epoch
  match call with
  | "event_title" => return .eventTitle (← c.required "eventId")
  | "lock_ticket_product" => return .lockTicketProduct (← c.required "id")
  | "lock_transfer_product" => return .lockTransferProduct (← c.required "id")
  | "lock_promo_by_code" => return .lockPromoByCode (← c.required "code")
  | "consume_promo" => return .consumePromo (← c.required "id")
  | "release_promo" => return .releasePromo (← c.required "id")
  | "insert_order" =>
    return .insertOrder {
      id := ← c.required "id",
      userId := ← c.givenOr "userId" Sample.buyer.userId,
      eventId := ← c.givenOr "eventId" Sample.event,
      paymentMethod := ← c.givenOr "paymentMethod" .phone,
      paymentReference := ← c.optional "paymentReference",
      paymentNotes := ← c.optional "paymentNotes",
      promoCodeId := ← c.optional "promoCodeId",
      subtotalCents := ← c.givenOr "subtotalCents" 0,
      discountCents := ← c.givenOr "discountCents" 0,
      totalCents := ← c.givenOr "totalCents" 0,
      currency := ← c.givenOr "currency" "USD",
      createdAt := ← time }
  | "insert_order_item" =>
    return .insertOrderItem {
      orderId := ← c.required "orderId",
      itemType := ← c.required "itemType",
      productId := ← c.required "productId",
      productRef := ← c.givenOr "productRef" "",
      quantity := ← c.required "quantity",
      unitPriceCents := ← c.givenOr "unitPriceCents" 0,
      lineTotalCents := ← c.givenOr "lineTotalCents" 0,
      details := ← c.givenOr "meta" [],
      createdAt := ← time }
  | "insert_ticket" =>
    return .insertTicket {
      id := ← c.required "id",
      orderId := ← c.required "orderId",
      userId := ← c.givenOr "userId" Sample.buyer.userId,
      eventId := ← c.givenOr "eventId" Sample.event,
      ticketType := ← c.required "ticketType",
      quantity := ← c.required "quantity",
      createdAt := ← time }
  | "lock_order" => return .lockOrder (← c.required "id")
  | "lock_order_items" => return .lockOrderItems (← c.required "id")
  | "reserve_inventory" =>
    return .reserveInventory (← c.required "itemType") (← c.required "id") (← c.required "quantity")
  | "release_inventory" =>
    return .releaseInventory (← c.required "itemType") (← c.required "id") (← c.required "quantity")
  | "transition_order" => return .transitionOrder (← c.required "id") (← c.required "transition")
  | "lock_order_tickets" => return .lockOrderTickets (← c.required "id")
  | "issue_ticket_qr" =>
    return .issueTicketToken (← c.required "id") ⟨← c.required "payload",
      ← c.required "payloadHash", ← time⟩
  | "lock_ticket" => return .lockTicket (← c.required "id")
  | "mark_ticket_redeemed" =>
    return .markTicketRedeemed (← c.required "id") (← c.givenOr "by" Sample.operator) (← time)
  | "count_unredeemed_tickets" => return .countUnredeemedTickets (← c.required "id")
  | "order_detail" => return .orderDetail (← c.required "id") (← c.givenOr "purchaser" false)
  | "purchaser" => return .purchaser (← c.required "userId")
  | _ => none

instance : Decode TransactionCall where
  decode?
    | .obj fields => ofFields? ⟨fields, false⟩
    | _ => none

def encodeReply : (c : TransactionCall) → c.Reply → Json
  | .eventTitle _, r => encode r
  | .lockTicketProduct _, r => encode r
  | .lockTransferProduct _, r => encode r
  | .lockPromoByCode _, r => encode r
  | .consumePromo _, r => encode r
  | .releasePromo _, _ => .null
  | .insertOrder _, _ => .null
  | .insertOrderItem _, _ => .null
  | .insertTicket _, _ => .null
  | .lockOrder _, r => encode r
  | .lockOrderItems _, r => encode r
  | .reserveInventory _ _ _, r => encode r
  | .releaseInventory _ _ _, _ => .null
  | .transitionOrder _ _, r => encode r
  | .lockOrderTickets _, r => encode r
  | .issueTicketToken _ _, _ => .null
  | .lockTicket _, r => encode r
  | .markTicketRedeemed _ _ _, r => encode r
  | .countUnredeemedTickets _, r => encode r
  | .orderDetail _ _, r => encode r
  | .purchaser _, r => encode r

end TransactionCall

end EventTickets
