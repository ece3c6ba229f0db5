import EventTickets.Catalog.Draft
import EventTickets.Catalog.Filter
import EventTickets.Catalog.Patch
import EventTickets.Order.New
import EventTickets.Order.Query
import EventTickets.Order.Transition
import EventTickets.Sales.Tally

/-!
# Store calls

What a store is asked to do, and with what it answers. Calls within a transaction see its writes;
those beside it see what is committed. The guarded writes answer whether they applied.
-/

namespace EventTickets

open Time (Instant)

/-- Calls within an open transaction. -/
inductive TransactionCall where
  | eventTitle (event : EventId)
  | lockTicketProduct (id : ProductId)
  | lockTransferProduct (id : ProductId)
  | lockPromoByCode (code : String)
  | consumePromo (id : PromoCodeId)
  | releasePromo (id : PromoCodeId)
  | insertOrder (order : NewOrder)
  | insertOrderItem (item : NewOrderItem)
  | insertTicket (ticket : NewTicket)
  | lockOrder (id : OrderId)
  | lockOrderItems (order : OrderId)
  | reserveInventory (itemType : ItemType) (product : ProductId) (quantity : UInt32)
  | releaseInventory (itemType : ItemType) (product : ProductId) (quantity : UInt32)
  | transitionOrder (id : OrderId) (transition : OrderTransition)
  | lockOrderTickets (order : OrderId)
  | issueTicketToken (ticket : TicketId) (issued : IssuedToken)
  | lockTicket (id : TicketId)
  | markTicketRedeemed (id : TicketId) (operator : OperatorId) (time : Instant)
  | countUnredeemedTickets (order : OrderId)
  | orderDetail (order : OrderId) (withPurchaser : Bool)
  | purchaser (user : UserId)

namespace TransactionCall

abbrev Reply : TransactionCall → Type
  | .eventTitle _ => Option String
  | .lockTicketProduct _ => Option TicketProduct
  | .lockTransferProduct _ => Option TransferProduct
  | .lockPromoByCode _ => Option PromoCode
  | .consumePromo _ => Bool
  | .releasePromo _ => Unit
  | .insertOrder _ => Unit
  | .insertOrderItem _ => Unit
  | .insertTicket _ => Unit
  | .lockOrder _ => Option Order
  | .lockOrderItems _ => List OrderItem
  | .reserveInventory _ _ _ => Bool
  | .releaseInventory _ _ _ => Unit
  | .transitionOrder _ _ => Bool
  | .lockOrderTickets _ => List Ticket
  | .issueTicketToken _ _ => Unit
  | .lockTicket _ => Option LockedTicket
  | .markTicketRedeemed _ _ _ => Bool
  | .countUnredeemedTickets _ => Nat
  | .orderDetail _ _ => Option OrderDetail
  | .purchaser _ => Option Purchaser

def name : TransactionCall → String
  | .eventTitle _ => "event_title"
  | .lockTicketProduct _ => "lock_ticket_product"
  | .lockTransferProduct _ => "lock_transfer_product"
  | .lockPromoByCode _ => "lock_promo_by_code"
  | .consumePromo _ => "consume_promo"
  | .releasePromo _ => "release_promo"
  | .insertOrder _ => "insert_order"
  | .insertOrderItem _ => "insert_order_item"
  | .insertTicket _ => "insert_ticket"
  | .lockOrder _ => "lock_order"
  | .lockOrderItems _ => "lock_order_items"
  | .reserveInventory _ _ _ => "reserve_inventory"
  | .releaseInventory _ _ _ => "release_inventory"
  | .transitionOrder _ _ => "transition_order"
  | .lockOrderTickets _ => "lock_order_tickets"
  | .issueTicketToken _ _ => "issue_ticket_qr"
  | .lockTicket _ => "lock_ticket"
  | .markTicketRedeemed _ _ _ => "mark_ticket_redeemed"
  | .countUnredeemedTickets _ => "count_unredeemed_tickets"
  | .orderDetail _ _ => "tx.order_detail"
  | .purchaser _ => "purchaser"

/-- The reply that says there is nothing, or that nothing was done. -/
def emptyReply : (c : TransactionCall) → c.Reply
  | .eventTitle _ => none
  | .lockTicketProduct _ => none
  | .lockTransferProduct _ => none
  | .lockPromoByCode _ => none
  | .consumePromo _ => false
  | .releasePromo _ => ()
  | .insertOrder _ => ()
  | .insertOrderItem _ => ()
  | .insertTicket _ => ()
  | .lockOrder _ => none
  | .lockOrderItems _ => []
  | .reserveInventory _ _ _ => false
  | .releaseInventory _ _ _ => ()
  | .transitionOrder _ _ => false
  | .lockOrderTickets _ => []
  | .issueTicketToken _ _ => ()
  | .lockTicket _ => none
  | .markTicketRedeemed _ _ _ => false
  | .countUnredeemedTickets _ => 0
  | .orderDetail _ _ => none
  | .purchaser _ => none

end TransactionCall

/-- All calls of a store. At most one transaction is open at a time; `abandon` closes it without a
word. -/
inductive StoreCall where
  | begin
  | within (c : TransactionCall)
  | commit
  | rollback
  | abandon
  | findPromoByCode (code : String)
  | orderDetail (order : OrderId) (withPurchaser : Bool)
  | listOrders (query : OrderQuery)
  | listUserOrders (user : UserId) (limit offset : UInt32)
  | listUserTickets (user : UserId) (event : Option EventId)
  | statsRows (event : Option EventId)
  | checkInRows (event : Option EventId)
  | listTicketProducts (filter : ProductFilter)
  | createTicketProduct (draft : TicketProductDraft)
  | updateTicketProduct (id : ProductId) (patch : TicketProductPatch)
  | deleteTicketProduct (id : ProductId)
  | listTransferProducts (filter : ProductFilter)
  | createTransferProduct (draft : TransferProductDraft)
  | updateTransferProduct (id : ProductId) (patch : TransferProductPatch)
  | deleteTransferProduct (id : ProductId)
  | listPromoCodes (filter : ProductFilter)
  | createPromoCode (draft : PromoCodeDraft)
  | updatePromoCode (id : PromoCodeId) (patch : PromoCodePatch)
  | deletePromoCode (id : PromoCodeId)
  | migrate

namespace StoreCall

abbrev Reply : StoreCall → Type
  | .begin => Unit
  | .within c => c.Reply
  | .commit => Unit
  | .rollback => Unit
  | .abandon => Unit
  | .findPromoByCode _ => Option PromoCode
  | .orderDetail _ _ => Option OrderDetail
  | .listOrders _ => Page OrderSummary
  | .listUserOrders _ _ _ => Page OrderSummary
  | .listUserTickets _ _ => List Ticket
  | .statsRows _ => List StatsRow
  | .checkInRows _ => List CheckInRow
  | .listTicketProducts _ => List TicketProduct
  | .createTicketProduct _ => TicketProduct
  | .updateTicketProduct _ _ => Option TicketProduct
  | .deleteTicketProduct _ => Bool
  | .listTransferProducts _ => List TransferProduct
  | .createTransferProduct _ => TransferProduct
  | .updateTransferProduct _ _ => Option TransferProduct
  | .deleteTransferProduct _ => Bool
  | .listPromoCodes _ => List PromoCode
  | .createPromoCode _ => PromoCode
  | .updatePromoCode _ _ => Option PromoCode
  | .deletePromoCode _ => Bool
  | .migrate => Unit

def name? : StoreCall → Option String
  | .begin => some "begin"
  | .within c => some c.name
  | .commit => some "commit"
  | .rollback => some "rollback"
  | .abandon => none
  | .findPromoByCode _ => some "find_promo_by_code"
  | .orderDetail _ _ => some "order_detail"
  | .listOrders _ => some "list_orders"
  | .listUserOrders _ _ _ => some "list_user_orders"
  | .listUserTickets _ _ => some "list_user_tickets"
  | .statsRows _ => some "stats_rows"
  | .checkInRows _ => some "check_in_rows"
  | .listTicketProducts _ => some "list_ticket_products"
  | .createTicketProduct _ => some "create_ticket_product"
  | .updateTicketProduct _ _ => some "update_ticket_product"
  | .deleteTicketProduct _ => some "delete_ticket_product"
  | .listTransferProducts _ => some "list_transfer_products"
  | .createTransferProduct _ => some "create_transfer_product"
  | .updateTransferProduct _ _ => some "update_transfer_product"
  | .deleteTransferProduct _ => some "delete_transfer_product"
  | .listPromoCodes _ => some "list_promo_codes"
  | .createPromoCode _ => some "create_promo_code"
  | .updatePromoCode _ _ => some "update_promo_code"
  | .deletePromoCode _ => some "delete_promo_code"
  | .migrate => some "migrate"

def emptyReply? : (c : StoreCall) → Option c.Reply
  | .begin => none
  | .within c => some c.emptyReply
  | .commit => some ()
  | .rollback => some ()
  | .abandon => some ()
  | .findPromoByCode _ => some none
  | .orderDetail _ _ => some none
  | .listOrders _ => none
  | .listUserOrders _ _ _ => none
  | .listUserTickets _ _ => some []
  | .statsRows _ => some []
  | .checkInRows _ => some []
  | .listTicketProducts _ => some []
  | .createTicketProduct _ => none
  | .updateTicketProduct _ _ => some none
  | .deleteTicketProduct _ => some false
  | .listTransferProducts _ => some []
  | .createTransferProduct _ => none
  | .updateTransferProduct _ _ => some none
  | .deleteTransferProduct _ => some false
  | .listPromoCodes _ => some []
  | .createPromoCode _ => none
  | .updatePromoCode _ _ => some none
  | .deletePromoCode _ => some false
  | .migrate => some ()

end StoreCall

end EventTickets
