import EventTickets.Proofs.Service.Cancellation
import EventTickets.Proofs.Service.Catalog
import EventTickets.Proofs.Service.Purchase
import EventTickets.Proofs.Service.Redemption
import EventTickets.Service.Listing
import EventTickets.Service.PromoCheck

/-!
# Calls to the services

All that can be asked of the three services, and what each call can do to a store in memory. A call
fails and leaves the tables alone, or succeeds with one of five effects.
-/

namespace EventTickets

inductive ServiceCall where
  | listTicketProducts (filter : ProductFilter)
  | createTicketProduct (createdBy : UserId) (input : TicketProductInput)
  | updateTicketProduct (id : ProductId) (patch : TicketProductPatch)
  | deleteTicketProduct (id : ProductId)
  | listTransferProducts (filter : ProductFilter)
  | createTransferProduct (createdBy : UserId) (input : TransferProductInput)
  | updateTransferProduct (id : ProductId) (patch : TransferProductPatch)
  | deleteTransferProduct (id : ProductId)
  | listPromoCodes (filter : ProductFilter)
  | createPromoCode (createdBy : UserId) (input : PromoCodeInput)
  | updatePromoCode (id : PromoCodeId) (patch : PromoCodePatch)
  | deletePromoCode (id : PromoCodeId)
  | purchasableProducts (event : EventId)
  | createOrder (request : CreateOrderRequest)
  | confirmOrder (id : OrderId) (operator : OperatorId)
  | confirmAndDeliver (id : OrderId) (operator : OperatorId)
  | cancelOrder (id : OrderId) (operator : OperatorId) (reason : Option String)
  | validatePromoCode (event : EventId) (code : String) (subtotalCents : Int64)
  | orderDetail (id : OrderId) (withPurchaser : Bool)
  | listOrders (query : OrderQuery)
  | listUserOrders (user : UserId) (limit offset : UInt32)
  | listUserTickets (user : UserId) (event : Option EventId)
  | ticketStats (event : Option EventId)
  | redeemTicket (id : TicketId) (operator : OperatorId) (token : Option String)

namespace ServiceCall

abbrev Reply : ServiceCall → Type
  | .listTicketProducts _ => List TicketProduct
  | .createTicketProduct _ _ => TicketProduct
  | .updateTicketProduct _ _ => TicketProduct
  | .deleteTicketProduct _ => Unit
  | .listTransferProducts _ => List TransferProduct
  | .createTransferProduct _ _ => TransferProduct
  | .updateTransferProduct _ _ => TransferProduct
  | .deleteTransferProduct _ => Unit
  | .listPromoCodes _ => List PromoCode
  | .createPromoCode _ _ => PromoCode
  | .updatePromoCode _ _ => PromoCode
  | .deletePromoCode _ => Unit
  | .purchasableProducts _ => PurchasableProducts
  | .createOrder _ => OrderDetail
  | .confirmOrder _ _ => ConfirmedOrder
  | .confirmAndDeliver _ _ => DeliveredOrder
  | .cancelOrder _ _ _ => OrderDetail
  | .validatePromoCode _ _ _ => PromoCheck
  | .orderDetail _ _ => OrderDetail
  | .listOrders _ => Page OrderSummary
  | .listUserOrders _ _ _ => Page OrderSummary
  | .listUserTickets _ _ => List Ticket
  | .ticketStats _ => Option TicketStats
  | .redeemTicket _ _ _ => RedemptionOutcome

def service (env : Environment) : (c : ServiceCall) → Service c.Reply
  | .listTicketProducts filter => EventTickets.listTicketProducts filter
  | .createTicketProduct createdBy input => EventTickets.createTicketProduct createdBy input
  | .updateTicketProduct id patch => EventTickets.updateTicketProduct id patch
  | .deleteTicketProduct id => EventTickets.deleteTicketProduct id
  | .listTransferProducts filter => EventTickets.listTransferProducts filter
  | .createTransferProduct createdBy input => EventTickets.createTransferProduct createdBy input
  | .updateTransferProduct id patch => EventTickets.updateTransferProduct id patch
  | .deleteTransferProduct id => EventTickets.deleteTransferProduct id
  | .listPromoCodes filter => EventTickets.listPromoCodes filter
  | .createPromoCode createdBy input => EventTickets.createPromoCode createdBy input
  | .updatePromoCode id patch => EventTickets.updatePromoCode id patch
  | .deletePromoCode id => EventTickets.deletePromoCode id
  | .purchasableProducts event => EventTickets.purchasableProducts event
  | .createOrder request => EventTickets.createOrder env request
  | .confirmOrder id operator => EventTickets.confirmOrder env id operator
  | .confirmAndDeliver id operator => EventTickets.confirmAndDeliver env id operator
  | .cancelOrder id operator reason => EventTickets.cancelOrder id operator reason
  | .validatePromoCode event code subtotalCents =>
    EventTickets.validatePromoCode event code subtotalCents
  | .orderDetail id withPurchaser => EventTickets.orderDetail id withPurchaser
  | .listOrders query => EventTickets.listOrders query
  | .listUserOrders user limit offset => EventTickets.listUserOrders user limit offset
  | .listUserTickets user event => EventTickets.listUserTickets user event
  | .ticketStats event => EventTickets.ticketStats event
  | .redeemTicket id operator token => EventTickets.redeemTicket env id operator token

def ChangesCatalog : ServiceCall → Prop
  | .createTicketProduct _ _ => True
  | .updateTicketProduct _ _ => True
  | .deleteTicketProduct _ => True
  | .createTransferProduct _ _ => True
  | .updateTransferProduct _ _ => True
  | .deleteTransferProduct _ => True
  | .createPromoCode _ _ => True
  | .updatePromoCode _ _ => True
  | .deletePromoCode _ => True
  | _ => False

def Confirms (c : ServiceCall) (id : OrderId) (operator : OperatorId) : Prop :=
  c = .confirmOrder id operator ∨ c = .confirmAndDeliver id operator

end ServiceCall

/-- What a successful call does to the tables, at a time and with identifiers between two states of
their supply. -/
inductive Effect (env : Environment) (before after : Supply Uuid) (now : Time.Instant)
    (t : Memory.Tables) : ServiceCall → Memory.Tables → Prop
  | catalog {c : ServiceCall} {t' : Memory.Tables} (change : CatalogChange before after t t')
    (call : c.ChangesCatalog ∨ t' = t) :
    Effect env before after now t c t'
  | place (request : CreateOrderRequest) (w : Purchase.Placement) (t₁ : Memory.Tables)
    (promo : t.PromoTaken w.order.promoCodeId t₁) (sound : w.Sound t before after)
    (named : ∀ id, w.order.promoCodeId = some id →
      t.Names (request.promoCode.map Text.normalizeToken) id) :
    Effect env before after now t (.createOrder request) (t₁.placed w)
  | confirm {c : ServiceCall} {id : OrderId} {operator : OperatorId} (call : c.Confirms id operator)
    (t₁ : Memory.Tables) (nonces : Nat → String) (reserved : t.reservedFor id = .ok t₁) :
    Effect env before after now t c (t₁.confirmed id operator now env.secret nonces)
  | cancel (id : OrderId) (operator : OperatorId) (reason : Option String) (order : Order)
    (found : t.orders.get? id = some order) (open_ : order.status.isTerminal = false) :
    Effect env before after now t (.cancelOrder id operator reason)
      (t.canceled id order operator now (reason.bind Text.nonBlank?))
  | redeem (id : TicketId) (operator : OperatorId) (token : Option String)
      (ticket : Ticket) (order : Order)
    (admitted : t.admission env.secret id (token.bind Text.nonBlank?) = .ok (ticket, order)) :
    Effect env before after now t (.redeemTicket id operator token) (t.redeemed ticket operator now)

namespace Memory.State

open Tables

variable {σ α : Type} (channel : Channel σ) {s : State σ}

def Reads (s : State σ) (p : Service α) : Prop :=
  ∃ r s', serve channel p s = (r, s') ∧ s.Becomes s.committed s'

/-- How a call ends: with an error and the same tables, or with an effect. -/
def Ends (env : Environment) (s : State σ) (c : ServiceCall) : Prop :=
  (∃ e s', serve channel (c.service env) s = (.error e, s') ∧ s.Becomes s.committed s') ∨
    ∃ a s' t', serve channel (c.service env) s = (.ok a, s') ∧ s.Becomes t' s' ∧
      Effect env s.sources.ids s'.sources.ids s.sources.now.1 s.committed c t'

theorem ends_of_reads {env : Environment} {c : ServiceCall} (h : Reads channel s (c.service env)) :
    Ends channel env s c := by
  obtain ⟨e | a, s', hs, hbecomes⟩ := h
  · exact .inl ⟨e, s', hs, hbecomes⟩
  · exact .inr ⟨a, s', _, hs, hbecomes, .catalog .same (.inr rfl)⟩

theorem ends_of_catalog {env : Environment} {c : ServiceCall} (hc : c.ChangesCatalog)
    (h : CatalogOutcome s (serve channel (c.service env) s)) : Ends channel env s c := by
  rcases h with ⟨e, s', hs, hbecomes⟩ | ⟨a, s', t', hs, hbecomes, hchange⟩
  · exact .inl ⟨e, s', hs, hbecomes⟩
  · exact .inr ⟨a, s', t', hs, hbecomes, .catalog hchange (.inl hc)⟩

theorem ends_createOrder (env : Environment) (request : CreateOrderRequest) :
    Ends channel env s (.createOrder request) := by
  rcases serve_createOrder channel s env request with
    ⟨e, after, hafter, hs | hs⟩ | ⟨detail, w, after, t₁, hpromo, hw, hnamed, hafter, hs⟩
  · exact .inl ⟨e, s, hs, .refl⟩
  · exact .inl ⟨e, _, hs, settled_becomes hafter _⟩
  · exact .inr ⟨detail, _, _, hs, settled_becomes hafter _, .place request w t₁ hpromo hw hnamed⟩

theorem ends_confirmOrder (env : Environment) (id : OrderId) (operator : OperatorId) :
    Ends channel env s (.confirmOrder id operator) := by
  rcases serve_confirmOrder channel s env id operator with
    ⟨e, after, -, hafter, hs⟩ | ⟨t₁, nonces, after, reply, hr, hafter, hs⟩
  · exact .inl ⟨e, _, hs, settled_becomes hafter _⟩
  · exact .inr ⟨reply, _, _, hs, settled_becomes hafter _, .confirm (.inl rfl) t₁ nonces hr⟩

theorem ends_confirmAndDeliver (env : Environment) (id : OrderId) (operator : OperatorId) :
    Ends channel env s (.confirmAndDeliver id operator) := by
  rcases serve_confirmOrder channel s env id operator with
    ⟨e, after, -, hafter, hs⟩ | ⟨t₁, nonces, after, reply, hr, hafter, hs⟩
  · have hserve : serve channel (confirmAndDeliver env id operator) s =
        (.error e, s.settled after s.committed) := by
      rw [confirmAndDeliver, serve_bind, hs]
    exact .inl ⟨e, _, hserve, settled_becomes hafter _⟩
  · obtain ⟨outcome, inner, hdeliver⟩ := serve_deliverOrder channel
      (s.settled after (t₁.confirmed id operator s.sources.now.1 env.secret nonces)) reply
    have hserve : serve channel (confirmAndDeliver env id operator) s =
        (.ok ⟨reply, outcome⟩,
          { s.settled after (t₁.confirmed id operator s.sources.now.1 env.secret nonces) with
          channel := inner }) := by
      rw [confirmAndDeliver, serve_bind, hs]
      simp only [serve_bind, hdeliver]
      rfl
    exact .inr ⟨_, _, _, hserve, ⟨rfl, fun _ => rfl, hafter⟩, .confirm (.inr rfl) t₁ nonces hr⟩

theorem ends_cancelOrder (env : Environment) (id : OrderId) (operator : OperatorId)
    (reason : Option String) : Ends channel env s (.cancelOrder id operator reason) := by
  rcases serve_cancelOrder channel s id operator reason with
    ⟨e, after, -, hafter, hs⟩ | ⟨order, detail, after, ho, hterminal, hafter, hs⟩
  · exact .inl ⟨e, _, hs, settled_becomes hafter _⟩
  · exact .inr ⟨detail, _, _, hs, settled_becomes hafter _,
      .cancel id operator reason order ho hterminal⟩

theorem ends_redeemTicket (env : Environment) (id : TicketId) (operator : OperatorId)
    (token : Option String) : Ends channel env s (.redeemTicket id operator token) := by
  obtain ⟨after, hafter, hs⟩ := serve_redeemTicket channel s env id operator token
  rcases ha : s.committed.admission env.secret id (token.bind Text.nonBlank?) with
    e | ⟨ticket, order⟩ <;>
    rw [ha] at hs
  · exact .inl ⟨e, _, hs, settled_becomes hafter _⟩
  · exact .inr ⟨_, _, _, hs, settled_becomes hafter _, .redeem id operator token ticket order ha⟩

theorem reads_validatePromoCode (event : EventId) (code : String) (subtotalCents : Int64) :
    Reads channel s (EventTickets.validatePromoCode event code subtotalCents) := by
  simp only [EventTickets.validatePromoCode]
  split
  · exact ⟨_, s, rfl, .refl⟩
  · have hfind : serve channel (Service.store (.findPromoByCode (Text.normalizeToken code))) s =
        (.ok (s.committed.promoByCode? (Text.normalizeToken code)), s) := rfl
    rw [Reads, serve_bind, hfind]
    cases s.committed.promoByCode? (Text.normalizeToken code) with
    | none => exact ⟨_, s, rfl, .refl⟩
    | some promo => exact ⟨_, _, rfl, rfl, fun hidle => hidle, .now _⟩

theorem reads_orderDetail (id : OrderId) (withPurchaser : Bool) :
    Reads channel s (EventTickets.orderDetail id withPurchaser) := by
  have hfind : serve channel (Service.store (.orderDetail id withPurchaser)) s =
      (.ok (s.committed.detail? id withPurchaser), s) := rfl
  rw [EventTickets.orderDetail, Reads, serve_bind, hfind]
  exact ⟨_, s, serve_demand channel _ _ s, .refl⟩

theorem reads_listUserOrders (user : UserId) (limit offset : UInt32) :
    Reads channel s (EventTickets.listUserOrders user limit offset) := by
  unfold EventTickets.listUserOrders
  split <;> exact ⟨_, s, rfl, .refl⟩

theorem call_ends (env : Environment) (s : State σ) (c : ServiceCall) : Ends channel env s c := by
  cases c with
  | createTicketProduct createdBy input =>
    exact ends_of_catalog channel trivial (serve_createTicketProduct channel _ _)
  | updateTicketProduct id patch =>
    exact ends_of_catalog channel trivial (serve_updateTicketProduct channel _ _)
  | deleteTicketProduct id =>
    exact ends_of_catalog channel trivial (serve_deleteTicketProduct channel _)
  | createTransferProduct createdBy input =>
    exact ends_of_catalog channel trivial (serve_createTransferProduct channel _ _)
  | updateTransferProduct id patch =>
    exact ends_of_catalog channel trivial (serve_updateTransferProduct channel _ _)
  | deleteTransferProduct id =>
    exact ends_of_catalog channel trivial (serve_deleteTransferProduct channel _)
  | createPromoCode createdBy input =>
    exact ends_of_catalog channel trivial (serve_createPromoCode channel _ _)
  | updatePromoCode id patch =>
    exact ends_of_catalog channel trivial (serve_updatePromoCode channel _ _)
  | deletePromoCode id => exact ends_of_catalog channel trivial (serve_deletePromoCode channel _)
  | createOrder request => exact ends_createOrder channel env request
  | confirmOrder id operator => exact ends_confirmOrder channel env id operator
  | confirmAndDeliver id operator => exact ends_confirmAndDeliver channel env id operator
  | cancelOrder id operator reason => exact ends_cancelOrder channel env id operator reason
  | redeemTicket id operator token => exact ends_redeemTicket channel env id operator token
  | validatePromoCode event code subtotalCents =>
    exact ends_of_reads channel (reads_validatePromoCode channel event code subtotalCents)
  | orderDetail id withPurchaser =>
    exact ends_of_reads channel (reads_orderDetail channel id withPurchaser)
  | listUserOrders user limit offset =>
    exact ends_of_reads channel (reads_listUserOrders channel user limit offset)
  | listTicketProducts filter => exact ends_of_reads channel ⟨_, s, rfl, .refl⟩
  | listTransferProducts filter => exact ends_of_reads channel ⟨_, s, rfl, .refl⟩
  | listPromoCodes filter => exact ends_of_reads channel ⟨_, s, rfl, .refl⟩
  | purchasableProducts event => exact ends_of_reads channel ⟨_, s, rfl, .refl⟩
  | listOrders query => exact ends_of_reads channel ⟨_, s, rfl, .refl⟩
  | listUserTickets user event => exact ends_of_reads channel ⟨_, s, rfl, .refl⟩
  | ticketStats event => exact ends_of_reads channel ⟨_, s, rfl, .refl⟩

end Memory.State

end EventTickets
