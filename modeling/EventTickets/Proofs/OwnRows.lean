import EventTickets.Proofs.Finality
import EventTickets.Proofs.Inventory
import EventTickets.Proofs.Service.CatalogCalls

/-!
# Calls stay in their own rows

`ServiceCall.Touches` says of each call which rows it may change, add or remove, and in which of
their fields. All other rows of all tables are the same after a call as before it, and the lines of
an order are never touched once it was placed.
-/

namespace EventTickets

namespace Table

variable {κ ν : Type} [Ranked κ] [DecidableEq κ]

/-- The same rows, but for changes of one kind under some of the keys. -/
def Changes (keys : κ → Prop) (change : ν → ν → Prop) (t t' : Table κ ν) : Prop :=
  ∀ k, t'.get? k = t.get? k ∨ keys k ∧ ∃ v v', t.get? k = some v ∧ t'.get? k = some v' ∧ change v v'

def AddsOne (t t' : Table κ ν) : Prop :=
  ∃ k v, t.get? k = none ∧ ∀ k', t'.get? k' = if k' = k then some v else t.get? k'

def RemovesOne (k : κ) (t t' : Table κ ν) : Prop :=
  (t.get? k).isSome ∧ ∀ k', t'.get? k' = if k' = k then none else t.get? k'

variable {keys : κ → Prop} {change : ν → ν → Prop} {t t' t'' : Table κ ν}
  {k : κ} {v : ν} {f : ν → ν}

theorem Changes.refl (keys : κ → Prop) (change : ν → ν → Prop) (t : Table κ ν) :
    Changes keys change t t :=
  fun _ => .inl rfl

theorem Changes.trans (htrans : ∀ {u v w}, change u v → change v w → change u w)
    (h : Changes keys change t t') (h' : Changes keys change t' t'') :
    Changes keys change t t'' := by
  intro k
  rcases h k with e | ⟨hk, v, v', hv, hv', hchange⟩
  · rw [← e]
    exact h' k
  · rcases h' k with e' | ⟨-, w, w', hw, hw', hchange'⟩
    · exact .inr ⟨hk, v, v', hv, e'.trans hv', hchange⟩
    · cases hv'.symm.trans hw
      exact .inr ⟨hk, v, w', hv, hw', htrans hchange hchange'⟩

theorem changes_modify (hk : keys k) (hf : ∀ v, t.get? k = some v → change v (f v)) :
    Changes keys change t (t.modify k f) := by
  intro k'
  rw [get?_modify]
  split
  · next e =>
    subst e
    rcases hv : t.get? k' with _ | v
    · exact .inl rfl
    · exact .inr ⟨hk, v, f v, rfl, rfl, hf v hv⟩
  · exact .inl rfl

theorem addsOne_insert (h : t.get? k = none) : AddsOne t (t.insert k v) :=
  ⟨k, v, h, fun k' => get?_insert t k k' v⟩

theorem removesOne_erase (h : (t.get? k).isSome) : RemovesOne k t (t.erase k) := ⟨h, get?_erase t k⟩

end Table

def TicketProduct.Resold (p p' : TicketProduct) : Prop := ∃ n, p' = { p with soldCount := n }

def TransferProduct.Resold (p p' : TransferProduct) : Prop := ∃ n, p' = { p with soldCount := n }

def PromoCode.Reused (p p' : PromoCode) : Prop := ∃ n, p' = { p with usedCount := n }

def Ticket.Retokened (k k' : Ticket) : Prop :=
  ∃ payload digest time, k' =
    { k with qrPayload := payload, qrPayloadHash := digest, qrIssuedAt := time }

def Ticket.Rechecked (k k' : Ticket) : Prop :=
  ∃ time operator, k' = { k with redeemedAt := time, redeemedBy := operator }

structure TicketProductPatch.Covers (patch : TicketProductPatch) (p p' : TicketProduct) : Prop where
  others : ∃ name price limit active stamp, p' =
    { p with
      name := name, priceCents := price, inventoryLimit := limit, isActive := active,
      updatedAt := stamp }
  name : patch.name = none → p'.name = p.name
  priceCents : patch.priceCents = none → p'.priceCents = p.priceCents
  inventoryLimit : patch.inventoryLimit = .keep → p'.inventoryLimit = p.inventoryLimit
  isActive : patch.isActive = none → p'.isActive = p.isActive

structure TransferProductPatch.Covers (patch : TransferProductPatch) (p p' : TransferProduct) :
    Prop where
  others : ∃ name price info limit active stamp, p' =
    { p with
      name := name, priceCents := price, info := info, inventoryLimit := limit,
      isActive := active, updatedAt := stamp }
  name : patch.name = none → p'.name = p.name
  priceCents : patch.priceCents = none → p'.priceCents = p.priceCents
  info : patch.info = none → p'.info = p.info
  inventoryLimit : patch.inventoryLimit = .keep → p'.inventoryLimit = p.inventoryLimit
  isActive : patch.isActive = none → p'.isActive = p.isActive

structure PromoCodePatch.Covers (patch : PromoCodePatch) (p p' : PromoCode) : Prop where
  others : ∃ kind value limit start stop event active stamp, p' =
    { p with
      discountType := kind, value := value, usageLimit := limit, activeFrom := start,
      activeTo := stop, eventId := event, isActive := active, updatedAt := stamp }
  discountType : patch.discountType = none → p'.discountType = p.discountType
  value : patch.value = none → p'.value = p.value
  usageLimit : patch.usageLimit = .keep → p'.usageLimit = p.usageLimit
  activeFrom : patch.activeFrom = none → p'.activeFrom = p.activeFrom
  activeTo : patch.activeTo = none → p'.activeTo = p.activeTo
  eventId : patch.eventId = none → p'.eventId = p.eventId
  isActive : patch.isActive = none → p'.isActive = p.isActive

theorem TicketProductPatch.covers_apply (patch : TicketProductPatch) (now : Time.Instant)
    (p : TicketProduct) : patch.Covers p (patch.apply now p) where
  others := ⟨_, _, _, _, _, rfl⟩
  name h := by rw [apply, h]; rfl
  priceCents h := by rw [apply, h]; rfl
  inventoryLimit h := by rw [apply, h]; rfl
  isActive h := by rw [apply, h]; rfl

theorem TransferProductPatch.covers_apply (patch : TransferProductPatch) (now : Time.Instant)
    (p : TransferProduct) : patch.Covers p (patch.apply now p) where
  others := ⟨_, _, _, _, _, _, rfl⟩
  name h := by rw [apply, h]; rfl
  priceCents h := by rw [apply, h]; rfl
  info h := by rw [apply, h]; rfl
  inventoryLimit h := by rw [apply, h]; rfl
  isActive h := by rw [apply, h]; rfl

theorem PromoCodePatch.covers_apply (patch : PromoCodePatch) (now : Time.Instant) (p : PromoCode) :
    patch.Covers p (patch.apply now p) where
  others := ⟨_, _, _, _, _, _, _, _, rfl⟩
  discountType h := by rw [apply, h]; rfl
  value h := by rw [apply, h]; rfl
  usageLimit h := by rw [apply, h]; rfl
  activeFrom h := by rw [apply, h]; rfl
  activeTo h := by rw [apply, h]; rfl
  eventId h := by rw [apply, h]; rfl
  isActive h := by rw [apply, h]; rfl

namespace Memory.Tables

variable {t t' t'' : Tables}

def TicketsChange (which : Ticket → Prop) (change : Ticket → Ticket → Prop) (t t' : Tables) :
    Prop :=
  List.Forall₂ (fun k k' => k' = k ∨ which k ∧ change k k') t.tickets t'.tickets

/-- Both kinds of products changed at most in what is sold of those on some lines. -/
structure Resells (lines : ItemType → ProductId → Prop) (t t' : Tables) : Prop where
  ticketProducts : t.ticketProducts.Changes (lines .ticket) TicketProduct.Resold t'.ticketProducts
  transferProducts :
    t.transferProducts.Changes (lines .transfer) TransferProduct.Resold t'.transferProducts

def OnLines (t : Tables) (order : OrderId) (kind : ItemType) (product : ProductId) : Prop :=
  ∃ i ∈ t.itemsOf order, i.itemType = kind ∧ i.productId = product

def OrderAdded (t t' : Tables) : Prop :=
  t' = { t with
    orders := t'.orders, orderItems := t'.orderItems, tickets := t'.tickets,
    promoCodes := t'.promoCodes, lastItemId := t'.lastItemId } ∧
  ∃ order items tickets, t.orders.get? order.id = none ∧
    t'.orders = t.orders.insert order.id order ∧
    (t'.orderItems = t.orderItems ++ items ∧ ∀ i ∈ items, i.orderId = order.id) ∧
    (t'.tickets = t.tickets ++ tickets ∧ ∀ k ∈ tickets, k.orderId = order.id) ∧
    t.promoCodes.Changes (fun id => order.promoCodeId = some id) PromoCode.Reused t'.promoCodes

structure OrderConfirmed (id : OrderId) (t t' : Tables) : Prop where
  others : t' = { t with
    orders := t'.orders, tickets := t'.tickets, ticketProducts := t'.ticketProducts,
    transferProducts := t'.transferProducts }
  order : t.orders.Changes (· = id) (fun _ _ => True) t'.orders
  tickets : TicketsChange (·.orderId = id) Ticket.Retokened t t'
  stock : Resells (t.OnLines id) t t'

structure OrderCanceled (id : OrderId) (t t' : Tables) : Prop where
  others : t' = { t with
    orders := t'.orders, promoCodes := t'.promoCodes, ticketProducts := t'.ticketProducts,
    transferProducts := t'.transferProducts }
  order : t.orders.Changes (· = id) (fun _ _ => True) t'.orders
  promo : t.promoCodes.Changes
    (fun promo => (t.orders.get? id).bind (·.promoCodeId) = some promo) PromoCode.Reused
    t'.promoCodes
  stock : Resells
    (fun kind product => (t.orders.get? id).map (·.status) = some .paid ∧ t.OnLines id kind product)
    t t'

structure TicketRedeemed (id : TicketId) (t t' : Tables) : Prop where
  others : t' = { t with orders := t'.orders, tickets := t'.tickets }
  ticket : TicketsChange (·.id = id) Ticket.Rechecked t t'
  order : t.orders.Changes
    (fun order => (∃ k ∈ t.ticketsOf order, k.id = id) ∧
      ∀ k ∈ t.ticketsOf order, k.isRedeemed = false → k.id = id)
    (fun _ _ => True) t'.orders

end Memory.Tables

open Memory Memory.Tables

/-- The rows that a call may write, with all others as they were. -/
def ServiceCall.Touches (t t' : Tables) : ServiceCall → Prop
  | .createTicketProduct _ _ =>
    t' = { t with ticketProducts := t'.ticketProducts } ∧
      t.ticketProducts.AddsOne t'.ticketProducts
  | .updateTicketProduct id patch =>
    t' = { t with ticketProducts := t'.ticketProducts } ∧
      t.ticketProducts.Changes (· = id) patch.Covers t'.ticketProducts
  | .deleteTicketProduct id =>
    t' = { t with ticketProducts := t'.ticketProducts } ∧
      t.ticketProducts.RemovesOne id t'.ticketProducts
  | .createTransferProduct _ _ =>
    t' = { t with transferProducts := t'.transferProducts } ∧
      t.transferProducts.AddsOne t'.transferProducts
  | .updateTransferProduct id patch =>
    t' = { t with transferProducts := t'.transferProducts } ∧
      t.transferProducts.Changes (· = id) patch.Covers t'.transferProducts
  | .deleteTransferProduct id =>
    t' = { t with transferProducts := t'.transferProducts } ∧
      t.transferProducts.RemovesOne id t'.transferProducts
  | .createPromoCode _ _ =>
    t' = { t with promoCodes := t'.promoCodes } ∧ t.promoCodes.AddsOne t'.promoCodes
  | .updatePromoCode id patch =>
    t' = { t with promoCodes := t'.promoCodes } ∧
      t.promoCodes.Changes (· = id) patch.Covers t'.promoCodes
  | .deletePromoCode id =>
    t' = { t with promoCodes := t'.promoCodes } ∧ t.promoCodes.RemovesOne id t'.promoCodes
  | .createOrder _ => OrderAdded t t'
  | .confirmOrder id _ => OrderConfirmed id t t'
  | .confirmAndDeliver id _ => OrderConfirmed id t t'
  | .cancelOrder id _ _ => OrderCanceled id t t'
  | .redeemTicket id _ _ => TicketRedeemed id t t'
  | _ => t' = t

namespace Memory.Tables

variable {t t' t'' t₁ : Tables}

theorem PromoTaken.changes {promo : Option PromoCodeId} (h : t.PromoTaken promo t₁) :
    t.promoCodes.Changes (fun id => promo = some id) PromoCode.Reused t₁.promoCodes := by
  rcases h with ⟨-, rfl⟩ | ⟨id, rfl, h⟩
  · exact .refl _ _ _
  · obtain ⟨p, hp, -, hrows⟩ := consumePromo?_eq_some h
    intro id'
    rw [hrows]
    split
    · next e =>
      subst e
      exact .inr ⟨rfl, p, p.used, hp, rfl, _, rfl⟩
    · exact .inl rfl

theorem orderAdded_placed {w : Purchase.Placement} {a b : Supply Uuid}
    (hpromo : t.PromoTaken w.order.promoCodeId t₁) (hw : w.Sound t a b) :
    OrderAdded t (t₁.placed w) := by
  refine ⟨by rw [hpromo.eq]; rfl, w.order.order, itemRows t.lastItemId w.items,
    w.tickets.map (·.ticket), hw.absent, orders_placed hpromo,
    ⟨orderItems_placed hpromo, fun i hi => ?_⟩, ⟨tickets_placed hpromo, fun k hk => ?_⟩,
    hpromo.changes⟩
  · obtain ⟨i', hi', e, -⟩ := itemRows_order hi
    exact e.trans (hw.item_order i' hi')
  · obtain ⟨k', hk', rfl⟩ := List.mem_map.mp hk
    obtain ⟨tier, id, time, rfl⟩ := hw.ticket k' hk'
    rfl

section

variable {lines : ItemType → ProductId → Prop} {kind : ItemType}
  {product : ProductId} {quantity : UInt32}

theorem Resells.refl (lines : ItemType → ProductId → Prop) (t : Tables) : Resells lines t t :=
  ⟨.refl _ _ _, .refl _ _ _⟩

theorem Resells.trans (h : Resells lines t t') (h' : Resells lines t' t'') :
    Resells lines t t'' where
  ticketProducts := h.ticketProducts.trans
    (by rintro _ _ _ ⟨n, rfl⟩ ⟨n', rfl⟩; exact ⟨n', rfl⟩) h'.ticketProducts
  transferProducts := h.transferProducts.trans
    (by rintro _ _ _ ⟨n, rfl⟩ ⟨n', rfl⟩; exact ⟨n', rfl⟩) h'.transferProducts

theorem resells_reserve? (hline : lines kind product)
    (h : t.reserve? kind product quantity = some t') : Resells lines t t' := by
  cases kind with
  | ticket =>
    simp only [reserve?, Option.bind_eq_bind, Option.pure_def, Option.bind_eq_some_iff,
      Option.some.injEq] at h
    obtain ⟨p, -, count, -, rfl⟩ := h
    exact ⟨Table.changes_modify hline fun v _ => ⟨_, rfl⟩, .refl _ _ _⟩
  | transfer =>
    simp only [reserve?, Option.bind_eq_bind, Option.pure_def, Option.bind_eq_some_iff,
      Option.some.injEq] at h
    obtain ⟨p, -, count, -, rfl⟩ := h
    exact ⟨.refl _ _ _, Table.changes_modify hline fun v _ => ⟨_, rfl⟩⟩

theorem resells_release (hline : lines kind product) :
    Resells lines t (t.release kind product quantity) := by
  cases kind with
  | ticket => exact ⟨Table.changes_modify hline fun v _ => ⟨_, rfl⟩, .refl _ _ _⟩
  | transfer => exact ⟨.refl _ _ _, Table.changes_modify hline fun v _ => ⟨_, rfl⟩⟩

theorem resells_reserveAll {items : List OrderItem}
    (hlines : ∀ i ∈ items, lines i.itemType i.productId) (h : t.reserveAll items = .ok t') :
    Resells lines t t' := by
  induction items generalizing t with
  | nil =>
    cases h
    exact .refl _ _
  | cons i rest ih =>
    obtain ⟨hi, hrest⟩ := List.forall_mem_cons.mp hlines
    rw [reserveAll] at h
    split at h
    · next t₁ h₁ => exact (resells_reserve? hi h₁).trans (ih hrest h)
    · cases h

theorem resells_releaseAll {items : List OrderItem}
    (hlines : ∀ i ∈ items, lines i.itemType i.productId) :
    Resells lines t (t.releaseAll items) := by
  induction items generalizing t with
  | nil => exact .refl _ _
  | cons i rest ih =>
    obtain ⟨hi, hrest⟩ := List.forall_mem_cons.mp hlines
    exact (resells_release hi).trans (ih hrest)

theorem onLines_of_mem {id : OrderId} {i : OrderItem}
    (hi : i ∈ OrderItem.reservationOrder (t.itemsOf id)) : t.OnLines id i.itemType i.productId :=
  ⟨i, List.mem_mergeSort.mp hi, rfl, rfl⟩

end

theorem ticketsChange_map {which : Ticket → Prop} {change : Ticket → Ticket → Prop}
    {f : Ticket → Ticket} (h : t'.tickets = t.tickets.map f)
    (hf : ∀ k, f k = k ∨ which k ∧ change k (f k)) : TicketsChange which change t t' := by
  rw [TicketsChange, h, List.forall₂_map_right_iff, List.forall₂_same]
  exact fun k _ => hf k

theorem orderConfirmed_confirmed (hd : t.TicketsDistinct) {id : OrderId}
    (h : t.reservedFor id = .ok t₁) (operator : OperatorId) (now : Time.Instant)
    (secret : SigningSecret) (nonces : Nat → String) :
    OrderConfirmed id t (t₁.confirmed id operator now secret nonces) := by
  obtain ⟨order, -, -, hreserved⟩ := reservedFor_eq_ok h
  obtain ⟨byId, htickets⟩ := tickets_confirmed h operator now secret nonces hd
  have hsame := sameButProducts_reservedFor h
  refine ⟨?_, ?_, ticketsChange_map htickets fun k => ?_, ?_⟩
  · rw [confirmed_eq]
    simp [transitioned, hsame.events, hsame.users, hsame.promoCodes,
      hsame.orderItems, hsame.lastItemId]
  · rw [orders_confirmed h operator now secret nonces]
    exact Table.changes_modify rfl fun _ _ => trivial
  · split
    · next e => exact .inr ⟨e, _, _, _, rfl⟩
    · exact .inl rfl
  · have hresells := resells_reserveAll (fun i hi => onLines_of_mem hi) hreserved
    rw [confirmed_eq]
    exact ⟨hresells.ticketProducts, hresells.transferProducts⟩

theorem resells_stockReturned {id : OrderId} {order : Order} (ho : t.orders.get? id = some order) :
    Resells
      (fun kind product =>
        (t.orders.get? id).map (·.status) = some .paid ∧ t.OnLines id kind product)
      t (t.stockReturned id order) := by
  rw [stockReturned]
  split
  · next hpaid =>
    have hstatus : (t.orders.get? id).map (·.status) = some .paid := by
      rw [ho, Option.map_some, hpaid]
    exact resells_releaseAll fun i hi => ⟨hstatus, onLines_of_mem hi⟩
  · exact .refl _ _

theorem orderCanceled_canceled {id : OrderId} {order : Order} (ho : t.orders.get? id = some order)
    (operator : OperatorId) (now : Time.Instant) (reason : Option String) :
    OrderCanceled id t (t.canceled id order operator now reason) := by
  have hsame := sameButProducts_stockReturned t id order
  have hresells := resells_stockReturned ho
  refine ⟨?_, ?_, fun promo => ?_, ?_⟩
  · rw [canceled]
    cases order.promoCodeId <;> simp [promoReturned, releasePromo, transitioned,
      hsame.events, hsame.users, hsame.orderItems, hsame.tickets, hsame.lastItemId]
  · rw [orders_canceled]
    exact Table.changes_modify rfl fun _ _ => trivial
  · rw [get?_promoCodes_canceled]
    split
    · next hheld =>
      rcases hp : t.promoCodes.get? promo with _ | p
      · exact .inl rfl
      · exact .inr ⟨by rw [ho]; exact hheld, p, _, rfl, rfl, _, rfl⟩
    · exact .inl rfl
  · rw [canceled]
    cases order.promoCodeId <;> exact ⟨hresells.ticketProducts, hresells.transferProducts⟩

theorem ticketRedeemed_redeemed (hd : t.TicketsDistinct) {ticket : Ticket}
    (hmem : ticket ∈ t.tickets) (operator : OperatorId) (now : Time.Instant) :
    TicketRedeemed ticket.id t (t.redeemed ticket operator now) := by
  refine ⟨?_, ticketsChange_map (tickets_redeemed t ticket operator now hd) fun k => ?_, ?_⟩
  · simp only [redeemed]
    split <;> rfl
  · split
    · next e => exact .inr ⟨e, _, _, rfl⟩
    · exact .inl rfl
  · rw [orders_redeemed]
    split
    · next hused =>
      refine Table.changes_modify ⟨⟨ticket, mem_ticketsOf.mpr ⟨hmem, rfl⟩, rfl⟩,
        fun k hk hunredeemed => ?_⟩
        fun _ _ => trivial
      by_contra hne
      have hleft : k ∈ (t.modifyTicket ticket.id (Ticket.redeem operator now)).ticketsOf
          ticket.orderId := by
        obtain ⟨hk, horder⟩ := mem_ticketsOf.mp hk
        rw [modifyTicket_eq hd]
        exact mem_ticketsOf.mpr ⟨List.mem_map.mpr ⟨k, hk, if_neg hne⟩, horder⟩
      rw [usedUp_eq_false hleft hunredeemed] at hused
      cases hused
    · exact .refl _ _ _

theorem touches_of_catalogWrite {a b : Sources} (hab : a.Precedes b) (hb : b.ids.Fresh)
    (hc : t.Consistent a.ids.Drawn) {now : Time.Instant} {c : ServiceCall}
    (h : CatalogWrite a.ids b.ids now t c t') : c.Touches t t' := by
  have hproduct : ∀ kind (id : ProductId), a.ids.Next id.uuid b.ids → t.stock? kind id = none := by
    intro kind id hnext
    exact Option.not_isSome_iff_eq_none.mp fun hsome =>
      not_drawn_of_next hab hb hnext (hc.product_drawn kind id hsome)
  cases h with
  | createTicketProduct drafted id next =>
    exact ⟨rfl, Table.addsOne_insert (Option.map_eq_none_iff.mp (hproduct .ticket id next))⟩
  | updateTicketProduct found =>
    exact ⟨rfl, Table.changes_modify rfl fun p _ => TicketProductPatch.covers_apply _ now p⟩
  | deleteTicketProduct found => exact ⟨rfl, Table.removesOne_erase found⟩
  | createTransferProduct drafted id next =>
    exact ⟨rfl, Table.addsOne_insert (Option.map_eq_none_iff.mp (hproduct .transfer id next))⟩
  | updateTransferProduct found =>
    exact ⟨rfl, Table.changes_modify rfl fun p _ => TransferProductPatch.covers_apply _ now p⟩
  | deleteTransferProduct found => exact ⟨rfl, Table.removesOne_erase found⟩
  | createPromoCode drafted id next =>
    have hnew : t.promoCodes.get? id = none :=
      Option.not_isSome_iff_eq_none.mp fun hsome =>
        not_drawn_of_next hab hb next (hc.promo_drawn id hsome)
    exact ⟨rfl, Table.addsOne_insert hnew⟩
  | updatePromoCode found =>
    exact ⟨rfl, Table.changes_modify rfl fun p _ => PromoCodePatch.covers_apply _ now p⟩
  | deletePromoCode found => exact ⟨rfl, Table.removesOne_erase found⟩

end Memory.Tables

namespace Memory.State

open Tables

variable {σ : Type} {channel : Channel σ} {s s' : State σ}

theorem Later.itemsOf_eq (hl : Later channel s s') (h : Reachable channel anyCall s)
    (hfresh : s'.sources.ids.Fresh) {id : OrderId} (ho : (s.committed.orders.get? id).isSome) :
    s'.committed.itemsOf id = s.committed.itemsOf id := by
  induction hl with
  | refl => rfl
  | addEvent _ event title ih => exact ih hfresh
  | addUser _ user ih => exact ih hfresh
  | @call s₁ hl env c ih =>
    have hbefore := (serve_precedes channel (c.service env) _).fresh hfresh
    obtain ⟨order, ho₁⟩ := Option.isSome_iff_exists.mp ((hl.keeps h hbefore).orders id ho)
    obtain ⟨t', hbecomes, heffect⟩ := call_effect channel env s₁ c
    rw [hbecomes.committed, itemsOf_effect heffect ho₁, ih hbefore]

theorem committed_of_reads {env : Environment} {c : ServiceCall} {a : c.Reply}
    (hs : serve channel (c.service env) s = (.ok a, s'))
    (hreads : Reads channel s (c.service env)) : s'.committed = s.committed := by
  obtain ⟨r, s₁, hr, hbecomes⟩ := hreads
  cases hr.symm.trans hs
  exact hbecomes.committed

theorem touches_createOrder {env : Environment} {request : CreateOrderRequest} {a : OrderDetail}
    (hs : serve channel (createOrder env request) s = (.ok a, s')) :
    OrderAdded s.committed s'.committed := by
  rcases serve_createOrder channel s env request with
    ⟨e, after, -, hs' | hs'⟩ | ⟨detail, w, after, t₁, hpromo, hw, -, -, hs'⟩ <;>
    cases hs'.symm.trans hs
  exact orderAdded_placed hpromo hw

theorem touches_confirmOrder (hd : s.committed.TicketsDistinct) {env : Environment} {id : OrderId}
    {operator : OperatorId} {a : ConfirmedOrder}
    (hs : serve channel (confirmOrder env id operator) s = (.ok a, s')) :
    OrderConfirmed id s.committed s'.committed := by
  rcases serve_confirmOrder channel s env id operator with
    ⟨e, after, -, -, hs'⟩ | ⟨t₁, nonces, after, reply, hreserved, -, hs'⟩ <;>
    cases hs'.symm.trans hs
  exact orderConfirmed_confirmed hd hreserved operator _ env.secret nonces

theorem touches_confirmAndDeliver (hd : s.committed.TicketsDistinct)
    {env : Environment} {id : OrderId} {operator : OperatorId} {a : DeliveredOrder}
    (hs : serve channel (confirmAndDeliver env id operator) s = (.ok a, s')) :
    OrderConfirmed id s.committed s'.committed := by
  rw [confirmAndDeliver, serve_bind] at hs
  rcases hconfirm : serve channel (confirmOrder env id operator) s with
    ⟨e | reply, s₁⟩ <;> rw [hconfirm] at hs
  · cases hs
  · obtain ⟨outcome, inner, hdeliver⟩ := serve_deliverOrder channel s₁ reply
    have hconfirmed := touches_confirmOrder hd hconfirm
    simp only [serve_bind, hdeliver] at hs
    cases hs
    exact hconfirmed

theorem touches_cancelOrder {id : OrderId} {operator : OperatorId}
    {reason : Option String} {a : OrderDetail}
    (hs : serve channel (cancelOrder id operator reason) s = (.ok a, s')) :
    OrderCanceled id s.committed s'.committed := by
  rcases serve_cancelOrder channel s id operator reason with
    ⟨e, after, -, -, hs'⟩ | ⟨order, detail, after, ho, -, -, hs'⟩ <;> cases hs'.symm.trans hs
  exact orderCanceled_canceled ho operator _ _

theorem touches_redeemTicket (hd : s.committed.TicketsDistinct) {env : Environment} {id : TicketId}
    {operator : OperatorId} {token : Option String} {a : RedemptionOutcome}
    (hs : serve channel (redeemTicket env id operator token) s = (.ok a, s')) :
    TicketRedeemed id s.committed s'.committed := by
  obtain ⟨after, -, hs'⟩ := serve_redeemTicket channel s env id operator token
  rw [hs'] at hs
  rcases hadmitted : s.committed.admission env.secret id (token.bind Text.nonBlank?) with
    e | ⟨ticket, order⟩ <;>
    rw [hadmitted] at hs <;> cases hs
  obtain ⟨hfound, -⟩ := admission_eq_ok_iff.mp hadmitted
  obtain ⟨hmem, rfl⟩ := mem_of_ticket? hfound
  exact ticketRedeemed_redeemed hd hmem operator _

theorem touches_of_serve (h : Reachable channel anyCall s) {env : Environment}
    {c : ServiceCall} {a : c.Reply} (hs : serve channel (c.service env) s = (.ok a, s'))
    (hfresh : s'.sources.ids.Fresh) : c.Touches s.committed s'.committed := by
  have hprecedes : s.sources.Precedes s'.sources := by
    have hserve := serve_precedes channel (c.service env) s
    rwa [hs] at hserve
  have hc := (h.wellFormed (hprecedes.fresh hfresh)).consistent
  have hcatalog : c.ChangesCatalog → c.Touches s.committed s'.committed := fun hchanges =>
    touches_of_catalogWrite hprecedes hfresh hc
      (catalogWrite_of_attempt channel hchanges ((attempt_eq_ok_iff channel).mpr hs))
  cases c with
  | createTicketProduct createdBy input => exact hcatalog trivial
  | updateTicketProduct id patch => exact hcatalog trivial
  | deleteTicketProduct id => exact hcatalog trivial
  | createTransferProduct createdBy input => exact hcatalog trivial
  | updateTransferProduct id patch => exact hcatalog trivial
  | deleteTransferProduct id => exact hcatalog trivial
  | createPromoCode createdBy input => exact hcatalog trivial
  | updatePromoCode id patch => exact hcatalog trivial
  | deletePromoCode id => exact hcatalog trivial
  | createOrder request => exact touches_createOrder hs
  | confirmOrder id operator => exact touches_confirmOrder hc.distinct hs
  | confirmAndDeliver id operator => exact touches_confirmAndDeliver hc.distinct hs
  | cancelOrder id operator reason => exact touches_cancelOrder hs
  | redeemTicket id operator token => exact touches_redeemTicket hc.distinct hs
  | validatePromoCode event code subtotalCents =>
    exact committed_of_reads hs (reads_validatePromoCode channel event code subtotalCents)
  | orderDetail id withPurchaser =>
    exact committed_of_reads hs (reads_orderDetail channel id withPurchaser)
  | listUserOrders user limit offset =>
    exact committed_of_reads hs (reads_listUserOrders channel user limit offset)
  | listTicketProducts filter => exact committed_of_reads hs ⟨_, s, rfl, .refl⟩
  | listTransferProducts filter => exact committed_of_reads hs ⟨_, s, rfl, .refl⟩
  | listPromoCodes filter => exact committed_of_reads hs ⟨_, s, rfl, .refl⟩
  | purchasableProducts event => exact committed_of_reads hs ⟨_, s, rfl, .refl⟩
  | listOrders query => exact committed_of_reads hs ⟨_, s, rfl, .refl⟩
  | listUserTickets user event => exact committed_of_reads hs ⟨_, s, rfl, .refl⟩
  | ticketStats event => exact committed_of_reads hs ⟨_, s, rfl, .refl⟩

/-- A call that succeeds changes its own rows and no others, and nothing that is called changes the
lines of an order that is there. -/
theorem calls_keep_to_own_rows (h : Reachable channel anyCall s)
    (env : Environment) (c : ServiceCall) (hok : (serve channel (c.service env) s).1.isOk = true)
    (hfresh : (serve channel (c.service env) s).2.sources.ids.Fresh) :
    c.Touches s.committed (serve channel (c.service env) s).2.committed ∧
      ∀ s', Later channel s s' → s'.sources.ids.Fresh → ∀ id, (s.committed.orders.get? id).isSome →
        s'.committed.itemsOf id = s.committed.itemsOf id := by
  refine ⟨?_, fun s' hl hfresh' id ho => hl.itemsOf_eq h hfresh' ho⟩
  rcases hs : serve channel (c.service env) s with ⟨e | a, s'⟩ <;> rw [hs] at hok hfresh
  · cases hok
  · exact touches_of_serve h hs hfresh

theorem calls_keep_to_own_rows_confirmed :
    let pending := Sample.store [Sample.createProduct, Sample.createOrder]
    OrderConfirmed Sample.order pending.committed (Sample.store Sample.untilPaid).committed ∧
      (Sample.store (Sample.untilPaid ++ [Sample.cancelOrder])).committed.itemsOf Sample.order =
        pending.committed.itemsOf Sample.order := by
  have hsnoc := Sample.store_snoc [Sample.createProduct, Sample.createOrder] Sample.confirmOrder
  have hkept := calls_keep_to_own_rows
    (Sample.store_reachable [Sample.createProduct, Sample.createOrder])
    Sample.environment Sample.confirmOrder (by decide +kernel)
    (by rw [← hsnoc]; exact Sample.store_fresh _ (by decide +kernel))
  rw [← hsnoc] at hkept
  exact ⟨hkept.1, hkept.2 _ (Sample.store_later _ [Sample.confirmOrder, Sample.cancelOrder])
    (Sample.store_fresh _ (by decide +kernel)) _ (by decide +kernel)⟩

end Memory.State

end EventTickets
