import EventTickets.Proofs.Orders

/-!
# Orders add up

The lines of an order are priced one by one, and its subtotal, discount and tickets are made from
them. Prices may change and products may go afterwards; the order still adds up.
-/

namespace EventTickets

namespace OrderItem

def ticketUnits (picks : OrderItem → Bool) (items : List OrderItem) : Nat :=
  ((items.filter fun i => i.itemType == .ticket && picks i).map (·.quantity.toNat)).sum

def ticketNames (i : OrderItem) : List String := i.itemType.ticketsOf i.productRef i.quantity

variable (picks : OrderItem → Bool) (i : OrderItem) (items : List OrderItem)

theorem ticketUnits_cons :
    ticketUnits picks (i :: items) =
      (if i.itemType = .ticket ∧ picks i = true then i.quantity.toNat else 0) +
        ticketUnits picks items := by
  by_cases hkind : i.itemType = .ticket <;> by_cases hpick : picks i = true <;>
    simp [ticketUnits, hkind, hpick]

theorem length_ticketNames :
    (items.flatMap ticketNames).length = ticketUnits (fun _ => true) items := by
  induction items with
  | nil => rfl
  | cons i rest ih =>
    rw [List.flatMap_cons, List.length_append, ih, ticketUnits_cons]
    cases hkind : i.itemType <;> simp [ticketNames, ItemType.ticketsOf, hkind]

theorem count_ticketNames (name : String) :
    (items.flatMap ticketNames).count name = ticketUnits (fun i => i.productRef == name) items := by
  induction items with
  | nil => rfl
  | cons i rest ih =>
    rw [List.flatMap_cons, List.count_append, ih, ticketUnits_cons]
    cases hkind : i.itemType <;> simp [ticketNames, ItemType.ticketsOf, hkind, List.count_replicate]

end OrderItem

theorem TicketType.name_injective {a b : TicketType} (h : a.name = b.name) : a = b := by
  revert h
  cases a <;> cases b <;> decide

namespace Ticket

/-- Whether a ticket admits as many as its tier says, and whom the order was placed for. -/
def Suits (k : Ticket) (order : Order) : Prop :=
  k.quantity = k.ticketType.groupSize ∧ k.userId = order.userId ∧ k.eventId = order.eventId

def asSold (k : Ticket) : Ticket :=
  { k with
    qrPayload := none, qrPayloadHash := none, qrIssuedAt := none, redeemedAt := none,
    redeemedBy := none }

end Ticket

def Order.asPlaced (order : Order) : Order :=
  { order with
    status := .pending,
    confirmedAt := none,
    confirmedBy := none,
    canceledAt := none,
    canceledBy := none,
    canceledReason := none,
    redeemedAt := none,
    updatedAt := order.createdAt }

theorem Order.asPlaced_apply (transition : OrderTransition) (order : Order) :
    (transition.apply order).asPlaced = order.asPlaced := by
  cases transition <;> rfl

/-- The amounts of an order and its lines are exact, and its tickets are those that its ticket lines
ask for. -/
structure Order.AddsUp (order : Order) (items : List OrderItem) (tickets : List Ticket) : Prop where
  distinct : (items.map fun i => (i.itemType, i.productId)).Nodup
  quantity : ∀ i ∈ items, 1 ≤ i.quantity
  line : ∀ i ∈ items, i.lineTotalCents.toInt = i.unitPriceCents.toInt * i.quantity.toNat
  subtotal : order.subtotalCents.toInt = (items.map (·.lineTotalCents.toInt)).sum
  positive : 0 < order.subtotalCents.toInt
  discount : 0 ≤ order.discountCents.toInt ∧ order.discountCents.toInt ≤ order.subtotalCents.toInt
  promo : 0 < order.discountCents.toInt → order.promoCodeId.isSome
  total : order.totalCents.toInt = order.subtotalCents.toInt - order.discountCents.toInt
  total_nonneg : 0 ≤ order.totalCents.toInt
  tier : ∀ tier : TicketType, (tickets.filter (·.ticketType == tier)).length =
    OrderItem.ticketUnits (fun i => i.productRef == tier.name) items
  count : tickets.length = OrderItem.ticketUnits (fun _ => true) items
  ticket : ∀ k ∈ tickets, k.Suits order

theorem Order.AddsUp.congr {order order' : Order} {items : List OrderItem}
    {tickets tickets' : List Ticket} (h : order.AddsUp items tickets)
    (ho : order'.asPlaced = order.asPlaced)
    (ht : tickets'.map Ticket.asSold = tickets.map Ticket.asSold) :
    order'.AddsUp items tickets' := by
  have huser : order'.userId = order.userId := congrArg (·.userId) ho
  have hevent : order'.eventId = order.eventId := congrArg (·.eventId) ho
  have hpromo : order'.promoCodeId = order.promoCodeId := congrArg (·.promoCodeId) ho
  have hsubtotal : order'.subtotalCents = order.subtotalCents := congrArg (·.subtotalCents) ho
  have hdiscount : order'.discountCents = order.discountCents := congrArg (·.discountCents) ho
  have htotal : order'.totalCents = order.totalCents := congrArg (·.totalCents) ho
  have hlength : tickets'.length = tickets.length := by simpa using congrArg List.length ht
  have htier : ∀ (tier : TicketType) (tickets : List Ticket),
      (tickets.filter (·.ticketType == tier)).length =
      ((tickets.map Ticket.asSold).filter (·.ticketType == tier)).length := by
    intro tier tickets
    rw [List.filter_map, List.length_map]
    rfl
  constructor
  · exact h.distinct
  · exact h.quantity
  · exact h.line
  · rw [hsubtotal]
    exact h.subtotal
  · rw [hsubtotal]
    exact h.positive
  · rw [hdiscount, hsubtotal]
    exact h.discount
  · rw [hdiscount, hpromo]
    exact h.promo
  · rw [htotal, hsubtotal, hdiscount]
    exact h.total
  · rw [htotal]
    exact h.total_nonneg
  · intro tier
    rw [htier, ht, ← htier]
    exact h.tier tier
  · rw [hlength]
    exact h.count
  · intro k' hk'
    have hmem : k'.asSold ∈ tickets.map Ticket.asSold := ht ▸ List.mem_map_of_mem hk'
    obtain ⟨k, hk, hsold⟩ := List.mem_map.mp hmem
    have hsuits : k'.asSold.Suits order := hsold ▸ h.ticket k hk
    rw [Ticket.Suits, huser, hevent]
    exact hsuits

namespace Purchase.Placement

open Memory.Tables (itemRows itemRows_map mem_itemRows)

variable {t : Memory.Tables} {a b : Supply Uuid} {w : Placement}

theorem Sound.adds_up_rows (h : w.Sound t a b) (last : Int64) :
    w.order.order.AddsUp (itemRows last w.items) (w.tickets.map (·.ticket)) := by
  have hsum := h.adds_up
  have hrow : ∀ {P : OrderItem → Prop}, (∀ i ∈ w.items, ∀ n, P (i.item n)) →
      ∀ row ∈ itemRows last w.items, P row := by
    intro P hP row hrow
    obtain ⟨i, hi, n, rfl⟩ := mem_itemRows hrow
    exact hP i hi n
  have hkeys : (itemRows last w.items).map (fun i => (i.itemType, i.productId)) =
      w.items.map fun i => (i.itemType, i.productId) := itemRows_map (fun _ _ => rfl) last w.items
  have htotals : (itemRows last w.items).map (·.lineTotalCents.toInt) =
      w.items.map (·.lineTotalCents.toInt) :=
    itemRows_map (fun _ _ => rfl) last w.items
  have hnames : (w.tickets.map (·.ticket)).map (·.ticketType.name) =
      (itemRows last w.items).flatMap OrderItem.ticketNames := by
    have hline : (itemRows last w.items).map OrderItem.ticketNames =
        w.items.map fun i => i.itemType.ticketsOf i.productRef i.quantity :=
        itemRows_map (fun _ _ => rfl) last w.items
    rw [List.map_map, List.flatMap_def, hline, ← List.flatMap_def]
    exact hsum.tier
  refine ⟨?_, ?_, ?_, ?_, hsum.positive, hsum.discount, ?_, hsum.total, ?_, fun tier => ?_, ?_, ?_⟩
  · rw [hkeys]
    exact hsum.distinct
  · exact hrow fun i hi n => UInt32.le_iff_toNat_le.mpr
      (UInt32.lt_iff_toNat_lt.mp (hsum.quantity i hi))
  · exact hrow fun i hi n => hsum.line i hi
  · rw [htotals]
    exact hsum.subtotal
  · intro hpositive
    by_contra hnone
    rw [Option.not_isSome_iff_eq_none] at hnone
    have hzero : w.order.order.discountCents = 0 := hsum.promo hnone
    rw [hzero] at hpositive
    exact Int.lt_irrefl _ hpositive
  · have htotal : w.order.order.totalCents.toInt = _ := hsum.total
    have hdiscount := hsum.discount
    omega
  · have hcount : ∀ tickets : List Ticket, (tickets.filter (·.ticketType == tier)).length =
        (tickets.map (·.ticketType.name)).count tier.name := by
      intro tickets
      rw [List.count_eq_countP, List.countP_map, List.countP_eq_length_filter]
      refine congrArg List.length (List.filter_congr fun k _ => ?_)
      rw [Function.comp_apply, Bool.eq_iff_iff, beq_iff_eq, beq_iff_eq]
      exact ⟨congrArg _, TicketType.name_injective⟩
    rw [hcount, hnames, OrderItem.count_ticketNames]
  · have hlength := congrArg List.length hnames
    rwa [List.length_map, OrderItem.length_ticketNames] at hlength
  · refine List.forall_mem_map.mpr fun k hk => ?_
    obtain ⟨tier, id, time, rfl⟩ := h.ticket k hk
    exact ⟨rfl, rfl, rfl⟩

end Purchase.Placement

namespace Memory.Tables

variable {t t' : Tables}

structure SameSales (t t' : Tables) : Prop where
  orders : ∀ id, (t'.orders.get? id).map Order.asPlaced = (t.orders.get? id).map Order.asPlaced
  tickets : t'.tickets.map Ticket.asSold = t.tickets.map Ticket.asSold
  orderItems : t'.orderItems = t.orderItems

theorem asPlaced_modify {id : OrderId} {transition : OrderTransition}
    (h : t'.orders = t.orders.modify id transition.apply) (id' : OrderId) :
    (t'.orders.get? id').map Order.asPlaced = (t.orders.get? id').map Order.asPlaced := by
  rw [h, Table.get?_modify]
  split
  · rw [Option.map_map]
    exact congrArg (Option.map · _) (funext (Order.asPlaced_apply transition))
  · rfl

theorem SameSales.order (h : SameSales t t') {id : OrderId} {order' : Order}
    (ho' : t'.orders.get? id = some order') :
    ∃ order, t.orders.get? id = some order ∧ order'.asPlaced = order.asPlaced := by
  have ho := h.orders id
  rw [ho', Option.map_some, eq_comm, Option.map_eq_some_iff] at ho
  obtain ⟨order, ho, hplaced⟩ := ho
  exact ⟨order, ho, hplaced.symm⟩

theorem SameSales.ticketsOf (h : SameSales t t') (id : OrderId) :
    (t'.ticketsOf id).map Ticket.asSold = (t.ticketsOf id).map Ticket.asSold := by
  have hsold : ∀ t : Tables, (t.ticketsOf id).map Ticket.asSold =
      (t.tickets.map Ticket.asSold).filter (·.orderId == id) := fun t => by
    rw [List.filter_map]
    rfl
  rw [hsold, hsold, h.tickets]

theorem Attached.sameSales (h : t.Attached) (hsame : SameSales t t') : t'.Attached := by
  refine h.of_kept (fun id hid => ?_) ?_ hsame.orderItems
  · rwa [← Option.isSome_map, hsame.orders, Option.isSome_map]
  · have horder : ∀ t : Tables, t.tickets.map (·.orderId) =
        (t.tickets.map Ticket.asSold).map (·.orderId) := fun t => by
      rw [List.map_map]
      rfl
    rw [horder, horder, hsame.tickets]

theorem sameSales_redeemed (t : Tables) (ticket : Ticket) (operator : OperatorId)
    (now : Time.Instant) : SameSales t (t.redeemed ticket operator now) where
  orders id := by
    have horders := orders_redeemed t ticket operator now
    split at horders
    · exact asPlaced_modify horders id
    · rw [horders]
  tickets := by
    have hmarked : (t.modifyTicket ticket.id (Ticket.redeem operator now)).tickets.map
        Ticket.asSold =
        t.tickets.map Ticket.asSold := by
      refine map_modifyTicket (fun k => ?_) ticket.id t
      rfl
    rw [redeemed]
    split <;> exact hmarked
  orderItems := orderItems_redeemed t ticket operator now

theorem sales_effect {a b : Supply Uuid} {env : Environment} {now : Time.Instant} {c : ServiceCall}
    (he : Effect env a b now t c t') :
    (∃ w t₁, t.PromoTaken w.order.promoCodeId t₁ ∧ w.Sound t a b ∧ t' = t₁.placed w) ∨
      SameSales t t' := by
  cases he with
  | catalog hchange =>
    have hsame := hchange.sameOrders
    exact .inr ⟨fun id => by rw [hsame.orders], by rw [hsame.tickets], hsame.orderItems⟩
  | place request w t₁ hpromo hw => exact .inl ⟨w, t₁, hpromo, hw, rfl⟩
  | confirm hcall t₁ nonces hr =>
    exact .inr ⟨asPlaced_modify (orders_confirmed hr _ _ _ nonces),
      map_confirmed hr _ _ _ nonces fun _ _ => rfl, orderItems_confirmed hr _ _ _ nonces⟩
  | cancel id operator reason order ho hopen =>
    exact .inr ⟨asPlaced_modify (orders_canceled t id order operator now _),
      congrArg _ (tickets_canceled t id order operator now _),
      orderItems_canceled t id order operator now _⟩
  | redeem id operator token ticket order hadmitted =>
    exact .inr (sameSales_redeemed t ticket operator now)

structure AddUp (t : Tables) : Prop where
  attached : t.Attached
  order : ∀ id order, t.orders.get? id = some order → order.AddsUp (t.itemsOf id) (t.ticketsOf id)

theorem AddUp.sameSales (h : t.AddUp) (hsame : SameSales t t') : t'.AddUp := by
  refine ⟨h.attached.sameSales hsame, fun id order' ho' => ?_⟩
  obtain ⟨order, ho, hplaced⟩ := hsame.order ho'
  rw [itemsOf_congr hsame.orderItems]
  exact (h.order id order ho).congr hplaced (hsame.ticketsOf id)

theorem AddUp.placed {a b : Supply Uuid} {w : Purchase.Placement} {t₁ : Tables} (h : t.AddUp)
    (hpromo : t.PromoTaken w.order.promoCodeId t₁) (hw : w.Sound t a b) : (t₁.placed w).AddUp := by
  refine ⟨h.attached.placed hpromo hw, fun id order ho => ?_⟩
  rw [orders_placed hpromo, Table.get?_insert] at ho
  rw [itemsOf_placed hpromo hw, ticketsOf_placed hpromo hw]
  split at ho
  · next e =>
    cases e
    cases ho
    rw [if_pos rfl, if_pos rfl, h.attached.itemsOf_absent hw.absent,
      h.attached.ticketsOf_absent hw.absent]
    exact hw.adds_up_rows _
  · next e =>
    rw [if_neg e, if_neg e, List.append_nil, List.append_nil]
    exact h.order id order ho

end Memory.Tables

namespace Memory.State

variable {σ : Type} {channel : Channel σ} {s : State σ}

theorem Reachable.addUp {allowed : State σ → Environment → ServiceCall → Prop}
    (h : Reachable channel allowed s) : s.committed.AddUp := by
  refine h.kept (P := fun s => s.committed.AddUp) ?_ ?_ ?_
  · refine fun _ _ => ⟨Tables.attached_empty, fun id order ho => ?_⟩
    cases ho
  · exact fun s events users hadd => ⟨⟨hadd.attached.ticket, hadd.attached.item⟩, hadd.order⟩
  · intro s s' env c t' _ _ hbecomes heffect hadd
    rw [hbecomes.committed]
    rcases Tables.sales_effect heffect with ⟨w, t₁, hpromo, hw, rfl⟩ | hsame
    · exact hadd.placed hpromo hw
    · exact hadd.sameSales hsame

/-- In every store each order adds up, whatever became of the products since. -/
theorem every_order_adds_up (h : Reachable channel anyCall s) (id : OrderId) (order : Order)
    (ho : s.committed.orders.get? id = some order) :
    order.AddsUp (s.committed.itemsOf id) (s.committed.ticketsOf id) :=
  h.addUp.order id order ho

theorem every_order_adds_up_discounted :
    ∃ order, (Sample.store Sample.untilRepriced).committed.orders.get? Sample.discountedOrder =
      some order ∧
      (order.subtotalCents, order.discountCents, order.totalCents) = (10000, 1000, 9000) ∧
      order.AddsUp ((Sample.store Sample.untilRepriced).committed.itemsOf Sample.discountedOrder)
        ((Sample.store Sample.untilRepriced).committed.ticketsOf Sample.discountedOrder) := by
  have hamounts : ((Sample.store Sample.untilRepriced).committed.orders.get?
      Sample.discountedOrder).map
      (fun order => (order.subtotalCents, order.discountCents, order.totalCents)) =
      some (10000, 1000, 9000) := by
    decide +kernel
  obtain ⟨order, ho, horder⟩ := Option.map_eq_some_iff.mp hamounts
  exact ⟨order, ho, horder, every_order_adds_up
    (Sample.store_reachable Sample.untilRepriced) _ order ho⟩

end Memory.State

end EventTickets
