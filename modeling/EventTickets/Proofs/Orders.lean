import EventTickets.Proofs.Runs

/-!
# The course of an order

Calls concern one order at a time. `OrderStep` says what a call can do to an order and its tickets;
what its steps keep holds of every order in every store.
-/

namespace EventTickets

inductive OrderStep (env : Environment) (now : Time.Instant) (c : ServiceCall) (order : Order)
    (tickets : List Ticket) : Order → List Ticket → Prop
  | same : OrderStep env now c order tickets order tickets
  | confirm (id : OrderId) (operator : OperatorId) (call : c.Confirms id operator)
      (nonces : TicketId → String)
    (pending : order.status = .pending) :
    OrderStep env now c order tickets ((OrderTransition.confirm operator now).apply order)
      (tickets.map fun k => k.issue env.secret now (nonces k.id))
  | cancel (operator : OperatorId) (reason : Option String)
      (open_ : order.status.isTerminal = false) :
    OrderStep env now c order tickets
      ((OrderTransition.cancel operator now reason).apply order) tickets
  | redeem (k : Ticket) (operator : OperatorId) (mem : k ∈ tickets)
      (unredeemed : k.isRedeemed = false)
    (purchased : order.status.isPurchased = true) (marked : List Ticket)
    (mark : marked = tickets.map fun k' => if k'.id = k.id then k'.redeem operator now else k') :
    OrderStep env now c order tickets
      (if marked.all (·.isRedeemed) then (OrderTransition.redeem now).apply order else order) marked

namespace Memory.Tables

variable {t t' : Tables}

theorem ticketsOf_map {f : Ticket → Ticket} (h : t'.tickets = t.tickets.map f)
    (hf : ∀ k, (f k).orderId = k.orderId) (id : OrderId) :
    t'.ticketsOf id = (t.ticketsOf id).map f := by
  simp only [ticketsOf, h, List.filter_map]
  refine congrArg _ (List.filter_congr fun k _ => ?_)
  simp [hf]

theorem ticket?_map {f : Ticket → Ticket} (h : t'.tickets = t.tickets.map f)
    (hf : ∀ k, (f k).id = k.id) (id : TicketId) : t'.ticket? id = (t.ticket? id).map f := by
  rw [ticket?, ticket?, h, List.find?_map]
  refine congrArg _ (congrArg (List.find? · t.tickets) (funext fun k => ?_))
  simp [hf]

theorem ticketsOf_congr (h : t'.tickets = t.tickets) (id : OrderId) :
    t'.ticketsOf id = t.ticketsOf id := by
  rw [ticketsOf, ticketsOf, h]

theorem orderStep_confirmed (hd : t.TicketsDistinct) {t₁ : Tables} {id : OrderId}
    {operator : OperatorId} {now : Time.Instant} {env : Environment} {c : ServiceCall}
    (hcall : c.Confirms id operator) (hr : t.reservedFor id = .ok t₁) (nonces : Nat → String)
    {id' : OrderId} {order : Order} (ho : t.orders.get? id' = some order) :
    ∃ order', (t₁.confirmed id operator now env.secret nonces).orders.get? id' = some order' ∧
      OrderStep env now c order (t.ticketsOf id') order'
        ((t₁.confirmed id operator now env.secret nonces).ticketsOf id') := by
  obtain ⟨byId, hmap⟩ := tickets_confirmed hr operator now env.secret nonces hd
  have htickets := ticketsOf_map hmap (fun k => by split <;> rfl) id'
  rw [orders_confirmed hr operator now env.secret nonces, Table.get?_modify, htickets]
  obtain ⟨order₀, ho₀, hpending, -⟩ := reservedFor_eq_ok hr
  by_cases e : id' = id
  · subst e
    cases ho.symm.trans ho₀
    rw [if_pos rfl, ho]
    have hissue : ∀ k ∈ t.ticketsOf id',
        (if k.orderId = id' then k.issue env.secret now (byId k.id) else k) =
        k.issue env.secret now (byId k.id) :=
      fun k hk => if_pos (mem_ticketsOf.mp hk).2
    rw [List.map_congr_left hissue]
    exact ⟨_, rfl, .confirm id' operator hcall byId hpending⟩
  · have hothers : ∀ k ∈ t.ticketsOf id',
        (if k.orderId = id then k.issue env.secret now (byId k.id) else k) = k :=
      fun k hk => if_neg fun e' => e ((mem_ticketsOf.mp hk).2.symm.trans e')
    rw [if_neg e, List.map_congr_left hothers, List.map_id']
    exact ⟨order, ho, .same⟩

theorem orderStep_canceled {id : OrderId} {canceledOrder : Order} (operator : OperatorId)
    (now : Time.Instant) (reason : Option String) (env : Environment) (c : ServiceCall)
    (hcanceled : t.orders.get? id = some canceledOrder)
    (hopen : canceledOrder.status.isTerminal = false) {id' : OrderId} {order : Order}
    (ho : t.orders.get? id' = some order) :
    ∃ order', (t.canceled id canceledOrder operator now reason).orders.get? id' = some order' ∧
      OrderStep env now c order (t.ticketsOf id') order'
        ((t.canceled id canceledOrder operator now reason).ticketsOf id') := by
  rw [orders_canceled, Table.get?_modify,
    ticketsOf_congr (tickets_canceled t id canceledOrder operator now reason)]
  by_cases e : id' = id
  · subst e
    cases ho.symm.trans hcanceled
    rw [if_pos rfl, ho]
    exact ⟨_, rfl, .cancel operator reason hopen⟩
  · rw [if_neg e]
    exact ⟨order, ho, .same⟩

theorem ticketsOf_redeemed (hd : t.TicketsDistinct) (ticket : Ticket) (operator : OperatorId)
    (now : Time.Instant) (id : OrderId) :
    (t.redeemed ticket operator now).ticketsOf id =
      (t.ticketsOf id).map fun k => if k.id = ticket.id then k.redeem operator now else k :=
  ticketsOf_map (tickets_redeemed t ticket operator now hd) (fun k => by split <;> rfl) id

theorem ticketsOf_redeemed_of_ne (hd : t.TicketsDistinct) {ticket : Ticket}
    (hmem : ticket ∈ t.tickets) (operator : OperatorId) (now : Time.Instant) {id : OrderId}
    (hne : id ≠ ticket.orderId) :
    (t.redeemed ticket operator now).ticketsOf id = t.ticketsOf id := by
  rw [ticketsOf_redeemed hd]
  have hothers : ∀ k ∈ t.ticketsOf id,
      (if k.id = ticket.id then k.redeem operator now else k) = k := by
    intro k hk
    obtain ⟨hk, horder⟩ := mem_ticketsOf.mp hk
    refine if_neg fun e => hne ?_
    rw [← horder, List.inj_on_of_nodup_map hd hk hmem e]
  rw [List.map_congr_left hothers, List.map_id']

theorem usedUp_redeemed (ticket : Ticket) (operator : OperatorId)
    (now : Time.Instant) (id : OrderId) :
    (t.modifyTicket ticket.id (Ticket.redeem operator now)).usedUp id =
      (t.redeemed ticket operator now).usedUp id := by
  simp only [redeemed]
  split <;> rfl

theorem orderStep_redeemed (hd : t.TicketsDistinct) {ticket : Ticket}
    {ticketOrder : Order} {env : Environment} {id : TicketId} {token : Option String}
    (hadmitted : t.admission env.secret id token = .ok (ticket, ticketOrder))
    (operator : OperatorId) (now : Time.Instant) (c : ServiceCall) {id' : OrderId} {order : Order}
    (ho : t.orders.get? id' = some order) :
    ∃ order', (t.redeemed ticket operator now).orders.get? id' = some order' ∧
      OrderStep env now c order (t.ticketsOf id') order'
        ((t.redeemed ticket operator now).ticketsOf id') := by
  obtain ⟨hfound, hto, hunredeemed, hpurchased, -⟩ := admission_eq_ok_iff.mp hadmitted
  have hmem : ticket ∈ t.tickets := (mem_of_ticket? hfound).1
  rw [orders_redeemed, usedUp_redeemed, usedUp]
  by_cases e : id' = ticket.orderId
  · subst e
    cases ho.symm.trans hto
    refine ⟨_, ?_, .redeem ticket operator (mem_ticketsOf.mpr ⟨hmem, rfl⟩) hunredeemed hpurchased _
      (ticketsOf_redeemed hd ticket operator now _)⟩
    split
    · rw [Table.get?_modify, if_pos rfl, ho]
      rfl
    · exact ho
  · rw [ticketsOf_redeemed_of_ne hd hmem operator now e]
    refine ⟨order, ?_, .same⟩
    split
    · rw [Table.get?_modify, if_neg e, ho]
    · exact ho

theorem ticketsOf_placed {t₁ : Tables} {w : Purchase.Placement} {a b : Supply Uuid}
    (hpromo : t.PromoTaken w.order.promoCodeId t₁) (hw : w.Sound t a b) (id : OrderId) :
    (t₁.placed w).ticketsOf id =
      t.ticketsOf id ++ if id = w.order.id then w.tickets.map (·.ticket) else [] := by
  have horder : ∀ k ∈ w.tickets.map (·.ticket), k.orderId = w.order.id := by
    intro row hrow
    obtain ⟨k, hk, rfl⟩ := List.mem_map.mp hrow
    obtain ⟨tier, uuid, time, rfl⟩ := hw.ticket k hk
    rfl
  rw [ticketsOf, ticketsOf, tickets_placed hpromo, List.filter_append]
  congr 1
  split
  · next e => exact List.filter_eq_self.mpr fun k hk => beq_iff_eq.mpr ((horder k hk).trans e.symm)
  · next e =>
    refine List.filter_eq_nil_iff.mpr fun k hk hid => e ?_
    rw [← beq_iff_eq.mp hid, horder k hk]

theorem Attached.ticketsOf_absent (h : t.Attached) {id : OrderId} (ho : t.orders.get? id = none) :
    t.ticketsOf id = [] := by
  refine List.filter_eq_nil_iff.mpr fun k hk e => ?_
  have hsome := h.ticket k hk
  rw [beq_iff_eq.mp e, ho] at hsome
  cases hsome

theorem Attached.itemsOf_absent (h : t.Attached) {id : OrderId} (ho : t.orders.get? id = none) :
    t.itemsOf id = [] := by
  refine List.filter_eq_nil_iff.mpr fun i hi e => ?_
  have hsome := h.item i hi
  rw [beq_iff_eq.mp e, ho] at hsome
  cases hsome

theorem itemsOf_congr (h : t'.orderItems = t.orderItems) (id : OrderId) :
    t'.itemsOf id = t.itemsOf id := by
  rw [itemsOf, itemsOf, h]

theorem itemsOf_placed {t₁ : Tables} {w : Purchase.Placement} {a b : Supply Uuid}
    (hpromo : t.PromoTaken w.order.promoCodeId t₁) (hw : w.Sound t a b) (id : OrderId) :
    (t₁.placed w).itemsOf id =
      t.itemsOf id ++ if id = w.order.id then itemRows t.lastItemId w.items else [] := by
  have horder : ∀ row ∈ itemRows t.lastItemId w.items, row.orderId = w.order.id := by
    intro row hrow
    obtain ⟨i, hi, e, -⟩ := itemRows_order hrow
    exact e.trans (hw.item_order i hi)
  rw [itemsOf, itemsOf, orderItems_placed hpromo, List.filter_append]
  congr 1
  split
  · next e => exact List.filter_eq_self.mpr fun i hi => beq_iff_eq.mpr ((horder i hi).trans e.symm)
  · next e =>
    refine List.filter_eq_nil_iff.mpr fun i hi hid => e ?_
    rw [← beq_iff_eq.mp hid, horder i hi]

section

variable {drawn : Uuid → Prop} {a b : Supply Uuid} {env : Environment}
  {now : Time.Instant} {c : ServiceCall}
  {id : OrderId}

theorem orderStep_effect (hc : t.Consistent drawn) (he : Effect env a b now t c t') {order : Order}
    (ho : t.orders.get? id = some order) :
    ∃ order', t'.orders.get? id = some order' ∧
      OrderStep env now c order (t.ticketsOf id) order' (t'.ticketsOf id) := by
  cases he with
  | catalog hchange =>
    have hsame := hchange.sameOrders
    rw [hsame.orders, ticketsOf_congr hsame.tickets]
    exact ⟨order, ho, .same⟩
  | place request w t₁ hpromo hw =>
    have hne : id ≠ w.order.id := by
      rintro rfl
      rw [hw.absent] at ho
      cases ho
    rw [orders_placed hpromo, Table.get?_insert, if_neg hne, ticketsOf_placed hpromo hw,
      if_neg hne, List.append_nil]
    exact ⟨order, ho, .same⟩
  | confirm call t₁ nonces hr => exact orderStep_confirmed hc.distinct call hr nonces ho
  | cancel id operator reason canceledOrder hcanceled hopen =>
    exact orderStep_canceled operator now (reason.bind Text.nonBlank?) env _ hcanceled hopen ho
  | redeem id operator token ticket ticketOrder hadmitted =>
    exact orderStep_redeemed hc.distinct hadmitted operator now _ ho

theorem newOrder_effect (hc : t.Consistent drawn) (he : Effect env a b now t c t') {order' : Order}
    (ho : t.orders.get? id = none) (ho' : t'.orders.get? id = some order') :
    ∃ w : Purchase.Placement, w.Sound t a b ∧ order' = w.order.order ∧
      t'.ticketsOf id = w.tickets.map (·.ticket) := by
  have hnone : ∀ {transition : OrderTransition} {id' : OrderId},
      (t.orders.modify id' transition.apply).get? id ≠ some order' := by
    intro transition id' h
    rw [Table.get?_modify, ho] at h
    split at h <;> cases h
  cases he with
  | catalog hchange =>
    rw [hchange.sameOrders.orders, ho] at ho'
    cases ho'
  | place request w t₁ hpromo hw =>
    rw [orders_placed hpromo, Table.get?_insert] at ho'
    split at ho'
    · next e =>
      subst e
      cases ho'
      refine ⟨w, hw, rfl, ?_⟩
      rw [ticketsOf_placed hpromo hw, if_pos rfl,
        hc.attached.ticketsOf_absent hw.absent, List.nil_append]
    · rw [ho] at ho'
      cases ho'
  | @confirm _ _ operator call t₁ nonces hr =>
    rw [orders_confirmed hr operator now env.secret nonces] at ho'
    exact (hnone ho').elim
  | cancel id operator reason canceledOrder hcanceled hopen =>
    rw [orders_canceled] at ho'
    exact (hnone ho').elim
  | redeem id operator token ticket ticketOrder hadmitted =>
    rw [orders_redeemed] at ho'
    split at ho'
    · exact (hnone ho').elim
    · rw [ho] at ho'
      cases ho'

end

end Memory.Tables

namespace Memory.State

open Tables

variable {σ : Type} {channel : Channel σ} {allowed : State σ → Environment → ServiceCall → Prop}
  {s : State σ}

/-- What holds of new orders with their tickets and is kept by every step holds of all orders in
every store. -/
theorem Reachable.everyOrder {P : Order → List Ticket → Prop}
    (hnew : ∀ {t a b} {w : Purchase.Placement}, w.Sound t a b →
      P w.order.order (w.tickets.map (·.ticket)))
    (hstep : ∀ {s env c order tickets order' tickets'}, allowed s env c →
      OrderStep env s.sources.now.1 c order tickets order' tickets' →
        P order tickets → P order' tickets')
    (h : Reachable channel allowed s) (hfresh : s.sources.ids.Fresh) {id : OrderId} {order : Order}
    (ho : s.committed.orders.get? id = some order) : P order (s.committed.ticketsOf id) := by
  refine h.invariant (I := fun t => ∀ id order, t.orders.get? id = some order →
    P order (t.ticketsOf id))
    ?_ ?_ ?_ hfresh id order ho
  · intro id order ho
    cases ho
  · exact fun t events users ht => ht
  · intro s env c t' after hwell ha hafter hfresh heffect hP id order' ho'
    rcases ho : s.committed.orders.get? id with _ | order
    · obtain ⟨w, hw, rfl, htickets⟩ := newOrder_effect hwell.consistent heffect ho ho'
      rw [htickets]
      exact hnew hw
    · obtain ⟨order₁, ho₁, hstep₁⟩ := orderStep_effect hwell.consistent heffect ho
      cases ho₁.symm.trans ho'
      exact hstep ha hstep₁ (hP id order ho)

theorem Reachable.orderStep (h : Reachable channel allowed s) (env : Environment) (c : ServiceCall)
    (hfresh : s.sources.ids.Fresh) {id : OrderId} {order : Order}
    (ho : s.committed.orders.get? id = some order) :
    ∃ order', (serve channel (c.service env) s).2.committed.orders.get? id = some order' ∧
      OrderStep env s.sources.now.1 c order (s.committed.ticketsOf id) order'
        ((serve channel (c.service env) s).2.committed.ticketsOf id) := by
  obtain ⟨t', hbecomes, heffect⟩ := call_effect channel env s c
  rw [hbecomes.committed]
  exact orderStep_effect (h.wellFormed hfresh).consistent heffect ho

end Memory.State

end EventTickets
