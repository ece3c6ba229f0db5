import EventTickets.Proofs.Lifecycle

/-!
# What is final

An order that is canceled or redeemed stays as it is, with its lines and its tickets, whatever is
asked of the services afterwards. A ticket gets its token once and is checked in once, and no order,
line or ticket is ever lost.
-/

namespace EventTickets

namespace Ticket

variable {k k' : Ticket}

def token (k : Ticket) : Option String × Option String × Option Time.Instant :=
  (k.qrPayload, k.qrPayloadHash, k.qrIssuedAt)

def checkIn (k : Ticket) : Option Time.Instant × Option OperatorId := (k.redeemedAt, k.redeemedBy)

def bare (k : Ticket) : Ticket :=
  { k with
    qrPayload := none, qrPayloadHash := none, qrIssuedAt := none, redeemedAt := none,
    redeemedBy := none }

structure Ages (k k' : Ticket) : Prop where
  bare : k'.bare = k.bare
  token : k.token = (none, none, none) ∨ k'.token = k.token
  checkIn : k.checkIn = (none, none) ∨ k'.checkIn = k.checkIn

theorem Ages.refl (k : Ticket) : k.Ages k := ⟨rfl, .inr rfl, .inr rfl⟩

theorem Ages.trans {k'' : Ticket} (h : k.Ages k') (h' : k'.Ages k'') : k.Ages k'' where
  bare := h'.bare.trans h.bare
  token := h.token.elim .inl fun e => h'.token.imp (fun e' => e ▸ e') fun e' => e'.trans e
  checkIn := h.checkIn.elim .inl fun e => h'.checkIn.imp (fun e' => e ▸ e') fun e' => e'.trans e

theorem Whole.token_eq (h : k.Whole) (hnone : k.qrPayload = none) :
    k.token = (none, none, none) := by
  have hdigest := h.digest
  have hissuedAt := h.issuedAt
  rw [hnone, Option.isSome_none, Option.isSome_eq_false_iff,
    Option.isNone_iff_eq_none] at hdigest hissuedAt
  rw [token, hnone, hdigest, hissuedAt]

theorem Whole.checkIn_eq (h : k.Whole) (hunredeemed : k.isRedeemed = false) :
    k.checkIn = (none, none) := by
  have hredeemedBy := h.redeemedBy
  rw [isRedeemed] at hunredeemed
  rw [hunredeemed, Option.isSome_eq_false_iff, Option.isNone_iff_eq_none] at hredeemedBy
  rw [checkIn, hredeemedBy, Option.isNone_iff_eq_none.mp
    (Option.isSome_eq_false_iff.mp hunredeemed)]

end Ticket

/-- What a call can do to a ticket: its order is confirmed, or it is checked in. -/
inductive TicketStep (env : Environment) (now : Time.Instant) (c : ServiceCall) (k : Ticket) :
    Ticket → Prop
  | same : TicketStep env now c k k
  | issue (operator : OperatorId) (call : c.Confirms k.orderId operator)
      (blank : k.token = (none, none, none))
    (nonce : String) : TicketStep env now c k (k.issue env.secret now nonce)
  | redeem (operator : OperatorId) (presented : Option String)
      (call : c = .redeemTicket k.id operator presented)
    (issued : k.qrPayload.isSome) (blank : k.checkIn = (none, none)) :
    TicketStep env now c k (k.redeem operator now)

theorem TicketStep.ages {env : Environment} {now : Time.Instant} {c : ServiceCall} {k k' : Ticket}
    (h : TicketStep env now c k k') : k.Ages k' := by
  cases h with
  | same => exact .refl k
  | issue operator call blank nonce => exact ⟨rfl, .inl blank, .inr rfl⟩
  | redeem operator presented call issued blank => exact ⟨rfl, .inr rfl, .inl blank⟩

theorem OrderStep.of_terminal {env : Environment} {now : Time.Instant} {c : ServiceCall}
    {order order' : Order} {tickets tickets' : List Ticket}
    (h : OrderStep env now c order tickets order' tickets') (ha : order.Agrees tickets)
    (hterminal : order.status.isTerminal = true) : order' = order ∧ tickets' = tickets := by
  cases h with
  | same => exact ⟨rfl, rfl⟩
  | confirm id operator call nonces pending =>
    rw [pending] at hterminal
    cases hterminal
  | cancel operator reason open_ =>
    rw [open_] at hterminal
    cases hterminal
  | redeem k operator mem unredeemed purchased marked mark =>
    rw [(agrees_redeemed ha mem unredeemed purchased mark).1] at hterminal
    cases hterminal

namespace Memory.Tables

variable {t t' : Tables}

structure SameOrder (t t' : Tables) (id : OrderId) : Prop where
  order : t'.orders.get? id = t.orders.get? id
  items : t'.itemsOf id = t.itemsOf id
  tickets : t'.ticketsOf id = t.ticketsOf id

/-- All orders, lines and tickets are still there. Lines are the same, and tickets have aged. -/
structure Keeps (t t' : Tables) : Prop where
  orders : ∀ id, (t.orders.get? id).isSome → (t'.orders.get? id).isSome
  items : t.orderItems <+: t'.orderItems
  tickets : ∀ id k, t.ticket? id = some k → ∃ k', t'.ticket? id = some k' ∧ k.Ages k'

theorem Keeps.refl (t : Tables) : Keeps t t :=
  ⟨fun _ h => h, List.prefix_refl _, fun _ k hk => ⟨k, hk, .refl k⟩⟩

theorem Keeps.trans {t'' : Tables} (h : Keeps t t') (h' : Keeps t' t'') : Keeps t t'' := by
  refine ⟨fun id ho => h'.orders id (h.orders id ho), h.items.trans h'.items, fun id k hk => ?_⟩
  obtain ⟨k', hk', hages⟩ := h.tickets id k hk
  obtain ⟨k'', hk'', hages'⟩ := h'.tickets id k' hk'
  exact ⟨k'', hk'', hages.trans hages'⟩

section

variable {a b : Supply Uuid} {env : Environment} {now : Time.Instant} {c : ServiceCall}

theorem orderItems_effect (he : Effect env a b now t c t') :
    ∃ new, t'.orderItems = t.orderItems ++ new ∧ ∀ i ∈ new, t.orders.get? i.orderId = none := by
  have hsame : t'.orderItems = t.orderItems →
      ∃ new, t'.orderItems = t.orderItems ++ new ∧ ∀ i ∈ new, t.orders.get? i.orderId = none :=
    fun e => ⟨[], by rw [e, List.append_nil], fun i hi => (List.not_mem_nil hi).elim⟩
  cases he with
  | catalog hchange => exact hsame hchange.sameOrders.orderItems
  | place request w t₁ hpromo hw =>
    refine ⟨_, orderItems_placed hpromo, fun i hi => ?_⟩
    obtain ⟨i', hi', e, -⟩ := itemRows_order hi
    rw [e, hw.item_order i' hi', hw.absent]
  | @confirm _ _ operator call t₁ nonces hr =>
    exact hsame (orderItems_confirmed hr operator now env.secret nonces)
  | cancel id operator reason order found open_ => exact hsame (orderItems_canceled ..)
  | redeem id operator token ticket order admitted => exact hsame (orderItems_redeemed ..)

theorem itemsOf_effect (he : Effect env a b now t c t') {id : OrderId} {order : Order}
    (ho : t.orders.get? id = some order) : t'.itemsOf id = t.itemsOf id := by
  obtain ⟨new, hitems, hnew⟩ := orderItems_effect he
  rw [itemsOf, itemsOf, hitems, List.filter_append, List.append_right_eq_self,
    List.filter_eq_nil_iff]
  intro i hi e
  rw [← beq_iff_eq.mp e, hnew i hi] at ho
  cases ho

theorem ticketStep_effect {drawn : Uuid → Prop} (hc : t.Consistent drawn)
    (hagrees : ∀ id order, t.orders.get? id = some order → order.Agrees (t.ticketsOf id))
    (hwhole : ∀ k ∈ t.tickets, k.Whole) (he : Effect env a b now t c t') {id : TicketId}
    {k : Ticket} (hk : t.ticket? id = some k) :
    ∃ k', t'.ticket? id = some k' ∧ TicketStep env now c k k' := by
  have hsame : t'.tickets = t.tickets → ∃ k', t'.ticket? id = some k' ∧ TicketStep env now c k k' :=
    fun e => ⟨k, by rw [ticket?, e]; exact hk, .same⟩
  obtain ⟨hmem, rfl⟩ := mem_of_ticket? hk
  cases he with
  | catalog hchange => exact hsame hchange.sameOrders.tickets
  | place request w t₁ hpromo hw =>
    refine ⟨k, ?_, .same⟩
    rw [ticket?, tickets_placed hpromo, List.find?_append]
    rw [ticket?] at hk
    rw [hk]
    rfl
  | @confirm _ orderId operator call t₁ nonces hr =>
    obtain ⟨byId, hmap⟩ := tickets_confirmed hr operator now env.secret nonces hc.distinct
    rw [ticket?_map hmap (fun k => by split <;> rfl), hk, Option.map_some]
    refine ⟨_, rfl, ?_⟩
    split
    · next e =>
      obtain ⟨order, ho, hpending, -⟩ := reservedFor_eq_ok hr
      have hnone :=
        (((hagrees orderId order ho).pending hpending).2 k (mem_ticketsOf.mpr ⟨hmem, e⟩)).1
      exact .issue operator (e ▸ call) ((hwhole k hmem).token_eq hnone) _
    · exact .same
  | cancel id operator reason order found open_ => exact hsame (tickets_canceled ..)
  | redeem id operator presented ticket order admitted =>
    rw [ticket?_map (tickets_redeemed t ticket operator now hc.distinct)
      (fun k => by split <;> rfl), hk, Option.map_some]
    refine ⟨_, rfl, ?_⟩
    split
    · next e =>
      obtain ⟨hticket, ho, hunredeemed, hpurchased, -⟩ := admission_eq_ok_iff.mp admitted
      obtain ⟨hmem', rfl⟩ := mem_of_ticket? hticket
      obtain rfl := List.inj_on_of_nodup_map hc.distinct hmem hmem' e
      have ha := hagrees _ order ho
      have hk' := mem_ticketsOf.mpr ⟨hmem, rfl⟩
      obtain ⟨hpaid, -⟩ := @OrderStep.agrees_redeemed now _ _ _ operator _ ha hk'
        hunredeemed hpurchased rfl
      exact .redeem operator presented rfl ((ha.paid hpaid).2.1 k hk')
        ((hwhole k hmem).checkIn_eq hunredeemed)
    · exact .same

theorem keeps_effect {drawn : Uuid → Prop} (hc : t.Consistent drawn)
    (hagrees : ∀ id order, t.orders.get? id = some order → order.Agrees (t.ticketsOf id))
    (hwhole : ∀ k ∈ t.tickets, k.Whole) (he : Effect env a b now t c t') : Keeps t t' where
  orders id ho := by
    obtain ⟨order, ho⟩ := Option.isSome_iff_exists.mp ho
    obtain ⟨order', ho', -⟩ := orderStep_effect hc he ho
    rw [ho']
    rfl
  items := by
    obtain ⟨new, hitems, -⟩ := orderItems_effect he
    rw [hitems]
    exact List.prefix_append _ _
  tickets id k hk := by
    obtain ⟨k', hk', hstep⟩ := ticketStep_effect hc hagrees hwhole he hk
    exact ⟨k', hk', hstep.ages⟩

theorem sameOrder_effect {drawn : Uuid → Prop} (hc : t.Consistent drawn)
    {id : OrderId} {order : Order} (ho : t.orders.get? id = some order)
    (ha : order.Agrees (t.ticketsOf id)) (hterminal : order.status.isTerminal = true)
    (he : Effect env a b now t c t') : SameOrder t t' id := by
  obtain ⟨order', ho', hstep⟩ := orderStep_effect hc he ho
  obtain ⟨rfl, htickets⟩ := hstep.of_terminal ha hterminal
  exact ⟨ho'.trans ho.symm, itemsOf_effect he ho, htickets⟩

end

end Memory.Tables

namespace Memory.State

open Tables

variable {σ α : Type} {channel : Channel σ} {s s' : State σ}

def Rejects (channel : Channel σ) (s : State σ) (p : Service α) (e : TicketingError) : Prop :=
  ∃ after, serve channel p s = (.error e, after) ∧ s.Becomes s.committed after

/-- An order of which nothing more can be asked. -/
structure Closed (channel : Channel σ) (s : State σ) (id : OrderId) (order : Order) : Prop where
  confirm : ∀ env operator, Rejects channel s (confirmOrder env id operator)
    (.orderStateNotAllowed order.status)
  deliver : ∀ env operator, Rejects channel s (confirmAndDeliver env id operator)
    (.orderStateNotAllowed order.status)
  cancel : ∀ operator reason, Rejects channel s (cancelOrder id operator reason)
    (.orderStateNotAllowed order.status)
  redeem : ∀ k ∈ s.committed.ticketsOf id, ∀ env operator presented,
    Rejects channel s (redeemTicket env k.id operator presented)
      (if k.isRedeemed then .ticketAlreadyRedeemed k.id else .orderStateNotAllowed order.status)

theorem rejects_confirmOrder {id : OrderId} {order : Order}
    (ho : s.committed.orders.get? id = some order) (hs : order.status ≠ .pending)
    (env : Environment) (operator : OperatorId) :
    Rejects channel s (confirmOrder env id operator) (.orderStateNotAllowed order.status) := by
  have hreserved : s.committed.reservedFor id = .error (.orderStateNotAllowed order.status) := by
    simp only [reservedFor, ho, if_neg hs]
  rcases serve_confirmOrder channel s env id operator with
    ⟨e, after, he, hafter, h⟩ | ⟨t₁, _, _, _, hr, -⟩
  · cases hreserved.symm.trans he
    exact ⟨_, h, settled_becomes hafter _⟩
  · cases hreserved.symm.trans hr

theorem rejects_confirmAndDeliver {id : OrderId} {env : Environment} {operator : OperatorId}
    {e : TicketingError} (h : Rejects channel s (confirmOrder env id operator) e) :
    Rejects channel s (confirmAndDeliver env id operator) e := by
  obtain ⟨after, hs, hbecomes⟩ := h
  exact ⟨after, by rw [confirmAndDeliver, serve_bind, hs], hbecomes⟩

theorem rejects_cancelOrder {id : OrderId} {order : Order}
    (ho : s.committed.orders.get? id = some order) (hterminal : order.status.isTerminal = true)
    (operator : OperatorId) (reason : Option String) :
    Rejects channel s (cancelOrder id operator reason) (.orderStateNotAllowed order.status) := by
  have hopen : s.committed.openOrder id = .error (.orderStateNotAllowed order.status) := by
    simp only [openOrder, ho, if_pos hterminal]
  rcases serve_cancelOrder channel s id operator reason with
    ⟨e, after, he, hafter, h⟩ | ⟨_, _, _, ho', hopen', -⟩
  · cases hopen.symm.trans he
    exact ⟨_, h, settled_becomes hafter _⟩
  · cases ho.symm.trans ho'
    rw [hterminal] at hopen'
    cases hopen'

theorem rejects_redeemTicket (hd : s.committed.TicketsDistinct) {order : Order} {k : Ticket}
    (hk : k ∈ s.committed.tickets) (ho : s.committed.orders.get? k.orderId = some order)
    (hunsold : k.isRedeemed = false → order.status.isPurchased = false) (env : Environment)
    (operator : OperatorId) (presented : Option String) :
    Rejects channel s (redeemTicket env k.id operator presented)
      (if k.isRedeemed then .ticketAlreadyRedeemed k.id else
        .orderStateNotAllowed order.status) := by
  obtain ⟨after, hafter, hs⟩ := serve_redeemTicket channel s env k.id operator presented
  have hadmission : s.committed.admission env.secret k.id (presented.bind Text.nonBlank?) =
      .error (if k.isRedeemed then .ticketAlreadyRedeemed k.id else
        .orderStateNotAllowed order.status) := by
    simp only [admission, (ticket?_eq_some_iff hd).mpr ⟨hk, rfl⟩, ho]
    cases hr : k.isRedeemed with
    | true => rfl
    | false => simp only [hunsold hr, Bool.false_eq_true, if_false]
  rw [hadmission] at hs
  exact ⟨_, hs, settled_becomes hafter _⟩

namespace Reachable

variable {allowed : State σ → Environment → ServiceCall → Prop}

theorem closed (h : Reachable channel allowed s) (hfresh : s.sources.ids.Fresh)
    {id : OrderId} {order : Order} (ho : s.committed.orders.get? id = some order)
    (hterminal : order.status.isTerminal = true) : Closed channel s id order where
  confirm := rejects_confirmOrder ho (by rintro e; rw [e] at hterminal; cases hterminal)
  deliver env operator :=
    rejects_confirmAndDeliver (rejects_confirmOrder ho
      (by rintro e; rw [e] at hterminal; cases hterminal) env operator)
  cancel := rejects_cancelOrder ho hterminal
  redeem k hk := by
    obtain ⟨hmem, rfl⟩ := mem_ticketsOf.mp hk
    refine rejects_redeemTicket (h.wellFormed hfresh).consistent.distinct hmem ho fun hunredeemed =>
      ?_
    cases hs : order.status with
    | canceled => rfl
    | redeemed =>
      -- Then all its tickets have been redeemed.
      rw [((h.agrees hfresh ho).redeemed hs).2 k hk] at hunredeemed
      cases hunredeemed
    | pending => rw [hs] at hterminal; cases hterminal
    | paid => rw [hs] at hterminal; cases hterminal

theorem keeps (h : Reachable channel allowed s) (hfresh : s.sources.ids.Fresh)
    (env : Environment) (c : ServiceCall) :
    Keeps s.committed (serve channel (c.service env) s).2.committed := by
  obtain ⟨t', hbecomes, heffect⟩ := call_effect channel env s c
  rw [hbecomes.committed]
  exact keeps_effect (h.wellFormed hfresh).consistent (fun _ _ ho => h.agrees hfresh ho)
    (fun _ hk => h.whole hfresh hk) heffect

theorem sameOrder (h : Reachable channel allowed s) (hfresh : s.sources.ids.Fresh)
    {id : OrderId} {order : Order} (ho : s.committed.orders.get? id = some order)
    (hterminal : order.status.isTerminal = true) (env : Environment) (c : ServiceCall) :
    SameOrder s.committed (serve channel (c.service env) s).2.committed id := by
  obtain ⟨t', hbecomes, heffect⟩ := call_effect channel env s c
  rw [hbecomes.committed]
  exact sameOrder_effect (h.wellFormed hfresh).consistent ho (h.agrees hfresh ho) hterminal heffect

theorem ticketStep (h : Reachable channel allowed s) (hfresh : s.sources.ids.Fresh)
    (env : Environment) (c : ServiceCall) {id : TicketId} {k : Ticket}
    (hk : s.committed.ticket? id = some k) :
    ∃ k', (serve channel (c.service env) s).2.committed.ticket? id = some k' ∧
      TicketStep env s.sources.now.1 c k k' ∧
        (k' ≠ k → ∃ reply, (serve channel (c.service env) s).1 = .ok reply) := by
  rcases call_ends channel env s c with
    ⟨e, s', hs, hbecomes⟩ | ⟨a, s', t', hs, hbecomes, heffect⟩ <;> rw [hs]
  · exact ⟨k, by rw [hbecomes.committed, hk], .same, fun hne => (hne rfl).elim⟩
  · obtain ⟨k', hk', hstep⟩ := ticketStep_effect (h.wellFormed hfresh).consistent
      (fun _ _ ho => h.agrees hfresh ho)
      (fun _ hk => h.whole hfresh hk) heffect hk
    exact ⟨k', by rw [hbecomes.committed, hk'], hstep, fun _ => ⟨a, rfl⟩⟩

end Reachable

namespace Later

variable (hl : Later channel s s') (h : Reachable channel anyCall s) (hfresh : s'.sources.ids.Fresh)

include hl h hfresh

theorem keeps : Keeps s.committed s'.committed := by
  induction hl with
  | refl => exact .refl _
  | addEvent _ event title ih =>
    exact (ih hfresh).trans ⟨fun _ ho => ho, List.prefix_refl _, fun _ k hk => ⟨k, hk, .refl k⟩⟩
  | addUser _ user ih =>
    exact (ih hfresh).trans ⟨fun _ ho => ho, List.prefix_refl _, fun _ k hk => ⟨k, hk, .refl k⟩⟩
  | call hl env c ih =>
    have hbefore := (serve_precedes channel (c.service env) _).fresh hfresh
    exact (ih hbefore).trans ((hl.reachable h).keeps hbefore env c)

theorem sameOrder {id : OrderId} {order : Order} (ho : s.committed.orders.get? id = some order)
    (hterminal : order.status.isTerminal = true) : SameOrder s.committed s'.committed id := by
  induction hl with
  | refl => exact ⟨rfl, rfl, rfl⟩
  | addEvent _ event title ih => exact ⟨(ih hfresh).order, (ih hfresh).items, (ih hfresh).tickets⟩
  | addUser _ user ih => exact ⟨(ih hfresh).order, (ih hfresh).items, (ih hfresh).tickets⟩
  | call hl env c ih =>
    have hbefore := (serve_precedes channel (c.service env) _).fresh hfresh
    obtain ⟨horder, hitems, htickets⟩ := ih hbefore
    obtain ⟨horder', hitems', htickets'⟩ :=
      (hl.reachable h).sameOrder hbefore (horder.trans ho) hterminal env c
    exact ⟨horder'.trans horder, hitems'.trans hitems, htickets'.trans htickets⟩

end Later

/-- Whatever happens to a store after an order was finished, the order is as it was and is asked for
nothing more. No row of an order is lost. A ticket changes only by the confirmation of its order,
which writes its token, and by its check-in, each made once and successfully. -/
theorem finished_for_good (h : Reachable channel anyCall s) (hl : Later channel s s')
    (hfresh : s'.sources.ids.Fresh) :
    (∀ id order, s.committed.orders.get? id = some order → order.status.isTerminal = true →
      SameOrder s.committed s'.committed id ∧ Closed channel s' id order) ∧
    Keeps s.committed s'.committed ∧
    (∀ k ∈ s'.committed.tickets, k.Whole) ∧
    ∀ (env : Environment) (c : ServiceCall) id k, s'.committed.ticket? id = some k →
      ∃ k', (serve channel (c.service env) s').2.committed.ticket? id = some k' ∧
        TicketStep env s'.sources.now.1 c k k' ∧
          (k' ≠ k → ∃ reply, (serve channel (c.service env) s').1 = .ok reply) := by
  have hreachable := hl.reachable h
  refine ⟨fun id order ho hterminal => ?_, hl.keeps h hfresh,
    fun k hk => hreachable.whole hfresh hk, fun env c id k hk =>
    hreachable.ticketStep hfresh env c hk⟩
  have hsame := hl.sameOrder h hfresh ho hterminal
  exact ⟨hsame, hreachable.closed hfresh (hsame.order.trans ho) hterminal⟩

theorem finished_for_good_used :
    ∃ order k, (Sample.store Sample.untilUsed).committed.orders.get? Sample.order = some order ∧
      order.status = .redeemed ∧
      SameOrder (Sample.store Sample.untilUsed).committed
        (Sample.store (Sample.untilUsed ++ [Sample.raisePrice])).committed Sample.order ∧
      Closed .log (Sample.store (Sample.untilUsed ++ [Sample.raisePrice])) Sample.order order ∧
      (Sample.store (Sample.untilUsed ++ [Sample.raisePrice])).committed.ticket?
        (Sample.ticket 0) = some k ∧
      ∃ k',
        (Sample.store (Sample.untilUsed ++ [Sample.raisePrice] ++
          [Sample.cancelOrder])).committed.ticket? (Sample.ticket 0) = some k' ∧ k.Ages k' := by
  have hfresh := Sample.store_fresh (Sample.untilUsed ++ [Sample.raisePrice]) (by decide +kernel)
  have hused : ((Sample.store Sample.untilUsed).committed.orders.get? Sample.order).map (·.status) =
      some .redeemed := by
    decide +kernel
  have hticket : ((Sample.store (Sample.untilUsed ++ [Sample.raisePrice])).committed.ticket?
      (Sample.ticket 0)).isSome =
      true := by decide +kernel
  obtain ⟨order, ho, hstatus⟩ := Option.map_eq_some_iff.mp hused
  obtain ⟨k, hk⟩ := Option.isSome_iff_exists.mp hticket
  obtain ⟨hfinished, -, -, hsteps⟩ := finished_for_good (Sample.store_reachable Sample.untilUsed)
    (Sample.store_later Sample.untilUsed [Sample.raisePrice]) hfresh
  obtain ⟨hsame, hclosed⟩ := hfinished Sample.order order ho (by rw [hstatus]; rfl)
  obtain ⟨k', hk', hstep, -⟩ := hsteps Sample.environment Sample.cancelOrder _ k hk
  rw [← Sample.store_snoc] at hk'
  exact ⟨order, k, ho, hstatus, hsame, hclosed, hk, k', hk', hstep.ages⟩

end Memory.State

end EventTickets
