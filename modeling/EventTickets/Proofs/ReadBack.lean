import EventTickets.Proofs.Service.Details
import EventTickets.Proofs.WritingOrder

/-!
# What is replied is what is stored

A call that changes an order or redeems a ticket replies with what the store tells of it right
afterwards. Orders are read in their transaction, before it is committed; a redeemed ticket is not
read at all, but made up from the ticket as it was locked.
-/

namespace EventTickets.Memory

namespace Tables

variable {t : Tables} {ticket : Ticket}

theorem mem_modifyTicket {id : TicketId} {f : Ticket → Ticket} (h : t.ticket? id = some ticket) :
    f ticket ∈ (t.modifyTicket id f).tickets := by
  have hgo : ∀ tickets : List Ticket, tickets.find? (·.id == id) = some ticket →
      f ticket ∈ modifyTicket.go id f tickets := by
    intro tickets
    induction tickets with
    | nil => exact nofun
    | cons k rest ih =>
      intro hfound
      rw [modifyTicket.go]
      split
      · next e =>
        have hfirst : k = ticket := by simpa [e] using hfound
        rw [hfirst]
        exact List.mem_cons_self
      · next hne =>
        have hrest : rest.find? (·.id == id) = some ticket := by simpa [hne] using hfound
        exact List.mem_cons_of_mem _ (ih hrest)
  exact hgo t.tickets h

theorem mem_tickets_redeemed (h : t.ticket? ticket.id = some ticket) (operator : OperatorId)
    (time : Time.Instant) :
    ticket.redeem operator time ∈ (t.redeemed ticket operator time).tickets := by
  have hmem := mem_modifyTicket (f := Ticket.redeem operator time) h
  rw [redeemed]
  split <;> exact hmem

theorem status_redeemed {order : Order} (h : t.orders.get? ticket.orderId = some order)
    (operator : OperatorId) (time : Time.Instant) :
    ((t.redeemed ticket operator time).orders.get? ticket.orderId).map (·.status) =
      some (t.statusAfter ticket operator time order.status) := by
  rw [orders_redeemed, statusAfter]
  split
  · rw [Table.get?_modify, if_pos rfl, h]
    rfl
  · rw [h]
    rfl

def listed (t : Tables) (k : Ticket) : Ticket :=
  { k with orderStatus := (t.orders.get? k.orderId).map (·.status) }

theorem userTickets_perm (t : Tables) (user : UserId) (event : Option EventId) :
    (t.userTickets user event).Perm
      ((t.tickets.reverse.filter fun k => k.userId == user && event.all (k.eventId == ·)).map
        t.listed) :=
  List.mergeSort_perm _ _

theorem mem_userTickets {k : Ticket} {event : Option EventId} (hk : k ∈ t.tickets)
    (hevent : event.all (k.eventId == ·) = true) : t.listed k ∈ t.userTickets k.userId event := by
  rw [(t.userTickets_perm k.userId event).mem_iff]
  refine List.mem_map_of_mem (List.mem_filter.mpr ⟨List.mem_reverse.mpr hk, ?_⟩)
  simp [hevent]

theorem TicketsDistinct.userTickets (h : t.TicketsDistinct) (user : UserId)
    (event : Option EventId) : ((t.userTickets user event).map (·.id)).Nodup := by
  rw [((t.userTickets_perm user event).map _).nodup_iff, List.map_map]
  refine List.Nodup.sublist (List.filter_sublist.map _) ?_
  rw [List.map_reverse, List.nodup_reverse]
  exact h

theorem filter_id_eq_singleton {tickets : List Ticket} {k : Ticket} (h : (tickets.map (·.id)).Nodup)
    (hk : k ∈ tickets) : tickets.filter (·.id = k.id) = [k] := by
  have hsame : tickets.filter (·.id = k.id) = tickets.filter (· = k) := by
    refine List.filter_congr fun k' hk' => decide_eq_decide.mpr ⟨fun e => ?_, congrArg _⟩
    exact List.inj_on_of_nodup_map h hk' hk e
  rw [hsame, List.filter_eq, List.count_eq_one_of_mem h.of_map hk]
  rfl

end Tables

namespace State

open Tables

variable {σ : Type} {channel : Channel σ} {s after : State σ} {env : Environment}

/-- An order as it was replied is what the store tells of it. Its lines ascend by their numbers, as
long as the 63 bits of these have not run out, and its tickets stand as their identifiers were
drawn. -/
structure ReadsBack (channel : Channel σ) (after : State σ) (id : OrderId) (detail : OrderDetail) :
    Prop where
  read : serve channel (orderDetail id false) after = (.ok detail, after)
  orderId : detail.order.id = id
  items : after.committed.orderItems.length < 2 ^ 63 → detail.items.Pairwise (·.id < ·.id)
  tickets : ∃ n, detail.tickets.map (·.id.uuid) =
    (List.range' n detail.tickets.length).map after.sources.ids.item

theorem Reachable.readsBack (h : Reachable channel anyCall after) {id : OrderId}
    {detail : OrderDetail} (hdetail : after.committed.detail? id false = some detail) :
    ReadsBack channel after id detail := by
  obtain ⟨order, ho, rfl⟩ := Option.map_eq_some_iff.mp hdetail
  have hread : serve channel (Service.store (.orderDetail id false)) after =
      (.ok (after.committed.detail? id false), after) := rfl
  refine ⟨?_, h.inSeries.order_id id order ho, fun hcount => h.numbered.itemsOf hcount id,
    h.inSeries.drawn id⟩
  rw [orderDetail, serve_bind, hread, hdetail]
  rfl

/-- A ticket as it was replied is in the listings of its holder, for any event or for its own, and
it is the only one there with its identifier if none was given twice. Its order has the status that
was replied. -/
structure RedemptionReadsBack (channel : Channel σ) (after : State σ) (id : TicketId)
    (outcome : RedemptionOutcome) : Prop where
  ticketId : outcome.ticket.id = id
  listed : ∀ event : Option EventId, event.all (outcome.ticket.eventId == ·) = true →
    ∃ tickets, serve channel (listUserTickets outcome.ticket.userId event) after =
    (.ok tickets, after) ∧
      outcome.ticket ∈ tickets ∧
      (after.sources.ids.Fresh → tickets.filter (·.id = id) = [outcome.ticket])
  status : (after.committed.orders.get? outcome.ticket.orderId).map (·.status) =
    some outcome.orderStatus

theorem redeemTicket_eq_ok {id : TicketId} {operator : OperatorId} {token : Option String}
    {outcome : RedemptionOutcome} (hserve : serve channel (redeemTicket env id operator token) s =
      (.ok outcome, after)) :
    ∃ ticket order, s.committed.ticket? id = some ticket ∧
      s.committed.orders.get? ticket.orderId = some order ∧
        outcome = redemptionOf s.committed ticket operator s.sources.now.1 order.status ∧
      after.committed = s.committed.redeemed ticket operator s.sources.now.1 := by
  obtain ⟨sources, -, hs⟩ := serve_redeemTicket channel s env id operator token
  rw [hserve] at hs
  rcases hadmitted : s.committed.admission env.secret id (token.bind Text.nonBlank?) with
    e | ⟨ticket, order⟩ <;>
    rw [hadmitted] at hs
  · cases hs
  · obtain ⟨hfound, ho, -⟩ := admission_eq_ok_iff.mp hadmitted
    obtain ⟨houtcome, hsettled⟩ := Prod.mk.inj hs
    exact ⟨ticket, order, hfound, ho, Except.ok.inj houtcome, congrArg State.committed hsettled⟩

theorem listed_redeemed {t : Tables} {ticket : Ticket} {order : Order}
    (ho : t.orders.get? ticket.orderId = some order) (operator : OperatorId) (time : Time.Instant) :
    (t.redeemed ticket operator time).listed (ticket.redeem operator time) =
      (redemptionOf t ticket operator time order.status).ticket :=
  congrArg (fun status => { ticket.redeem operator time with
    orderStatus := status }) (status_redeemed ho operator time)

theorem Reachable.redemptionReadsBack (h : Reachable channel anyCall after) {id : TicketId}
    {operator : OperatorId} {token : Option String} {outcome : RedemptionOutcome}
    (hserve : serve channel (redeemTicket env id operator token) s = (.ok outcome, after)) :
    RedemptionReadsBack channel after id outcome := by
  obtain ⟨ticket, order, hfound, ho, rfl, hcommitted⟩ := redeemTicket_eq_ok hserve
  obtain ⟨-, rfl⟩ := mem_of_ticket? hfound
  have hmem := mem_tickets_redeemed hfound operator s.sources.now.1
  have hlisted := listed_redeemed ho operator s.sources.now.1
  have hstatus := status_redeemed ho operator s.sources.now.1
  rw [← hcommitted] at hmem hlisted hstatus
  refine ⟨rfl, fun event hevent => ?_, hstatus⟩
  have hreplied : (redemptionOf s.committed ticket operator s.sources.now.1 order.status).ticket ∈
      after.committed.userTickets ticket.userId event := by
    rw [← hlisted]
    exact mem_userTickets hmem hevent
  refine ⟨after.committed.userTickets ticket.userId event, rfl, hreplied, fun hfresh => ?_⟩
  exact filter_id_eq_singleton ((h.wellFormed hfresh).consistent.distinct.userTickets
    ticket.userId event) hreplied

/-- What the calls reply is what the store tells right afterwards: of an order that was placed,
confirmed or canceled, and of a ticket that was redeemed and the status of its order. -/
theorem replies_read_back (h : Reachable channel anyCall s) (env : Environment) :
    (∀ request detail after, serve channel (createOrder env request) s = (.ok detail, after) →
      ReadsBack channel after detail.order.id detail) ∧
    (∀ id operator confirmed after, serve channel (confirmOrder env id operator) s =
      (.ok confirmed, after) →
      ReadsBack channel after id confirmed.detail) ∧
    (∀ id operator reason detail after, serve channel (cancelOrder id operator reason) s =
      (.ok detail, after) →
      ReadsBack channel after id detail) ∧
    ∀ id operator token outcome after, serve channel (redeemTicket env id operator token) s =
      (.ok outcome, after) →
      RedemptionReadsBack channel after id outcome := by
  have hafter : ∀ {c : ServiceCall} {reply : c.Reply} {after : State σ},
      serve channel (c.service env) s = (.ok reply, after) → Reachable channel anyCall after := by
    intro c reply after hserve
    have hcall := h.call env c trivial
    rwa [hserve] at hcall
  refine ⟨fun request detail after hserve => ?_, fun id operator confirmed after hserve => ?_,
    fun id operator reason detail after hserve => ?_,
    fun id operator token outcome after hserve => ?_⟩
  · obtain ⟨id, hdetail⟩ := createOrder_eq_ok hserve
    have hback := (hafter (c := .createOrder request) hserve).readsBack hdetail
    rwa [hback.orderId]
  · exact (hafter (c := .confirmOrder id operator) hserve).readsBack (confirmOrder_eq_ok hserve).1
  · exact (hafter (c := .cancelOrder id operator reason) hserve).readsBack
      (cancelOrder_eq_ok hserve)
  · exact (hafter (c := .redeemTicket id operator token) hserve).redemptionReadsBack hserve

theorem eq_ok_of_toOption {α : Type} {r : Except TicketingError α × State σ} {a : α}
    (h : r.1.toOption = some a) : r = (.ok a, r.2) := by
  rcases r with ⟨e | b, s⟩ <;> cases h
  rfl

theorem replies_read_back_redeemed :
    (∃ confirmed after, serve .log (confirmOrder Sample.environment Sample.order Sample.operator)
        (Sample.store [Sample.createProduct, Sample.createOrder]) = (.ok confirmed, after) ∧
      ReadsBack .log after Sample.order confirmed.detail) ∧
    ∃ outcome after, serve .log (redeemTicket Sample.environment (Sample.ticket 1)
      Sample.operator none)
        (Sample.store (Sample.untilPaid ++
          [.redeemTicket (Sample.ticket 0) Sample.operator none])) =
          (.ok outcome, after) ∧
      outcome.orderStatus = .redeemed ∧
        RedemptionReadsBack .log after (Sample.ticket 1) outcome := by
  have hconfirmed : (serve .log (confirmOrder Sample.environment Sample.order Sample.operator)
      (Sample.store [Sample.createProduct, Sample.createOrder])).1.toOption.isSome = true := by
    decide +kernel
  have hredeemed :
      (serve .log (redeemTicket Sample.environment (Sample.ticket 1) Sample.operator none)
          (Sample.store (Sample.untilPaid ++
            [.redeemTicket (Sample.ticket 0) Sample.operator none]))).1.toOption.map
          (·.orderStatus) =
        some .redeemed := by
    decide +kernel
  obtain ⟨-, hconfirm, -⟩ := replies_read_back
    (Sample.store_reachable [Sample.createProduct, Sample.createOrder]) Sample.environment
  obtain ⟨-, -, -, hredeem⟩ := replies_read_back
    (Sample.store_reachable (Sample.untilPaid ++
      [.redeemTicket (Sample.ticket 0) Sample.operator none]))
    Sample.environment
  obtain ⟨confirmed, hconfirmed⟩ := Option.isSome_iff_exists.mp hconfirmed
  obtain ⟨outcome, houtcome, hstatus⟩ := Option.map_eq_some_iff.mp hredeemed
  have hserve := eq_ok_of_toOption hconfirmed
  have hserve' := eq_ok_of_toOption houtcome
  exact ⟨⟨confirmed, _, hserve, hconfirm _ _ _ _ hserve⟩, outcome, _, hserve', hstatus,
    hredeem _ _ _ _ _ hserve'⟩

end State

end EventTickets.Memory
