import EventTickets.Proofs.Orders

/-!
# Order lifecycle

The status of an order is written together with times, actors and tickets by different calls. In
every store it tells which of them are set.
-/

namespace EventTickets

/-- What the status of an order says about its other fields and its tickets. -/
structure Order.Agrees (order : Order) (tickets : List Ticket) : Prop where
  tickets_ne : tickets ≠ []
  pending : order.status = .pending →
    (order.confirmedAt = none ∧ order.confirmedBy = none ∧ order.canceledAt = none ∧
      order.canceledBy = none ∧ order.redeemedAt = none) ∧
    ∀ k ∈ tickets, k.qrPayload = none ∧ k.isRedeemed = false
  paid : order.status = .paid →
    (order.confirmedAt.isSome ∧ order.confirmedBy.isSome ∧ order.canceledAt = none ∧
      order.redeemedAt = none) ∧
    (∀ k ∈ tickets, k.qrPayload.isSome) ∧ ∃ k ∈ tickets, k.isRedeemed = false
  redeemed : order.status = .redeemed →
    (order.confirmedAt.isSome ∧ order.redeemedAt.isSome ∧ order.canceledAt = none) ∧
    ∀ k ∈ tickets, k.isRedeemed
  canceled : order.status = .canceled →
    (order.canceledAt.isSome ∧ order.canceledBy.isSome ∧ order.redeemedAt = none) ∧
    ∀ k ∈ tickets, k.qrPayload.isSome = order.confirmedAt.isSome

/-- The token, its digest and its time of issue are set together, and so are the two fields of a
check-in. -/
structure Ticket.Whole (k : Ticket) : Prop where
  digest : k.qrPayloadHash.isSome = k.qrPayload.isSome
  issuedAt : k.qrIssuedAt.isSome = k.qrPayload.isSome
  redeemedBy : k.redeemedBy.isSome = k.redeemedAt.isSome

inductive OrderStatus.Moves : OrderStatus → OrderStatus → Prop
  | confirm : Moves .pending .paid
  | cancelPending : Moves .pending .canceled
  | cancelPaid : Moves .paid .canceled
  | redeem : Moves .paid .redeemed

namespace Ticket.Whole

variable {k : Ticket}

theorem of_new (n : NewTicket) : n.ticket.Whole := ⟨rfl, rfl, rfl⟩

theorem issue (h : k.Whole) (secret : SigningSecret) (now : Time.Instant) (nonce : String) :
    (k.issue secret now nonce).Whole := ⟨rfl, rfl, h.redeemedBy⟩

theorem redeem (h : k.Whole) (operator : OperatorId) (now : Time.Instant) :
    (k.redeem operator now).Whole :=
  ⟨h.digest, h.issuedAt, rfl⟩

end Ticket.Whole

namespace OrderStep

variable {env : Environment} {now : Time.Instant} {c : ServiceCall} {order order' : Order}
  {tickets tickets' : List Ticket}

theorem whole (h : OrderStep env now c order tickets order' tickets')
    (hw : ∀ k ∈ tickets, k.Whole) : ∀ k ∈ tickets', k.Whole := by
  cases h with
  | same => exact hw
  | confirm id operator call nonces pending =>
    exact List.forall_mem_map.mpr fun k hk => (hw k hk).issue _ _ _
  | cancel operator reason open_ => exact hw
  | redeem k operator mem unredeemed purchased marked mark =>
    subst mark
    refine List.forall_mem_map.mpr fun k' hk' => ?_
    split
    · exact (hw k' hk').redeem operator now
    · exact hw k' hk'

theorem agrees_redeemed {k : Ticket} {operator : OperatorId} {marked : List Ticket}
    (h : order.Agrees tickets) (hk : k ∈ tickets) (hunredeemed : k.isRedeemed = false)
    (hpurchased : order.status.isPurchased = true)
    (hmark : marked = tickets.map fun k' => if k'.id = k.id then k'.redeem operator now else k') :
    order.status = .paid ∧
      (if marked.all (·.isRedeemed) then (OrderTransition.redeem now).apply order else
        order).Agrees marked := by
  have hpaid : order.status = .paid := by
    cases hs : order.status with
    | paid => rfl
    | redeemed =>
      -- Then this ticket would have been redeemed, too.
      have hall := (h.redeemed hs).2 k hk
      rw [hunredeemed] at hall
      cases hall
    | pending => rw [hs] at hpurchased; cases hpurchased
    | canceled => rw [hs] at hpurchased; cases hpurchased
  obtain ⟨⟨hconfirmedAt, hconfirmedBy, hcanceledAt, hredeemedAt⟩, htokens, -⟩ := h.paid hpaid
  have hne : marked ≠ [] := by
    rw [hmark, ne_eq, List.map_eq_nil_iff]
    exact h.tickets_ne
  refine ⟨hpaid, ?_⟩
  split
  · next hall =>
    refine ⟨hne, fun e => ?_, fun e => ?_, fun _ => ?_, fun e => ?_⟩
    · cases e
    · cases e
    · exact ⟨⟨hconfirmedAt, by simp [OrderTransition.apply, hredeemedAt], hcanceledAt⟩,
        List.all_eq_true.mp hall⟩
    · cases e
  · next hleft =>
    -- A ticket is left, and with it the order stays as it is.
    obtain ⟨k', hk', hunredeemed'⟩ := List.all_eq_false.mp (Bool.eq_false_iff.mpr hleft)
    refine ⟨hne, fun e => ?_, fun _ => ?_, fun e => ?_, fun e => ?_⟩
    · cases hpaid.symm.trans e
    · refine ⟨⟨hconfirmedAt, hconfirmedBy, hcanceledAt, hredeemedAt⟩, ?_, k', hk',
        Bool.eq_false_iff.mpr hunredeemed'⟩
      rw [hmark]
      refine List.forall_mem_map.mpr fun k₀ hk₀ => ?_
      split <;> exact htokens k₀ hk₀
    · cases hpaid.symm.trans e
    · cases hpaid.symm.trans e

theorem agrees_canceled {operator : OperatorId} {reason : Option String} (h : order.Agrees tickets)
    (hopen : order.status.isTerminal = false) :
    ((OrderTransition.cancel operator now reason).apply order).Agrees tickets := by
  refine ⟨h.tickets_ne, fun e => ?_, fun e => ?_, fun e => ?_, fun _ => ?_⟩
  · cases e
  · cases e
  · cases e
  · cases hs : order.status with
    | pending =>
      obtain ⟨⟨hconfirmedAt, -, -, -, hredeemedAt⟩, hblank⟩ := h.pending hs
      refine ⟨⟨rfl, rfl, hredeemedAt⟩, fun k hk => ?_⟩
      simp [OrderTransition.apply, hconfirmedAt, (hblank k hk).1]
    | paid =>
      obtain ⟨⟨hconfirmedAt, -, -, hredeemedAt⟩, htokens, -⟩ := h.paid hs
      exact ⟨⟨rfl, rfl, hredeemedAt⟩, fun k hk => (htokens k hk).trans hconfirmedAt.symm⟩
    | canceled => rw [hs] at hopen; cases hopen
    | redeemed => rw [hs] at hopen; cases hopen

theorem agrees_confirmed {operator : OperatorId} {secret : SigningSecret}
    {nonces : TicketId → String} (h : order.Agrees tickets) (hpending : order.status = .pending) :
    ((OrderTransition.confirm operator now).apply order).Agrees
      (tickets.map fun k => k.issue secret now (nonces k.id)) := by
  obtain ⟨⟨-, -, hcanceledAt, -, hredeemedAt⟩, hblank⟩ := h.pending hpending
  obtain ⟨k, hk⟩ := List.exists_mem_of_ne_nil tickets h.tickets_ne
  refine ⟨?_, fun e => ?_, fun _ => ?_, fun e => ?_, fun e => ?_⟩
  · rw [ne_eq, List.map_eq_nil_iff]
    exact h.tickets_ne
  · cases e
  · refine ⟨⟨rfl, rfl, hcanceledAt, hredeemedAt⟩, ?_, _, List.mem_map_of_mem hk, (hblank k hk).2⟩
    exact List.forall_mem_map.mpr fun _ _ => rfl
  · cases e
  · cases e

theorem agrees (h : OrderStep env now c order tickets order' tickets') (ha : order.Agrees tickets) :
    order'.Agrees tickets' := by
  cases h with
  | same => exact ha
  | confirm id operator call nonces pending => exact agrees_confirmed ha pending
  | cancel operator reason open_ => exact agrees_canceled ha open_
  | redeem k operator mem unredeemed purchased marked mark =>
    exact (agrees_redeemed ha mem unredeemed purchased mark).2

theorem moves (h : OrderStep env now c order tickets order' tickets') (ha : order.Agrees tickets) :
    order'.status = order.status ∨ order.status.Moves order'.status := by
  cases h with
  | same => exact .inl rfl
  | confirm id operator call nonces pending =>
    rw [pending]
    exact .inr .confirm
  | cancel operator reason open_ =>
    cases hs : order.status with
    | pending => exact .inr .cancelPending
    | paid => exact .inr .cancelPaid
    | canceled => rw [hs] at open_; cases open_
    | redeemed => rw [hs] at open_; cases open_
  | redeem k operator mem unredeemed purchased marked mark =>
    obtain ⟨hpaid, -⟩ := agrees_redeemed ha mem unredeemed purchased mark
    split
    · rw [hpaid]
      exact .inr .redeem
    · exact .inl rfl

end OrderStep

theorem Purchase.Placement.Sound.agrees {t : Memory.Tables} {a b : Supply Uuid}
    {w : Purchase.Placement} (h : w.Sound t a b) :
    w.order.order.Agrees (w.tickets.map (·.ticket)) := by
  refine ⟨?_, fun _ => ⟨⟨rfl, rfl, rfl, rfl, rfl⟩, ?_⟩, fun e => ?_, fun e => ?_, fun e => ?_⟩
  · rw [ne_eq, List.map_eq_nil_iff]
    exact h.tickets_ne
  · exact List.forall_mem_map.mpr fun _ _ => ⟨rfl, rfl⟩
  · cases e
  · cases e
  · cases e

namespace Memory.State

variable {σ : Type} {channel : Channel σ} {allowed : State σ → Environment → ServiceCall → Prop}
  {s : State σ}

theorem Reachable.agrees (h : Reachable channel allowed s)
    (hfresh : s.sources.ids.Fresh) {id : OrderId} {order : Order}
    (ho : s.committed.orders.get? id = some order) : order.Agrees (s.committed.ticketsOf id) :=
  h.everyOrder (fun hw => hw.agrees) (fun _ hstep ha => hstep.agrees ha) hfresh ho

theorem Reachable.whole (h : Reachable channel allowed s)
    (hfresh : s.sources.ids.Fresh) {k : Ticket} (hk : k ∈ s.committed.tickets) : k.Whole := by
  obtain ⟨order, ho⟩ := Option.isSome_iff_exists.mp
    ((h.wellFormed hfresh).consistent.attached.ticket k hk)
  refine h.everyOrder (P := fun _ tickets => ∀ k ∈ tickets, k.Whole) ?_ ?_ hfresh ho k
    (Tables.mem_ticketsOf.mpr ⟨hk, rfl⟩)
  · exact fun _ => List.forall_mem_map.mpr fun n _ => .of_new n
  · exact fun _ hstep hw => hstep.whole hw

/-- In every store each order agrees with its status and every ticket is whole, and whatever call
comes next, each order is still there and its status has not changed but in one of the four ways. -/
theorem status_determines_order (h : Reachable channel anyCall s) (hfresh : s.sources.ids.Fresh) :
    (∀ id order, s.committed.orders.get? id = some order →
      order.Agrees (s.committed.ticketsOf id)) ∧
    (∀ k ∈ s.committed.tickets, k.Whole) ∧
    ∀ (env : Environment) (c : ServiceCall) (id : OrderId) (order : Order),
      s.committed.orders.get? id = some order →
      ∃ order', (serve channel (c.service env) s).2.committed.orders.get? id = some order' ∧
        (order'.status = order.status ∨ order.status.Moves order'.status) := by
  refine ⟨fun id order ho => h.agrees hfresh ho, fun k hk => h.whole hfresh hk,
    fun env c id order ho => ?_⟩
  obtain ⟨order', ho', hstep⟩ := h.orderStep env c hfresh ho
  exact ⟨order', ho', hstep.moves (h.agrees hfresh ho)⟩

theorem status_determines_order_paid :
    ∃ order, (Sample.store Sample.untilPaid).committed.orders.get? Sample.order = some order ∧
      order.status = .paid ∧ order.confirmedAt.isSome ∧
      ((Sample.store Sample.untilPaid).committed.ticketsOf Sample.order).length = 2 ∧
      ∀ k ∈ (Sample.store Sample.untilPaid).committed.ticketsOf Sample.order,
        k.qrPayload.isSome := by
  have hpaid : ((Sample.store Sample.untilPaid).committed.orders.get? Sample.order).map (·.status) =
      some .paid := by
    decide +kernel
  have htwo : ((Sample.store Sample.untilPaid).committed.ticketsOf Sample.order).length = 2 := by
    decide +kernel
  have hfresh := Sample.store_fresh Sample.untilPaid (by decide +kernel)
  obtain ⟨order, ho, hstatus⟩ := Option.map_eq_some_iff.mp hpaid
  have hagrees := (status_determines_order (Sample.store_reachable Sample.untilPaid) hfresh).1
    _ order ho
  obtain ⟨⟨hconfirmedAt, -⟩, htokens, -⟩ := hagrees.paid hstatus
  exact ⟨order, ho, hstatus, hconfirmedAt, htwo, htokens⟩

end Memory.State

end EventTickets
