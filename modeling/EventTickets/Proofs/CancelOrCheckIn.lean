import EventTickets.Proofs.Finality

/-!
# Canceling an order of which tickets were used

An order can be canceled until its last ticket is checked in, and gives everything back even if some
of its tickets were. Of the last ticket left, only one of the two happens: it is checked in, or its
order is canceled.
-/

namespace EventTickets

def Order.Leaves (order : Order) (tickets : List Ticket) : Prop :=
  order.status = .canceled → ∃ k ∈ tickets, k.isRedeemed = false

namespace Order.Agrees

variable {order : Order} {tickets : List Ticket}

theorem leaves_of_open (h : order.Agrees tickets) (hopen : order.status.isTerminal = false) :
    ∃ k ∈ tickets, k.isRedeemed = false := by
  cases hs : order.status with
  | pending =>
    obtain ⟨k, hk⟩ := List.exists_mem_of_ne_nil tickets h.tickets_ne
    exact ⟨k, hk, ((h.pending hs).2 k hk).2⟩
  | paid => exact (h.paid hs).2.2
  | canceled => rw [hs] at hopen; cases hopen
  | redeemed => rw [hs] at hopen; cases hopen

theorem redeemed_of_used (h : order.Agrees tickets) (hleaves : order.Leaves tickets)
    (hused : ∀ k ∈ tickets, k.isRedeemed = true) : order.status = .redeemed := by
  have hnone : ¬ ∃ k ∈ tickets, k.isRedeemed = false := fun ⟨k, hk, hunredeemed⟩ => by
    rw [hused k hk] at hunredeemed
    cases hunredeemed
  cases hs : order.status with
  | redeemed => rfl
  | canceled => exact (hnone (hleaves hs)).elim
  | pending => exact (hnone (h.leaves_of_open (by rw [hs]; rfl))).elim
  | paid => exact (hnone (h.leaves_of_open (by rw [hs]; rfl))).elim

end Order.Agrees

theorem OrderStep.leaves {env : Environment} {now : Time.Instant} {c : ServiceCall}
    {order order' : Order} {tickets tickets' : List Ticket}
    (h : OrderStep env now c order tickets order' tickets') (ha : order.Agrees tickets)
    (hl : order.Leaves tickets) : order'.Leaves tickets' := by
  cases h with
  | same => exact hl
  | confirm id operator call nonces pending =>
    intro e
    cases e
  | cancel operator reason open_ => exact fun _ => ha.leaves_of_open open_
  | redeem k operator mem unredeemed purchased marked mark =>
    intro e
    split at e
    · cases e
    · rw [e] at purchased
      cases purchased

namespace Memory.State

open Tables

variable {σ : Type} {channel : Channel σ} {s s' : State σ}

theorem Reachable.leaves {allowed : State σ → Environment → ServiceCall → Prop}
    (h : Reachable channel allowed s) (hfresh : s.sources.ids.Fresh) {id : OrderId} {order : Order}
    (ho : s.committed.orders.get? id = some order) : order.Leaves (s.committed.ticketsOf id) := by
  refine (h.everyOrder (P := fun order tickets => order.Agrees tickets ∧
    order.Leaves tickets) ?_ ?_ hfresh ho).2
  · intro t a b w hw
    refine ⟨hw.agrees, fun e => ?_⟩
    cases e
  · exact fun _ hstep ⟨ha, hl⟩ => ⟨hstep.agrees ha, hstep.leaves ha hl⟩

theorem cancels_open {id : OrderId} {order : Order} (ho : s.committed.orders.get? id = some order)
    (hopen : order.status.isTerminal = false) (operator : OperatorId) (reason : Option String) :
    ∃ detail after, serve channel (cancelOrder id operator reason) s = (.ok detail, after) ∧
      after.committed = s.committed.canceled id order operator s.sources.now.1
        (reason.bind Text.nonBlank?) := by
  have hfound : s.committed.openOrder id = .ok order := by
    simp only [openOrder, ho, hopen, Bool.false_eq_true, if_false]
  rcases serve_cancelOrder channel s id operator reason with
    ⟨e, after, he, -⟩ | ⟨order', detail, after, ho', -, -, hs⟩
  · cases hfound.symm.trans he
  · cases ho.symm.trans ho'
    exact ⟨detail, _, hs, rfl⟩

/-- An order whose tickets are all checked in cannot be canceled, and of an order that was canceled
no ticket is checked in. Before, an order can be canceled whatever was checked in, and its tickets
stay as they are. -/
theorem cancel_or_check_in (h : Reachable channel anyCall s) (hfresh : s.sources.ids.Fresh)
    {id : OrderId} {order : Order} (ho : s.committed.orders.get? id = some order) :
    ((∀ k ∈ s.committed.ticketsOf id, k.isRedeemed = true) → ∀ operator reason,
      Rejects channel s (cancelOrder id operator reason) (.orderStateNotAllowed .redeemed)) ∧
    (order.status = .canceled →
      (∃ k ∈ s.committed.ticketsOf id, k.redeemedAt = none) ∧
      (∀ k ∈ s.committed.ticketsOf id, ∀ env operator presented,
        Rejects channel s (redeemTicket env k.id operator presented)
          (if k.isRedeemed then .ticketAlreadyRedeemed k.id else .orderStateNotAllowed .canceled)) ∧
      ∀ s', Later channel s s' → s'.sources.ids.Fresh →
        s'.committed.ticketsOf id = s.committed.ticketsOf id) ∧
    (order.status = .pending ∨ order.status = .paid → ∀ operator reason,
      ∃ detail after, serve channel (cancelOrder id operator reason) s = (.ok detail, after) ∧
        after.committed = s.committed.canceled id order operator s.sources.now.1
          (reason.bind Text.nonBlank?) ∧
        after.committed.ticketsOf id = s.committed.ticketsOf id) := by
  have hagrees := h.agrees hfresh ho
  have hleaves := h.leaves hfresh ho
  refine ⟨fun hused operator reason => ?_, fun hcanceled => ⟨?_, ?_, ?_⟩,
    fun hopen operator reason => ?_⟩
  · have hstatus := hagrees.redeemed_of_used hleaves hused
    have hrejects : Rejects channel s (cancelOrder id operator reason) _ :=
      rejects_cancelOrder ho (by rw [hstatus]; rfl) operator reason
    rwa [hstatus] at hrejects
  · obtain ⟨k, hk, hunredeemed⟩ := hleaves hcanceled
    exact ⟨k, hk, Option.isNone_iff_eq_none.mp (Option.isSome_eq_false_iff.mp hunredeemed)⟩
  · have hclosed := h.closed hfresh ho (by rw [hcanceled]; rfl)
    intro k hk env operator presented
    have hrejects := hclosed.redeem k hk env operator presented
    rwa [hcanceled] at hrejects
  · exact fun s' hlater hfresh' => (hlater.sameOrder h hfresh' ho (by rw [hcanceled]; rfl)).tickets
  · have hterminal : order.status.isTerminal = false := by
      rcases hopen with e | e <;> rw [e] <;> rfl
    obtain ⟨detail, after, hs, hafter⟩ := cancels_open ho hterminal operator reason
    refine ⟨detail, after, hs, hafter, ?_⟩
    rw [hafter]
    exact ticketsOf_congr (tickets_canceled ..) id

theorem cancel_or_check_in_both_ways :
    (∃ order, (Sample.store Sample.untilUsed).committed.orders.get? Sample.order = some order ∧
      Rejects .log (Sample.store Sample.untilUsed) (cancelOrder Sample.order Sample.operator none)
        (.orderStateNotAllowed .redeemed)) ∧
    ∃ order, (Sample.store Sample.untilPartlyCanceled).committed.orders.get?
      Sample.discountedOrder = some order ∧
      order.status = .canceled ∧
      ∃ k ∈ (Sample.store Sample.untilPartlyCanceled).committed.ticketsOf Sample.discountedOrder,
        k.redeemedAt = none := by
  have hfresh := Sample.store_fresh Sample.untilUsed (by decide +kernel)
  have hfresh' := Sample.store_fresh Sample.untilPartlyCanceled (by decide +kernel)
  have hthere : ((Sample.store Sample.untilUsed).committed.orders.get? Sample.order).isSome =
      true := by decide +kernel
  have hused : ∀ k ∈ (Sample.store Sample.untilUsed).committed.ticketsOf Sample.order,
      k.isRedeemed = true := by
    decide +kernel
  have hcanceled : ((Sample.store Sample.untilPartlyCanceled).committed.orders.get?
      Sample.discountedOrder).map
      (·.status) = some .canceled := by decide +kernel
  obtain ⟨order, ho⟩ := Option.isSome_iff_exists.mp hthere
  obtain ⟨order', ho', hstatus⟩ := Option.map_eq_some_iff.mp hcanceled
  have hlast := (cancel_or_check_in (Sample.store_reachable Sample.untilUsed) hfresh ho).1 hused
    Sample.operator none
  have hleft :=
    (cancel_or_check_in (Sample.store_reachable Sample.untilPartlyCanceled) hfresh' ho').2.1 hstatus
  exact ⟨⟨order, ho, hlast⟩, order', ho', hstatus, hleft.1⟩

/-- An order is canceled although one of its tickets was checked in, and gives back its stock and
the use of its code. -/
theorem canceled_with_check_in :
    Reachable .log anyCall (Sample.store Sample.untilPartlyCanceled) ∧
    (Sample.store Sample.untilPartlyCanceled).sources.ids.Fresh ∧
    (serve .log (cancelOrder Sample.discountedOrder Sample.operator none)
      (Sample.store Sample.untilPartlyUsed)).1.isOk ∧
    ((Sample.store Sample.untilPartlyCanceled).committed.orders.get? Sample.discountedOrder).map
      (·.status) =
      some .canceled ∧
    (∃ k ∈ (Sample.store Sample.untilPartlyCanceled).committed.ticketsOf Sample.discountedOrder,
      k.redeemedAt = some Sample.time) ∧
    ((Sample.store Sample.untilPartlyUsed).committed.stock? .ticket Sample.product).map (·.sold) =
      some 2 ∧
    ((Sample.store Sample.untilPartlyCanceled).committed.stock? .ticket Sample.product).map
      (·.sold) = some 0 ∧
    ((Sample.store Sample.untilPartlyUsed).committed.promoCodes.get? Sample.promo).map
      (·.usedCount) = some 1 ∧
    ((Sample.store Sample.untilPartlyCanceled).committed.promoCodes.get? Sample.promo).map
      (·.usedCount) = some 0 :=
  ⟨Sample.store_reachable _, Sample.store_fresh _ (by decide +kernel), by decide +kernel⟩

end Memory.State

end EventTickets
