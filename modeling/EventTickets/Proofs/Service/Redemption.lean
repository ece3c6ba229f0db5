import EventTickets.Proofs.Memory.Tables
import EventTickets.Proofs.Memory.Transactions

/-!
# What checking in does

`admission` says whether a ticket may be redeemed, and if not, with which error it is turned away.
`redeemed` says what becomes of the tables. The check-in service does just that and no more.
-/

namespace EventTickets

def Ticket.redeem (operator : OperatorId) (time : Time.Instant) (k : Ticket) : Ticket :=
  { k with redeemedAt := some time, redeemedBy := some operator }

namespace Memory.Tables

/-- The ticket that may be redeemed and its order, or why there is none. -/
def admission (t : Tables) (secret : SigningSecret) (id : TicketId) (token : Option String) :
    Except TicketingError (Ticket × Order) :=
  match t.ticket? id with
  | none => .error (.ticketNotFound id)
  | some ticket =>
    match t.orders.get? ticket.orderId with
    | none => .error (.store (.decode "ticket" ("order " ++ ticket.orderId.text ++ " missing")))
    | some order =>
      if ticket.isRedeemed then .error (.ticketAlreadyRedeemed id)
      else if order.status.isPurchased then
        (Redemption.authenticateGiven secret ticket token).map fun _ => (ticket, order)
      else .error (.orderStateNotAllowed order.status)

def usedUp (t : Tables) (order : OrderId) : Bool := (t.ticketsOf order).all (·.isRedeemed)

theorem usedUp_eq_false {t : Tables} {id : OrderId} {k : Ticket} (hk : k ∈ t.ticketsOf id)
    (h : k.isRedeemed = false) : t.usedUp id = false :=
  List.all_eq_false.mpr ⟨k, hk, Bool.eq_false_iff.mp h⟩

def redeemed (t : Tables) (ticket : Ticket) (operator : OperatorId) (time : Time.Instant) :
    Tables :=
  let marked := t.modifyTicket ticket.id (Ticket.redeem operator time)
  if marked.usedUp ticket.orderId then marked.transitioned ticket.orderId (.redeem time) else marked

def statusAfter (t : Tables) (ticket : Ticket) (operator : OperatorId) (time : Time.Instant)
    (status : OrderStatus) : OrderStatus :=
  if (t.modifyTicket ticket.id (Ticket.redeem operator time)).usedUp ticket.orderId then
    .redeemed else status

@[simp] theorem stock?_redeemed (t : Tables) (ticket : Ticket) (operator : OperatorId)
    (time : Time.Instant) : (t.redeemed ticket operator time).stock? = t.stock? := by
  refine stock?_congr ?_ ?_ <;> simp only [redeemed] <;> split <;> rfl

section

variable (t : Tables) (ticket : Ticket) (operator : OperatorId) (time : Time.Instant)

theorem orders_redeemed :
    (t.redeemed ticket operator time).orders =
      if (t.modifyTicket ticket.id (Ticket.redeem operator time)).usedUp ticket.orderId then
        t.orders.modify ticket.orderId (OrderTransition.redeem time).apply
      else t.orders := by
  simp only [redeemed]
  split <;> rfl

theorem tickets_redeemed (ht : t.TicketsDistinct) :
    (t.redeemed ticket operator time).tickets =
      t.tickets.map fun k => if k.id = ticket.id then k.redeem operator time else k := by
  simp only [redeemed, modifyTicket_eq ht]
  split <;> rfl

theorem promoCodes_redeemed : (t.redeemed ticket operator time).promoCodes = t.promoCodes := by
  simp only [redeemed]
  split <;> rfl

theorem orderItems_redeemed : (t.redeemed ticket operator time).orderItems = t.orderItems := by
  simp only [redeemed]
  split <;> rfl

end

theorem admission_eq_ok_iff {t : Tables} {secret : SigningSecret} {id : TicketId}
    {token : Option String} {ticket : Ticket} {order : Order} :
    t.admission secret id token = .ok (ticket, order) ↔
      t.ticket? id = some ticket ∧ t.orders.get? ticket.orderId = some order ∧
        ticket.isRedeemed = false ∧ order.status.isPurchased = true ∧
          Redemption.authenticateGiven secret ticket token = .ok () := by
  unfold admission
  rcases ht : t.ticket? id with _ | k
  · simp
  · rcases ho : t.orders.get? k.orderId with _ | o
    · simp only [ho, reduceCtorEq, Option.some.injEq, false_iff]
      rintro ⟨rfl, h, _⟩
      rw [ho] at h
      cases h
    · cases hr : k.isRedeemed <;> cases hp : o.status.isPurchased <;>
        rcases ha : Redemption.authenticateGiven secret k token with _ | _ <;> simp [Except.map] <;>
        grind

end Memory.Tables

namespace Memory.State

open Tables

variable {σ : Type} (channel : Channel σ) (s : State σ) (sources : Sources) (t : Tables)

theorem attempt_redeemOrder {id : OrderId} {order : Order} (h : t.orders.get? id = some order)
    (hp : order.status.isPurchased = true) (now : Time.Instant) (l : LockLedger) :
    attempt channel (Redemption.redeemOrder id order.status now) (s.opened sources ⟨t, l⟩) =
      if t.usedUp id then .ok (.redeemed, s.opened sources ⟨t.transitioned id (.redeem now), l⟩)
      else .ok (order.status, s.opened sources ⟨t, l⟩) := by
  have hleft : ((t.ticketsOf id).filter (!·.isRedeemed)).length ≠ 0 ↔ t.usedUp id = false := by
    simp [usedUp, List.filter_eq_nil_iff]
  have happlies : (OrderTransition.redeem now).appliesTo order.status = true := by
    cases hs : order.status <;> rw [hs] at hp <;> first | rfl | cases hp
  have htr : t.transition? id (.redeem now) = some (t.transitioned id (.redeem now)) := by
    rw [transition?_eq h, if_pos happlies]
  simp only [Redemption.redeemOrder, attempt_bind, attempt_countUnredeemedTickets]
  cases hu : t.usedUp id with
  | true =>
    have hzero : ((t.ticketsOf id).filter (!·.isRedeemed)).length = 0 := by
      simpa [hu] using hleft
    simp [hzero, htr]
  | false => simp [hleft.mpr hu]

def redemptionOf (t : Tables) (ticket : Ticket) (operator : OperatorId) (time : Time.Instant)
    (status : OrderStatus) : RedemptionOutcome :=
  let after := t.statusAfter ticket operator time status
  ⟨{ ticket with
    redeemedAt := some time, redeemedBy := some operator, orderStatus := some after }, after⟩

theorem attempt_redeem (env : Environment) (id : TicketId) (operator : OperatorId)
    (token : Option String) :
    attempt channel (Redemption.redeem env id operator token) (s.opened sources ⟨t, .empty⟩) =
      match t.admission env.secret id token with
      | .error e => .error e
      | .ok (ticket, order) =>
        .ok (redemptionOf t ticket operator sources.now.1 order.status,
          s.opened sources.now.2 ⟨t.redeemed ticket operator sources.now.1, ⟨some .ticket⟩⟩) := by
  simp only [Redemption.redeem, attempt_bind, attempt_now, attempt_lockTicket,
    LockLedger.empty_admits, admission]
  rcases ht : t.ticket? id with _ | ticket
  · simp
  obtain ⟨-, rfl⟩ := mem_of_ticket? ht
  rcases ho : t.orders.get? ticket.orderId with _ | order
  · simp [ho]
  cases hr : ticket.isRedeemed with
  | true => simp [ho, hr]
  | false =>
    cases hp : order.status.isPurchased with
    | false => simp [ho, hr, hp]
    | true =>
      rcases ha : Redemption.authenticateGiven env.secret ticket token with e | ⟨⟩
      · simp [ho, hr, hp, ha, Except.map]
      · have hmark : Transaction.markRedeemed? ticket.id operator sources.now.1 t =
            some (t.modifyTicket ticket.id (Ticket.redeem operator sources.now.1)) := by
          simp [Transaction.markRedeemed?, ht, hr]
          rfl
        have hredeem := fun l => attempt_redeemOrder channel s sources.now.2
          (t.modifyTicket ticket.id (Ticket.redeem operator sources.now.1)) ho hp sources.now.1 l
        cases hu : (t.modifyTicket ticket.id (Ticket.redeem operator sources.now.1)).usedUp
          ticket.orderId <;>
          simp [ho, hr, hp, ha, hmark, hredeem, hu, Except.map, redeemed, redemptionOf, statusAfter]

/-- Checking in redeems the ticket that is admitted; otherwise it changes nothing. -/
theorem serve_redeemTicket (env : Environment) (id : TicketId) (operator : OperatorId)
    (token : Option String) : ∃ after, s.sources.Precedes after ∧
      serve channel (redeemTicket env id operator token) s =
        match s.committed.admission env.secret id (token.bind Text.nonBlank?) with
        | .error e => (.error e, s.settled after s.committed)
        | .ok (ticket, order) =>
          (.ok (redemptionOf s.committed ticket operator s.sources.now.1 order.status),
            s.settled after (s.committed.redeemed ticket operator s.sources.now.1)) := by
  have hinner := (Redemption.careful_redeem env id operator (token.bind Text.nonBlank?)).inner
  have hbody := attempt_redeem channel s s.sources s.committed env id operator
    (token.bind Text.nonBlank?)
  rcases ha : s.committed.admission env.secret id (token.bind Text.nonBlank?) with
    e | ⟨ticket, order⟩ <;>
    rw [ha] at hbody
  · exact serve_transaction_of_error channel hinner hbody
  · exact ⟨_, serve_transaction_of_ok channel hinner hbody⟩

end Memory.State

end EventTickets
