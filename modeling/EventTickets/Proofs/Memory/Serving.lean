import EventTickets.Memory.Store

/-!
# Serving from memory

What a service answers when the store in memory serves it, and the store it leaves. `serve` tells
both whatever the outcome, `attempt` tells the store of a success only. The lemmas run a service
call by call: first the laws of sequencing, then what each call does to a store with an open
transaction.
-/

namespace EventTickets.Memory.State

variable {σ α β : Type} (channel : Channel σ)

def serve (p : Service α) (s : State σ) : Except TicketingError α × State σ :=
  Program.run (S := Request.signature) (answer channel) p.run s

/-- The outcome of a service, with the store only if it succeeded. -/
def attempt (p : Service α) (s : State σ) : Except TicketingError (α × State σ) :=
  match serve channel p s with
  | (.ok a, s') => .ok (a, s')
  | (.error e, _) => .error e

theorem serve_bind (p : Service α) (f : α → Service β) (s : State σ) :
    serve channel (p >>= f) s =
      match serve channel p s with
      | (.ok a, s') => serve channel (f a) s'
      | (.error e, s') => (.error e, s') := by
  refine (congrFun (Service.run_bind (answer channel) p f) s).trans ?_
  rw [serve]
  simp only [bind, StateT.bind]
  rcases Program.run (S := Request.signature) (answer channel) p.run s with ⟨_ | _, s'⟩ <;> rfl

theorem serve_lift (p : Program Request.signature α) (s : State σ) :
    serve channel (ExceptT.lift p : Service α) s =
      (.ok (Program.run (S := Request.signature) (answer channel) p s).1,
        (Program.run (S := Request.signature) (answer channel) p s).2) :=
  congrFun (Program.run_bind (S := Request.signature) (answer channel) p fun a =>
    (pure (Except.ok a) : Program Request.signature (Except TicketingError α))) s

theorem serve_ask (r : Request) (s : State σ) :
    serve channel (Service.ask r) s = (.ok (answer channel r s).1, (answer channel r s).2) := rfl

theorem serve_store (c : StoreCall) (s : State σ) :
    serve channel (Service.store c) s =
      match answerStore c s with
      | (.ok a, s') => (.ok a, s')
      | (.error e, s') => (.error (.store e), s') := by
  have h : answer channel (.store c) s = answerStore c s := rfl
  rw [Service.store, serve_bind, serve_ask, h]
  rcases answerStore c s with ⟨_ | _, s'⟩ <;> rfl

theorem serve_demand (e : TicketingError) (a : Option α) (s : State σ) :
    serve channel (Service.demand e a) s =
      (match a with | some a => .ok a | none => .error e, s) := by
  cases a <;> rfl

theorem serve_liftExcept (x : Except TicketingError α) (s : State σ) :
    serve channel (liftExcept x : Service α) s = (x, s) := by
  cases x <;> rfl

theorem attempt_eq_ok_iff {p : Service α} {s s' : State σ} {a : α} :
    attempt channel p s = .ok (a, s') ↔ serve channel p s = (.ok a, s') := by
  unfold attempt
  rcases serve channel p s with ⟨_ | _, s₁⟩ <;> simp

@[simp] theorem attempt_pure (a : α) (s : State σ) : attempt channel (pure a) s = .ok (a, s) := rfl

@[simp] theorem attempt_throw (e : TicketingError) (s : State σ) :
    attempt channel (throw e : Service α) s = .error e := rfl

@[simp] theorem attempt_bind (p : Service α) (f : α → Service β) (s : State σ) :
    attempt channel (p >>= f) s =
      match attempt channel p s with
      | .ok (a, s') => attempt channel (f a) s'
      | .error e => .error e := by
  simp only [attempt, serve_bind]
  rcases serve channel p s with ⟨_ | _, s'⟩ <;> rfl

theorem attempt_bind_eq_ok_iff {p : Service α} {f : α → Service β} {s : State σ} {r : β × State σ} :
    attempt channel (p >>= f) s = .ok r ↔
      ∃ a s', attempt channel p s = .ok (a, s') ∧ attempt channel (f a) s' = .ok r := by
  rw [attempt_bind]
  rcases attempt channel p s with e | ⟨a, s'⟩
  · simp
  · exact ⟨fun h => ⟨a, s', rfl, h⟩, by rintro ⟨_, _, ⟨⟩, h⟩; exact h⟩

theorem attempt_demand_eq_ok_iff {e : TicketingError} {a : Option α}
    {s : State σ} {r : α × State σ} :
    attempt channel (Service.demand e a) s = .ok r ↔ a = some r.1 ∧ r.2 = s := by
  cases a <;> simp [Service.demand, Prod.ext_iff, eq_comm]

theorem attempt_require_eq_ok_iff {e : TicketingError} {b : Bool} {s : State σ}
    {r : Unit × State σ} :
    attempt channel (Service.require e b) s = .ok r ↔ b = true ∧ r.2 = s := by
  cases b <;> simp [Service.require, Prod.ext_iff, eq_comm]

theorem attempt_liftExcept_eq_ok_iff {x : Except TicketingError α} {s : State σ} {r : α × State σ} :
    attempt channel (liftExcept x : Service α) s = .ok r ↔ x = .ok r.1 ∧ r.2 = s := by
  cases x <;> simp [liftExcept, Prod.ext_iff, eq_comm]

@[simp] theorem attempt_demand (e : TicketingError) (a : Option α) (s : State σ) :
    attempt channel (Service.demand e a) s =
      match a with
      | some a => .ok (a, s)
      | none => .error e := by
  cases a <;> rfl

@[simp] theorem attempt_require (e : TicketingError) (b : Bool) (s : State σ) :
    attempt channel (Service.require e b) s = if b then .ok ((), s) else .error e := by
  cases b <;> rfl

@[simp] theorem attempt_liftExcept (x : Except TicketingError α) (s : State σ) :
    attempt channel (liftExcept x : Service α) s =
      match x with
      | .ok a => .ok (a, s)
      | .error e => .error e := by
  cases x <;> rfl

theorem createPromoCode_eq (draft : PromoCodeDraft) (s : State σ) :
    createPromoCode draft s =
      if (s.committed.promoByCode? draft.code).isSome then
        (.error (.database ("promo code " ++ draft.code ++ " already exists")),
          { s with sources := s.sources.now.2 })
      else
        let promo := draft.promo ⟨s.sources.now.2.newId.1⟩ s.sources.now.1
        (.ok promo, { s with
          sources := s.sources.now.2.newId.2,
          committed :=
            { s.committed with promoCodes := s.committed.promoCodes.insert promo.id promo } }) := by
  change (if _ then _ else _ : StateM _ _) _ = _
  split <;> rfl

def opened (s : State σ) (sources : Sources) (t : Transaction) : State σ :=
  { s with sources := sources, transaction := some t }

def settled (s : State σ) (sources : Sources) (t : Tables) : State σ :=
  { s with sources := sources, committed := t, transaction := none }

variable (s : State σ) (sources : Sources) (t : Tables) {l : LockLedger}

theorem serve_within (c : TransactionCall) (tx : Transaction) :
    serve channel (Service.within c) (s.opened sources tx) =
      match Transaction.answer c tx with
      | (.ok a, tx') => (.ok a, s.opened sources tx')
      | (.error e, tx') => (.error (.store e), s.opened sources tx') := by
  have h : answerStore (.within c) (s.opened sources tx) =
    ((Transaction.answer c tx).1, s.opened sources (Transaction.answer c tx).2) := rfl
  rw [Service.within, serve_store, h]
  rcases Transaction.answer c tx with ⟨_ | _, tx'⟩ <;> rfl

theorem attempt_within_of_ok {c : TransactionCall} {tx tx' : Transaction} {a : c.Reply}
    (h : Transaction.answer c tx = (.ok a, tx')) :
    attempt channel (Service.within c) (s.opened sources tx) = .ok (a, s.opened sources tx') := by
  rw [attempt_eq_ok_iff, serve_within, h]

theorem attempt_within_of_error {c : TransactionCall} {tx : Transaction}
    {e : StoreError} (tx' : Transaction) (h : Transaction.answer c tx = (.error e, tx')) :
    attempt channel (Service.within c) (s.opened sources tx) = .error (.store e) := by
  rw [attempt, serve_within, h]

theorem answer_locking {ρ : Type} {stage : LockStage} (h : l.Admits stage) (f : Tables → ρ) :
    Transaction.locking stage f ⟨t, l⟩ = (.ok (f t), ⟨t, ⟨some stage⟩⟩) := by
  simp [Transaction.locking, LockLedger.acquire_of_admits h]

theorem answer_writeIf (f : Tables → Option Tables) :
    Transaction.writeIf f ⟨t, l⟩ = (.ok (f t).isSome, ⟨(f t).getD t, l⟩) := by
  rw [Transaction.writeIf]
  cases f t <;> rfl

-- What each call answers and does. The type of a reply is computed from the call, so simp must not
-- look for it in the index.
@[simp] theorem attempt_now (tx : Transaction) :
    attempt channel Service.now (s.opened sources tx) =
      .ok (sources.now.1, s.opened sources.now.2 tx) := rfl

@[simp] theorem attempt_newId (tx : Transaction) :
    attempt (α := no_index _) channel (Service.ask .newId) (s.opened sources tx) =
      .ok (sources.newId.1, s.opened sources.newId.2 tx) := rfl

@[simp] theorem attempt_newNonce (size : Nat) (tx : Transaction) :
    attempt (α := no_index _) channel (Service.ask (.newNonce size)) (s.opened sources tx) =
      .ok ((Sources.newNonce size sources).1, s.opened (Sources.newNonce size sources).2 tx) := rfl

@[simp] theorem attempt_eventTitle (event : EventId) :
    attempt (α := no_index _) channel (Service.within (.eventTitle event))
        (s.opened sources ⟨t, l⟩) =
      .ok (t.events.get? event, s.opened sources ⟨t, l⟩) :=
  attempt_within_of_ok channel s sources rfl

@[simp] theorem attempt_lockTicketProduct (h : l.Admits .product) (id : ProductId) :
    attempt (α := no_index _) channel (Service.within (.lockTicketProduct id))
        (s.opened sources ⟨t, l⟩) =
      .ok (t.ticketProducts.get? id, s.opened sources ⟨t, ⟨some .product⟩⟩) :=
  attempt_within_of_ok channel s sources (by rw [Transaction.answer, answer_locking t h])

@[simp] theorem attempt_lockTransferProduct (h : l.Admits .product) (id : ProductId) :
    attempt (α := no_index _) channel (Service.within (.lockTransferProduct id))
        (s.opened sources ⟨t, l⟩) =
      .ok (t.transferProducts.get? id, s.opened sources ⟨t, ⟨some .product⟩⟩) :=
  attempt_within_of_ok channel s sources (by rw [Transaction.answer, answer_locking t h])

@[simp] theorem attempt_lockPromoByCode (h : l.Admits .promo) (code : String) :
    attempt (α := no_index _) channel (Service.within (.lockPromoByCode code))
        (s.opened sources ⟨t, l⟩) =
      .ok (t.promoByCode? code, s.opened sources ⟨t, ⟨some .promo⟩⟩) :=
  attempt_within_of_ok channel s sources (by rw [Transaction.answer, answer_locking t h])

@[simp] theorem attempt_lockOrder (h : l.Admits .order) (id : OrderId) :
    attempt (α := no_index _) channel (Service.within (.lockOrder id)) (s.opened sources ⟨t, l⟩) =
      .ok ((t.orders.get? id).map t.titled, s.opened sources ⟨t, ⟨some .order⟩⟩) :=
  attempt_within_of_ok channel s sources (by rw [Transaction.answer, answer_locking t h])

@[simp] theorem attempt_lockOrderItems (h : l.Admits .orderItem) (order : OrderId) :
    attempt (α := no_index _) channel (Service.within (.lockOrderItems order))
        (s.opened sources ⟨t, l⟩) =
      .ok (t.itemsOf order, s.opened sources ⟨t, ⟨some .orderItem⟩⟩) :=
  attempt_within_of_ok channel s sources (by rw [Transaction.answer, answer_locking t h])

@[simp] theorem attempt_lockOrderTickets (h : l.Admits .ticket) (order : OrderId) :
    attempt (α := no_index _) channel (Service.within (.lockOrderTickets order))
        (s.opened sources ⟨t, l⟩) =
      .ok (t.ticketsOf order, s.opened sources ⟨t, ⟨some .ticket⟩⟩) :=
  attempt_within_of_ok channel s sources (by rw [Transaction.answer, answer_locking t h])

@[simp] theorem attempt_countUnredeemedTickets (order : OrderId) :
    attempt (α := no_index _) channel (Service.within (.countUnredeemedTickets order))
        (s.opened sources ⟨t, l⟩) =
      .ok (((t.ticketsOf order).filter (!·.isRedeemed)).length, s.opened sources ⟨t, l⟩) :=
  attempt_within_of_ok channel s sources rfl

@[simp] theorem attempt_orderDetail (order : OrderId) (withPurchaser : Bool) :
    attempt (α := no_index _) channel (Service.within (.orderDetail order withPurchaser))
        (s.opened sources ⟨t, l⟩) =
      .ok (t.detail? order withPurchaser, s.opened sources ⟨t, l⟩) :=
  attempt_within_of_ok channel s sources rfl

@[simp] theorem attempt_purchaser (user : UserId) :
    attempt (α := no_index _) channel (Service.within (.purchaser user)) (s.opened sources ⟨t, l⟩) =
      .ok (t.users.get? user, s.opened sources ⟨t, l⟩) :=
  attempt_within_of_ok channel s sources rfl

@[simp] theorem attempt_lockTicket (h : l.Admits .order) (id : TicketId) :
    attempt (α := no_index _) channel (Service.within (.lockTicket id)) (s.opened sources ⟨t, l⟩) =
      match t.ticket? id with
      | none => .ok (none, s.opened sources ⟨t, ⟨some .ticket⟩⟩)
      | some ticket =>
        match t.orders.get? ticket.orderId with
        | some order => .ok (some ⟨ticket, order.status⟩, s.opened sources ⟨t, ⟨some .ticket⟩⟩)
        | none =>
          .error (.store (.decode "ticket" ("order " ++ ticket.orderId.text ++ " missing"))) := by
  have hticket : (LockLedger.mk (some .order)).acquire .ticket = .ok ⟨some .ticket⟩ := rfl
  rcases ht : t.ticket? id with _ | ticket
  · refine attempt_within_of_ok channel s sources ?_
    simp [Transaction.answer, Transaction.lockTicket, LockLedger.acquire_of_admits h, hticket, ht]
  · rcases ho : t.orders.get? ticket.orderId with _ | order <;> simp only [ho]
    · refine attempt_within_of_error channel s sources ⟨t, ⟨some .ticket⟩⟩ ?_
      simp [Transaction.answer, Transaction.lockTicket,
        LockLedger.acquire_of_admits h, hticket, ht, ho]
    · refine attempt_within_of_ok channel s sources ?_
      simp [Transaction.answer, Transaction.lockTicket,
        LockLedger.acquire_of_admits h, hticket, ht, ho]

@[simp] theorem attempt_consumePromo (id : PromoCodeId) :
    attempt (α := no_index _) channel (Service.within (.consumePromo id))
        (s.opened sources ⟨t, l⟩) =
      .ok ((t.consumePromo? id).isSome, s.opened sources ⟨(t.consumePromo? id).getD t, l⟩) :=
  attempt_within_of_ok channel s sources (by rw [Transaction.answer, answer_writeIf])

@[simp] theorem attempt_releasePromo (id : PromoCodeId) :
    attempt (α := no_index _) channel (Service.within (.releasePromo id))
        (s.opened sources ⟨t, l⟩) =
      .ok ((), s.opened sources ⟨t.releasePromo id, l⟩) :=
  attempt_within_of_ok channel s sources rfl

@[simp] theorem attempt_reserveInventory (itemType : ItemType) (product : ProductId)
    (quantity : UInt32) :
    attempt (α := no_index _) channel (Service.within (.reserveInventory itemType product quantity))
        (s.opened sources ⟨t, l⟩) =
      .ok ((t.reserve? itemType product quantity).isSome,
        s.opened sources ⟨(t.reserve? itemType product quantity).getD t, l⟩) :=
  attempt_within_of_ok channel s sources (by rw [Transaction.answer, answer_writeIf])

@[simp] theorem attempt_releaseInventory (itemType : ItemType) (product : ProductId)
    (quantity : UInt32) :
    attempt (α := no_index _) channel (Service.within (.releaseInventory itemType product quantity))
        (s.opened sources ⟨t, l⟩) =
      .ok ((), s.opened sources ⟨t.release itemType product quantity, l⟩) :=
  attempt_within_of_ok channel s sources rfl

@[simp] theorem attempt_insertOrder (order : NewOrder) :
    attempt (α := no_index _) channel (Service.within (.insertOrder order))
        (s.opened sources ⟨t, l⟩) =
      match t.orders.get? order.id with
      | some _ => .error (.store (.database ("duplicate order id " ++ order.id.text)))
      | none => .ok ((), s.opened sources ⟨{ t with
          orders := t.orders.insert order.id order.order }, l⟩) := by
  rcases h : t.orders.get? order.id with _ | found
  · exact attempt_within_of_ok channel s sources
      (by simp [Transaction.answer, Transaction.insertOrder, h])
  · exact attempt_within_of_error channel s sources ⟨t, l⟩
      (by simp [Transaction.answer, Transaction.insertOrder, h])

@[simp] theorem attempt_insertOrderItem (item : NewOrderItem) :
    attempt (α := no_index _) channel (Service.within (.insertOrderItem item))
        (s.opened sources ⟨t, l⟩) =
      .ok ((), s.opened sources ⟨t.insertItem item, l⟩) :=
  attempt_within_of_ok channel s sources rfl

@[simp] theorem attempt_insertTicket (ticket : NewTicket) :
    attempt (α := no_index _) channel (Service.within (.insertTicket ticket))
        (s.opened sources ⟨t, l⟩) =
      .ok ((), s.opened sources ⟨t.insertTicket ticket, l⟩) :=
  attempt_within_of_ok channel s sources rfl

@[simp] theorem attempt_transitionOrder (id : OrderId) (transition : OrderTransition) :
    attempt (α := no_index _) channel (Service.within (.transitionOrder id transition))
        (s.opened sources ⟨t, l⟩) =
      .ok ((t.transition? id transition).isSome,
        s.opened sources ⟨(t.transition? id transition).getD t, l⟩) :=
  attempt_within_of_ok channel s sources (by rw [Transaction.answer, answer_writeIf])

@[simp] theorem attempt_issueTicketToken (id : TicketId) (issued : IssuedToken) :
    attempt (α := no_index _) channel (Service.within (.issueTicketToken id issued))
        (s.opened sources ⟨t, l⟩) =
      match t.ticket? id with
      | some _ => .ok ((), s.opened sources ⟨t.modifyTicket id issued.attach, l⟩)
      | none => .error (.store (.database ("ticket " ++ id.text ++ " vanished"))) := by
  rcases h : t.ticket? id with _ | found
  · exact attempt_within_of_error channel s sources ⟨t, l⟩
      (by simp [Transaction.answer, Transaction.issueToken, h])
  · exact attempt_within_of_ok channel s sources
      (by simp [Transaction.answer, Transaction.issueToken, h])

@[simp] theorem attempt_markTicketRedeemed (id : TicketId) (operator : OperatorId)
    (time : Time.Instant) :
    attempt (α := no_index _) channel (Service.within (.markTicketRedeemed id operator time))
        (s.opened sources ⟨t, l⟩) =
      .ok ((Transaction.markRedeemed? id operator time t).isSome,
        s.opened sources ⟨(Transaction.markRedeemed? id operator time t).getD t, l⟩) :=
  attempt_within_of_ok channel s sources (by rw [Transaction.answer, answer_writeIf])

end EventTickets.Memory.State
