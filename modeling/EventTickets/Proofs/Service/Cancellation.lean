import EventTickets.Proofs.Service.Confirmation

/-!
# What canceling does

A paid order gives its stock back, line by line, and any order the use of its promo code. Counters
stop at zero; whether they ever would is a matter of what is counted, not of the service.
-/

namespace EventTickets.Memory

namespace Tables

variable {t : Tables}

def releaseAll : List OrderItem → Tables → Tables
  | [], t => t
  | i :: rest, t => (t.release i.itemType i.productId i.quantity).releaseAll rest

theorem sameButProducts_releaseAll (t : Tables) (items : List OrderItem) :
    SameButProducts t (t.releaseAll items) := by
  induction items generalizing t with
  | nil => exact .refl t
  | cons i rest ih => exact (sameButProducts_release t _ _ _).trans (ih _)

theorem stock?_releaseAll (t : Tables) (items : List OrderItem) (kind : ItemType)
    (product : ProductId) :
    (t.stock? kind product = none → (t.releaseAll items).stock? kind product = none) ∧
      ∀ stock, t.stock? kind product = some stock →
        ∃ stock', (t.releaseAll items).stock? kind product = some stock' ∧
          stock'.limit = stock.limit ∧ stock'.sold.toNat =
            stock.sold.toNat - OrderItem.units kind product items := by
  induction items generalizing t with
  | nil => exact ⟨id, fun stock hs => ⟨stock, hs, rfl, rfl⟩⟩
  | cons i rest ih =>
    obtain ⟨hnone, hsome⟩ := ih (t.release i.itemType i.productId i.quantity)
    rw [stock?_release] at hnone hsome
    rw [OrderItem.units, releaseAll]
    by_cases e : kind = i.itemType ∧ product = i.productId
    · rw [if_pos e] at hnone hsome
      rw [if_pos e]
      obtain ⟨rfl, rfl⟩ := e
      refine ⟨fun h => hnone (by rw [h]; rfl), fun stock hs => ?_⟩
      obtain ⟨stock', hs', hlimit, hsold⟩ := hsome _ (by rw [hs]; rfl)
      -- Stopping at zero line by line is the same as stopping at zero in the end.
      refine ⟨stock', hs', hlimit, ?_⟩
      simp only [toNat_released] at hsold
      omega
    · rw [if_neg e] at hnone hsome
      rw [if_neg e, Nat.zero_add]
      exact ⟨hnone, hsome⟩

def openOrder (t : Tables) (id : OrderId) : Except TicketingError Order :=
  match t.orders.get? id with
  | none => .error (.orderNotFound id)
  | some order =>
    if order.status.isTerminal then .error (.orderStateNotAllowed order.status) else .ok order

def stockReturned (t : Tables) (id : OrderId) (order : Order) : Tables :=
  if order.status = .paid then t.releaseAll (OrderItem.reservationOrder (t.itemsOf id)) else t

def promoReturned (t : Tables) : Option PromoCodeId → Tables
  | some promo => t.releasePromo promo
  | none => t

def canceled (t : Tables) (id : OrderId) (order : Order) (operator : OperatorId)
    (now : Time.Instant) (reason : Option String) : Tables :=
  ((t.stockReturned id order).promoReturned order.promoCodeId).transitioned id
    (.cancel operator now reason)

theorem sameButProducts_stockReturned (t : Tables) (id : OrderId) (order : Order) :
    SameButProducts t (t.stockReturned id order) := by
  rw [stockReturned]
  split
  · exact sameButProducts_releaseAll t _
  · exact .refl t

theorem stock?_canceled (t : Tables) (id : OrderId) (order : Order) (operator : OperatorId)
    (now : Time.Instant) (reason : Option String) :
    (t.canceled id order operator now reason).stock? = (t.stockReturned id order).stock? := by
  refine stock?_congr ?_ ?_ <;> rw [canceled] <;> cases order.promoCodeId <;> rfl

@[simp] theorem promoReturned_orders (promo : Option PromoCodeId) :
    (t.promoReturned promo).orders = t.orders := by
  cases promo <;> rfl

section

variable (t : Tables) (id : OrderId) (order : Order) (operator : OperatorId) (now : Time.Instant)
  (reason : Option String)

theorem orders_canceled :
    (t.canceled id order operator now reason).orders =
      t.orders.modify id (OrderTransition.cancel operator now reason).apply := by
  rw [← (sameButProducts_stockReturned t id order).orders, canceled]
  cases order.promoCodeId <;> rfl

theorem tickets_canceled : (t.canceled id order operator now reason).tickets = t.tickets := by
  rw [← (sameButProducts_stockReturned t id order).tickets, canceled]
  cases order.promoCodeId <;> rfl

theorem get?_promoCodes_canceled (promo : PromoCodeId) :
    (t.canceled id order operator now reason).promoCodes.get? promo =
      if order.promoCodeId = some promo then
        (t.promoCodes.get? promo).map fun p => { p with usedCount := released p.usedCount 1 }
      else t.promoCodes.get? promo := by
  rw [← (sameButProducts_stockReturned t id order).promoCodes, canceled]
  cases hpromo : order.promoCodeId with
  | none => rfl
  | some held =>
    simp only [promoReturned, transitioned, releasePromo, Table.get?_modify, Option.some.injEq]
    by_cases e : promo = held
    · rw [if_pos e, if_pos e.symm]
    · rw [if_neg e, if_neg (Ne.symm e)]

theorem orderItems_canceled :
    (t.canceled id order operator now reason).orderItems = t.orderItems := by
  rw [← (sameButProducts_stockReturned t id order).orderItems, canceled]
  cases order.promoCodeId <;> rfl

end

end Tables

namespace State

open Tables

variable {σ : Type} (channel : Channel σ) (s : State σ) (sources : Sources)
  (t : Tables) (l : LockLedger)

theorem attempt_releaseItems (items : List OrderItem) :
    attempt channel (Cancellation.releaseItems items) (s.opened sources ⟨t, l⟩) =
      .ok ((), s.opened sources ⟨t.releaseAll items, l⟩) := by
  induction items generalizing t with
  | nil => rfl
  | cons i rest ih => simp [Cancellation.releaseItems, releaseAll, ih]

theorem attempt_releaseStock (id : OrderId) (order : Order) :
    ∃ l, attempt channel (Cancellation.releaseStock id order.status)
        (s.opened sources ⟨t, ⟨some .order⟩⟩) =
      .ok ((), s.opened sources ⟨t.stockReturned id order, l⟩) := by
  rw [Cancellation.releaseStock, stockReturned]
  split
  · exact ⟨⟨some .orderItem⟩, by simp [LockStage.rank, attempt_releaseItems]⟩
  · exact ⟨⟨some .order⟩, rfl⟩

theorem attempt_releasePromoGiven (promo : Option PromoCodeId) :
    attempt channel (Cancellation.releasePromoGiven promo) (s.opened sources ⟨t, l⟩) =
      .ok ((), s.opened sources ⟨t.promoReturned promo, l⟩) := by
  cases promo with
  | none => rfl
  | some id => simp [Cancellation.releasePromoGiven, promoReturned]

theorem attempt_cancel (id : OrderId) (operator : OperatorId) (reason : Option String) :
    (∃ e, t.openOrder id = .error e ∧
      attempt channel (Cancellation.cancel id operator reason)
        (s.opened sources ⟨t, .empty⟩) = .error e) ∨
    ∃ (order : Order) (detail : OrderDetail) (l : LockLedger),
      t.orders.get? id = some order ∧ order.status.isTerminal = false ∧
      attempt channel (Cancellation.cancel id operator reason) (s.opened sources ⟨t, .empty⟩) =
        .ok (detail, s.opened sources.now.2
          ⟨t.canceled id order operator sources.now.1 reason, l⟩) := by
  simp only [Cancellation.cancel, attempt_bind, attempt_lockOrder,
    LockLedger.empty_admits, openOrder]
  rcases ho : t.orders.get? id with _ | order
  · exact .inl ⟨.orderNotFound id, rfl, by simp⟩
  cases hterminal : order.status.isTerminal with
  | true =>
    exact .inl ⟨.orderStateNotAllowed order.status, if_pos hterminal, by simp [titled, hterminal]⟩
  | false =>
    obtain ⟨l, hstock⟩ := attempt_releaseStock channel s sources t id order
    have horder : ((t.stockReturned id order).promoReturned order.promoCodeId).orders.get? id =
        some order := by
      rw [promoReturned_orders, (sameButProducts_stockReturned t id order).orders, ho]
    have htr : ((t.stockReturned id order).promoReturned order.promoCodeId).transition? id
        (.cancel operator sources.now.1 reason) =
        some (t.canceled id order operator sources.now.1 reason) := by
      rw [transition?_eq horder, canceled]
      cases hs : order.status <;> rw [hs] at hterminal <;> first | rfl | cases hterminal
    have hdetail : ∃ detail, (t.canceled id order operator sources.now.1 reason).detail? id false =
        some detail := by
      simp [canceled, transitioned, detail?, (sameButProducts_stockReturned t id order).orders, ho]
    obtain ⟨detail, hdetail⟩ := hdetail
    refine .inr ⟨order, detail, l, rfl, hterminal, ?_⟩
    simp [titled, hterminal, hstock, attempt_releasePromoGiven, htr, hdetail]

/-- Canceling undoes an order that is not finished; otherwise it changes nothing. -/
theorem serve_cancelOrder (id : OrderId) (operator : OperatorId) (reason : Option String) :
    (∃ e after, s.committed.openOrder id = .error e ∧ s.sources.Precedes after ∧
      serve channel (cancelOrder id operator reason) s = (.error e, s.settled after s.committed)) ∨
    ∃ (order : Order) (detail : OrderDetail) (after : Sources),
      s.committed.orders.get? id = some order ∧ order.status.isTerminal = false ∧
        s.sources.Precedes after ∧
      serve channel (cancelOrder id operator reason) s =
        (.ok detail, s.settled after
          (s.committed.canceled id order operator s.sources.now.1
            (reason.bind Text.nonBlank?))) := by
  have hinner := (Cancellation.careful_cancel id operator (reason.bind Text.nonBlank?)).inner
  rcases attempt_cancel channel s s.sources s.committed id operator
    (reason.bind Text.nonBlank?) with
    ⟨e, he, h⟩ | ⟨order, detail, l, ho, hterminal, h⟩
  · obtain ⟨after, hafter, hs⟩ := serve_transaction_of_error channel hinner h
    exact .inl ⟨e, after, he, hafter, hs⟩
  · obtain ⟨hafter, hs⟩ := serve_transaction_of_ok channel hinner h
    exact .inr ⟨order, detail, _, ho, hterminal, hafter, hs⟩

end State

end EventTickets.Memory
