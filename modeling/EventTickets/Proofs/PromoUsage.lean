import EventTickets.Proofs.Inventory

/-!
# Promo usage accounting

A use of a promo code is taken when an order is placed and given back when it is canceled, paid or
not, while stock is only taken on payment. In every store a code is used as often as there are
orders that hold it.
-/

namespace EventTickets

/-- Whether an order holds a use of a promo code: it took one when it was placed, and it is not
canceled. -/
def Order.holds (order : Order) (promo : PromoCodeId) : Bool :=
  order.promoCodeId == some promo && order.status != .canceled

namespace OrderTransition

theorem holds_apply_of_ne {transition : OrderTransition} {order : Order}
    (ht : transition.target ≠ .canceled) (ho : order.status ≠ .canceled) (promo : PromoCodeId) :
    (transition.apply order).holds promo = order.holds promo := by
  have hstatus : (transition.apply order).status ≠ .canceled := by
    rw [apply_status]
    exact ht
  rw [Order.holds, Order.holds, Memory.Tables.apply_promoCodeId,
    bne_iff_ne.mpr hstatus, bne_iff_ne.mpr ho]

end OrderTransition

namespace Memory.Tables

variable {t t' : Tables} {promo : PromoCodeId}

def holders (t : Tables) (promo : PromoCodeId) : Nat := t.orders.values.countP (·.holds promo)

theorem holders_congr (h : t'.orders = t.orders) : t'.holders promo = t.holders promo := by
  rw [holders, holders, h]

theorem holders_eq_zero
    (h : ∀ id order, t.orders.get? id = some order → order.promoCodeId ≠ some promo) :
    t.holders promo = 0 := by
  refine List.countP_eq_zero.mpr fun order hmem hholds => ?_
  obtain ⟨id, ho⟩ := Table.mem_values_iff.mp hmem
  rw [Order.holds, Bool.and_eq_true, beq_iff_eq] at hholds
  exact h id order ho hholds.1

theorem holders_pos {id : OrderId} {order : Order} (ho : t.orders.get? id = some order)
    (h : order.holds promo = true) : 0 < t.holders promo :=
  List.countP_pos_iff.mpr ⟨order, Table.mem_values_iff.mpr ⟨id, ho⟩, h⟩

theorem holders_transition {id : OrderId} {order : Order} {transition : OrderTransition}
    (ho : t.orders.get? id = some order) (horders : t'.orders = t.orders.modify id transition.apply)
    (promo : PromoCodeId) :
    t'.holders promo + (if order.holds promo then 1 else 0) =
      t.holders promo + if (transition.apply order).holds promo then 1 else 0 := by
  rw [holders, holders, horders]
  exact Table.countP_modify ho _ _

theorem holders_kept {id : OrderId} {order : Order} {transition : OrderTransition}
    (ho : t.orders.get? id = some order) (horders : t'.orders = t.orders.modify id transition.apply)
    (ht : transition.target ≠ .canceled) (hs : order.status ≠ .canceled) :
    t'.holders promo = t.holders promo := by
  have hcount := holders_transition ho horders promo
  rw [OrderTransition.holds_apply_of_ne ht hs] at hcount
  exact Nat.add_right_cancel hcount

theorem holders_placed {t₁ : Tables} {w : Purchase.Placement} {a b : Supply Uuid}
    (hpromo : t.PromoTaken w.order.promoCodeId t₁) (hw : w.Sound t a b) (promo : PromoCodeId) :
    (t₁.placed w).holders promo = t.holders promo + if w.order.promoCodeId =
      some promo then 1 else 0 := by
  have hholds : w.order.order.holds promo = (w.order.promoCodeId == some promo) := Bool.and_true _
  rw [holders, orders_placed hpromo, Table.countP_insert hw.absent, hholds, ← holders]
  simp only [beq_iff_eq]

def UsageExact (t : Tables) : Prop :=
  ∀ id p, t.promoCodes.get? id = some p → p.usedCount.toNat = t.holders id

/-- How a call may change the uses of a promo code that is there before and after, and the orders
that hold it. -/
inductive PromoStep (t t' : Tables) (c : ServiceCall) (id : PromoCodeId) (p p' : PromoCode) : Prop
  | same (used : p'.usedCount = p.usedCount) (holders : t'.holders id = t.holders id)
  | taken (request : CreateOrderRequest) (call : c = .createOrder request)
    (named : t.Names (request.promoCode.map Text.normalizeToken) id) (free : p.HasUse)
    (used : p' = p.used)
    (holders : t'.holders id = t.holders id + 1)
  | returned (orderId : OrderId) (operator : OperatorId) (reason : Option String) (order : Order)
    (call : c = .cancelOrder orderId operator reason) (found : t.orders.get? orderId = some order)
    (holds : order.holds id = true) (used : p'.usedCount = released p.usedCount 1)
    (holders : t'.holders id + 1 = t.holders id)

theorem PromoStep.exact {c : ServiceCall} {id : PromoCodeId} {p p' : PromoCode}
    (h : PromoStep t t' c id p p') (hexact : p.usedCount.toNat = t.holders id) :
    p'.usedCount.toNat = t'.holders id := by
  cases h with
  | same used holders => rw [used, holders, hexact]
  | taken request call named free used holders => rw [used, free.toNat_used, holders, hexact]
  | returned orderId operator reason order call found holds used holders =>
    rw [used, toNat_released, hexact, ← holders]
    rfl

section

variable {a b : Sources} {env : Environment} {now : Time.Instant}
  {c : ServiceCall} {id : PromoCodeId}
  {p' : PromoCode}

theorem promoStep_canceled {orderId : OrderId} {order : Order} (operator : OperatorId)
    (now : Time.Instant) (reason noted : Option String) (ho : t.orders.get? orderId = some order)
    (hopen : order.status.isTerminal = false)
    (hp' : (t.canceled orderId order operator now noted).promoCodes.get? id = some p') :
    ∃ p, t.promoCodes.get? id = some p ∧
      PromoStep t (t.canceled orderId order operator now noted)
        (.cancelOrder orderId operator reason) id p p' := by
  have hcount := holders_transition ho (orders_canceled t orderId order operator now noted) id
  have hgone : ((OrderTransition.cancel operator now noted).apply order).holds id = false := by
    rw [Order.holds, OrderTransition.apply_status]
    exact Bool.and_false _
  have hlive : order.status ≠ .canceled := by
    intro e
    rw [e] at hopen
    cases hopen
  rw [hgone] at hcount
  rw [get?_promoCodes_canceled] at hp'
  by_cases hpromo : order.promoCodeId = some id
  · rw [if_pos hpromo] at hp'
    obtain ⟨p, hp, rfl⟩ := Option.map_eq_some_iff.mp hp'
    have hholds : order.holds id = true := by
      rw [Order.holds, hpromo, bne_iff_ne.mpr hlive, BEq.rfl, Bool.and_self]
    rw [hholds] at hcount
    exact ⟨p, hp, .returned orderId operator reason order rfl ho hholds rfl hcount⟩
  · rw [if_neg hpromo] at hp'
    have hholds : order.holds id = false := by
      rw [Order.holds, beq_eq_false_iff_ne.mpr hpromo, Bool.false_and]
    rw [hholds] at hcount
    exact ⟨p', hp', .same rfl hcount⟩

theorem promoStep_effect (he : Effect env a.ids b.ids now t c t')
    (hp' : t'.promoCodes.get? id = some p') :
    (∃ p, t.promoCodes.get? id = some p ∧ PromoStep t t' c id p p') ∨
      a.ids.Next id.uuid b.ids ∧ p'.usedCount = 0 ∧ t'.holders id = t.holders id := by
  cases he with
  | catalog hchange =>
    have hsame : t'.holders id = t.holders id := holders_congr hchange.sameOrders.orders
    rcases hchange.promo hp' with ⟨p, hp, -, hused⟩ | ⟨-, hnext, hused⟩
    · exact .inl ⟨p, hp, .same hused hsame⟩
    · exact .inr ⟨hnext, hused, hsame⟩
  | place request w t₁ hpromo hw hnamed =>
    have hcount := holders_placed hpromo hw id
    obtain ⟨p, hp, ⟨hother, rfl⟩ | ⟨htaken, hfree, rfl⟩⟩ := hpromo.row hp'
    · rw [if_neg hother] at hcount
      exact .inl ⟨_, hp, .same rfl hcount⟩
    · rw [if_pos htaken] at hcount
      exact .inl ⟨p, hp, .taken request rfl (hnamed id htaken) hfree rfl hcount⟩
  | @confirm _ orderId operator hcall t₁ nonces hr =>
    obtain ⟨order, ho, hpending, -⟩ := reservedFor_eq_ok hr
    have hlive : order.status ≠ .canceled := by
      rw [hpending]
      decide
    have horders := orders_confirmed hr operator now env.secret nonces
    rw [promoCodes_confirmed hr] at hp'
    exact .inl ⟨p', hp', .same rfl (holders_kept ho horders OrderStatus.noConfusion hlive)⟩
  | cancel orderId operator reason order ho hopen =>
    exact .inl (promoStep_canceled operator now reason _ ho hopen hp')
  | redeem ticketId operator token ticket order hadmitted =>
    obtain ⟨-, ho, -, hpurchased, -⟩ := admission_eq_ok_iff.mp hadmitted
    have hlive : order.status ≠ .canceled := by
      intro e
      rw [e] at hpurchased
      cases hpurchased
    have horders := orders_redeemed t ticket operator now
    rw [promoCodes_redeemed] at hp'
    split at horders
    · exact .inl ⟨p', hp', .same rfl (holders_kept ho horders OrderStatus.noConfusion hlive)⟩
    · exact .inl ⟨p', hp', .same rfl (holders_congr horders)⟩

theorem usageExact_effect (hab : a.Precedes b) (hb : b.ids.Fresh) (hc : t.Consistent a.ids.Drawn)
    (hexact : t.UsageExact) (he : Effect env a.ids b.ids now t c t') : t'.UsageExact := by
  intro id p' hp'
  rcases promoStep_effect he hp' with ⟨p, hp, hstep⟩ | ⟨hnext, hused, hholders⟩
  · exact hstep.exact (hexact id p hp)
  · -- No order can hold a code that was not there.
    have hnone : t.holders id = 0 := holders_eq_zero fun orderId order ho hpromo =>
      not_drawn_of_next hab hb hnext (hc.order_promo orderId order id ho hpromo)
    rw [hused, hholders, hnone]
    rfl

theorem promo_kept (he : Effect env a.ids b.ids now t c t') (hc : ¬ c.ChangesCatalog)
    (hp : (t.promoCodes.get? id).isSome) : (t'.promoCodes.get? id).isSome := by
  cases he with
  | catalog hchange hcall =>
    rw [hcall.resolve_left hc]
    exact hp
  | place request w t₁ hpromo hw hnamed => exact hpromo.kept hp
  | confirm hcall t₁ nonces hr =>
    rw [promoCodes_confirmed hr]
    exact hp
  | cancel orderId operator reason order ho hopen =>
    rw [get?_promoCodes_canceled]
    split
    · rwa [Option.isSome_map]
    · exact hp
  | redeem ticketId operator token ticket order hadmitted =>
    rw [promoCodes_redeemed]
    exact hp

end

end Memory.Tables

namespace Memory.State

open Tables

variable {σ : Type} {channel : Channel σ} {allowed : State σ → Environment → ServiceCall → Prop}
  {s : State σ}

theorem Reachable.usageExact (h : Reachable channel allowed s) (hfresh : s.sources.ids.Fresh) :
    s.committed.UsageExact := by
  refine h.invariant ?_ ?_ ?_ hfresh
  · intro id p hp
    cases hp
  · exact fun t events users ht => ht
  · intro s env c t' after hwell ha hafter hfresh heffect hexact
    exact usageExact_effect hafter hfresh hwell.consistent hexact heffect

theorem Reachable.promoStep (h : Reachable channel allowed s) {env : Environment} {c : ServiceCall}
    {r : Except TicketingError c.Reply} {s' : State σ}
    (hserve : serve channel (c.service env) s = (r, s')) (hfresh : s'.sources.ids.Fresh)
    {id : PromoCodeId} {p : PromoCode} (hp : s.committed.promoCodes.get? id = some p) :
    (∃ e, r = .error e ∧ s'.committed = s.committed) ∨
      (∃ reply, r = .ok reply) ∧ (¬ c.ChangesCatalog → (s'.committed.promoCodes.get? id).isSome) ∧
        ∀ p', s'.committed.promoCodes.get? id = some p' →
          PromoStep s.committed s'.committed c id p p' := by
  have hprecedes := serve_precedes channel (c.service env) s
  rw [hserve] at hprecedes
  have hwell := h.wellFormed (hprecedes.fresh hfresh)
  have hsome : (s.committed.promoCodes.get? id).isSome := by
    rw [hp]
    rfl
  rcases call_ends channel env s c with
    ⟨e, s₁, hs₁, hbecomes⟩ | ⟨a, s₁, t', hs₁, hbecomes, heffect⟩ <;>
    cases hserve.symm.trans hs₁
  · exact .inl ⟨e, rfl, hbecomes.committed⟩
  · rw [hbecomes.committed]
    refine .inr ⟨⟨a, rfl⟩, fun hc => promo_kept heffect hc hsome, fun p' hp' => ?_⟩
    rcases promoStep_effect heffect hp' with ⟨p₁, hp₁, hstep⟩ | ⟨hnext, -, -⟩
    · cases hp.symm.trans hp₁
      exact hstep
    · -- A code that is new cannot have been there before.
      exact (not_drawn_of_next hprecedes hfresh hnext (hwell.consistent.promo_drawn id hsome)).elim

theorem lowered_of_canceled (h : Reachable channel allowed s)
    (hfresh : s.sources.ids.Fresh) {orderId : OrderId} {operator : OperatorId}
    {reason : Option String} {detail : OrderDetail} {s' : State σ}
    (hserve : serve channel (cancelOrder orderId operator reason) s = (.ok detail, s'))
    {order : Order} (ho : s.committed.orders.get? orderId = some order) {id : PromoCodeId}
    (hpromo : order.promoCodeId = some id) {p p' : PromoCode}
    (hp : s.committed.promoCodes.get? id = some p)
    (hp' : s'.committed.promoCodes.get? id = some p') :
    (order.status = .pending ∨ order.status = .paid) ∧
      p'.usedCount.toNat + 1 = p.usedCount.toNat := by
  rcases serve_cancelOrder channel s orderId operator reason with
    ⟨e, after, -, -, hs⟩ | ⟨order₁, detail₁, after, ho₁, hopen, -, hs⟩ <;>
    cases hserve.symm.trans hs
  cases ho.symm.trans ho₁
  have hcommitted : ∀ t, (s.settled after t).committed = t := fun _ => rfl
  rw [hcommitted, get?_promoCodes_canceled, if_pos hpromo, hp] at hp'
  cases hp'
  have hstatus : order.status = .pending ∨ order.status = .paid := by
    cases hs : order.status with
    | pending => exact .inl rfl
    | paid => exact .inr rfl
    | canceled => rw [hs] at hopen; cases hopen
    | redeemed => rw [hs] at hopen; cases hopen
  have hholds : order.holds id = true := by
    rw [Order.holds, hpromo]
    rcases hstatus with e | e <;> rw [e, BEq.rfl] <;> rfl
  have hexact := h.usageExact hfresh id p hp
  have hpos := holders_pos ho hholds
  refine ⟨hstatus, ?_⟩
  rw [toNat_released]
  change p.usedCount.toNat - 1 + 1 = _
  omega

/-- What a call does to the uses of a promo code. -/
structure Accounts (s : State σ) (c : ServiceCall)
    (r : Except TicketingError c.Reply) (id : PromoCodeId) (p p' : PromoCode) : Prop where
  raised : p.usedCount < p'.usedCount → ∃ request reply, c = .createOrder request ∧ r = .ok reply ∧
    s.committed.Names (request.promoCode.map Text.normalizeToken) id ∧
    p'.usedCount.toNat = p.usedCount.toNat + 1 ∧
    ∀ limit, p.usageLimit = some limit → 0 < limit → p.usedCount < limit
  lowered : p'.usedCount < p.usedCount → ∃ orderId operator reason reply order,
    c = .cancelOrder orderId operator reason ∧ r = .ok reply ∧
    s.committed.orders.get? orderId = some order ∧ order.holds id = true ∧
    p'.usedCount.toNat + 1 = p.usedCount.toNat
  canceled : ∀ orderId operator reason reply order, c = .cancelOrder orderId operator reason →
    r = .ok reply → s.committed.orders.get? orderId = some order → order.promoCodeId = some id →
    (order.status = .pending ∨ order.status = .paid) ∧ p'.usedCount.toNat + 1 = p.usedCount.toNat
  failed : ∀ e, r = .error e → p' = p
  others : (∀ request, c ≠ .createOrder request) →
    (∀ orderId operator reason, c ≠ .cancelOrder orderId operator reason) →
    p'.usedCount = p.usedCount

theorem Reachable.accounts (h : Reachable channel allowed s) {env : Environment} {c : ServiceCall}
    {r : Except TicketingError c.Reply} {s' : State σ}
    (hserve : serve channel (c.service env) s = (r, s')) (hfresh : s'.sources.ids.Fresh)
    {id : PromoCodeId} {p p' : PromoCode} (hp : s.committed.promoCodes.get? id = some p)
    (hp' : s'.committed.promoCodes.get? id = some p') : s.Accounts c r id p p' := by
  have hprecedes := serve_precedes channel (c.service env) s
  rw [hserve] at hprecedes
  have hbefore := hprecedes.fresh hfresh
  have hcanceled : ∀ orderId operator reason reply order, c = .cancelOrder orderId operator reason →
      r = .ok reply → s.committed.orders.get? orderId = some order → order.promoCodeId = some id →
      (order.status = .pending ∨ order.status = .paid) ∧
      p'.usedCount.toNat + 1 = p.usedCount.toNat := by
    rintro orderId operator reason reply order rfl rfl ho hpromo
    exact lowered_of_canceled h hbefore hserve ho hpromo hp hp'
  rcases h.promoStep hserve hfresh hp with ⟨e, rfl, hsame⟩ | ⟨⟨reply, hr⟩, -, hstep⟩
  · rw [hsame, hp] at hp'
    cases hp'
    exact ⟨fun hlt => (UInt32.lt_irrefl _ hlt).elim, fun hlt => (UInt32.lt_irrefl _ hlt).elim,
      hcanceled, fun _ _ => rfl, fun _ _ => rfl⟩
  have hfailed : ∀ e, r = .error e → p' = p := by
    intro e he
    rw [hr] at he
    cases he
  cases hstep p' hp' with
  | same hused =>
    refine ⟨fun hlt => ?_, fun hlt => ?_, hcanceled, hfailed, fun _ _ => hused⟩
    · rw [hused] at hlt
      exact (UInt32.lt_irrefl _ hlt).elim
    · rw [hused] at hlt
      exact (UInt32.lt_irrefl _ hlt).elim
  | taken request call named free used holders =>
    have hused : p'.usedCount.toNat = p.usedCount.toNat + 1 := used ▸ free.toNat_used
    refine ⟨fun _ => ⟨request, reply, call, hr, named, hused, free.limit⟩,
      fun hlt => ?_, hcanceled, hfailed, fun hother => ?_⟩
    · rw [UInt32.lt_iff_toNat_lt] at hlt
      omega
    · exact (hother request call).elim
  | returned orderId operator reason order call found holds used holders =>
    have hused : p'.usedCount.toNat + 1 = p.usedCount.toNat := by
      have hexact := h.usageExact hbefore id p hp
      have hpos := holders_pos found holds
      rw [used, toNat_released]
      change p.usedCount.toNat - 1 + 1 = _
      omega
    refine ⟨fun hlt => ?_, fun _ => ⟨orderId, operator, reason, reply, order, call, hr, found,
      holds, hused⟩, hcanceled, hfailed, fun _ hother => (hother orderId operator reason call).elim⟩
    rw [UInt32.lt_iff_toNat_lt] at hlt
    omega

/-- In every store a promo code is used as often as there are orders that took it and are not
canceled, so the counter of a code that some order holds is never zero. A call that fails leaves
codes alone. Only placing an order that names a code raises its counter, by one and within the
limit; canceling such an order lowers it by one, and nothing else does. -/
theorem promo_usage_exact (h : Reachable channel anyCall s) (hfresh : s.sources.ids.Fresh) :
    (∀ id p, s.committed.promoCodes.get? id = some p →
      p.usedCount.toNat = s.committed.holders id ∧
        ∀ orderId order, s.committed.orders.get? orderId = some order →
          order.holds id = true → 0 < p.usedCount) ∧
    ∀ (env : Environment) (c : ServiceCall) (r : Except TicketingError c.Reply) (s' : State σ),
      serve channel (c.service env) s = (r, s') → s'.sources.ids.Fresh →
      ∀ id p, s.committed.promoCodes.get? id = some p →
        (¬ c.ChangesCatalog ∨ (∃ e, r = .error e) → (s'.committed.promoCodes.get? id).isSome) ∧
        ∀ p', s'.committed.promoCodes.get? id = some p' → s.Accounts c r id p p' := by
  refine ⟨fun id p hp => ⟨h.usageExact hfresh id p hp, fun orderId order ho hholds => ?_⟩, ?_⟩
  · have hpos := holders_pos ho hholds
    rw [← h.usageExact hfresh id p hp] at hpos
    exact UInt32.lt_iff_toNat_lt.mpr hpos
  · intro env c r s' hserve hfresh' id p hp
    refine ⟨fun hc => ?_, fun p' hp' => h.accounts hserve hfresh' hp hp'⟩
    rcases h.promoStep hserve hfresh' hp with ⟨e, -, hsame⟩ | ⟨⟨reply, hr⟩, hkept, -⟩
    · rw [hsame, hp]
      rfl
    · refine hkept (hc.resolve_right fun ⟨e, he⟩ => ?_)
      rw [hr] at he
      cases he

theorem promo_usage_exact_returned :
    ∃ reply s' p p',
      serve .log (Sample.cancelDiscounted.service Sample.environment)
          (Sample.store Sample.untilDiscountedPaid) =
        (.ok reply, s') ∧
      (Sample.store Sample.untilDiscountedPaid).committed.promoCodes.get? Sample.promo = some p ∧
      s'.committed.promoCodes.get? Sample.promo = some p' ∧
      (Sample.store Sample.untilDiscountedPaid).committed.holders Sample.promo = 1 ∧
      p.usedCount = 1 ∧ p'.usedCount.toNat = 0 := by
  have hused :
      ((Sample.store Sample.untilDiscountedPaid).committed.promoCodes.get? Sample.promo).map
        (·.usedCount) = some 1 := by decide +kernel
  have hheld : ((Sample.store Sample.untilDiscountedPaid).committed.orders.get?
      Sample.discountedOrder).map
      (·.promoCodeId) = some (some Sample.promo) := by decide +kernel
  have hok : (serve .log (Sample.cancelDiscounted.service Sample.environment)
      (Sample.store Sample.untilDiscountedPaid)).1.toOption.isSome = true := by decide +kernel
  have hfresh := Sample.store_fresh Sample.untilDiscountedPaid (by decide +kernel)
  have hfresh' := Sample.store_fresh (Sample.untilDiscountedPaid ++ [Sample.cancelDiscounted])
    (by decide +kernel)
  rw [Sample.store_snoc] at hfresh'
  obtain ⟨p, hp, hone⟩ := Option.map_eq_some_iff.mp hused
  obtain ⟨order, ho, hpromo⟩ := Option.map_eq_some_iff.mp hheld
  obtain ⟨hexact, hcalls⟩ := promo_usage_exact
    (Sample.store_reachable Sample.untilDiscountedPaid) hfresh
  rcases hserve : serve .log (Sample.cancelDiscounted.service Sample.environment)
    (Sample.store Sample.untilDiscountedPaid) with ⟨_ | reply, s'⟩ <;> rw [hserve] at hok hfresh'
  · cases hok
  · obtain ⟨hkept, haccounts⟩ :=
      hcalls Sample.environment Sample.cancelDiscounted _ s' hserve hfresh' _ p hp
    obtain ⟨p', hp'⟩ := Option.isSome_iff_exists.mp (hkept (.inl id))
    have hlowered := (haccounts p' hp').canceled _ _ _ reply order rfl rfl ho hpromo
    have hcount := (hexact _ p hp).1
    rw [hone] at hcount hlowered
    exact ⟨reply, s', p, p', rfl, hp, hp', hcount.symm, hone, Nat.succ.inj hlowered.2⟩

end Memory.State

end EventTickets
