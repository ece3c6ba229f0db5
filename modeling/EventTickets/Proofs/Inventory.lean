import EventTickets.Proofs.Runs

/-!
# Inventory accounting

The counter of a product and the lines of orders are written by different calls, yet they agree in
every store: what is sold of a product is what the lines of paid and redeemed orders hold of it.
-/

namespace EventTickets

namespace OrderItem

variable {kind : ItemType} {product : ProductId}

theorem units_filter_split (f g : OrderItem → Bool) (items : List OrderItem) :
    units kind product (items.filter f) =
      units kind product (items.filter fun i => f i && !g i) +
        units kind product (items.filter fun i => f i && g i) := by
  induction items with
  | nil => rfl
  | cons i rest ih =>
    cases hf : f i <;> cases hg : g i <;> simp only [List.filter_cons, hf, hg,
      Bool.and_true, Bool.and_false, Bool.not_true, Bool.not_false, if_true, Bool.false_eq_true,
      if_false, units, ih] <;> omega

theorem units_eq_zero {items : List OrderItem} (h : ∀ i ∈ items, i.productId ≠ product) :
    units kind product items = 0 := by
  induction items with
  | nil => rfl
  | cons i rest ih =>
    obtain ⟨hi, hrest⟩ := List.forall_mem_cons.mp h
    rw [units, if_neg fun e => hi e.2.symm, ih hrest]

theorem units_reservationOrder (items : List OrderItem) :
    units kind product (reservationOrder items) = units kind product items :=
  units_perm (List.mergeSort_perm items reservedBefore)

end OrderItem

open OrderItem (units)

namespace OrderTransition

theorem apply_status (transition : OrderTransition) (order : Order) :
    (transition.apply order).status = transition.target := by
  cases transition <;> rfl

end OrderTransition

namespace Memory.Tables

variable {t t' : Tables} {kind : ItemType} {product : ProductId}

def isSold (t : Tables) (i : OrderItem) : Bool :=
  (t.orders.get? i.orderId).any (·.status.isPurchased)

def unitsSold (t : Tables) (kind : ItemType) (product : ProductId) : Nat :=
  units kind product (t.orderItems.filter t.isSold)

theorem unitsSold_congr (horders : t'.orders = t.orders) (hitems : t'.orderItems = t.orderItems) :
    t'.unitsSold kind product = t.unitsSold kind product := by
  have hsold : t'.isSold = t.isSold := by
    funext i
    rw [isSold, isSold, horders]
  rw [unitsSold, unitsSold, hitems, hsold]

theorem unitsSold_eq (t : Tables) {id : OrderId} {order : Order}
    (ho : t.orders.get? id = some order) : t.unitsSold kind product =
      units kind product (t.orderItems.filter fun i => t.isSold i && !(i.orderId == id)) +
        if order.status.isPurchased then units kind product (t.itemsOf id) else 0 := by
  -- The lines of other orders do not matter; those of the order count all or not at all.
  rw [unitsSold, OrderItem.units_filter_split t.isSold (·.orderId == id)]
  congr 1
  have hown : ∀ i : OrderItem, (t.isSold i && i.orderId == id) =
      (order.status.isPurchased && i.orderId == id) := by
    intro i
    by_cases e : i.orderId = id
    · simp [isSold, e, ho]
    · rw [beq_eq_false_iff_ne.mpr e, Bool.and_false, Bool.and_false]
  rw [List.filter_congr fun i _ => hown i]
  cases order.status.isPurchased <;> simp [itemsOf, units]

theorem unitsSold_transition (kind : ItemType) (product : ProductId) {id : OrderId} {order : Order}
    {transition : OrderTransition} (ho : t.orders.get? id = some order)
    (horders : t'.orders = t.orders.modify id transition.apply)
    (hitems : t'.orderItems = t.orderItems) :
    t'.unitsSold kind product + (if order.status.isPurchased then
      units kind product (t.itemsOf id) else 0) =
      t.unitsSold kind product +
        (if transition.target.isPurchased then units kind product (t.itemsOf id) else 0) := by
  have ho' : t'.orders.get? id = some (transition.apply order) := by
    rw [horders, Table.get?_modify, if_pos rfl, ho]
    rfl
  have hothers : ∀ i : OrderItem, (t'.isSold i && !(i.orderId == id)) =
      (t.isSold i && !(i.orderId == id)) := by
    intro i
    by_cases e : i.orderId = id
    · simp [e]
    · simp [isSold, horders, e]
  rw [unitsSold_eq t ho, unitsSold_eq t' ho', OrderTransition.apply_status, hitems]
  simp only [hothers]
  rw [itemsOf, itemsOf, hitems]
  omega

/-- What is sold of each product is what the lines of purchased orders hold of it. -/
def StockExact (t : Tables) : Prop :=
  ∀ kind product stock, t.stock? kind product = some stock →
    stock.sold.toNat = t.unitsSold kind product

/-- How a call may change what is sold of a product that is there before and after. -/
inductive StockStep (t : Tables) (c : ServiceCall) (kind : ItemType) (product : ProductId)
    (stock stock' : Stock) : Prop
  | same (sold : stock'.sold = stock.sold)
  | taken (id : OrderId) (operator : OperatorId) (call : c.Confirms id operator)
    (sells : stock.Sells (units kind product (t.itemsOf id)) stock')
  | returned (id : OrderId) (operator : OperatorId) (reason : Option String) (order : Order)
    (call : c = .cancelOrder id operator reason) (found : t.orders.get? id = some order)
    (paid : order.status = .paid)
    (sold : stock'.sold.toNat + units kind product (t.itemsOf id) = stock.sold.toNat)

section

variable {a b : Sources} {env : Environment} {now : Time.Instant} {c : ServiceCall}

theorem not_drawn_of_next (hab : a.Precedes b) (hb : b.ids.Fresh) {id : Uuid}
    (h : a.ids.Next id b.ids) : ¬ a.ids.Drawn id := by
  rw [h.item]
  exact hab.not_drawn hb (Nat.le_refl _) (by rw [h.drawn]; exact Nat.lt_succ_self _)

theorem stockStep_effect (hab : a.Precedes b) (hb : b.ids.Fresh) (hc : t.Consistent a.ids.Drawn)
    (hexact : t.StockExact) (he : Effect env a.ids b.ids now t c t') {stock stock' : Stock}
    (hs : t.stock? kind product = some stock) (hs' : t'.stock? kind product = some stock') :
    StockStep t c kind product stock stock' := by
  cases he with
  | catalog hchange =>
    rcases hchange.stock hs' with ⟨stock₀, hs₀, hsold⟩ | ⟨hnext, -⟩
    · cases hs.symm.trans hs₀
      exact .same hsold
    · -- A product that is new cannot have been there before.
      exact (not_drawn_of_next hab hb hnext (hc.product_drawn kind product (by rw [hs]; rfl))).elim
  | place request w t₁ hpromo hw =>
    rw [stock?_placed hpromo, hs] at hs'
    cases hs'
    exact .same rfl
  | @confirm _ id operator hcall t₁ nonces hr =>
    obtain ⟨order, -, -, hall⟩ := reservedFor_eq_ok hr
    obtain ⟨stock₁, hs₁, hsells⟩ := (stock?_reserveAll hall kind product).2 stock hs
    rw [stock?_confirmed, hs₁] at hs'
    cases hs'
    rw [OrderItem.units_reservationOrder] at hsells
    exact .taken id operator hcall hsells
  | cancel id operator reason order ho hopen =>
    rw [stock?_canceled, stockReturned] at hs'
    split at hs'
    · next hpaid =>
      obtain ⟨stock₁, hs₁, -, hsold⟩ := (stock?_releaseAll t _ kind product).2 stock hs
      cases hs₁.symm.trans hs'
      rw [OrderItem.units_reservationOrder] at hsold
      -- The counter holds at least what the order does, so nothing is cut off.
      have htotal := hexact kind product stock hs
      rw [unitsSold_eq t ho, hpaid, if_pos (show OrderStatus.paid.isPurchased =
        true from rfl)] at htotal
      exact .returned id operator reason order rfl ho hpaid (by omega)
    · cases hs.symm.trans hs'
      exact .same rfl
  | redeem id operator token ticket order hadmitted =>
    rw [stock?_redeemed, hs] at hs'
    cases hs'
    exact .same rfl

theorem unitsSold_placed {w : Purchase.Placement} {t₁ : Tables}
    (hpromo : t.PromoTaken w.order.promoCodeId t₁) (hc : t.Consistent a.ids.Drawn)
    (hw : w.Sound t a.ids b.ids) :
    (t₁.placed w).unitsSold kind product = t.unitsSold kind product := by
  have hold : ∀ i ∈ t.orderItems, (t₁.placed w).isSold i = t.isSold i := by
    intro i hi
    have hne : i.orderId ≠ w.order.id := by
      intro e
      have hsome := hc.attached.item i hi
      rw [e, hw.absent] at hsome
      cases hsome
    rw [isSold, isSold, orders_placed hpromo, Table.get?_insert, if_neg hne]
  have hnew : ∀ i ∈ itemRows t.lastItemId w.items, ¬ (t₁.placed w).isSold i = true := by
    intro i hi
    obtain ⟨i', hi', e, -⟩ := itemRows_order hi
    rw [isSold, orders_placed hpromo, Table.get?_insert, if_pos (e.trans (hw.item_order i' hi'))]
    exact Bool.false_ne_true
  rw [unitsSold, orderItems_placed hpromo, List.filter_append,
    List.filter_eq_nil_iff.mpr hnew, List.append_nil, List.filter_congr hold, unitsSold]

theorem stockExact_effect (hab : a.Precedes b) (hb : b.ids.Fresh) (hc : t.Consistent a.ids.Drawn)
    (hexact : t.StockExact) (he : Effect env a.ids b.ids now t c t') : t'.StockExact := by
  intro kind product stock' hs'
  cases he with
  | catalog hchange =>
    have hsame := hchange.sameOrders
    rw [unitsSold_congr hsame.orders hsame.orderItems]
    rcases hchange.stock hs' with ⟨stock, hs, hsold⟩ | ⟨hnext, hsold⟩
    · rw [hsold]
      exact hexact kind product stock hs
    · -- No line is about a product that is new.
      have hnone : ∀ i ∈ t.orderItems.filter t.isSold, i.productId ≠ product := fun i hi e =>
        not_drawn_of_next hab hb hnext (e ▸ hc.item_drawn i (List.mem_filter.mp hi).1)
      rw [unitsSold, OrderItem.units_eq_zero hnone, hsold]
      rfl
  | place request w t₁ hpromo hw =>
    rw [stock?_placed hpromo] at hs'
    rw [unitsSold_placed hpromo hc hw]
    exact hexact kind product stock' hs'
  | @confirm _ id operator hcall t₁ nonces hr =>
    obtain ⟨order, ho, hpending, hall⟩ := reservedFor_eq_ok hr
    have hunits := unitsSold_transition kind product ho
      (orders_confirmed hr operator now env.secret nonces)
      (orderItems_confirmed hr operator now env.secret nonces)
    rw [hpending] at hunits
    obtain ⟨hnone, hsome⟩ := stock?_reserveAll hall kind product
    rw [stock?_confirmed] at hs'
    rcases hs : t.stock? kind product with _ | stock
    · rw [hnone hs] at hs'
      cases hs'
    · obtain ⟨stock₁, hs₁, hsells⟩ := hsome stock hs
      cases hs₁.symm.trans hs'
      rw [hsells.sold, OrderItem.units_reservationOrder, hexact kind product stock hs]
      exact hunits.symm
  | cancel id operator reason order ho hopen =>
    have hunits := unitsSold_transition kind product ho
      (orders_canceled t id order operator now (reason.bind Text.nonBlank?))
      (orderItems_canceled t id order operator now (reason.bind Text.nonBlank?))
    rw [stock?_canceled, stockReturned] at hs'
    split at hs'
    · next hpaid =>
      simp only [hpaid, OrderStatus.isPurchased, OrderTransition.target,
        if_true, Bool.false_eq_true, if_false] at hunits
      obtain ⟨hnone, hsome⟩ := stock?_releaseAll t
        (OrderItem.reservationOrder (t.itemsOf id)) kind product
      rcases hs : t.stock? kind product with _ | stock
      · rw [hnone hs] at hs'
        cases hs'
      · obtain ⟨stock₁, hs₁, -, hsold⟩ := hsome stock hs
        cases hs₁.symm.trans hs'
        rw [hsold, OrderItem.units_reservationOrder, hexact kind product stock hs]
        omega
    · next hunpaid =>
      -- Pending orders hold no stock, so none is given back.
      have hunsold : order.status.isPurchased = false := by
        cases h : order.status with
        | pending => rfl
        | paid => exact (hunpaid h).elim
        | canceled => rfl
        | redeemed =>
          rw [h] at hopen
          cases hopen
      rw [hunsold] at hunits
      rw [hexact kind product stock' hs']
      exact hunits.symm
  | redeem id operator token ticket order hadmitted =>
    obtain ⟨-, ho, -, hpurchased, -⟩ := admission_eq_ok_iff.mp hadmitted
    rw [stock?_redeemed] at hs'
    rw [hexact kind product stock' hs']
    have horders := orders_redeemed t ticket operator now
    split at horders
    · have hunits := unitsSold_transition kind product ho horders
        (orderItems_redeemed t ticket operator now)
      rw [hpurchased] at hunits
      exact (Nat.add_right_cancel hunits).symm
    · exact (unitsSold_congr horders (orderItems_redeemed t ticket operator now)).symm

end

end Memory.Tables

namespace Memory.State

open Tables

variable {σ : Type} {channel : Channel σ} {allowed : State σ → Environment → ServiceCall → Prop}
  {s : State σ}

theorem Reachable.stockExact (h : Reachable channel allowed s) (hfresh : s.sources.ids.Fresh) :
    s.committed.StockExact := by
  refine h.invariant ?_ ?_ ?_ hfresh
  · intro kind product stock hs
    cases kind <;> cases hs
  · intro t events users ht kind product stock hs
    exact (ht kind product stock (by cases kind <;> exact hs)).trans (unitsSold_congr rfl rfl).symm
  · intro s env c t' after hwell ha hafter hfresh heffect hexact
    exact stockExact_effect hafter hfresh hwell.consistent hexact heffect

theorem Reachable.stockStep (h : Reachable channel allowed s) {env : Environment} {c : ServiceCall}
    {r : Except TicketingError c.Reply} {s' : State σ}
    (hserve : serve channel (c.service env) s = (r, s')) (hfresh : s'.sources.ids.Fresh)
    {kind : ItemType} {product : ProductId} {stock stock' : Stock}
    (hs : s.committed.stock? kind product = some stock)
    (hs' : s'.committed.stock? kind product = some stock') :
    stock'.sold = stock.sold ∨ (∃ reply, r = .ok reply) ∧
      s.committed.StockStep c kind product stock stock' := by
  have hprecedes := serve_precedes channel (c.service env) s
  rw [hserve] at hprecedes
  have hbefore := hprecedes.fresh hfresh
  have hwell := h.wellFormed hbefore
  rcases call_ends channel env s c with
    ⟨e, s₁, hs₁, hbecomes⟩ | ⟨a, s₁, t', hs₁, hbecomes, heffect⟩ <;>
    cases hserve.symm.trans hs₁
  · rw [hbecomes.committed, hs] at hs'
    cases hs'
    exact .inl rfl
  · rw [hbecomes.committed] at hs'
    exact .inr ⟨⟨a, rfl⟩, stockStep_effect hprecedes hfresh hwell.consistent
      (h.stockExact hbefore) heffect hs hs'⟩

/-- In every store, what is sold of a product is what the lines of paid and redeemed orders hold of
it, so no paid order holds more than the counter shows. Only confirming raises the counter, never
above the limit or the range; only canceling a paid order lowers it. -/
theorem inventory_exact (h : Reachable channel anyCall s) (hfresh : s.sources.ids.Fresh) :
    (∀ kind product stock, s.committed.stock? kind product = some stock →
      stock.sold.toNat = s.committed.unitsSold kind product ∧
        ∀ id order, s.committed.orders.get? id = some order → order.status = .paid →
          units kind product (s.committed.itemsOf id) ≤ stock.sold.toNat) ∧
    ∀ (env : Environment) (c : ServiceCall) (r : Except TicketingError c.Reply) (s' : State σ),
      serve channel (c.service env) s = (r, s') → s'.sources.ids.Fresh →
      ∀ kind product stock stock', s.committed.stock? kind product = some stock →
        s'.committed.stock? kind product = some stock' →
        (stock.sold < stock'.sold → ∃ id operator reply, c.Confirms id operator ∧ r = .ok reply ∧
          stock'.sold.toNat = stock.sold.toNat + units kind product (s.committed.itemsOf id) ∧
          stock'.sold.toNat ≤ 2 ^ 32 - 1 ∧ ∀ limit, stock.limit = some limit →
            stock'.sold ≤ limit) ∧
        (stock'.sold < stock.sold → ∃ id operator reason reply order,
          c = .cancelOrder id operator reason ∧
          r = .ok reply ∧ s.committed.orders.get? id = some order ∧ order.status = .paid ∧
          stock'.sold.toNat + units kind product (s.committed.itemsOf id) = stock.sold.toNat) := by
  refine ⟨fun kind product stock hs => ⟨h.stockExact hfresh kind product stock hs, ?_⟩, ?_⟩
  · intro id order ho hpaid
    rw [h.stockExact hfresh kind product stock hs, unitsSold_eq _ ho, hpaid]
    exact Nat.le_add_left _ _
  · intro env c r s' hserve hfresh' kind product stock stock' hs hs'
    rcases h.stockStep hserve hfresh' hs hs' with hsame | ⟨⟨reply, hr⟩, hstep⟩
    · rw [hsame]
      exact ⟨fun hlt => (UInt32.lt_irrefl _ hlt).elim, fun hlt => (UInt32.lt_irrefl _ hlt).elim⟩
    · cases hstep with
      | same hsame =>
        rw [hsame]
        exact ⟨fun hlt => (UInt32.lt_irrefl _ hlt).elim, fun hlt => (UInt32.lt_irrefl _ hlt).elim⟩
      | taken id operator hcall hsells =>
        have hsold := hsells.sold
        refine ⟨fun hlt => ?_, fun hlt => ?_⟩ <;> rw [UInt32.lt_iff_toNat_lt] at hlt
        · refine ⟨id, operator, reply, hcall, hr, hsold, Nat.le_pred_of_lt stock'.sold.toNat_lt,
            fun limit hlimit => ?_⟩
          exact UInt32.le_iff_toNat_le.mpr (hsells.within (by omega) limit hlimit)
        · omega
      | returned id operator reason order hcall ho hpaid hsold =>
        refine ⟨fun hlt => ?_, fun hlt => ?_⟩
        · rw [UInt32.lt_iff_toNat_lt] at hlt
          omega
        · exact ⟨id, operator, reason, reply, order, hcall, hr, ho, hpaid, hsold⟩

theorem inventory_exact_two_sold :
    (Sample.store Sample.untilPaid).committed.stock? .ticket Sample.product = some ⟨2, some 10⟩ ∧
      (Sample.store Sample.untilPaid).committed.unitsSold .ticket Sample.product = 2 := by
  have hstock : (Sample.store Sample.untilPaid).committed.stock? .ticket Sample.product =
      some ⟨2, some 10⟩ := by
    decide +kernel
  have hfresh := Sample.store_fresh Sample.untilPaid (by decide +kernel)
  exact ⟨hstock, ((inventory_exact (Sample.store_reachable Sample.untilPaid) hfresh).1
    _ _ _ hstock).1.symm⟩

end Memory.State

end EventTickets
