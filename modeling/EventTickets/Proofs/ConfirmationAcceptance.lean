import EventTickets.Proofs.Inventory
import EventTickets.Proofs.Totals

/-!
# Which orders can be confirmed

Stock is taken line by line, so a later line meets what the earlier ones left. No two lines of an
order are of one product, though, and an order can be confirmed exactly if each line on its own
finds enough. Orders that compete for a product may be confirmed one after another in any order:
together they never take more than there was.
-/

namespace EventTickets

namespace OrderItem

inductive Before (i j : OrderItem) : Prop
  | kind (first : i.itemType = .ticket) (second : j.itemType = .transfer)
  | product (same : i.itemType = j.itemType) (less : Ranked.rank i.productId <
      Ranked.rank j.productId)

theorem reservedBefore_trans (i j k : OrderItem) (hij : i.reservedBefore j = true)
    (hjk : j.reservedBefore k = true) : i.reservedBefore k = true := by
  cases hi : i.itemType <;> cases hj : j.itemType <;> cases hk : k.itemType <;>
    simp only [reservedBefore, hi, hj, hk, decide_eq_true_eq, Bool.false_eq_true] at *
  all_goals exact Int.le_trans hij hjk

theorem reservedBefore_total (i j : OrderItem) :
    (i.reservedBefore j || j.reservedBefore i) = true := by
  cases hi : i.itemType <;> cases hj : j.itemType <;> simp [reservedBefore, hi, hj, Int.le_total]

theorem reservationOrder_pairwise (items : List OrderItem) :
    (reservationOrder items).Pairwise fun i j => i.reservedBefore j = true :=
  List.pairwise_mergeSort reservedBefore_trans reservedBefore_total items

theorem before_of_reservedBefore {i j : OrderItem} (h : i.reservedBefore j = true)
    (hne : (i.itemType, i.productId) ≠ (j.itemType, j.productId)) : i.Before j := by
  have hproduct : i.itemType = j.itemType → Ranked.rank i.productId ≤ Ranked.rank j.productId →
      i.Before j := by
    intro hkind hle
    refine .product hkind (Int.lt_iff_le_and_ne.mpr ⟨hle, fun e => hne ?_⟩)
    rw [hkind, Ranked.rank_injective _ _ e]
  cases hi : i.itemType <;> cases hj : j.itemType <;>
    simp only [reservedBefore, hi, hj, decide_eq_true_eq, Bool.false_eq_true] at h
  · exact hproduct (hi.trans hj.symm) h
  · exact .kind hi hj
  · exact hproduct (hi.trans hj.symm) h

theorem quantity_le_units {i : OrderItem} {items : List OrderItem} (hi : i ∈ items) :
    i.quantity.toNat ≤ units i.itemType i.productId items := by
  induction items with
  | nil => exact (List.not_mem_nil hi).elim
  | cons j rest ih =>
    rw [units]
    rcases List.mem_cons.mp hi with rfl | hi
    · rw [if_pos ⟨rfl, rfl⟩]
      exact Nat.le_add_right _ _
    · exact Nat.le_trans (ih hi) (Nat.le_add_left _ _)

end OrderItem

open OrderItem (units)

namespace Memory

namespace Tables

variable {t t' : Tables}

def Covers (t : Tables) (i : OrderItem) : Prop :=
  ∃ stock, t.stock? i.itemType i.productId = some stock ∧ stock.Fits i.quantity

theorem reserve?_eq_none_iff {i : OrderItem} :
    t.reserve? i.itemType i.productId i.quantity = none ↔ ¬ t.Covers i := by
  constructor
  · rintro h ⟨stock, hs, hfits⟩
    cases hi : i.itemType <;> rw [hi] at h hs <;> simp only [stock?,
      Option.map_eq_some_iff] at hs <;>
      obtain ⟨p, hp, rfl⟩ := hs <;> simp [reserve?, hp, reserved?_eq_some_iff.mpr ⟨hfits, rfl⟩] at h
  · intro h
    refine Option.eq_none_iff_forall_ne_some.mpr fun t' ht' => h ?_
    obtain ⟨-, stock, hs, hfits, -⟩ := reserve?_eq_some ht'
    exact ⟨stock, hs, hfits⟩

theorem covers_reserve?_iff {i j : OrderItem}
    (h : t.reserve? i.itemType i.productId i.quantity = some t')
    (hne : (i.itemType, i.productId) ≠ (j.itemType, j.productId)) : t'.Covers j ↔ t.Covers j := by
  obtain ⟨-, stock, -, -, hstock⟩ := reserve?_eq_some h
  rw [Covers, Covers, hstock, if_neg fun e => hne (Prod.ext e.1.symm e.2.symm)]

theorem reserveAll_cases {items : List OrderItem}
    (hd : (items.map fun i => (i.itemType, i.productId)).Nodup) :
    (∃ t', t.reserveAll items = .ok t' ∧ ∀ i ∈ items, t.Covers i) ∨
    ∃ front i back, items = front ++ i :: back ∧ (∀ j ∈ front, t.Covers j) ∧ ¬ t.Covers i ∧
      t.reserveAll items = .error (.inventoryLimitReached i.productId) := by
  induction items generalizing t with
  | nil => exact .inl ⟨t, rfl, nofun⟩
  | cons i rest ih =>
    obtain ⟨hi, hrest⟩ := List.nodup_cons.mp hd
    rcases h : t.reserve? i.itemType i.productId i.quantity with _ | t₁
    · exact .inr ⟨[], i, rest, rfl, nofun, reserve?_eq_none_iff.mp h, by rw [reserveAll, h]⟩
    · have hcovers : t.Covers i := by
        by_contra hnot
        rw [reserve?_eq_none_iff.mpr hnot] at h
        cases h
      have hsame : ∀ j ∈ rest, (t₁.Covers j ↔ t.Covers j) := fun j hj =>
        covers_reserve?_iff h fun e => hi (List.mem_map.mpr ⟨j, hj, e.symm⟩)
      rcases @ih t₁ hrest with ⟨t', ht', hall⟩ | ⟨front, j, back, rfl, hfront, hj, herror⟩
      · refine .inl ⟨t', by simp only [reserveAll, h, ht'],
          List.forall_mem_cons.mpr ⟨hcovers, fun j hj => ?_⟩⟩
        exact (hsame j hj).mp (hall j hj)
      · refine .inr ⟨i :: front, j, back, rfl,
          List.forall_mem_cons.mpr ⟨hcovers, fun k hk => ?_⟩, ?_, ?_⟩
        · exact (hsame k (List.mem_append_left _ hk)).mp (hfront k hk)
        · exact fun e => hj ((hsame j (by simp)).mpr e)
        · simp only [reserveAll, h, herror]

/-- Whether an order is there, pending, and finds enough of every product. -/
structure Confirmable (t : Tables) (id : OrderId) (order : Order) : Prop where
  found : t.orders.get? id = some order
  pending : order.status = .pending
  covered : ∀ i ∈ t.itemsOf id, t.Covers i

/-- Why an order cannot be confirmed. The line that is named is the first of those without
enough. -/
inductive Unconfirmable (t : Tables) (id : OrderId) : TicketingError → Prop
  | absent (unknown : t.orders.get? id = none) : Unconfirmable t id (.orderNotFound id)
  | closed (order : Order) (found : t.orders.get? id = some order)
      (notPending : order.status ≠ .pending) :
    Unconfirmable t id (.orderStateNotAllowed order.status)
  | short (order : Order) (i : OrderItem) (found : t.orders.get? id = some order)
      (pending : order.status = .pending)
    (line : i ∈ t.itemsOf id) (uncovered : ¬ t.Covers i)
    (first : ∀ j ∈ t.itemsOf id, ¬ t.Covers j → j = i ∨ i.Before j) :
    Unconfirmable t id (.inventoryLimitReached i.productId)

theorem Confirmable.not_unconfirmable {id : OrderId} {order : Order} {e : TicketingError}
    (h : t.Confirmable id order) : ¬ t.Unconfirmable id e := by
  rintro (unknown | ⟨order', found, notPending⟩ | ⟨order', i, found, pending,
    line, uncovered, first⟩)
  · cases h.found.symm.trans unknown
  · cases h.found.symm.trans found
    exact notPending h.pending
  · exact uncovered (h.covered i line)

theorem reservedFor_cases {id : OrderId}
    (hd : ((t.itemsOf id).map fun i => (i.itemType, i.productId)).Nodup) :
    (∃ order t', t.reservedFor id = .ok t' ∧ t.Confirmable id order) ∨
      ∃ e, t.reservedFor id = .error e ∧ t.Unconfirmable id e := by
  rcases ho : t.orders.get? id with _ | order
  · exact .inr ⟨_, by rw [reservedFor, ho], .absent ho⟩
  by_cases hp : order.status = .pending
  · have hperm : (OrderItem.reservationOrder (t.itemsOf id)).Perm (t.itemsOf id) :=
      List.mergeSort_perm _ _
    have hreserved : t.reservedFor id =
        t.reserveAll (OrderItem.reservationOrder (t.itemsOf id)) := by
      simp only [reservedFor, ho, if_pos hp]
    rw [hreserved]
    have hd' := (hperm.map fun i => (i.itemType, i.productId)).nodup_iff.mpr hd
    rcases reserveAll_cases hd' with ⟨t', ht', hall⟩ | ⟨front, i, back, hsplit, hfront, hi, herror⟩
    · exact .inl ⟨order, t', ht', ho, hp, fun i hi => hall i (hperm.mem_iff.mpr hi)⟩
    · refine .inr ⟨_, herror, .short order i ho hp (hperm.mem_iff.mp (by simp [hsplit])) hi
        fun j hj hshort => ?_⟩
      -- A line without enough is not in front; what is behind comes later, for it is of another
      -- product.
      have hsorted := OrderItem.reservationOrder_pairwise (t.itemsOf id)
      rw [hsplit] at hsorted hd'
      have hmem := hperm.mem_iff.mpr hj
      rw [hsplit, List.mem_append, List.mem_cons] at hmem
      rcases hmem with hmem | rfl | hmem
      · exact (hshort (hfront j hmem)).elim
      · exact .inl rfl
      · rw [List.map_append, List.map_cons] at hd'
        have hlater := (List.pairwise_cons.mp (List.pairwise_append.mp hsorted).2.1).1 j hmem
        have hother := (List.nodup_cons.mp (List.nodup_append.mp hd').2.1).1
        exact .inr (OrderItem.before_of_reservedBefore hlater fun e =>
          hother (List.mem_map.mpr ⟨j, hmem, e.symm⟩))
  · exact .inr ⟨_, by rw [reservedFor, ho]; exact if_neg hp, .closed order ho hp⟩

structure Competes (t : Tables) (kind : ItemType) (product : ProductId) (id : OrderId) : Prop where
  pending : ∃ order, t.orders.get? id = some order ∧ order.status = .pending
  only : ∀ i ∈ t.itemsOf id, i.itemType = kind ∧ i.productId = product

instance (t : Tables) (kind : ItemType) (product : ProductId) (id : OrderId) :
    Decidable (t.Competes kind product id) :=
  decidable_of_iff ((t.orders.get? id).any (·.status == .pending) = true ∧
      ∀ i ∈ t.itemsOf id, i.itemType = kind ∧ i.productId = product) <| by
    simp only [Option.any_eq_true, beq_iff_eq]
    exact ⟨fun h => ⟨h.1, h.2⟩, fun h => ⟨h.pending, h.only⟩⟩

end Tables

structure Confirming where
  env : Environment
  order : OrderId
  operator : OperatorId

namespace State

open Tables

variable {σ : Type} (channel : Channel σ)

def confirmAll : List Confirming → State σ → List (OrderId × Except TicketingError ConfirmedOrder)
  | [], _ => []
  | c :: rest, s =>
    let (reply, after) := serve channel (confirmOrder c.env c.order c.operator) s
    (c.order, reply) :: confirmAll rest after

def unitsTaken (t : Tables) (kind : ItemType) (product : ProductId) :
    List (OrderId × Except TicketingError ConfirmedOrder) → Nat
  | [] => 0
  | (id, .ok _) :: rest => units kind product (t.itemsOf id) + unitsTaken t kind product rest
  | (_, .error _) :: rest => unitsTaken t kind product rest

variable {s : State σ} {kind : ItemType} {product : ProductId} {stock : Stock} {limit : UInt32}

theorem confirm_competing (hd : ∀ id,
    ((s.committed.itemsOf id).map fun i => (i.itemType, i.productId)).Nodup)
    (hstock : s.committed.stock? kind product = some stock) (hlimit : stock.limit = some limit)
    (hsold : stock.sold ≤ limit) {c : Confirming} (hc : s.committed.Competes kind product c.order) :
    (∃ after, serve channel (confirmOrder c.env c.order c.operator) s =
        (.error (.inventoryLimitReached product), after) ∧ after.committed = s.committed ∧
      limit.toNat < stock.sold.toNat + units kind product (s.committed.itemsOf c.order)) ∨
    ∃ reply after stock', serve channel (confirmOrder c.env c.order c.operator) s =
      (.ok reply, after) ∧
      after.committed.stock? kind product = some stock' ∧ stock'.limit = some limit ∧
      stock'.sold.toNat = stock.sold.toNat + units kind product (s.committed.itemsOf c.order) ∧
      stock'.sold ≤ limit ∧ after.committed.orderItems = s.committed.orderItems ∧
      ∀ id, id ≠ c.order → after.committed.orders.get? id = s.committed.orders.get? id := by
  rw [UInt32.le_iff_toNat_le] at hsold
  obtain ⟨order, ho, hp⟩ := hc.pending
  rcases serve_confirmOrder channel s c.env c.order c.operator with
    ⟨e, after, he, -, hserve⟩ | ⟨t₁, nonces, after, reply, hr, -, hserve⟩
  · have hrefused : s.committed.Unconfirmable c.order e := by
      rcases reservedFor_cases (hd c.order) with ⟨_, _, hok, -⟩ | ⟨e', he', hrefused⟩
      · cases hok.symm.trans he
      · cases he'.symm.trans he
        exact hrefused
    rcases hrefused with unknown | ⟨order', found, notPending⟩ | ⟨order', i, found, -,
      line, uncovered, first⟩
    · cases ho.symm.trans unknown
    · cases ho.symm.trans found
      exact (notPending hp).elim
    · obtain ⟨rfl, rfl⟩ := hc.only i line
      refine .inl ⟨_, hserve, rfl, ?_⟩
      by_contra hroom
      have hunits := OrderItem.quantity_le_units line
      have hrange := limit.toNat_lt
      refine uncovered ⟨stock, hstock, by omega, fun limit' hlimit' => ?_⟩
      cases hlimit.symm.trans hlimit'
      omega
  · obtain ⟨-, -, -, hall⟩ := reservedFor_eq_ok hr
    obtain ⟨stock', hs', hsells⟩ := (stock?_reserveAll hall kind product).2 stock hstock
    rw [OrderItem.units_reservationOrder] at hsells
    refine .inr ⟨reply, _, stock', hserve, ?_, hsells.limit.trans hlimit, hsells.sold, ?_,
      ?_, fun id hne => ?_⟩
    · rw [settled, stock?_confirmed, hs']
    · rw [UInt32.le_iff_toNat_le]
      rcases Nat.eq_zero_or_pos (units kind product (s.committed.itemsOf c.order)) with
        hzero | hpositive
      · rw [hsells.sold, hzero]
        exact hsold
      · exact hsells.within hpositive limit hlimit
    · exact orderItems_confirmed hr c.operator _ c.env.secret nonces
    · rw [settled, orders_confirmed hr, Table.get?_modify, if_neg hne]

theorem confirmAll_cons {c : Confirming} {r : Except TicketingError ConfirmedOrder}
    {after : State σ} (h : serve channel (confirmOrder c.env c.order c.operator) s = (r, after))
    (rest : List Confirming) :
    confirmAll channel (c :: rest) s = (c.order, r) :: confirmAll channel rest after := by
  rw [confirmAll, h]

/-- What a competing order meets where so many units are taken of those there may be. -/
inductive Decided (limit used units : Nat) (product : ProductId) :
    Except TicketingError ConfirmedOrder → Prop
  | accepted (reply : ConfirmedOrder) (room : used + units ≤ limit) :
      Decided limit used units product (.ok reply)
  | refused (full : limit < used + units) : Decided limit used units product
      (.error (.inventoryLimitReached product))

theorem confirmAll_competing {t : Tables}
    (hd : ∀ id, ((t.itemsOf id).map fun i => (i.itemType, i.productId)).Nodup)
    {schedule : List Confirming} (hdistinct : (schedule.map (·.order)).Nodup)
    (hitems : s.committed.orderItems = t.orderItems)
    (hstock : s.committed.stock? kind product = some stock) (hlimit : stock.limit = some limit)
    (hsold : stock.sold ≤ limit)
    (hcompete : ∀ c ∈ schedule, s.committed.Competes kind product c.order) :
    stock.sold.toNat + unitsTaken t kind product (confirmAll channel schedule s) ≤ limit.toNat ∧
    ∀ before id r after, confirmAll channel schedule s = before ++ (id, r) :: after →
      Decided limit.toNat (stock.sold.toNat + unitsTaken t kind product before)
        (units kind product (t.itemsOf id)) product r := by
  -- By induction on the schedule, whatever is sold at its start: the orders that are still to come
  -- stay as they were.
  induction schedule generalizing s stock with
  | nil =>
    exact ⟨UInt32.le_iff_toNat_le.mp hsold, fun before id r after h => by cases before <;> cases h⟩
  | cons c rest ih =>
    obtain ⟨hc, hrest⟩ := List.forall_mem_cons.mp hcompete
    obtain ⟨hnot, hdistinct⟩ := List.nodup_cons.mp hdistinct
    have hsame := itemsOf_congr hitems
    have hd' : ∀ id, ((s.committed.itemsOf id).map fun i => (i.itemType, i.productId)).Nodup :=
      fun id => by
      rw [hsame]
      exact hd id
    rcases confirm_competing channel hd' hstock hlimit hsold hc with
      ⟨after, hserve, hkept, hfull⟩ | ⟨reply, after, stock', hserve, hstock', hlimit', hsold',
        hle', hitems', horders⟩
    · rw [← hkept] at hitems hstock hrest
      obtain ⟨htotal, hdecided⟩ := ih hdistinct hitems hstock hlimit hsold hrest
      rw [confirmAll_cons channel hserve]
      refine ⟨htotal, fun before id r after' h => ?_⟩
      rcases before with _ | ⟨y, before⟩
      · obtain ⟨⟨⟩, -⟩ := List.cons.inj h
        exact .refused (hsame c.order ▸ hfull)
      · obtain ⟨rfl, htail⟩ := List.cons.inj h
        exact hdecided before id r after' htail
    · have hrest' : ∀ c' ∈ rest, after.committed.Competes kind product c'.order := by
        intro c' hc'
        obtain ⟨hpending, honly⟩ := hrest c' hc'
        have hne : c'.order ≠ c.order := fun e => hnot (List.mem_map.mpr ⟨c', hc', e⟩)
        exact ⟨by rwa [horders _ hne], by rwa [itemsOf_congr hitems']⟩
      obtain ⟨htotal, hdecided⟩ := ih hdistinct (hitems'.trans hitems) hstock' hlimit' hle' hrest'
      rw [hsame] at hsold'
      rw [confirmAll_cons channel hserve, unitsTaken, ← Nat.add_assoc, ← hsold']
      refine ⟨htotal, fun before id r after' h => ?_⟩
      rcases before with _ | ⟨y, before⟩
      · obtain ⟨⟨⟩, -⟩ := List.cons.inj h
        exact .accepted reply (hsold' ▸ UInt32.le_iff_toNat_le.mp hle')
      · obtain ⟨rfl, htail⟩ := List.cons.inj h
        rw [unitsTaken, ← Nat.add_assoc, ← hsold']
        exact hdecided before id r after' htail

variable {channel}

/-- In every store an order is confirmed exactly if it is there, pending, and finds enough for each
of its lines; else it is refused for the first reason there is, and nothing changes. So orders that
compete for the rest of a product take no more than it, whatever their order, and are refused only
if with them it would be exceeded. -/
theorem order_confirmed_iff_covered (h : Reachable channel anyCall s) :
    (∀ (env : Environment) (id : OrderId) (operator : OperatorId),
      ((∃ reply after, serve channel (confirmOrder env id operator) s = (.ok reply, after)) ↔
        ∃ order, s.committed.Confirmable id order) ∧
      ∀ e after, serve channel (confirmOrder env id operator) s = (.error e, after) →
        s.committed.Unconfirmable id e ∧ ∃ sources, after = { s with sources := sources }) ∧
    ∀ (kind : ItemType) (product : ProductId) (stock : Stock) (limit : UInt32),
      s.committed.stock? kind product = some stock → stock.limit = some limit → stock.sold ≤ limit →
      ∀ schedule : List Confirming, (schedule.map (·.order)).Nodup →
        (∀ c ∈ schedule, s.committed.Competes kind product c.order) →
        unitsTaken s.committed kind product (confirmAll channel schedule s) ≤
        limit.toNat - stock.sold.toNat ∧
        ∀ before id r after, confirmAll channel schedule s = before ++ (id, r) :: after →
          Decided limit.toNat (stock.sold.toNat + unitsTaken s.committed kind product before)
            (units kind product (s.committed.itemsOf id)) product r := by
  have hd : ∀ id, ((s.committed.itemsOf id).map fun i => (i.itemType, i.productId)).Nodup :=
    fun id => by
    rcases ho : s.committed.orders.get? id with _ | order
    · rw [h.addUp.attached.itemsOf_absent ho]
      exact .nil
    · exact (h.addUp.order id order ho).distinct
  refine ⟨fun env id operator => ?_,
    fun kind product stock limit hstock hlimit hsold schedule hdistinct hcompete => ?_⟩
  · rcases serve_confirmOrder channel s env id operator with
      ⟨e, after, he, -, hserve⟩ | ⟨t₁, nonces, after, reply, hr, -, hserve⟩ <;>
      rcases reservedFor_cases (hd id) with
        ⟨order, t', hok, hconfirmable⟩ | ⟨e', herror, hunconfirmable⟩
    · cases hok.symm.trans he
    · cases herror.symm.trans he
      refine ⟨⟨fun ⟨reply, after', hok⟩ => ?_,
        fun ⟨order, ho⟩ => (ho.not_unconfirmable hunconfirmable).elim⟩, ?_⟩
      · cases hserve.symm.trans hok
      · intro e' after' hrefused
        cases hserve.symm.trans hrefused
        exact ⟨hunconfirmable, after, by rw [settled, ← h.idle]⟩
    · refine ⟨⟨fun _ => ⟨order, hconfirmable⟩, fun _ => ⟨reply, _, hserve⟩⟩,
        fun e after' hrefused => ?_⟩
      cases hserve.symm.trans hrefused
    · cases herror.symm.trans hr
  · obtain ⟨htotal, hdecided⟩ :=
      confirmAll_competing channel hd hdistinct rfl hstock hlimit hsold hcompete
    exact ⟨Nat.le_sub_of_add_le' htotal, hdecided⟩

end State

end Memory

namespace Sample

def createOrderOf (quantity : UInt32) : ServiceCall := .createOrder {
  userId := buyer.userId,
  eventId := event,
  paymentMethod := "phone",
  paymentReference := none,
  ticketItems := [⟨product, quantity⟩],
  transferItems := [],
  promoCode := none }

def untilOversold : List ServiceCall :=
  [createProduct, createOrderOf 6, createOrderOf 5, createOrderOf 4]

def confirming (n : Nat) : Memory.Confirming := ⟨environment, ⟨Sources.countedId 1 n⟩, operator⟩

end Sample

namespace Memory.State

theorem order_confirmed_iff_covered_oversold :
    let schedule := [Sample.confirming 1, Sample.confirming 8, Sample.confirming 14]
    let made := confirmAll .log schedule (Sample.store Sample.untilOversold)
    made.map (·.2.isOk) = [true, false, true] ∧
      unitsTaken (Sample.store Sample.untilOversold).committed .ticket Sample.product made ≤
      10 := by
  intro schedule made
  refine ⟨by decide +kernel, ?_⟩
  exact ((order_confirmed_iff_covered (Sample.store_reachable Sample.untilOversold)).2
    .ticket Sample.product
    ⟨0, some 10⟩ 10 (by decide +kernel) rfl (by decide) schedule (by decide +kernel)
    (by decide +kernel)).1

end Memory.State

end EventTickets
