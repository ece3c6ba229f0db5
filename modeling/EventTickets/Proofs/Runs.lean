import EventTickets.Proofs.Service.Calls
import EventTickets.Sample

/-!
# Runs of the ticket office

A store starts empty. Events and users are added to it from outside, and everything else comes from
calls to the services, in any order and whether or not they succeed. Rows are found under their own
identifiers, which were all drawn from the supply, so that an identifier drawn anew belongs to no
row.
-/

namespace EventTickets

namespace Supply

variable {α : Type}

def Fresh (s : Supply α) : Prop := ∀ i j, i < s.taken → j < s.taken → s.item i = s.item j → i = j

def Drawn (s : Supply α) (a : α) : Prop := ∃ i, i < s.taken ∧ s.item i = a

end Supply

namespace Sources.Precedes

variable {a b : Sources}

theorem fresh (h : a.Precedes b) (hb : b.ids.Fresh) : a.ids.Fresh := fun i j hi hj e =>
  hb i j (Nat.lt_of_lt_of_le hi h.taken) (Nat.lt_of_lt_of_le hj h.taken) (by rw [h.ids]; exact e)

theorem drawn (h : a.Precedes b) {id : Uuid} (hd : a.ids.Drawn id) : b.ids.Drawn id := by
  obtain ⟨i, hi, rfl⟩ := hd
  exact ⟨i, Nat.lt_of_lt_of_le hi h.taken, by rw [h.ids]⟩

theorem not_drawn (h : a.Precedes b) (hb : b.ids.Fresh) {n : Nat} (hn : a.ids.taken ≤ n)
    (hn' : n < b.ids.taken) : ¬ a.ids.Drawn (a.ids.item n) := by
  rintro ⟨i, hi, e⟩
  have := hb i n (Nat.lt_of_lt_of_le hi h.taken) hn' (by rw [h.ids]; exact e)
  omega

end Sources.Precedes

namespace Memory

namespace Tables

variable {t t' : Tables}

structure Attached (t : Tables) : Prop where
  ticket : ∀ k ∈ t.tickets, (t.orders.get? k.orderId).isSome
  item : ∀ i ∈ t.orderItems, (t.orders.get? i.orderId).isSome

theorem attached_empty : Tables.empty.Attached := by
  have htickets : Tables.empty.tickets = [] := rfl
  have hitems : Tables.empty.orderItems = [] := rfl
  constructor <;> simp [htickets, hitems]

theorem Attached.of_kept (h : t.Attached) (horders : ∀ id, (t.orders.get? id).isSome →
    (t'.orders.get? id).isSome) (htickets : t'.tickets.map (·.orderId) = t.tickets.map (·.orderId))
    (hitems : t'.orderItems = t.orderItems) : t'.Attached where
  ticket k' hk' := by
    have hmem : k'.orderId ∈ t.tickets.map (·.orderId) := htickets ▸ List.mem_map_of_mem hk'
    obtain ⟨k, hk, e⟩ := List.mem_map.mp hmem
    rw [← e]
    exact horders _ (h.ticket k hk)
  item := by
    rw [hitems]
    exact fun i hi => horders _ (h.item i hi)

theorem Attached.placed {a b : Supply Uuid} {w : Purchase.Placement} {t₁ : Tables} (h : t.Attached)
    (hpromo : t.PromoTaken w.order.promoCodeId t₁) (hw : w.Sound t a b) :
    (t₁.placed w).Attached := by
  have hsome : ∀ id, id = w.order.id ∨ (t.orders.get? id).isSome →
      ((t₁.placed w).orders.get? id).isSome := by
    intro id hid
    rw [orders_placed hpromo, Table.get?_insert]
    split
    · rfl
    · next e => exact hid.resolve_left e
  refine ⟨fun k hk => ?_, fun i hi => ?_⟩
  · rw [tickets_placed hpromo] at hk
    rcases List.mem_append.mp hk with hk | hk
    · exact hsome _ (.inr (h.ticket k hk))
    · obtain ⟨k', hk', rfl⟩ := List.mem_map.mp hk
      obtain ⟨tier, id, time, rfl⟩ := hw.ticket k' hk'
      exact hsome _ (.inl rfl)
  · rw [orderItems_placed hpromo] at hi
    rcases List.mem_append.mp hi with hi | hi
    · exact hsome _ (.inr (h.item i hi))
    · obtain ⟨i', hi', e, -⟩ := itemRows_order hi
      exact hsome _ (.inl (e.trans (hw.item_order i' hi')))

/-- Rows have the identifiers they are found under, tickets and lines belong to orders that are
there, and all identifiers are among the drawn ones. -/
structure Consistent (drawn : Uuid → Prop) (t : Tables) : Prop where
  order_id : ∀ id order, t.orders.get? id = some order → order.id = id
  order_drawn : ∀ id order, t.orders.get? id = some order → drawn id.uuid
  distinct : t.TicketsDistinct
  ticket_drawn : ∀ k ∈ t.tickets, drawn k.id.uuid
  item_drawn : ∀ i ∈ t.orderItems, drawn i.productId.uuid
  attached : t.Attached
  product_drawn : ∀ kind product, (t.stock? kind product).isSome → drawn product.uuid
  promo_id : ∀ id p, t.promoCodes.get? id = some p → p.id = id
  promo_drawn : ∀ id, (t.promoCodes.get? id).isSome → drawn id.uuid
  order_promo : ∀ id order promo, t.orders.get? id = some order →
    order.promoCodeId = some promo → drawn promo.uuid

theorem Consistent.mono {drawn drawn' : Uuid → Prop} (h : t.Consistent drawn)
    (hd : ∀ id, drawn id → drawn' id) : t.Consistent drawn' :=
  ⟨h.order_id, fun id order ho => hd _ (h.order_drawn id order ho), h.distinct,
    fun k hk => hd _ (h.ticket_drawn k hk), fun i hi => hd _ (h.item_drawn i hi), h.attached,
    fun kind product hp => hd _ (h.product_drawn kind product hp), h.promo_id,
    fun id hp => hd _ (h.promo_drawn id hp), fun id order promo ho hp =>
    hd _ (h.order_promo id order promo ho hp)⟩

/-- Rows may change, but none is added but products and promo codes, and no order, ticket or line
goes. -/
structure Amends (t t' : Tables) : Prop where
  order : ∀ id order', t'.orders.get? id = some order' →
    ∃ order, t.orders.get? id = some order ∧ order'.id = order.id ∧
    order'.promoCodeId = order.promoCodeId
  kept : ∀ id, (t.orders.get? id).isSome → (t'.orders.get? id).isSome
  tickets : ∃ f : Ticket → Ticket, t'.tickets = t.tickets.map f ∧ ∀ k, (f k).id = k.id ∧
    (f k).orderId = k.orderId
  orderItems : t'.orderItems = t.orderItems

theorem Consistent.amend {drawn : Uuid → Prop} (h : t.Consistent drawn) (ha : Amends t t')
    (hstock : ∀ kind product, (t'.stock? kind product).isSome → drawn product.uuid)
    (hpromo : ∀ id p', t'.promoCodes.get? id = some p' → p'.id = id ∧ drawn id.uuid) :
    t'.Consistent drawn := by
  obtain ⟨f, htickets, hf⟩ := ha.tickets
  refine ⟨?_, ?_, ?_, ?_, ?_, ?_, hstock, fun id p' hp' => (hpromo id p' hp').1,
    fun id hp' => ?_, ?_⟩
  · intro id order' ho'
    obtain ⟨order, ho, e, -⟩ := ha.order id order' ho'
    exact e.trans (h.order_id id order ho)
  · intro id order' ho'
    obtain ⟨order, ho, -⟩ := ha.order id order' ho'
    exact h.order_drawn id order ho
  · have hids : (t.tickets.map f).map (·.id) = t.tickets.map (·.id) := by
      simp [Function.comp_def, fun k => (hf k).1]
    rw [TicketsDistinct, htickets, hids]
    exact h.distinct
  · rw [htickets]
    intro k' hk'
    obtain ⟨k, hk, rfl⟩ := List.mem_map.mp hk'
    rw [(hf k).1]
    exact h.ticket_drawn k hk
  · rw [ha.orderItems]
    exact h.item_drawn
  · have horders : (t.tickets.map f).map (·.orderId) = t.tickets.map (·.orderId) := by
      simp [Function.comp_def, fun k => (hf k).2]
    exact h.attached.of_kept ha.kept (htickets ▸ horders) ha.orderItems
  · obtain ⟨p', hp'⟩ := Option.isSome_iff_exists.mp hp'
    exact (hpromo id p' hp').2
  · intro id order' promo ho' hp
    obtain ⟨order, ho, -, e⟩ := ha.order id order' ho'
    exact h.order_promo id order promo ho (e.symm.trans hp)

theorem Consistent.promo_row {drawn : Uuid → Prop} (h : t.Consistent drawn)
    {id : PromoCodeId} {p p' : PromoCode} (hp : t.promoCodes.get? id = some p) (e : p'.id = p.id) :
    p'.id = id ∧ drawn id.uuid :=
  ⟨e.trans (h.promo_id id p hp), h.promo_drawn id (by rw [hp]; rfl)⟩

theorem SameOrders.amends (h : SameOrders t t') : Amends t t' where
  order id order' ho := ⟨order', h.orders ▸ ho, rfl, rfl⟩
  kept id ho := by rwa [h.orders]
  tickets := ⟨id, by rw [h.tickets, List.map_id], fun _ => ⟨rfl, rfl⟩⟩
  orderItems := h.orderItems

theorem apply_id (transition : OrderTransition) (order : Order) :
    (transition.apply order).id = order.id := by
  cases transition <;> rfl

theorem apply_promoCodeId (transition : OrderTransition) (order : Order) :
    (transition.apply order).promoCodeId = order.promoCodeId := by
  cases transition <;> rfl

theorem amends_of_transition {id : OrderId} {transition : OrderTransition}
    (horders : t'.orders = t.orders.modify id transition.apply)
    (htickets : ∃ f : Ticket → Ticket, t'.tickets = t.tickets.map f ∧ ∀ k, (f k).id = k.id ∧
      (f k).orderId = k.orderId)
    (hitems : t'.orderItems = t.orderItems) : Amends t t' where
  order id' order' ho' := by
    rw [horders, Table.get?_modify] at ho'
    split at ho'
    · obtain ⟨order, ho, rfl⟩ := Option.map_eq_some_iff.mp ho'
      exact ⟨order, ho, apply_id transition order, apply_promoCodeId transition order⟩
    · exact ⟨order', ho', rfl, rfl⟩
  kept id' ho := by
    rw [horders, Table.get?_modify]
    split
    · rwa [Option.isSome_map]
    · exact ho
  tickets := htickets
  orderItems := hitems

theorem amends_confirmed (hd : t.TicketsDistinct) {t₁ : Tables} {id : OrderId}
    (h : t.reservedFor id = .ok t₁) (operator : OperatorId) (now : Time.Instant)
    (secret : SigningSecret) (nonces : Nat → String) :
    Amends t (t₁.confirmed id operator now secret nonces) := by
  obtain ⟨byId, htickets⟩ := tickets_confirmed h operator now secret nonces hd
  refine amends_of_transition (orders_confirmed h operator now secret nonces)
    ⟨_, htickets, fun k => ?_⟩
    (orderItems_confirmed h operator now secret nonces)
  split <;> exact ⟨rfl, rfl⟩

theorem amends_canceled (t : Tables) (id : OrderId) (order : Order) (operator : OperatorId)
    (now : Time.Instant) (reason : Option String) :
    Amends t (t.canceled id order operator now reason) :=
  amends_of_transition (orders_canceled t id order operator now reason)
    ⟨fun k => k, by rw [List.map_id', tickets_canceled], fun _ => ⟨rfl, rfl⟩⟩
    (orderItems_canceled t id order operator now reason)

theorem amends_redeemed (hd : t.TicketsDistinct) (ticket : Ticket) (operator : OperatorId)
    (now : Time.Instant) : Amends t (t.redeemed ticket operator now) := by
  have htickets : ∃ f : Ticket → Ticket,
      (t.redeemed ticket operator now).tickets = t.tickets.map f ∧
      ∀ k, (f k).id = k.id ∧ (f k).orderId = k.orderId := by
    refine ⟨_, tickets_redeemed t ticket operator now hd, fun k => ?_⟩
    split <;> exact ⟨rfl, rfl⟩
  have hitems := orderItems_redeemed t ticket operator now
  have horders := orders_redeemed t ticket operator now
  split at horders
  · exact amends_of_transition horders htickets hitems
  · exact ⟨fun id order' ho => ⟨order', horders ▸ ho, rfl, rfl⟩,
      fun id ho => horders ▸ ho, htickets, hitems⟩

section

variable {a b : Sources} {w : Purchase.Placement} {t₁ : Tables}

theorem new_ticket_id (hw : w.Sound t a.ids b.ids) {k : NewTicket} (hk : k ∈ w.tickets) :
    ∃ n, a.ids.taken < n ∧ n < b.ids.taken ∧ k.id.uuid = a.ids.item n := by
  have hmem : k.id.uuid ∈ w.tickets.map (·.id.uuid) := List.mem_map.mpr ⟨k, hk, rfl⟩
  rw [hw.ticket_ids] at hmem
  obtain ⟨n, hn, e⟩ := List.mem_map.mp hmem
  rw [List.mem_range'_1] at hn
  have htaken : b.ids.taken = a.ids.taken + 1 + w.tickets.length := by rw [hw.drawn]
  exact ⟨n, by omega, by omega, e.symm⟩

theorem new_tickets_distinct (hab : a.Precedes b) (hb : b.ids.Fresh) (hw : w.Sound t a.ids b.ids) :
    (w.tickets.map (·.id)).Nodup := by
  refine List.Nodup.of_map UuidId.uuid ?_
  rw [List.map_map]
  refine (congrArg List.Nodup hw.ticket_ids).mpr (List.Nodup.map_on ?_ List.nodup_range')
  intro i hi j hj e
  rw [List.mem_range'_1] at hi hj
  have htaken : b.ids.taken = a.ids.taken + 1 + w.tickets.length := by rw [hw.drawn]
  exact hb i j (by omega) (by omega) (by rw [hab.ids]; exact e)

theorem consistent_placed (hab : a.Precedes b) (hb : b.ids.Fresh) (h : t.Consistent a.ids.Drawn)
    (hpromo : t.PromoTaken w.order.promoCodeId t₁) (hw : w.Sound t a.ids b.ids) :
    (t₁.placed w).Consistent b.ids.Drawn := by
  have htaken : b.ids.taken = a.ids.taken + 1 + w.tickets.length := by rw [hw.drawn]
  have hrows : ∀ id p', (t₁.placed w).promoCodes.get? id = some p' → p'.id = id ∧
      b.ids.Drawn id.uuid := by
    intro id p' hp'
    obtain ⟨p, hp, hsame⟩ := hpromo.row hp'
    have hid : p'.id = p.id := by
      rcases hsame with ⟨-, rfl⟩ | ⟨-, -, rfl⟩ <;> rfl
    exact (h.promo_row hp hid).imp_right hab.drawn
  refine ⟨?_, ?_, ?_, ?_, ?_, h.attached.placed hpromo hw, ?_, fun id p' hp' => (hrows id p' hp').1,
    fun id hp' => ?_, ?_⟩
  · intro id order ho
    rw [orders_placed hpromo, Table.get?_insert] at ho
    split at ho
    · next e =>
      cases ho
      exact e.symm
    · exact h.order_id id order ho
  · intro id order ho
    rw [orders_placed hpromo, Table.get?_insert] at ho
    split at ho
    · next e =>
      rw [e]
      exact ⟨a.ids.taken, by omega, by rw [hw.order_id, hab.ids]⟩
    · exact hab.drawn (h.order_drawn id order ho)
  · rw [TicketsDistinct, tickets_placed hpromo, List.map_append, List.map_map]
    refine List.nodup_append.mpr ⟨h.distinct, new_tickets_distinct hab hb hw, ?_⟩
    intro id hid id' hid' e
    obtain ⟨k, hk, rfl⟩ := List.mem_map.mp hid
    obtain ⟨k', hk', rfl⟩ := List.mem_map.mp hid'
    obtain ⟨n, hn, hn', e'⟩ := new_ticket_id hw hk'
    have hdrawn : a.ids.Drawn k'.id.uuid := congrArg UuidId.uuid e ▸ h.ticket_drawn k hk
    rw [e'] at hdrawn
    exact hab.not_drawn hb (Nat.le_of_lt hn) hn' hdrawn
  · rw [tickets_placed hpromo]
    intro row hrow
    rcases List.mem_append.mp hrow with hrow | hrow
    · exact hab.drawn (h.ticket_drawn row hrow)
    · obtain ⟨k, hk, rfl⟩ := List.mem_map.mp hrow
      obtain ⟨n, hn, hn', e⟩ := new_ticket_id hw hk
      exact ⟨n, hn', by rw [hab.ids]; exact e.symm⟩
  · rw [orderItems_placed hpromo]
    intro i hi
    rcases List.mem_append.mp hi with hi | hi
    · exact hab.drawn (h.item_drawn i hi)
    · obtain ⟨i', hi', -, -, e, -⟩ := itemRows_order hi
      rw [e]
      exact hab.drawn (h.product_drawn _ _ (hw.item_stock i' hi'))
  · rw [stock?_placed hpromo]
    exact fun kind product hp => hab.drawn (h.product_drawn kind product hp)
  · obtain ⟨p', hp'⟩ := Option.isSome_iff_exists.mp hp'
    exact (hrows id p' hp').2
  · intro id order promo ho hp
    rw [orders_placed hpromo, Table.get?_insert] at ho
    split at ho
    · cases ho
      have htaken : t.PromoTaken (some promo) t₁ := hp ▸ hpromo
      exact hab.drawn (h.promo_drawn promo htaken.isSome)
    · exact hab.drawn (h.order_promo id order promo ho hp)

end

theorem consistent_effect {a b : Sources} (hab : a.Precedes b) (hb : b.ids.Fresh)
    (h : t.Consistent a.ids.Drawn) {env : Environment} {now : Time.Instant} {c : ServiceCall}
    (he : Effect env a.ids b.ids now t c t') : t'.Consistent b.ids.Drawn := by
  have hmono := h.mono fun _ => hab.drawn
  cases he with
  | catalog hchange =>
    have hnew : ∀ {id : Uuid}, a.ids.Next id b.ids → b.ids.Drawn id := fun hnext =>
      ⟨a.ids.taken, by rw [hnext.drawn]; exact Nat.lt_succ_self _, by rw [hnext.item, hab.ids]⟩
    refine hmono.amend hchange.sameOrders.amends (fun kind product hp => ?_) fun id p' hp' => ?_
    · obtain ⟨stock', hstock⟩ := Option.isSome_iff_exists.mp hp
      rcases hchange.stock hstock with ⟨stock, hs, -⟩ | ⟨hnext, -⟩
      · exact hmono.product_drawn kind product (by rw [hs]; rfl)
      · exact hnew hnext
    · rcases hchange.promo hp' with ⟨p, hp, e, -⟩ | ⟨e, hnext, -⟩
      · exact hmono.promo_row hp e
      · exact ⟨e, hnew hnext⟩
  | place request w t₁ hpromo hw => exact consistent_placed hab hb h hpromo hw
  | confirm call t₁ nonces hr =>
    refine hmono.amend (amends_confirmed h.distinct hr _ _ _ _)
      (fun kind product hp => hmono.product_drawn kind product ?_)
      fun id p' hp' => ?_
    · rw [stock?_confirmed] at hp
      obtain ⟨order, -, -, hall⟩ := reservedFor_eq_ok hr
      rcases hs : t.stock? kind product with _ | stock
      · rw [(stock?_reserveAll hall kind product).1 hs] at hp
        cases hp
      · rfl
    · rw [promoCodes_confirmed hr] at hp'
      exact hmono.promo_row hp' rfl
  | cancel id operator reason order ho hopen =>
    refine hmono.amend (amends_canceled t id order _ _ _)
      (fun kind product hp => hmono.product_drawn kind product ?_)
      fun promo p' hp' => ?_
    · rw [stock?_canceled, stockReturned] at hp
      split at hp
      · rcases hs : t.stock? kind product with _ | stock
        · rw [(stock?_releaseAll t _ kind product).1 hs] at hp
          cases hp
        · rfl
      · exact hp
    · rw [get?_promoCodes_canceled] at hp'
      split at hp'
      · obtain ⟨p, hp, rfl⟩ := Option.map_eq_some_iff.mp hp'
        exact hmono.promo_row hp rfl
      · exact hmono.promo_row hp' rfl
  | redeem id operator token ticket order hadmitted =>
    refine hmono.amend (amends_redeemed h.distinct ticket operator now) (fun kind product hp => ?_)
      fun promo p' hp' => ?_
    · rw [stock?_redeemed] at hp
      exact hmono.product_drawn kind product hp
    · rw [promoCodes_redeemed] at hp'
      exact hmono.promo_row hp' rfl

end Tables

namespace State

variable {σ : Type} (channel : Channel σ)

/-- Stores that come about by adding events and users and by calls that are allowed in them. -/
inductive Reachable (allowed : State σ → Environment → ServiceCall → Prop) : State σ → Prop
  | start (sources : Sources) (inner : σ) : Reachable allowed (start sources inner)
  | addEvent {s : State σ} (h : Reachable allowed s) (event : EventId) (title : String) :
    Reachable allowed (s.addEvent event title)
  | addUser {s : State σ} (h : Reachable allowed s) (user : Purchaser) :
      Reachable allowed (s.addUser user)
  | call {s : State σ} (h : Reachable allowed s) (env : Environment) (c : ServiceCall)
      (ha : allowed s env c) :
    Reachable allowed (serve channel (c.service env) s).2

def anyCall (_ : State σ) (_ : Environment) (_ : ServiceCall) : Prop := True

structure WellFormed (s : State σ) : Prop where
  idle : s.transaction = none
  consistent : s.committed.Consistent s.sources.ids.Drawn

variable {channel} {allowed : State σ → Environment → ServiceCall → Prop} {s : State σ}

theorem Reachable.unrestricted (h : Reachable channel allowed s) : Reachable channel anyCall s := by
  induction h with
  | start sources inner => exact .start sources inner
  | addEvent _ event title ih => exact ih.addEvent event title
  | addUser _ user ih => exact ih.addUser user
  | call _ env c _ ih => exact ih.call env c trivial

theorem call_effect (channel : Channel σ) (env : Environment) (s : State σ) (c : ServiceCall) :
    ∃ t', s.Becomes t' (serve channel (c.service env) s).2 ∧
      Effect env s.sources.ids (serve channel (c.service env) s).2.sources.ids s.sources.now.1
        s.committed c t' := by
  rcases call_ends channel env s c with
    ⟨e, s', hs, hbecomes⟩ | ⟨a, s', t', hs, hbecomes, heffect⟩ <;> rw [hs]
  · exact ⟨s.committed, hbecomes, .catalog .same (.inr rfl)⟩
  · exact ⟨t', hbecomes, heffect⟩

theorem Reachable.kept {P : State σ → Prop} (hstart : ∀ sources inner, P (.start sources inner))
    (hpeople : ∀ s events users, P s →
      P { s with committed := { s.committed with events := events, users := users } })
    (hcall : ∀ {s s' env c t'}, Reachable channel allowed s → allowed s env c → s.Becomes t' s' →
      Effect env s.sources.ids s'.sources.ids s.sources.now.1 s.committed c t' → P s → P s')
    (h : Reachable channel allowed s) : P s := by
  induction h with
  | start sources inner => exact hstart sources inner
  | addEvent h event title ih => exact hpeople _ _ _ ih
  | addUser h user ih => exact hpeople _ _ _ ih
  | @call s h env c ha ih =>
    obtain ⟨t', hbecomes, heffect⟩ := call_effect channel env s c
    exact hcall h ha hbecomes heffect ih

theorem Reachable.idle (h : Reachable channel allowed s) : s.transaction = none :=
  h.kept (fun _ _ => rfl) (fun _ _ _ hidle => hidle) fun _ _ hbecomes _ hidle => hbecomes.idle hidle

theorem consistent_empty (drawn : Uuid → Prop) : Tables.empty.Consistent drawn := by
  have hstock : ∀ kind product, Tables.empty.stock? kind product = none := by
    intro kind product
    cases kind <;> rfl
  have horders : ∀ id, Tables.empty.orders.get? id = none := fun _ => rfl
  have hpromos : ∀ id, Tables.empty.promoCodes.get? id = none := fun _ => rfl
  have htickets : Tables.empty.tickets = [] := rfl
  have hitems : Tables.empty.orderItems = [] := rfl
  constructor <;> simp [hstock, horders, hpromos, htickets, hitems, Tables.attached_empty,
    Tables.TicketsDistinct]

theorem Reachable.wellFormed (h : Reachable channel allowed s) (hfresh : s.sources.ids.Fresh) :
    s.WellFormed := by
  refine h.kept (P := fun s => s.sources.ids.Fresh → s.WellFormed) ?_ ?_ ?_ hfresh
  · exact fun _ _ _ => ⟨rfl, consistent_empty _⟩
  · intro s events users hwell hfresh
    obtain ⟨hidle, hc⟩ := hwell hfresh
    exact ⟨hidle, ⟨hc.1, hc.2, hc.3, hc.4, hc.5, ⟨hc.6.1, hc.6.2⟩, hc.7, hc.8, hc.9, hc.10⟩⟩
  · intro s s' env c t' _ _ hbecomes heffect hwell hfresh
    obtain ⟨hidle, hc⟩ := hwell (hbecomes.sources.fresh hfresh)
    refine ⟨hbecomes.idle hidle, ?_⟩
    rw [hbecomes.committed]
    exact Tables.consistent_effect hbecomes.sources hfresh hc heffect

/-- What holds of empty tables and is kept by every effect on a well-formed store holds of the
tables of every store, as long as no identifier is given twice. -/
theorem Reachable.invariant {I : Tables → Prop} (hstart : I .empty)
    (hpeople : ∀ t events users, I t → I { t with events := events, users := users })
    (hstep : ∀ {s env c t' after}, s.WellFormed → allowed s env c →
      s.sources.Precedes after → after.ids.Fresh →
      Effect env s.sources.ids after.ids s.sources.now.1 s.committed c t' → I s.committed → I t')
    (h : Reachable channel allowed s) (hfresh : s.sources.ids.Fresh) : I s.committed := by
  refine h.kept (P := fun s => s.sources.ids.Fresh → I s.committed) ?_ ?_ ?_ hfresh
  · exact fun _ _ _ => hstart
  · exact fun s events users hI hfresh => hpeople _ _ _ (hI hfresh)
  · intro s s' env c t' hreachable ha hbecomes heffect hI hfresh
    have hbefore := hbecomes.sources.fresh hfresh
    rw [hbecomes.committed]
    exact hstep (hreachable.wellFormed hbefore) ha hbecomes.sources hfresh heffect (hI hbefore)

def calls (channel : Channel σ) (env : Environment) (s : State σ) (made : List ServiceCall) :
    State σ :=
  made.foldl (fun s c => (serve channel (c.service env) s).2) s

theorem Reachable.calls_of_allowed (h : Reachable channel allowed s) (env : Environment)
    {made : List ServiceCall} (hmade : ∀ c ∈ made, ∀ s, allowed s env c) :
    Reachable channel allowed (s.calls channel env made) := by
  induction made generalizing s with
  | nil => exact h
  | cons c rest ih =>
    obtain ⟨hc, hrest⟩ := List.forall_mem_cons.mp hmade
    exact ih (h.call env c (hc s)) hrest

theorem Reachable.calls (h : Reachable channel anyCall s) (env : Environment)
    (made : List ServiceCall) : Reachable channel anyCall (s.calls channel env made) :=
  h.calls_of_allowed env fun _ _ _ => trivial

/-- What a store can become while it is used. -/
inductive Later (channel : Channel σ) (s : State σ) : State σ → Prop
  | refl : Later channel s s
  | addEvent {s' : State σ} (h : Later channel s s') (event : EventId) (title : String) :
    Later channel s (s'.addEvent event title)
  | addUser {s' : State σ} (h : Later channel s s') (user : Purchaser) :
      Later channel s (s'.addUser user)
  | call {s' : State σ} (h : Later channel s s') (env : Environment) (c : ServiceCall) :
    Later channel s (serve channel (c.service env) s').2

theorem Later.reachable {s' : State σ} (hl : Later channel s s') (h : Reachable channel anyCall s) :
    Reachable channel anyCall s' := by
  induction hl with
  | refl => exact h
  | addEvent _ event title ih => exact ih.addEvent event title
  | addUser _ user ih => exact ih.addUser user
  | call _ env c ih => exact ih.call env c trivial

theorem Later.calls {s' : State σ} (hl : Later channel s s') (env : Environment)
    (made : List ServiceCall) : Later channel s (s'.calls channel env made) := by
  induction made generalizing s' with
  | nil => exact hl
  | cons c rest ih => exact ih (hl.call env c)

theorem calls_precedes (env : Environment) (s : State σ) (made : List ServiceCall) :
    s.sources.Precedes (s.calls channel env made).sources := by
  induction made generalizing s with
  | nil => exact .refl _
  | cons c rest ih => exact (serve_precedes channel (c.service env) s).trans (ih _)

end State

end Memory

namespace Sources

theorem countedId_injective {step i j : Nat} (hi : i + 1 < 2 ^ 32) (hj : j + 1 < 2 ^ 32)
    (h : countedId step i = countedId step j) : i = j := by
  have hlow : ∀ k, (countedId step k).bits.extractLsb' 0 32 = BitVec.ofNat 32 (k + 1) := fun k => by
    simp only [countedId, BitVec.extractLsb'_append_eq_right]
  have hcount := (hlow i).symm.trans
    ((congrArg (fun id : Uuid => id.bits.extractLsb' 0 32) h).trans (hlow j))
  have hnat := congrArg BitVec.toNat hcount
  rw [BitVec.toNat_ofNat, BitVec.toNat_ofNat, Nat.mod_eq_of_lt hi, Nat.mod_eq_of_lt hj] at hnat
  omega

theorem fresh_of_counted {a : Sources} {step : Nat} (h : a.ids.item = countedId step)
    (htaken : a.ids.taken < 2 ^ 32 - 1) : a.ids.Fresh := by
  intro i j hi hj e
  rw [h] at e
  exact countedId_injective (by omega) (by omega) e

end Sources

namespace Sample

def environment : Environment := ⟨⟨secretText, by decide⟩, .standard⟩

def sources : Sources := .counted (.fixed time) 1

def product : ProductId := ⟨Sources.countedId 1 0⟩

def order : OrderId := ⟨Sources.countedId 1 1⟩

def ticket (n : Nat) : TicketId := ⟨Sources.countedId 1 (n + 2)⟩

def createProduct : ServiceCall := .createTicketProduct operator {
  eventId := event,
  name := "Day pass",
  ticketType := "SINGLE",
  priceCents := 5000,
  inventoryLimit := some 10,
  isActive := none }

def createOrder : ServiceCall := .createOrder {
  userId := buyer.userId,
  eventId := event,
  paymentMethod := "phone",
  paymentReference := none,
  ticketItems := [⟨product, 2⟩],
  transferItems := [],
  promoCode := none }

def confirmOrder : ServiceCall := .confirmOrder order operator

def cancelOrder : ServiceCall := .cancelOrder order operator none

def untilPaid : List ServiceCall := [createProduct, createOrder, confirmOrder]

def promo : PromoCodeId := ⟨Sources.countedId 1 1⟩

def createPromo : ServiceCall := .createPromoCode operator {
  code := "WELCOME",
  discountType := "PERCENT",
  value := 10,
  usageLimit := some 1,
  activeFrom := none,
  activeTo := none,
  eventId := none,
  isActive := none }

def discountedOrder : OrderId := ⟨Sources.countedId 1 2⟩

def createDiscounted : ServiceCall := .createOrder {
  userId := buyer.userId,
  eventId := event,
  paymentMethod := "phone",
  paymentReference := none,
  ticketItems := [⟨product, 1⟩, ⟨product, 1⟩],
  transferItems := [],
  promoCode := some " welcome " }

def raisePrice : ServiceCall := .updateTicketProduct product {
  name := none,
  priceCents := some 6000,
  inventoryLimit := .keep,
  isActive := none }

def untilUsed : List ServiceCall :=
  untilPaid ++ [.redeemTicket (ticket 0) operator none, .redeemTicket (ticket 1) operator none]

def untilDiscountedPaid : List ServiceCall :=
  [createProduct, createPromo, createDiscounted, .confirmOrder discountedOrder operator]

def untilPartlyUsed : List ServiceCall :=
  untilDiscountedPaid ++ [.redeemTicket (ticket 1) operator none]

def cancelDiscounted : ServiceCall := .cancelOrder discountedOrder operator none

def untilPartlyCanceled : List ServiceCall := untilPartlyUsed ++ [cancelDiscounted]

def untilRepriced : List ServiceCall := [createProduct, createPromo, createDiscounted, raisePrice]

def store (made : List ServiceCall) : Memory.State Unit :=
  (((Memory.State.start sources ()).addEvent event eventTitle).addUser buyer).calls
    .log environment made

theorem store_snoc (made : List ServiceCall) (c : ServiceCall) :
    store (made ++ [c]) = (Memory.State.serve .log (c.service environment) (store made)).2 :=
  List.foldl_append

theorem store_reachable (made : List ServiceCall) :
    Memory.State.Reachable .log Memory.State.anyCall (store made) :=
  Memory.State.Reachable.calls (.addUser (.addEvent (.start _ _) _ _) _) _ _

theorem store_later (made more : List ServiceCall) :
    Memory.State.Later .log (store made) (store (made ++ more)) := by
  have happend : store (made ++ more) = (store made).calls .log environment more :=
    List.foldl_append
  rw [happend]
  exact Memory.State.Later.refl.calls environment more

theorem store_fresh (made : List ServiceCall) (h : (store made).sources.ids.taken < 2 ^ 32 - 1) :
    (store made).sources.ids.Fresh :=
  Sources.fresh_of_counted (Memory.State.calls_precedes environment _ made).ids h

end Sample

end EventTickets
