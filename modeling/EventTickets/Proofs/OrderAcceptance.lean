import EventTickets.Proofs.Service.Basket
import EventTickets.Proofs.Service.Ordering

/-!
# Which requests are accepted

An order is placed exactly if its request is valid: it is complete, everything it selects is listed
for its event, the sum fits an amount and is not nothing, and its promo code, if there is one,
accepts that sum. A promo code is only looked at when all the rest is in order.
-/

namespace EventTickets

def PurchasableProducts.price? (listing : PurchasableProducts) : ItemType → ProductId → Option Int64
  | .ticket, product => (listing.tickets.find? (·.id == product)).map (·.priceCents)
  | .transfer, product => (listing.transfers.find? (·.id == product)).map (·.priceCents)

namespace CreateOrderRequest

def subtotal (request : CreateOrderRequest) (cap : UInt32) (listing : PurchasableProducts) : Int :=
  Basket.worth (listing.price? .ticket) request.ticketItems cap +
    Basket.worth (listing.price? .transfer) request.transferItems cap

structure Complete (request : CreateOrderRequest) : Prop where
  user : 0 < request.userId.number
  event : 0 < request.eventId.number
  payment : (PaymentMethod.parse? request.paymentMethod).isSome
  ticket : ∃ s ∈ request.ticketItems, 0 < s.quantity

/-- What a request needs but for its promo code, with what is listed for its event. -/
structure Valid (request : CreateOrderRequest) (cap : UInt32) (t : Memory.Tables)
    (listing : PurchasableProducts) : Prop extends request.Complete where
  registered : (t.events.get? request.eventId).isSome
  tickets : ∀ s ∈ request.ticketItems, 0 < s.quantity → (listing.price? .ticket s.productId).isSome
  transfers : ∀ s ∈ request.transferItems, 0 < s.quantity →
    (listing.price? .transfer s.productId).isSome
  positive : 0 < request.subtotal cap listing
  range : request.subtotal cap listing ≤ 2 ^ 63 - 1

def lines (request : CreateOrderRequest) (cap : UInt32) : List (ItemType × ProductId × UInt32) :=
  (Basket.merge request.ticketItems cap).map (Prod.mk .ticket) ++
    (Basket.merge request.transferItems cap).map (Prod.mk .transfer)

theorem subtotal_eq (request : CreateOrderRequest) (cap : UInt32) (listing : PurchasableProducts) :
    request.subtotal cap listing = Basket.cost listing.price? (request.lines cap) := by
  rw [lines, Basket.cost_append, Basket.cost_merge, Basket.cost_merge, subtotal]

theorem forall_mem_lines {request : CreateOrderRequest} {cap : UInt32}
    {P : ItemType → ProductId → Prop} : (∀ line ∈ request.lines cap, P line.1 line.2.1) ↔
      (∀ s ∈ request.ticketItems, 0 < s.quantity → P .ticket s.productId) ∧
        ∀ s ∈ request.transferItems, 0 < s.quantity → P .transfer s.productId := by
  rw [lines, List.forall_mem_append, List.forall_mem_map, List.forall_mem_map]
  exact and_congr (Basket.forall_mem_merge (P := P .ticket))
    (Basket.forall_mem_merge (P := P .transfer))

end CreateOrderRequest

theorem Purchase.check_cases (policy : OrderPolicy) (request : CreateOrderRequest) :
    (∃ intent, check policy request = .ok intent ∧ request.Complete ∧
      intent.userId = request.userId ∧ intent.eventId = request.eventId ∧
        intent.lines = request.lines policy.maxQuantityPerProduct ∧
      intent.promoCode = (request.promoCode.map Text.normalizeToken).filter (!·.isEmpty)) ∨
    (∃ message, check policy request = .error (.invalidProduct message)) ∧ ¬ request.Complete := by
  simp only [check]
  split
  · next hinvalid =>
    refine .inr ⟨⟨_, rfl⟩, fun hcomplete => ?_⟩
    simp [NumberId.isValid, hcomplete.user, hcomplete.event] at hinvalid
  · next hvalid =>
    simp only [NumberId.isValid, Bool.or_eq_true, Bool.not_eq_true',
      decide_eq_false_iff_not, not_or, not_not] at hvalid
    split
    · next method hmethod =>
      split
      · next hempty =>
        exact .inr ⟨⟨_, rfl⟩, fun hcomplete =>
          Basket.merge_eq_nil_iff.mp (List.isEmpty_iff.mp hempty) hcomplete.ticket⟩
      · next hsome =>
        have hticket : ∃ s ∈ request.ticketItems, 0 < s.quantity := by
          by_contra hnone
          exact hsome (List.isEmpty_iff.mpr (Basket.merge_eq_nil_iff.mpr hnone))
        exact .inl ⟨_, rfl, ⟨hvalid.1, hvalid.2, by rw [hmethod]; rfl, hticket⟩, rfl, rfl, rfl, rfl⟩
    · next hmethod =>
      refine .inr ⟨⟨_, rfl⟩, fun hcomplete => ?_⟩
      obtain ⟨method, e⟩ := Option.isSome_iff_exists.mp hcomplete.payment
      exact hmethod method e

namespace Memory

namespace Tables

variable {t : Tables} {event : EventId}

def purchasable (t : Tables) (event : EventId) : PurchasableProducts where
  tickets := newestFirst (·.createdAt)
    (t.ticketProducts.values.filter (ProductFilter.purchasable event).admitsTicket)
  transfers :=
    newestFirst (·.createdAt) (t.transferProducts.values.filter
      (ProductFilter.purchasable event).admitsTransfer)

theorem find?_newestFirst {ν : Type} {rows : Table ProductId ν} {id : ν → ProductId}
    (h : rows.Each fun key v => id v = key) (createdAt : ν → Time.Instant) (passes : ν → Bool)
    (product : ProductId) :
    (newestFirst createdAt (rows.values.filter passes)).find? (id · == product) =
      (rows.get? product).filter passes := by
  have hmem : ∀ v, v ∈ newestFirst createdAt (rows.values.filter passes) ↔
      rows.get? (id v) = some v ∧ passes v = true := by
    intro v
    rw [newestFirst, List.mem_mergeSort, List.mem_filter, Table.mem_values_iff]
    refine and_congr_left fun _ => ⟨fun ⟨key, hv⟩ => ?_, fun hv => ⟨_, hv⟩⟩
    rwa [h key v hv]
  -- The order of the listing does not matter, since no two rows have one identifier.
  rcases hfind : (newestFirst createdAt (rows.values.filter passes)).find? (id · == product) with
    _ | v
  · rw [eq_comm, Option.filter_eq_none_iff]
    intro v hv hpasses
    have hid := h product v hv
    have hnot := List.find?_eq_none.mp hfind v ((hmem v).mpr ⟨by rw [hid]; exact hv, hpasses⟩)
    exact hnot (beq_iff_eq.mpr hid)
  · have hid : id v = product := by simpa using List.find?_some hfind
    obtain ⟨hv, hpasses⟩ := (hmem v).mp (List.mem_of_find?_eq_some hfind)
    rw [hid] at hv
    rw [hv, Option.filter_some, if_pos hpasses]

theorem Priced.price?_purchasable (h : t.Priced) (event : EventId) :
    (t.purchasable event).price? = t.offer? event := by
  funext kind product
  cases kind with
  | ticket =>
    have hsale : (ProductFilter.purchasable event).admitsTicket = fun p => p.eventId ==
        event && p.isActive := by
      funext p
      simp [ProductFilter.admitsTicket, ProductFilter.admitsEvent, ProductFilter.admitsActive,
        ProductFilter.purchasable]
    rw [PurchasableProducts.price?, purchasable, offer?, find?_newestFirst fun id p hp =>
      (h.ticket id p hp).1, hsale]
  | transfer =>
    have hsale : (ProductFilter.purchasable event).admitsTransfer = fun p => p.eventId ==
        event && p.isActive := by
      funext p
      simp [ProductFilter.admitsTransfer, ProductFilter.admitsEvent, ProductFilter.admitsActive,
        ProductFilter.purchasable]
    rw [PurchasableProducts.price?, purchasable, offer?, find?_newestFirst fun id p hp =>
      (h.transfer id p hp).1, hsale]

theorem valid_iff (h : t.Priced) {request : CreateOrderRequest} {cap : UInt32} :
    request.Valid cap t (t.purchasable request.eventId) ↔
      request.Complete ∧ t.ForSale request.eventId (request.lines cap) := by
  have hlisted : (∀ line ∈ request.lines cap, (t.offer? request.eventId line.1 line.2.1).isSome) ↔
      _ :=
    CreateOrderRequest.forall_mem_lines
      (P := fun kind product => (t.offer? request.eventId kind product).isSome)
  constructor
  · rintro ⟨hcomplete, hregistered, htickets, htransfers, hpositive, hrange⟩
    simp only [CreateOrderRequest.subtotal_eq,
      h.price?_purchasable] at htickets htransfers hpositive hrange
    exact ⟨hcomplete, hregistered, hlisted.mpr ⟨htickets, htransfers⟩, hpositive, hrange⟩
  · rintro ⟨hcomplete, hregistered, hoffered, hpositive, hrange⟩
    refine ⟨hcomplete, hregistered, ?_, ?_, ?_, ?_⟩ <;> simp only [CreateOrderRequest.subtotal_eq,
      h.price?_purchasable]
    · exact (hlisted.mp hoffered).1
    · exact (hlisted.mp hoffered).2
    · exact hpositive
    · exact hrange

/-- What a new order changes: it is there, and its promo code, if there is one, is used once
more. -/
structure Takes (t : Tables) (id : OrderId) (order : Order) (promo : Option PromoCode)
    (t' : Tables) : Prop where
  absent : t.orders.get? id = none
  orders : t'.orders = t.orders.insert id order
  ticketProducts : t'.ticketProducts = t.ticketProducts
  transferProducts : t'.transferProducts = t.transferProducts
  promoCodes : ∀ p, t'.promoCodes.get? p =
    if promo.map (·.id) = some p then promo.map PromoCode.used else t.promoCodes.get? p

theorem takes_placed {promo : Option PromoCode} {w : Purchase.Placement} {t₁ : Tables}
    (hrow : ∀ p, promo = some p → t.promoCodes.get? p.id = some p)
    (hpromo : w.order.promoCodeId = promo.map (·.id)) (htaken : t.PromoTaken w.order.promoCodeId t₁)
    (habsent : t.orders.get? w.order.id = none) :
    t.Takes w.order.id w.order.order promo (t₁.placed w) where
  absent := habsent
  orders := orders_placed htaken
  ticketProducts := by
    rw [htaken.eq]
    rfl
  transferProducts := by
    rw [htaken.eq]
    rfl
  promoCodes id := by
    change t₁.promoCodes.get? id = _
    rw [hpromo] at htaken
    rcases promo with _ | p
    · rcases htaken with ⟨-, rfl⟩ | ⟨id, e, -⟩
      · rfl
      · cases e
    · rcases htaken with ⟨e, -⟩ | ⟨id, e, huse⟩
      · cases e
      · cases e
        obtain ⟨p', hp', -, hrows⟩ := consumePromo?_eq_some huse
        cases (hrow p rfl).symm.trans hp'
        simp [hrows, eq_comm]

/-- The order is new, waits for its payment, and costs what the request says less what its promo
code takes off. -/
structure Ordered (t : Tables) (sources : Sources) (request : CreateOrderRequest) (cents : Int)
    (promo : Option PromoCode) (detail : OrderDetail) (order : Order) (t' : Tables) : Prop where
  takes : t.Takes ⟨sources.newId.1⟩ order promo t'
  detail : t'.detail? ⟨sources.newId.1⟩ false = some detail
  user : order.userId = request.userId
  event : order.eventId = request.eventId
  status : order.status = .pending
  subtotal : order.subtotalCents.toInt = cents
  discount : order.discountCents =
    (PromoContext.ofOrder sources request.eventId cents).discount promo

theorem Ordered.detail_order {sources : Sources} {request : CreateOrderRequest} {cents : Int}
    {promo : Option PromoCode} {detail : OrderDetail} {order : Order} {t' : Tables}
    (h : t.Ordered sources request cents promo detail order t') :
    detail.order = t'.titled order := by
  have hdetail := h.detail
  rw [detail?, h.takes.orders, Table.get?_insert, if_pos rfl, Option.map_some] at hdetail
  exact congrArg OrderDetail.order (Option.some.inj hdetail).symm

end Tables

namespace State

open Tables

variable {σ : Type} {s : State σ}

theorem serve_purchasableProducts (channel : Channel σ) (event : EventId) :
    serve channel (purchasableProducts event) s = (.ok (s.committed.purchasable event), s) := rfl

variable (channel : Channel σ) (hp : s.committed.Priced)
  (hid : s.committed.promoCodes.Each fun id p => p.id = id) (env : Environment)
  (request : CreateOrderRequest)

include hp hid in
theorem serve_createOrder_cases {listing : PurchasableProducts}
    (hlisting : listing = s.committed.purchasable request.eventId) {cap : UInt32}
    (hcap : cap = env.policy.maxQuantityPerProduct) {cents : Int}
    (hcents : cents = request.subtotal cap listing) :
    (∃ detail promo order after, serve channel (createOrder env request) s = (.ok detail, after) ∧
      request.Valid cap s.committed listing ∧
      s.committed.Grants (.ofOrder s.sources request.eventId cents) request.promoCode promo ∧
      s.committed.Ordered s.sources request cents promo detail order after.committed ∧
      order.promoCodeId = promo.map (·.id)) ∨
    (∃ why after, serve channel (createOrder env request) s = (.error (.promoInvalid why), after) ∧
      after.committed = s.committed ∧ request.Valid cap s.committed listing ∧
      s.committed.Refuses (.ofOrder s.sources request.eventId cents) request.promoCode why) ∨
    (∃ message after,
      serve channel (createOrder env request) s = (.error (.invalidProduct message), after) ∧
      after.committed = s.committed ∧ ¬ request.Valid cap s.committed listing) ∨
    ∃ e promo after, serve channel (createOrder env request) s = (.error (.store e), after) ∧
      request.Valid cap s.committed listing ∧
      s.committed.Grants (.ofOrder s.sources request.eventId cents) request.promoCode promo ∧
      (s.committed.orders.get? ⟨s.sources.newId.1⟩).isSome = true := by
  subst hlisting hcap
  rw [valid_iff hp, createOrder, serve_bind, serve_liftExcept]
  -- A valid request is a complete one that is for sale. The first is checked without the store, the
  -- second by it.
  rcases Purchase.check_cases env.policy request with
    ⟨intent, hcheck, hcomplete, huser, hevent, hlines, hcode⟩ | ⟨⟨message, hcheck⟩,
      hincomplete⟩ <;> rw [hcheck]
  · have hinner := (Purchase.careful_place env.policy intent).inner
    have hplaces := places_place channel s s.sources s.committed hid env.policy hcode hp
    have hcost : Basket.cost (s.committed.offer? intent.eventId) intent.lines = cents := by
      rw [hcents, CreateOrderRequest.subtotal_eq, hp.price?_purchasable, hevent, hlines]
    rw [hcost] at hplaces
    rw [← hevent, ← hlines]
    dsimp only
    generalize hbody : attempt channel (Purchase.place env.policy intent) s.begun = r
    have hopened : attempt channel (Purchase.place env.policy intent)
        (s.opened s.sources ⟨s.committed, .empty⟩) = r := hbody
    rw [hopened] at hplaces
    cases hplaces with
    | written detail promo t₁ w quote after l hsale hgrants htaken hdetail hquote horder habsent =>
      obtain ⟨-, hs⟩ := serve_transaction_of_ok channel hinner hbody
      have hw : w.order.id = ⟨s.sources.newId.1⟩ := by rw [horder]; rfl
      have hpromo : w.order.promoCodeId = promo.map (·.id) := by rw [horder]; rfl
      have htakes := takes_placed (fun p e => (e ▸ hgrants).row hid) hpromo (hpromo ▸ htaken)
        (hw ▸ habsent)
      refine .inl ⟨detail, promo, w.order.order, _, hs, ⟨hcomplete, hsale⟩, hgrants, ?_, hpromo⟩
      exact {
        takes := hw ▸ htakes
        detail := hw ▸ hdetail
        user := by rw [horder]; exact huser
        event := by rw [horder]; exact hevent
        status := rfl
        subtotal := by rw [horder]; exact hquote
        discount := by rw [horder, ← hevent]; rfl }
    | refused why hsale hrefuses =>
      obtain ⟨after, -, hs⟩ := serve_transaction_of_error channel hinner hbody
      exact .inr (.inl ⟨why, _, hs, rfl, ⟨hcomplete, hsale⟩, hrefuses⟩)
    | unsold message hsale =>
      obtain ⟨after, -, hs⟩ := serve_transaction_of_error channel hinner hbody
      exact .inr (.inr (.inl ⟨message, _, hs, rfl, fun hvalid => hsale hvalid.2⟩))
    | duplicate promo hsale hgrants hpresent =>
      obtain ⟨after, -, hs⟩ := serve_transaction_of_error channel hinner hbody
      exact .inr (.inr (.inr ⟨_, promo, _, hs, ⟨hcomplete, hsale⟩, hgrants, hpresent⟩))
  · exact .inr (.inr (.inl ⟨message, s, rfl, rfl, fun hvalid => hincomplete hvalid.1⟩))

/-- A request is accepted exactly if it is valid and its promo code, if it has one, accepts its
exact subtotal. Otherwise nothing changes, and the promo code is blamed only if all the rest is in
order. -/
theorem order_accepted_iff_valid {channel : Channel σ} (h : Reachable channel anyCall s)
    (hfresh : s.sources.newId.2.ids.Fresh) (env : Environment) (request : CreateOrderRequest) :
    ∃ listing cents, serve channel (purchasableProducts request.eventId) s = (.ok listing, s) ∧
      cents = request.subtotal env.policy.maxQuantityPerProduct listing ∧
      ((∃ detail after, serve channel (createOrder env request) s = (.ok detail, after)) ↔
        request.Valid env.policy.maxQuantityPerProduct s.committed listing ∧
          ∃ promo, s.committed.Grants (.ofOrder s.sources request.eventId cents)
            request.promoCode promo) ∧
      (∀ detail after, serve channel (createOrder env request) s = (.ok detail, after) →
        ∃ promo order, s.committed.Grants (.ofOrder s.sources request.eventId cents)
          request.promoCode promo ∧
          s.committed.Ordered s.sources request cents promo detail order after.committed) ∧
      ∀ e after, serve channel (createOrder env request) s = (.error e, after) →
        after.committed = s.committed ∧
        (request.Valid env.policy.maxQuantityPerProduct s.committed listing →
          ∃ why, e = .promoInvalid why) ∧
        (¬ request.Valid env.policy.maxQuantityPerProduct s.committed listing →
          ∃ message, e = .invalidProduct message) := by
  have hnew := Sources.Precedes.newId s.sources
  have hc := (h.wellFormed (hnew.fresh hfresh)).consistent
  have habsent : s.committed.orders.get? ⟨s.sources.newId.1⟩ = none := by
    rw [Option.eq_none_iff_forall_ne_some]
    intro order ho
    exact hnew.not_drawn hfresh (Nat.le_refl _) (Nat.lt_succ_self _) (hc.order_drawn _ order ho)
  refine ⟨s.committed.purchasable request.eventId, _, serve_purchasableProducts _ _, rfl, ?_⟩
  rcases serve_createOrder_cases channel h.priced hc.promo_id env request rfl rfl rfl with
    ⟨detail, promo, order, after, hs, hvalid, hgrants, hordered, -⟩ |
      ⟨why, after, hs, hsame, hvalid, hrefuses⟩ | ⟨message, after, hs, hsame, hinvalid⟩ |
      ⟨-, -, -, -, -, -, hpresent⟩
  case inr.inr.inr =>
    rw [habsent] at hpresent
    cases hpresent
  all_goals rw [hs]
  · refine ⟨⟨fun _ => ⟨hvalid, promo, hgrants⟩, fun _ => ⟨detail, after, rfl⟩⟩, ?_, ?_⟩ <;>
      intro _ _ e <;> cases e
    exact ⟨promo, order, hgrants, hordered⟩
  · refine ⟨⟨?_, fun ⟨_, promo, hgrants⟩ => (hrefuses.not_grants promo hgrants).elim⟩, ?_, ?_⟩
    · rintro ⟨_, _, e⟩
      cases e
    · intro _ _ e
      cases e
    · intro _ _ e
      cases e
      exact ⟨hsame, fun _ => ⟨why, rfl⟩, fun hinvalid => (hinvalid hvalid).elim⟩
  · refine ⟨⟨?_, fun ⟨hvalid, _⟩ => (hinvalid hvalid).elim⟩, ?_, ?_⟩
    · rintro ⟨_, _, e⟩
      cases e
    · intro _ _ e
      cases e
    · intro _ _ e
      cases e
      exact ⟨hsame, fun hvalid => (hinvalid hvalid).elim, fun _ => ⟨message, rfl⟩⟩

end State

end Memory

namespace Sample

def onSale : List ServiceCall := [createProduct, createPromo]

def discountedRequest : CreateOrderRequest where
  userId := buyer.userId
  eventId := event
  paymentMethod := "usdt"
  paymentReference := none
  ticketItems := [⟨product, 1⟩, ⟨⟨promo.uuid⟩, 0⟩, ⟨product, 1⟩]
  transferItems := []
  promoCode := some " welcome "

end Sample

theorem Memory.State.order_accepted_with_discount :
    (∃ listing promo, serve .log (purchasableProducts Sample.event) (Sample.store Sample.onSale) =
        (.ok listing, Sample.store Sample.onSale) ∧
      Sample.discountedRequest.Valid 100 (Sample.store Sample.onSale).committed listing ∧
      (Sample.store Sample.onSale).committed.Grants
        (.ofOrder (Sample.store Sample.onSale).sources Sample.event
          (Sample.discountedRequest.subtotal 100 listing))
        (some " welcome ") promo) ∧
    ((serve .log (createOrder Sample.environment Sample.discountedRequest)
        (Sample.store Sample.onSale)).2.committed.orders.get? Sample.discountedOrder).map
      (fun order => (order.status, order.subtotalCents, order.discountCents)) =
        some (.pending, 10000, 1000) := by
  have hfresh : (Sample.store Sample.onSale).sources.newId.2.ids.Fresh :=
    Sources.fresh_of_counted (calls_precedes Sample.environment _ Sample.onSale).ids
      (by decide +kernel)
  obtain ⟨listing, cents, hlisting, rfl, haccepted, -⟩ :=
    order_accepted_iff_valid (Sample.store_reachable Sample.onSale)
    hfresh Sample.environment Sample.discountedRequest
  have hok : (serve .log (createOrder Sample.environment Sample.discountedRequest)
      (Sample.store Sample.onSale)).1.isOk = true := by decide +kernel
  obtain ⟨hvalid, promo, hgrants⟩ := haccepted.mp (by
    rcases hs : serve .log (createOrder Sample.environment Sample.discountedRequest)
      (Sample.store Sample.onSale) with
      ⟨e | detail, after⟩
    · rw [hs] at hok
      cases hok
    · exact ⟨detail, after, rfl⟩)
  exact ⟨⟨listing, promo, hlisting, hvalid, hgrants⟩, by decide +kernel⟩

end EventTickets
