import EventTickets.Proofs.OwnRows
import EventTickets.Proofs.Sales.Report

/-!
# What products count

As long as no product is taken away, every line leads to the product it was bought from, which is of
the kind and for the event that the line was written for. So the counters of the products of a kind
come to what is sold of that kind.
-/

namespace EventTickets

namespace Table

variable {κ ν γ : Type} [Ranked κ] [DecidableEq κ] {t t' : Table κ ν} {f : ν → γ}

theorem Changes.map_get? {keys : κ → Prop} {change : ν → ν → Prop} (h : Changes keys change t t')
    (hf : ∀ v v', change v v' → f v' = f v) (k : κ) : (t'.get? k).map f = (t.get? k).map f := by
  rcases h k with e | ⟨-, v, v', hv, hv', hchange⟩
  · rw [e]
  · rw [hv, hv', Option.map_some, Option.map_some, hf v v' hchange]

theorem AddsOne.map_get? (h : AddsOne t t') {k : κ} {a : γ} (ha : (t.get? k).map f = some a) :
    (t'.get? k).map f = some a := by
  obtain ⟨k', v, hnone, hrows⟩ := h
  rw [hrows, if_neg, ha]
  rintro rfl
  rw [hnone] at ha
  cases ha

end Table

def ServiceCall.KeepsProducts (t : Memory.Tables) : ServiceCall → Prop
  | .deleteTicketProduct id => t.ticketProducts.get? id = none
  | .deleteTransferProduct id => t.transferProducts.get? id = none
  | _ => True

namespace Memory.Tables

variable {t t' t₁ : Tables}

theorem label?_congr (hticket : t'.ticketProducts = t.ticketProducts)
    (htransfer : t'.transferProducts = t.transferProducts) : t'.label? = t.label? := by
  funext kind product
  cases kind <;> simp [label?, hticket, htransfer]

theorem Resells.label? {lines : ItemType → ProductId → Prop} (h : Resells lines t t') :
    t'.label? = t.label? := by
  funext kind product
  cases kind with
  | ticket => exact h.ticketProducts.map_get? (by rintro p p' ⟨n, rfl⟩; rfl) product
  | transfer => exact h.transferProducts.map_get? (by rintro p p' ⟨n, rfl⟩; rfl) product

theorem label?_of_touches {c : ServiceCall} (h : c.Touches t t')
    (hc : c.KeepsProducts t) {kind : ItemType} {product : ProductId} {label : EventId × String}
    (hl : t.label? kind product = some label) : t'.label? kind product = some label := by
  have hothers : t'.ticketProducts = t.ticketProducts → t'.transferProducts = t.transferProducts →
      t'.label? kind product = some label :=
      fun hticket htransfer => by rw [label?_congr hticket htransfer, hl]
  cases c with
  | createTicketProduct createdBy input =>
    cases kind with
    | ticket => exact h.2.map_get? hl
    | transfer =>
      rw [h.1]
      exact hl
  | createTransferProduct createdBy input =>
    cases kind with
    | ticket =>
      rw [h.1]
      exact hl
    | transfer => exact h.2.map_get? hl
  | updateTicketProduct id patch =>
    cases kind with
    | ticket =>
      exact (h.2.map_get? (fun p p' hp => by obtain ⟨_, _, _, _, _, rfl⟩ := hp.others; rfl)
        product).trans hl
    | transfer =>
      rw [h.1]
      exact hl
  | updateTransferProduct id patch =>
    cases kind with
    | ticket =>
      rw [h.1]
      exact hl
    | transfer =>
      exact (h.2.map_get? (fun p p' hp => by obtain ⟨_, _, _, _, _, _, rfl⟩ := hp.others; rfl)
        product).trans hl
  | deleteTicketProduct id =>
    have hfound := h.2.1
    rw [show t.ticketProducts.get? id = none from hc] at hfound
    cases hfound
  | deleteTransferProduct id =>
    have hfound := h.2.1
    rw [show t.transferProducts.get? id = none from hc] at hfound
    cases hfound
  | createPromoCode createdBy input => exact hothers (by rw [h.1]) (by rw [h.1])
  | updatePromoCode id patch => exact hothers (by rw [h.1]) (by rw [h.1])
  | deletePromoCode id => exact hothers (by rw [h.1]) (by rw [h.1])
  | createOrder request => exact hothers (by rw [h.1]) (by rw [h.1])
  | redeemTicket id operator token => exact hothers (by rw [h.others]) (by rw [h.others])
  | confirmOrder id operator => rw [h.stock.label?, hl]
  | confirmAndDeliver id operator => rw [h.stock.label?, hl]
  | cancelOrder id operator reason => rw [h.stock.label?, hl]
  | _ =>
    cases h
    exact hl

/-- Every line has an order and leads to a product for its event, of the kind that the line
names. -/
def LinesLead (t : Tables) : Prop :=
  ∀ i ∈ t.orderItems, ∃ order, t.orders.get? i.orderId = some order ∧
    t.label? i.itemType i.productId = some (order.eventId, i.productRef)

theorem LinesLead.effect {a b : Supply Uuid} {env : Environment}
    {now : Time.Instant} {c : ServiceCall} (h : t.LinesLead) (he : Effect env a b now t c t')
    (hkept : ∀ {kind product label}, t.label? kind product = some label →
      t'.label? kind product = some label) :
    t'.LinesLead := by
  rcases sales_effect he with ⟨w, t₁, hpromo, hw, rfl⟩ | hsame
  · intro i hi
    rw [orderItems_placed hpromo] at hi
    rw [orders_placed hpromo, Table.get?_insert]
    rcases List.mem_append.mp hi with hi | hi
    · obtain ⟨order, ho, hlabel⟩ := h i hi
      have hne : i.orderId ≠ w.order.id := by
        intro e
        rw [e, hw.absent] at ho
        cases ho
      exact ⟨order, by rw [if_neg hne, ho], hkept hlabel⟩
    · obtain ⟨line, hline, n, rfl⟩ := mem_itemRows hi
      exact ⟨w.order.order, if_pos (hw.item_order line hline), hkept (hw.item_label line hline)⟩
  · intro i hi
    rw [hsame.orderItems] at hi
    obtain ⟨order, ho, hlabel⟩ := h i hi
    have hplaced := hsame.orders i.orderId
    rw [ho, Option.map_some, Option.map_eq_some_iff] at hplaced
    obtain ⟨order', ho', hplaced⟩ := hplaced
    have e : order'.eventId = order.eventId := congrArg (·.eventId) hplaced
    exact ⟨order', ho', by rw [e]; exact hkept hlabel⟩

theorem units_eq_sumOf (kind : ItemType) (product : ProductId) (items : List OrderItem) :
    (OrderItem.units kind product items : Int) =
      sumOf (fun i => i.productId == product && i.itemType == kind) (·.quantity.toNat) items := by
  induction items with
  | nil => rfl
  | cons i rest ih =>
    have hiff : (kind = i.itemType ∧ product = i.productId) ↔ i.productId = product ∧
        i.itemType = kind :=
      ⟨fun h => ⟨h.2.symm, h.1.symm⟩, fun h => ⟨h.2.symm, h.1.symm⟩⟩
    rw [OrderItem.units, sumOf_cons, ← ih]
    simp only [hiff, Bool.and_eq_true, beq_iff_eq]
    split <;> omega

def linesSold (t : Tables) (events : EventId → Bool) (kind : ItemType) (name : String) : Int :=
  sumOf (fun i => t.soldFor events i.orderId && (i.itemType == kind && i.productRef == name))
    (·.quantity.toNat)
    t.orderItems

theorem linesSold_eq {ν κ : Type} [DecidableEq κ] (rows : Table ProductId ν)
    (itemType : ItemType) (stock : ν → Stock) (event : ν → EventId) (kindOf : ν → κ)
    {name : κ → String} (hname : ∀ {a b}, name a = name b → a = b)
    (hstock : ∀ id, t.stock? itemType id = (rows.get? id).map stock)
    (hlabel : ∀ id, t.label? itemType id = (rows.get? id).map fun v => (event v, name (kindOf v)))
    (hexact : t.StockExact) (hlead : t.LinesLead) (events : EventId → Bool) (kind : κ) :
    t.linesSold events itemType (name kind) =
      sumOf (fun v => kindOf v == kind && events (event v))
        (fun v => (stock v).sold.toNat) rows.values := by
  let products := (rows.entries.filter fun e => kindOf e.2 == kind && events (event e.2)).map (·.1)
  have hproducts : ∀ {id v}, rows.get? id = some v →
      products.contains id = (kindOf v == kind && events (event v)) := by
    intro id v hv
    rw [Bool.eq_iff_iff, List.contains_iff_mem, List.mem_map]
    constructor
    · rintro ⟨e, he, rfl⟩
      obtain ⟨he, hpicked⟩ := List.mem_filter.mp he
      cases hv.symm.trans (Table.get?_eq_some_iff.mpr he)
      exact hpicked
    · exact fun hpicked => ⟨(id, v), List.mem_filter.mpr ⟨Table.get?_eq_some_iff.mp hv, hpicked⟩,
        rfl⟩
  -- Lines are picked by product and not by name, to be summed product by product.
  have hlines : t.linesSold events itemType (name kind) =
      sumOf (fun i => products.contains i.productId && (t.isSold i && i.itemType == itemType))
        (·.quantity.toNat)
        t.orderItems := by
    have hswap : ∀ a b c : Bool, (a && b && (true && c)) = (c && b && (a && true)) := by decide
    refine sumOf_congr fun i hi => ?_
    by_cases htype : i.itemType = itemType
    · obtain ⟨order, ho, hl⟩ := hlead i hi
      rw [htype, hlabel] at hl
      obtain ⟨v, hv, e⟩ := Option.map_eq_some_iff.mp hl
      obtain ⟨hevent, href⟩ := Prod.mk.inj e
      have hnames : (name (kindOf v) == name kind) = (kindOf v == kind) := by
        rw [Bool.eq_iff_iff, beq_iff_eq, beq_iff_eq]
        exact ⟨hname, congrArg _⟩
      rw [hproducts hv, soldFor, isSold, ho, Option.any_some, Option.any_some, htype, BEq.rfl,
        ← href, hnames, hevent, hswap]
    · simp [htype]
  have hproduct : ∀ e ∈ rows.entries.filter fun e => kindOf e.2 == kind && events (event e.2),
      sumOf (fun i => i.productId == e.1 && (t.isSold i && i.itemType == itemType))
          (·.quantity.toNat) t.orderItems =
        ((stock e.2).sold.toNat : Int) := by
    intro e he
    have hget := Table.get?_eq_some_iff.mpr (List.mem_filter.mp he).1
    rw [hexact itemType e.1 (stock e.2) (by rw [hstock, hget]; rfl), unitsSold,
      units_eq_sumOf, sumOf_filter]
    simp only [Bool.and_left_comm]
  have hdistinct : products.Nodup := rows.keys_nodup.sublist (List.filter_sublist.map _)
  rw [hlines, ← sum_sumOf_key hdistinct, List.map_map, Table.values, sumOf_map]
  exact congrArg List.sum (List.map_congr_left hproduct)

def ticketsCounted (t : Tables) (events : EventId → Bool) (kind : TicketType) : Int :=
  sumOf (fun p => p.ticketType == kind && events p.eventId) (·.soldCount.toNat)
    t.ticketProducts.values

def transfersCounted (t : Tables) (events : EventId → Bool) (kind : TransferDirection) : Int :=
  sumOf (fun p => p.direction == kind && events p.eventId) (·.soldCount.toNat)
    t.transferProducts.values

theorem Accountable.sales_tickets (h : t.Accountable) (events : EventId → Bool)
    (kind : TicketType) :
    t.sales events (.tickets kind) = t.linesSold events .ticket kind.name := by
  rw [sales, linesSold, ← h.sum_by_order events, ← h.sum_by_order events]
  exact sumOf_congr fun order ho => by rw [← h.linesPart_tickets kind ho, h.linesPart_eq rfl]

end Memory.Tables

namespace Memory.State

open Tables

variable {σ : Type} {channel : Channel σ} {s : State σ}

def keepsProducts (s : State σ) (_ : Environment) (c : ServiceCall) : Prop :=
  c.KeepsProducts s.committed

theorem Reachable.linesLead (h : Reachable channel keepsProducts s) (hfresh : s.sources.ids.Fresh) :
    s.committed.LinesLead := by
  induction h with
  | start sources inner =>
    have hitems : Tables.empty.orderItems = [] := rfl
    intro i hi
    rw [State.start, hitems] at hi
    cases hi
  | addEvent h event title ih => exact ih hfresh
  | addUser h user ih => exact ih hfresh
  | @call s h env c ha ih =>
    have hlead := ih ((serve_precedes channel (c.service env) s).fresh hfresh)
    rcases call_ends channel env s c with
      ⟨e, s', hs, hbecomes⟩ | ⟨a, s', t', hs, hbecomes, heffect⟩ <;>
      rw [hs] at hfresh ⊢
    · rw [hbecomes.committed]
      exact hlead
    · have htouches := touches_of_serve h.unrestricted hs hfresh
      rw [hbecomes.committed] at htouches ⊢
      exact hlead.effect heffect (label?_of_touches htouches ha)

/-- As long as no product was taken away, what is sold of a kind is what the products of the kind
count. -/
theorem Reachable.sales_eq_counted (h : Reachable channel keepsProducts s)
    (hfresh : s.sources.ids.Fresh) (events : EventId → Bool) :
    (∀ kind, s.committed.sales events (.tickets kind) = s.committed.ticketsCounted events kind) ∧
      ∀ kind, s.committed.sales events (.transfers kind) =
        s.committed.transfersCounted events kind := by
  have hexact := h.stockExact hfresh
  have hlead := h.linesLead hfresh
  refine ⟨fun kind => ?_, fun kind => ?_⟩
  · rw [(h.accountable hfresh).sales_tickets]
    exact linesSold_eq _ .ticket _ (·.eventId) (·.ticketType) TicketType.name_injective
      (fun _ => rfl) (fun _ => rfl)
      hexact hlead events kind
  · exact linesSold_eq _ .transfer _ (·.eventId) (·.direction) TransferDirection.name_injective
      (fun _ => rfl)
      (fun _ => rfl) hexact hlead events kind

end Memory.State

end EventTickets
