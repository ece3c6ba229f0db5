import EventTickets.Proofs.Memory.Transactions
import EventTickets.Proofs.Service.Pricing
import EventTickets.Service.Purchase

/-!
# What placing an order writes

A successful purchase writes one pending order with its lines and at least one ticket, all under new
identifiers, and takes a use of the promo code it names. Nothing else changes, and no stock is
touched.
-/

namespace EventTickets

namespace PromoCode

/-- Whether an order may take a use of a promo code: a limit in force is not reached, and the
counter not full. -/
structure HasUse (p : PromoCode) : Prop where
  range : p.usedCount.toNat < 2 ^ 32 - 1
  limit : ∀ limit, p.usageLimit = some limit → 0 < limit → p.usedCount < limit

def used (p : PromoCode) : PromoCode := { p with usedCount := p.usedCount + 1 }

theorem HasUse.toNat_used {p : PromoCode} (h : p.HasUse) :
    p.used.usedCount.toNat = p.usedCount.toNat + 1 := by
  have hrange := h.range
  rw [used, UInt32.toNat_add]
  simp only [UInt32.reduceToNat]
  omega

end PromoCode

namespace Basket

theorem add_all {P : UInt32 → Prop} (hadd : ∀ a b, P a → P b → P (saturatingAdd a b))
    {product : ProductId} {quantity : UInt32} (hq : P quantity) {basket : List (ProductId × UInt32)}
    (hb : ∀ line ∈ basket, P line.2) : ∀ line ∈ add product quantity basket, P line.2 := by
  -- The product is on a line of the basket, or goes before the first line that is behind it.
  induction basket with
  | nil => simpa [add] using hq
  | cons line rest ih =>
    obtain ⟨hline, hrest⟩ := List.forall_mem_cons.mp hb
    rw [add]
    split
    · exact List.forall_mem_cons.mpr ⟨hq, hb⟩
    · split
      · exact List.forall_mem_cons.mpr ⟨hadd _ _ hline hq, hrest⟩
      · exact List.forall_mem_cons.mpr ⟨hline, ih hrest⟩

theorem merge_all {P : UInt32 → Prop} (hadd : ∀ a b, P a → P b → P (saturatingAdd a b))
    {selections : List ProductSelection} {cap : UInt32}
    (h : ∀ s ∈ selections, 0 < s.quantity → P (min s.quantity cap)) :
    ∀ line ∈ merge selections cap, P line.2 := by
  have hfold : ∀ (chosen : List ProductSelection) (basket : List (ProductId × UInt32)),
      (∀ s ∈ chosen, P (min s.quantity cap)) → (∀ line ∈ basket, P line.2) →
        ∀ line ∈ chosen.foldl (fun basket s => add s.productId (min s.quantity cap) basket) basket,
        P line.2 := by
    intro chosen
    induction chosen with
    | nil => exact fun basket _ hb => hb
    | cons s rest ih =>
      intro basket hc hb
      obtain ⟨hs, hrest⟩ := List.forall_mem_cons.mp hc
      exact ih _ hrest (add_all hadd hs hb)
  refine hfold _ [] (fun s hs => ?_) nofun
  obtain ⟨hs, hpos⟩ := List.mem_filter.mp hs
  exact h s hs (by simpa using hpos)

theorem min_eq_ite (a b : UInt32) : min a b = if a ≤ b then a else b := rfl

theorem merge_zero (selections : List ProductSelection) :
    ∀ line ∈ merge selections 0, line.2 = 0 := by
  refine merge_all (P := (· = 0)) ?_ fun s _ _ => ?_
  · rintro a b rfl rfl
    rfl
  · rw [min_eq_ite]
    split
    · next h => exact UInt32.le_zero_iff.mp h
    · rfl

theorem merge_pos (selections : List ProductSelection) {cap : UInt32} (hcap : 0 < cap) :
    ∀ line ∈ merge selections cap, 0 < line.2 := by
  refine merge_all (P := (0 < ·)) (fun a b ha hb => ?_) fun s _ hs => ?_
  · rw [saturatingAdd]
    split
    · rw [UInt32.lt_iff_toNat_lt] at *
      rw [UInt32.toNat_add]
      simp only [UInt32.toNat_zero] at *
      omega
    · decide
  · rw [min_eq_ite]
    split
    · exact hs
    · exact hcap

def InOrder (basket : List (ProductId × UInt32)) : Prop :=
  basket.Pairwise fun a b => Ranked.rank a.1 < Ranked.rank b.1

theorem mem_add {product : ProductId} {quantity : UInt32} {basket : List (ProductId × UInt32)}
    {line : ProductId × UInt32} (h : line ∈ add product quantity basket) :
    line.1 = product ∨ ∃ old ∈ basket, line.1 = old.1 := by
  induction basket with
  | nil => exact .inl (congrArg Prod.fst (List.mem_singleton.mp h))
  | cons first rest ih =>
    rw [add] at h
    split at h
    · rcases List.mem_cons.mp h with rfl | h
      · exact .inl rfl
      · exact .inr ⟨line, h, rfl⟩
    · split at h
      · rcases List.mem_cons.mp h with rfl | h
        · exact .inr ⟨first, List.mem_cons_self, rfl⟩
        · exact .inr ⟨line, List.mem_cons_of_mem _ h, rfl⟩
      · rcases List.mem_cons.mp h with rfl | h
        · exact .inr ⟨_, List.mem_cons_self, rfl⟩
        · exact (ih h).imp_right fun ⟨old, hold, e⟩ => ⟨old, List.mem_cons_of_mem _ hold, e⟩

theorem add_inOrder (product : ProductId) (quantity : UInt32) {basket : List (ProductId × UInt32)}
    (h : InOrder basket) : InOrder (add product quantity basket) := by
  induction basket with
  | nil => exact List.pairwise_singleton _ _
  | cons first rest ih =>
    obtain ⟨hfirst, hrest⟩ := List.pairwise_cons.mp h
    rw [add]
    split
    · next hbefore =>
      refine List.pairwise_cons.mpr ⟨List.forall_mem_cons.mpr ⟨hbefore, fun line hline => ?_⟩, h⟩
      exact Int.lt_trans hbefore (hfirst line hline)
    · next hnot =>
      split
      · exact List.pairwise_cons.mpr ⟨hfirst, hrest⟩
      · next hne =>
        have hbehind : Ranked.rank first.1 < Ranked.rank product := by
          have hrank : Ranked.rank product ≠ Ranked.rank first.1 :=
            fun e => hne (Ranked.rank_injective _ _ e)
          omega
        refine List.pairwise_cons.mpr ⟨fun line hline => ?_, ih hrest⟩
        rcases mem_add hline with e | ⟨old, hold, e⟩ <;> rw [e]
        · exact hbehind
        · exact hfirst old hold

theorem merge_inOrder (selections : List ProductSelection) (cap : UInt32) :
    InOrder (merge selections cap) := by
  have hfold : ∀ (chosen : List ProductSelection) (basket : List (ProductId × UInt32)),
      InOrder basket →
      InOrder (chosen.foldl (fun basket s => add s.productId (min s.quantity cap) basket)
        basket) := by
    intro chosen
    induction chosen with
    | nil => exact fun basket hb => hb
    | cons s rest ih => exact fun basket hb => ih _ (add_inOrder _ _ hb)
  exact hfold _ [] .nil

theorem InOrder.nodup {basket : List (ProductId × UInt32)} (h : InOrder basket) :
    (basket.map (·.1)).Nodup := by
  refine List.pairwise_map.mpr (h.imp fun hlt e => ?_)
  rw [e] at hlt
  exact Int.lt_irrefl _ hlt

end Basket

namespace Purchase

def Intent.lines (intent : Intent) : List (ItemType × ProductId × UInt32) :=
  intent.tickets.map (Prod.mk .ticket) ++ intent.transfers.map (Prod.mk .transfer)

structure Intent.Sound (intent : Intent) : Prop where
  user : intent.userId.isValid = true
  event : intent.eventId.isValid = true
  tickets : intent.tickets ≠ []
  distinct : (intent.lines.map fun line => (line.1, line.2.1)).Nodup
  quantities : (∀ line ∈ intent.lines, line.2.2 = 0) ∨ ∀ line ∈ intent.lines, 0 < line.2.2

theorem nodup_lines {tickets transfers : List (ProductId × UInt32)} (ht : (tickets.map (·.1)).Nodup)
    (hf : (transfers.map (·.1)).Nodup) :
    ((tickets.map (Prod.mk ItemType.ticket) ++ transfers.map (Prod.mk ItemType.transfer)).map
      fun line => (line.1, line.2.1)).Nodup := by
  have hkind : ∀ (kind : ItemType) (basket : List (ProductId × UInt32)),
      (basket.map (Prod.mk kind)).map (fun line => (line.1, line.2.1)) =
      (basket.map (·.1)).map (Prod.mk kind) := by
    intro kind basket
    simp [Function.comp_def]
  rw [List.map_append, hkind, hkind]
  have hinjective : ∀ kind : ItemType, Function.Injective (Prod.mk kind : ProductId → _) :=
    fun _ _ _ e => (Prod.mk.inj e).2
  refine List.nodup_append.mpr ⟨ht.map (hinjective _), hf.map (hinjective _), ?_⟩
  intro a ha b hb e
  obtain ⟨_, -, rfl⟩ := List.mem_map.mp ha
  obtain ⟨_, -, rfl⟩ := List.mem_map.mp hb
  cases e

theorem check_sound {policy : OrderPolicy} {request : CreateOrderRequest} {intent : Intent}
    (h : check policy request = .ok intent) :
    intent.Sound ∧ intent.promoCode =
      (request.promoCode.map Text.normalizeToken).filter (!·.isEmpty) := by
  simp only [check] at h
  split at h
  · cases h
  · next hvalid =>
    rw [Bool.or_eq_true, Bool.not_eq_true', Bool.not_eq_true', not_or, Bool.not_eq_false,
      Bool.not_eq_false] at hvalid
    split at h
    · split at h
      · cases h
      · next htickets =>
        cases h
        refine ⟨⟨hvalid.1, hvalid.2, fun e => htickets (List.isEmpty_iff.mpr e), ?_, ?_⟩, rfl⟩
        · exact nodup_lines (Basket.merge_inOrder _ _).nodup (Basket.merge_inOrder _ _).nodup
        · simp only [Intent.lines, List.forall_mem_append, List.forall_mem_map]
          by_cases hcap : policy.maxQuantityPerProduct = 0
          · rw [hcap]
            exact .inl ⟨Basket.merge_zero _, Basket.merge_zero _⟩
          · have hpos := UInt32.pos_iff_ne_zero.mpr hcap
            exact .inr ⟨Basket.merge_pos _ hpos, Basket.merge_pos _ hpos⟩
    · cases h

section

variable {intent : Intent} {t : Memory.Tables} {who : QuoteFor}
  {start : Supply Uuid} {quote : Quote}
  {sources : Sources}

theorem Intent.Sound.quantity_pos (hi : intent.Sound)
    (hq : quote.Sound t who start intent.lines sources)
    (hpositive : 0 < quote.subtotalCents.toInt) : ∀ line ∈ intent.lines, 0 < line.2.2 := by
  rcases hi.quantities with hnone | hsome
  · rw [hq.subtotal_eq_zero hnone] at hpositive
    exact (Int.lt_irrefl _ hpositive).elim
  · exact hsome

theorem Intent.Sound.tickets_ne (hi : intent.Sound)
    (hq : quote.Sound t who start intent.lines sources)
    (hpositive : 0 < quote.subtotalCents.toInt) : quote.tickets ≠ [] := by
  intro hnil
  obtain ⟨line, hline⟩ := List.exists_mem_of_ne_nil _ hi.tickets
  have hmem : (.ticket, line.1, line.2) ∈ intent.lines :=
    List.mem_append_left _ (List.mem_map_of_mem hline)
  have hpos := UInt32.lt_iff_toNat_lt.mp (hi.quantity_pos hq hpositive _ hmem)
  rw [← hq.item_line] at hmem
  obtain ⟨i, hi, e⟩ := List.mem_map.mp hmem
  obtain ⟨hkind, -, hquantity⟩ : i.itemType = .ticket ∧ i.productId = line.1 ∧
      i.quantity = line.2 := by
    simpa only [Prod.mk.injEq] using e
  -- Its first unit is a ticket.
  have hnone := hq.ticket_tier
  rw [hnil, List.map_nil] at hnone
  have hticket := List.flatMap_eq_nil_iff.mp hnone.symm i hi
  rw [hkind, ItemType.ticketsOf, List.replicate_eq_nil_iff, hquantity] at hticket
  rw [hticket] at hpos
  cases hpos

end

structure Placement where
  order : NewOrder
  items : List NewOrderItem
  tickets : List NewTicket

/-- The amounts and counts of a placement agree with each other. -/
structure Placement.AddsUp (w : Placement) : Prop where
  distinct : (w.items.map fun i => (i.itemType, i.productId)).Nodup
  quantity : ∀ i ∈ w.items, 0 < i.quantity
  line : ∀ i ∈ w.items, i.lineTotalCents.toInt = i.unitPriceCents.toInt * i.quantity.toNat
  subtotal : w.order.subtotalCents.toInt = (w.items.map (·.lineTotalCents.toInt)).sum
  positive : 0 < w.order.subtotalCents.toInt
  discount : 0 ≤ w.order.discountCents.toInt ∧
    w.order.discountCents.toInt ≤ w.order.subtotalCents.toInt
  promo : w.order.promoCodeId = none → w.order.discountCents = 0
  total : w.order.totalCents.toInt = w.order.subtotalCents.toInt - w.order.discountCents.toInt
  tier : w.tickets.map (·.ticketType.name) = w.items.flatMap fun i =>
    i.itemType.ticketsOf i.productRef i.quantity

structure Discount.Fits (discount : Discount) (subtotal : Int64) : Prop where
  nonneg : 0 ≤ discount.cents.toInt
  le : discount.cents.toInt ≤ subtotal.toInt
  promo : discount.promoCodeId = none → discount.cents = 0

theorem cents_of_result {rule : PromoRule} {context : PromoContext} {cents : Int64}
    {reason : PromoRejection → TicketingError}
    (h : (rule.validate context).result.mapError reason = .ok cents) :
    ∃ value, cents = Amount.clamp 0 context.subtotalCents value := by
  rcases rule.validate_cases context with
    ⟨value, -, e⟩ | ⟨rejection, -, e⟩ <;> rw [e] at h <;> cases h
  exact ⟨value, rfl⟩

theorem adds_up_newOrder {intent : Intent} {t : Memory.Tables} {who : QuoteFor}
    {start : Supply Uuid} {quote : Quote} {sources : Sources} {discount : Discount}
    {policy : OrderPolicy} {id : OrderId} {time : Time.Instant} (hi : intent.Sound)
    (hq : quote.Sound t who start intent.lines sources) (hpositive : 0 < quote.subtotalCents.toInt)
    (hd : discount.Fits quote.subtotalCents) :
    Placement.AddsUp ⟨intent.newOrder policy id time quote discount, quote.items,
      quote.tickets⟩ where
  distinct := by
    have hlines := hi.distinct
    rw [← hq.item_line, List.map_map] at hlines
    exact hlines
  quantity i hmem := hi.quantity_pos hq hpositive _ (hq.item_line ▸ List.mem_map_of_mem hmem)
  line := hq.item_total
  subtotal := hq.subtotal
  positive := hpositive
  discount := ⟨hd.nonneg, hd.le⟩
  promo := hd.promo
  total := Amount.toInt_max_sub hd.nonneg hd.le
  tier := hq.ticket_tier

/-- A placement made from some tables under the identifiers drawn between two states of their
supply. -/
structure Placement.Sound (t : Memory.Tables) (before after : Supply Uuid) (w : Placement) :
    Prop where
  user : w.order.userId.isValid = true
  event : w.order.eventId.isValid = true
  absent : t.orders.get? w.order.id = none
  order_id : w.order.id.uuid = before.item before.taken
  item_order : ∀ i ∈ w.items, i.orderId = w.order.id
  item_stock : ∀ i ∈ w.items, (t.stock? i.itemType i.productId).isSome
  item_label : ∀ i ∈ w.items, t.label? i.itemType i.productId = some (w.order.eventId, i.productRef)
  ticket : ∀ k ∈ w.tickets, ∃ tier id time,
    k = Quote.ticket ⟨w.order.id, w.order.userId, w.order.eventId, time⟩ tier id
  ticket_ids : w.tickets.map (·.id.uuid) =
    (List.range' (before.taken + 1) w.tickets.length).map before.item
  tickets_ne : w.tickets ≠ []
  adds_up : w.AddsUp
  drawn : after = ⟨before.item, before.taken + 1 + w.tickets.length⟩

end Purchase

namespace Memory

namespace Tables

variable {t : Tables}

def insertAllItems : List NewOrderItem → Tables → Tables
  | [], t => t
  | i :: rest, t => (t.insertItem i).insertAllItems rest

def itemRows (last : Int64) : List NewOrderItem → List OrderItem
  | [] => []
  | i :: rest => i.item (last + 1) :: itemRows (last + 1) rest

theorem insertAllItems_eq (t : Tables) (items : List NewOrderItem) :
    t.insertAllItems items = { t with
      lastItemId := items.foldl (fun last _ => last + 1) t.lastItemId,
      orderItems := t.orderItems ++ itemRows t.lastItemId items } := by
  induction items generalizing t with
  | nil => simp [insertAllItems, itemRows]
  | cons i rest ih => simp [insertAllItems, itemRows, ih, insertItem]

def insertAllTickets : List NewTicket → Tables → Tables
  | [], t => t
  | k :: rest, t => (t.insertTicket k).insertAllTickets rest

theorem insertAllTickets_eq (t : Tables) (tickets : List NewTicket) :
    t.insertAllTickets tickets = { t with tickets := t.tickets ++ tickets.map (·.ticket) } := by
  induction tickets generalizing t with
  | nil => simp [insertAllTickets]
  | cons k rest ih => simp [insertAllTickets, ih, insertTicket]

def placed (t : Tables) (w : Purchase.Placement) : Tables :=
  { t with
    orders := t.orders.insert w.order.id w.order.order,
    lastItemId := w.items.foldl (fun last _ => last + 1) t.lastItemId,
    orderItems := t.orderItems ++ itemRows t.lastItemId w.items,
    tickets := t.tickets ++ w.tickets.map (·.ticket) }

def Names (t : Tables) (code : Option String) (id : PromoCodeId) : Prop :=
  ∃ p, code.bind t.promoByCode? = some p ∧ p.id = id

def PromoTaken (t : Tables) (promo : Option PromoCodeId) (t' : Tables) : Prop :=
  promo = none ∧ t' = t ∨ ∃ id, promo = some id ∧ t.consumePromo? id = some t'

theorem PromoTaken.eq {promo : Option PromoCodeId} {t' : Tables} (h : t.PromoTaken promo t') :
    t' = { t with promoCodes := t'.promoCodes } := by
  rcases h with ⟨-, rfl⟩ | ⟨id, -, h⟩
  · rfl
  · simp only [consumePromo?, Option.bind_eq_bind, Option.pure_def, Option.bind_eq_some_iff,
      Option.some.injEq] at h
    obtain ⟨p, -, count, -, rfl⟩ := h
    rfl

theorem consumePromo?_eq_some {id : PromoCodeId} {t' : Tables} (h : t.consumePromo? id = some t') :
    ∃ p, t.promoCodes.get? id = some p ∧ p.HasUse ∧
      ∀ id', t'.promoCodes.get? id' = if id' = id then some p.used else t.promoCodes.get? id' := by
  simp only [consumePromo?, Option.bind_eq_bind, Option.pure_def,
    Option.bind_eq_some_iff, Option.some.injEq, reserved?_eq_some_iff] at h
  obtain ⟨p, hp, count, ⟨hfits, rfl⟩, rfl⟩ := h
  refine ⟨p, hp, ⟨?_, fun limit hlimit hpositive => ?_⟩, fun id' => ?_⟩
  · exact Nat.lt_of_succ_le hfits.1
  · have hwithin := hfits.2 limit (Option.filter_eq_some_iff.mpr ⟨hlimit, decide_eq_true hpositive⟩)
    exact UInt32.lt_iff_toNat_lt.mpr hwithin
  · rw [Table.get?_modify]
    split
    · next e =>
      rw [e, hp]
      rfl
    · rfl

theorem PromoTaken.row {promo : Option PromoCodeId} {t' : Tables}
    (h : t.PromoTaken promo t') {id : PromoCodeId} {p' : PromoCode}
    (hp' : t'.promoCodes.get? id = some p') : ∃ p, t.promoCodes.get? id = some p ∧
      (promo ≠ some id ∧ p' = p ∨ promo = some id ∧ p.HasUse ∧ p' = p.used) := by
  rcases h with ⟨rfl, rfl⟩ | ⟨id₁, rfl, h⟩
  · exact ⟨p', hp', .inl ⟨nofun, rfl⟩⟩
  · obtain ⟨p, hp, huse, hrows⟩ := consumePromo?_eq_some h
    rw [hrows] at hp'
    split at hp'
    · next e =>
      cases hp'
      rw [e]
      exact ⟨p, hp, .inr ⟨rfl, huse, rfl⟩⟩
    · next e => exact ⟨p', hp', .inl ⟨fun e' => e (Option.some.inj e').symm, rfl⟩⟩

theorem PromoTaken.isSome {id : PromoCodeId} {t' : Tables} (h : t.PromoTaken (some id) t') :
    (t.promoCodes.get? id).isSome := by
  rcases h with ⟨e, -⟩ | ⟨id₁, e, h⟩
  · cases e
  · cases e
    obtain ⟨p, hp, -⟩ := consumePromo?_eq_some h
    rw [hp]
    rfl

theorem PromoTaken.kept {promo : Option PromoCodeId} {t' : Tables}
    (h : t.PromoTaken promo t') {id : PromoCodeId} (hp : (t.promoCodes.get? id).isSome) :
    (t'.promoCodes.get? id).isSome := by
  rcases h with ⟨-, rfl⟩ | ⟨id₁, -, h⟩
  · exact hp
  · obtain ⟨p, -, -, hrows⟩ := consumePromo?_eq_some h
    rw [hrows]
    split
    · rfl
    · exact hp

theorem mem_itemRows {last : Int64} {items : List NewOrderItem} {row : OrderItem}
    (h : row ∈ itemRows last items) : ∃ i ∈ items, ∃ n, row = i.item n := by
  induction items generalizing last with
  | nil => cases h
  | cons i rest ih =>
    rcases List.mem_cons.mp h with rfl | h
    · exact ⟨i, List.mem_cons_self, _, rfl⟩
    · obtain ⟨i', hi', e⟩ := ih h
      exact ⟨i', List.mem_cons_of_mem _ hi', e⟩

theorem itemRows_order {last : Int64} {items : List NewOrderItem} {row : OrderItem}
    (h : row ∈ itemRows last items) :
    ∃ i ∈ items, row.orderId = i.orderId ∧ row.itemType = i.itemType ∧ row.productId = i.productId ∧
      row.quantity = i.quantity := by
  obtain ⟨i, hi, n, rfl⟩ := mem_itemRows h
  exact ⟨i, hi, rfl, rfl, rfl, rfl⟩

theorem itemRows_map {α : Type} {f : OrderItem → α} {g : NewOrderItem → α}
    (hf : ∀ i n, f (i.item n) = g i) (last : Int64) (items : List NewOrderItem) :
    (itemRows last items).map f = items.map g := by
  induction items generalizing last with
  | nil => rfl
  | cons i rest ih => rw [itemRows, List.map_cons, List.map_cons, hf, ih]

section

variable {t₁ : Tables} {w : Purchase.Placement} (h : t.PromoTaken w.order.promoCodeId t₁)

include h

theorem orders_placed : (t₁.placed w).orders = t.orders.insert w.order.id w.order.order := by
  rw [h.eq]
  rfl

theorem tickets_placed : (t₁.placed w).tickets = t.tickets ++ w.tickets.map (·.ticket) := by
  rw [h.eq]
  rfl

theorem orderItems_placed :
    (t₁.placed w).orderItems = t.orderItems ++ itemRows t.lastItemId w.items := by
  rw [h.eq]
  rfl

theorem stock?_placed : (t₁.placed w).stock? = t.stock? := by
  rw [h.eq]
  exact stock?_congr rfl rfl

end

end Tables

namespace State

open Tables Purchase

variable {σ : Type} (channel : Channel σ) (s : State σ) (sources : Sources)
  (t : Tables) {l : LockLedger}

theorem attempt_insertItems (items : List NewOrderItem) :
    attempt channel (insertItems items) (s.opened sources ⟨t, l⟩) =
      .ok ((), s.opened sources ⟨t.insertAllItems items, l⟩) := by
  induction items generalizing t with
  | nil => rfl
  | cons i rest ih => simp [insertItems, insertAllItems, ih]

theorem attempt_insertTickets (tickets : List NewTicket) :
    attempt channel (insertTickets tickets) (s.opened sources ⟨t, l⟩) =
      .ok ((), s.opened sources ⟨t.insertAllTickets tickets, l⟩) := by
  induction tickets generalizing t with
  | nil => rfl
  | cons k rest ih => simp [insertTickets, insertAllTickets, ih]

theorem attempt_applyPromoGiven {code : Option String} {event : EventId} {subtotal : Int64}
    {discount : Discount} {s' : State σ} (hl : l.Admits .promo) (hpositive : 0 < subtotal.toInt)
    (h : attempt channel (applyPromoGiven code event subtotal) (s.opened sources ⟨t, l⟩) =
      .ok (discount, s')) :
    ∃ sources' t' l', s' = s.opened sources' ⟨t', l'⟩ ∧ sources'.ids = sources.ids ∧
      t.PromoTaken discount.promoCodeId t' ∧ discount.Fits subtotal ∧
      ∀ id, discount.promoCodeId = some id → t.Names code id := by
  cases code with
  | none =>
    cases h
    refine ⟨sources, t, l, rfl, rfl, .inl ⟨rfl, rfl⟩, ⟨Int.le_refl _, ?_, fun _ => rfl⟩, nofun⟩
    exact Int.le_of_lt hpositive
  | some code =>
    obtain ⟨found, s₁, h₁, h⟩ := (attempt_bind_eq_ok_iff channel).mp h
    rw [attempt_lockPromoByCode channel s sources t hl] at h₁
    cases h₁
    obtain ⟨promo, s₂, h₂, h⟩ := (attempt_bind_eq_ok_iff channel).mp h
    obtain ⟨hfound, rfl⟩ := (attempt_demand_eq_ok_iff channel).mp h₂
    obtain ⟨now, s₃, h₃, h⟩ := (attempt_bind_eq_ok_iff channel).mp h
    rw [attempt_now] at h₃
    cases h₃
    obtain ⟨cents, s₄, h₄, h⟩ := (attempt_bind_eq_ok_iff channel).mp h
    obtain ⟨hverdict, rfl⟩ := (attempt_liftExcept_eq_ok_iff channel).mp h₄
    obtain ⟨applied, s₅, h₅, h⟩ := (attempt_bind_eq_ok_iff channel).mp h
    rw [attempt_consumePromo] at h₅
    cases h₅
    obtain ⟨_, s₆, h₆, h⟩ := (attempt_bind_eq_ok_iff channel).mp h
    obtain ⟨happlied, rfl⟩ := (attempt_require_eq_ok_iff channel).mp h₆
    cases h
    obtain ⟨t', ht'⟩ := Option.isSome_iff_exists.mp happlied
    obtain ⟨value, rfl⟩ := cents_of_result hverdict
    have hnonneg : (0 : Int64).toInt ≤ subtotal.toInt := Int.le_of_lt hpositive
    have hbounds := Amount.clamp_bounds hnonneg value
    refine ⟨sources.now.2, t', ⟨some .promo⟩, by rw [ht']; rfl, rfl, .inr ⟨promo.id, rfl, ht'⟩,
      ⟨hbounds.1, hbounds.2, nofun⟩, ?_⟩
    rintro _ ⟨⟩
    exact ⟨promo, hfound, rfl⟩

theorem attempt_place {policy : OrderPolicy} {intent : Intent} (hi : intent.Sound)
    {detail : OrderDetail} {s' : State σ}
    (h : attempt channel (place policy intent) (s.opened sources ⟨t, .empty⟩) = .ok (detail, s')) :
    ∃ (w : Placement) (sources' : Sources) (t₁ : Tables) (l : LockLedger),
      s' = s.opened sources' ⟨t₁.placed w, l⟩ ∧ t.PromoTaken w.order.promoCodeId t₁ ∧
        w.Sound t sources.ids sources'.ids ∧ ∀ id, w.order.promoCodeId = some id →
          t.Names intent.promoCode id := by
  obtain ⟨start, s₁, h₁, h⟩ := (attempt_bind_eq_ok_iff channel).mp h
  rw [attempt_now] at h₁
  cases h₁
  obtain ⟨title, s₁, h₁, h⟩ := (attempt_bind_eq_ok_iff channel).mp h
  rw [attempt_eventTitle] at h₁
  cases h₁
  obtain ⟨_, s₁, h₁, h⟩ := (attempt_bind_eq_ok_iff channel).mp h
  obtain ⟨-, rfl⟩ := (attempt_require_eq_ok_iff channel).mp h₁
  obtain ⟨id, s₁, h₁, h⟩ := (attempt_bind_eq_ok_iff channel).mp h
  rw [attempt_newId] at h₁
  cases h₁
  obtain ⟨time, s₁, h₁, h⟩ := (attempt_bind_eq_ok_iff channel).mp h
  rw [attempt_now] at h₁
  cases h₁
  obtain ⟨quote, s₁, h₁, h⟩ := (attempt_bind_eq_ok_iff channel).mp h
  obtain ⟨sources₁, l₁, rfl, hl₁, hq⟩ := attempt_ofBasket channel s _ t (by simp) h₁
  obtain ⟨_, s₁, h₁, h⟩ := (attempt_bind_eq_ok_iff channel).mp h
  obtain ⟨hcosts, rfl⟩ := (attempt_require_eq_ok_iff channel).mp h₁
  have hpositive := Int64.lt_iff_toInt_lt.mp (of_decide_eq_true hcosts)
  obtain ⟨discount, s₁, h₁, h⟩ := (attempt_bind_eq_ok_iff channel).mp h
  obtain ⟨sources₂, t₁, l₂, rfl, hids, hpromo, hfits, hnames⟩ :=
    attempt_applyPromoGiven channel s sources₁ t (hl₁.mono (by decide)) hpositive h₁
  obtain ⟨_, s₁, h₁, h⟩ := (attempt_bind_eq_ok_iff channel).mp h
  rw [attempt_insertOrder] at h₁
  split at h₁
  · cases h₁
  · next habsent =>
    cases h₁
    obtain ⟨_, s₁, h₁, h⟩ := (attempt_bind_eq_ok_iff channel).mp h
    rw [attempt_insertItems] at h₁
    cases h₁
    obtain ⟨_, s₁, h₁, h⟩ := (attempt_bind_eq_ok_iff channel).mp h
    rw [attempt_insertTickets] at h₁
    cases h₁
    obtain ⟨found, s₁, h₁, h⟩ := (attempt_bind_eq_ok_iff channel).mp h
    rw [attempt_orderDetail] at h₁
    cases h₁
    obtain ⟨-, rfl⟩ := (attempt_demand_eq_ok_iff channel).mp h
    rw [hpromo.eq] at habsent
    refine ⟨⟨intent.newOrder policy ⟨sources.now.2.newId.1⟩ sources.now.1 quote discount,
      quote.items, quote.tickets⟩, sources₂, t₁, l₂, ?_, hpromo, ?_, hnames⟩
    · simp [insertAllItems_eq, insertAllTickets_eq, placed]
    · refine ⟨hi.user, hi.event, habsent, rfl, hq.item_order, hq.item_stock, hq.item_label,
        fun k hk => ?_, hq.ids, hi.tickets_ne hq hpositive,
        adds_up_newOrder hi hq hpositive hfits, ?_⟩
      · obtain ⟨tier, id, rfl⟩ := hq.ticket k hk
        exact ⟨tier, id, _, rfl⟩
      · rw [hids, hq.drawn]
        rfl

/-- A purchase writes one sound placement; otherwise it changes nothing. -/
theorem serve_createOrder (env : Environment) (request : CreateOrderRequest) :
    (∃ e after, s.sources.Precedes after ∧
      (serve channel (createOrder env request) s = (.error e, s) ∨
        serve channel (createOrder env request) s = (.error e, s.settled after s.committed))) ∨
    ∃ (detail : OrderDetail) (w : Placement) (after : Sources) (t₁ : Tables),
      s.committed.PromoTaken w.order.promoCodeId t₁ ∧ w.Sound s.committed s.sources.ids after.ids ∧
      (∀ id, w.order.promoCodeId = some id →
        s.committed.Names (request.promoCode.map Text.normalizeToken) id) ∧
      s.sources.Precedes after ∧
      serve channel (createOrder env request) s = (.ok detail, s.settled after (t₁.placed w)) := by
  rw [createOrder, serve_bind, serve_liftExcept]
  rcases hcheck : check env.policy request with e | intent
  · exact .inl ⟨e, s.sources, .refl _, .inl rfl⟩
  have hinner := (careful_place env.policy intent).inner
  rcases hbody : attempt channel (place env.policy intent) s.begun with e | ⟨detail, s'⟩
  · obtain ⟨after, hafter, hs⟩ := serve_transaction_of_error channel hinner hbody
    exact .inl ⟨e, after, hafter, .inr hs⟩
  · obtain ⟨hintent, hcode⟩ := check_sound hcheck
    obtain ⟨w, after, t₁, l, rfl, hpromo, hw, hnames⟩ :=
      attempt_place channel s s.sources s.committed hintent hbody
    obtain ⟨hafter, hs⟩ := serve_transaction_of_ok channel hinner hbody
    refine .inr ⟨detail, w, after, t₁, hpromo, hw, fun id hid => ?_, hafter, hs⟩
    obtain ⟨p, hp, rfl⟩ := hnames id hid
    obtain ⟨code, hgiven, hfound⟩ := Option.bind_eq_some_iff.mp hp
    rw [hcode] at hgiven
    exact ⟨p, Option.bind_eq_some_iff.mpr ⟨code, (Option.filter_eq_some_iff.mp hgiven).1, hfound⟩,
      rfl⟩

end State

end Memory

end EventTickets
