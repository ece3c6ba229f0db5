import EventTickets.Proofs.Prices
import Mathlib.Algebra.Order.BigOperators.Group.List

/-!
# What a basket costs

A basket can be priced exactly if each of its products is on sale and the sum fits an amount. No
price is negative, so what is too much for a part is too much for the whole, and no sum that fits is
missed on the way.
-/

namespace EventTickets

def Basket.cost (price? : ItemType → ProductId → Option Int64)
    (lines : List (ItemType × ProductId × UInt32)) : Int :=
  (lines.map fun line => (price? line.1 line.2.1).elim 0 Int64.toInt * line.2.2.toNat).sum

namespace Basket

variable {price? : ItemType → ProductId → Option Int64}

theorem cost_append (lines rest : List (ItemType × ProductId × UInt32)) :
    cost price? (lines ++ rest) = cost price? lines + cost price? rest := by
  rw [cost, List.map_append, List.sum_append]
  rfl

theorem cost_singleton {kind : ItemType} {product : ProductId} {price : Int64} (quantity : UInt32)
    (h : price? kind product = some price) :
    cost price? [(kind, product, quantity)] = price.toInt * quantity.toNat := by
  simp [cost, h]

theorem cost_nonneg
    (hprice : ∀ kind product price, price? kind product = some price → 0 ≤ price.toInt)
    (lines : List (ItemType × ProductId × UInt32)) : 0 ≤ cost price? lines := by
  refine List.sum_nonneg (List.forall_mem_map.mpr fun line _ =>
    Int.mul_nonneg ?_ (Int.natCast_nonneg _))
  rcases hp : price? line.1 line.2.1 with _ | price
  · exact Int.le_refl 0
  · exact hprice _ _ price hp

end Basket

namespace Memory.Tables

def offer? (t : Tables) (event : EventId) : ItemType → ProductId → Option Int64
  | .ticket, product =>
    ((t.ticketProducts.get? product).filter fun p => p.eventId == event && p.isActive).map
      (·.priceCents)
  | .transfer, product =>
    ((t.transferProducts.get? product).filter fun p => p.eventId == event && p.isActive).map
      (·.priceCents)

theorem Priced.offer {t : Tables} (h : t.Priced) {event : EventId} (kind : ItemType)
    (product : ProductId) (price : Int64) (hoffer : t.offer? event kind product = some price) :
    0 ≤ price.toInt := by
  cases kind with
  | ticket =>
    obtain ⟨p, hp, rfl⟩ := Option.map_eq_some_iff.mp hoffer
    exact (h.ticket product p (Option.filter_eq_some_iff.mp hp).1).2
  | transfer =>
    obtain ⟨p, hp, rfl⟩ := Option.map_eq_some_iff.mp hoffer
    exact (h.transfer product p (Option.filter_eq_some_iff.mp hp).1).2

end Memory.Tables

namespace Memory.State

open Quote Tables

variable {σ : Type} {channel : Channel σ} {s s₀ : State σ} {sources : Sources}
  {t : Tables} {clock : Clock}
  {price? : ItemType → ProductId → Option Int64} {start : Int}
  {lines rest : List (ItemType × ProductId × UInt32)} {l : LockLedger}

/-- How the pricing of some lines ends: with the exact sum of their prices, or because one of them
is not on sale or the sum does not fit. -/
def Tallies (s : State σ) (t : Tables) (clock : Clock)
    (price? : ItemType → ProductId → Option Int64) (start : Int)
    (lines : List (ItemType × ProductId × UInt32)) (r : Except TicketingError (Quote × State σ)) :
    Prop :=
  (∃ quote sources l, r = .ok (quote, s.opened sources ⟨t, l⟩) ∧ l.Admits .product ∧
    sources.clock = clock ∧ (∀ line ∈ lines, (price? line.1 line.2.1).isSome) ∧
    quote.subtotalCents.toInt = start + Basket.cost price? lines) ∨
  ∃ message, r = .error (.invalidProduct message) ∧
    ((∃ line ∈ lines, price? line.1 line.2.1 = none) ∨
      2 ^ 63 - 1 < start + Basket.cost price? lines)

theorem tallies_pure {quote : Quote} (hl : l.Admits .product) :
    Tallies s t sources.clock price? quote.subtotalCents.toInt []
      (attempt channel (pure quote) (s.opened sources ⟨t, l⟩)) :=
  .inl ⟨quote, sources, l, rfl, hl, rfl, nofun, (Int.add_zero _).symm⟩

theorem Tallies.bind {p : Service Quote} {f : Quote → Service Quote}
    (h : Tallies s t clock price? start lines (attempt channel p s₀)) (hstart : 0 ≤ start)
    (hprice : ∀ kind product price, price? kind product = some price → 0 ≤ price.toInt)
    (hrest : ∀ quote sources l, l.Admits .product → sources.clock = clock →
      0 ≤ quote.subtotalCents.toInt → Tallies s t clock price? quote.subtotalCents.toInt rest
        (attempt channel (f quote) (s.opened sources ⟨t, l⟩))) :
    Tallies s t clock price? start (lines ++ rest) (attempt channel (p >>= f) s₀) := by
  have hlines := Basket.cost_nonneg hprice lines
  have hmore := Basket.cost_nonneg hprice rest
  rw [attempt_bind, Tallies, Basket.cost_append]
  rcases h with ⟨quote, sources, l, e, hl, hclock, hsale, hsum⟩ | ⟨message, e, hwhy⟩ <;> rw [e]
  · rcases hrest quote sources l hl hclock (by omega) with
      ⟨quote', sources', l', e', hl', hclock', hsale', hsum'⟩ | ⟨message, e', hwhy⟩
    · refine .inl ⟨quote', sources', l', e', hl', hclock',
        List.forall_mem_append.mpr ⟨hsale, hsale'⟩, ?_⟩
      omega
    · refine .inr ⟨message, e', hwhy.imp ?_ fun hmuch => by omega⟩
      exact fun ⟨line, hmem, hnone⟩ => ⟨line, List.mem_append_right _ hmem, hnone⟩
  · refine .inr ⟨message, rfl, hwhy.imp ?_ fun hmuch => by omega⟩
    exact fun ⟨line, hmem, hnone⟩ => ⟨line, List.mem_append_left _ hmem, hnone⟩

theorem tallies_line {quote : Quote} {kind : ItemType} {product : ProductId}
    {quantity : UInt32} {price : Int64} {f : Int64 → Int64 → Service Quote}
    (hstart : 0 ≤ quote.subtotalCents.toInt) (hnonneg : 0 ≤ price.toInt)
    (hprice : price? kind product = some price) (hf : ∀ total subtotal, ∃ quote' sources l,
      attempt channel (f total subtotal) s₀ = .ok (quote', s.opened sources ⟨t, l⟩) ∧
        l.Admits .product ∧ sources.clock = clock ∧ quote'.subtotalCents = subtotal) :
    Tallies s t clock price? quote.subtotalCents.toInt [(kind, product, quantity)]
      (attempt channel (do
        let total ← lineTotal price quantity
        let subtotal ← quote.subtotalWith total
        f total subtotal) s₀) := by
  have hexact := Amount.add_times quantity hstart hnonneg
  have hfits : 0 ≤ quote.subtotalCents.toInt + price.toInt * quantity.toNat :=
    Int.add_nonneg hstart (Int.mul_nonneg hnonneg (Int.natCast_nonneg _))
  rw [Tallies, Basket.cost_singleton quantity hprice]
  simp only [attempt_bind, lineTotal, subtotalWith, attempt_demand]
  rcases htotal : Amount.times? price quantity with _ | total <;> rw [htotal] at hexact
  · exact .inr ⟨_, rfl, .inr ((Amount.represent?_eq_none_iff hfits).mp hexact.symm)⟩
  · rw [Option.bind_some] at hexact
    rcases hsubtotal : Amount.add? quote.subtotalCents total with
      _ | subtotal <;> rw [hsubtotal] at hexact <;>
      simp only [hsubtotal]
    · exact .inr ⟨_, rfl, .inr ((Amount.represent?_eq_none_iff hfits).mp hexact.symm)⟩
    · obtain ⟨quote', sources, l, e, hl, hclock, rfl⟩ := hf total subtotal
      refine .inl ⟨quote', sources, l, e, hl, hclock, List.forall_mem_singleton.mpr ?_, ?_⟩
      · rw [hprice]
        rfl
      · exact Amount.represent?_eq_some_iff.mp hexact.symm

variable {who : QuoteFor} {quote : Quote} (hp : t.Priced)

include hp

theorem tallies_addTicketLine (hl : l.Admits .product) (hstart : 0 ≤ quote.subtotalCents.toInt)
    (product : ProductId) (quantity : UInt32) :
    Tallies s t sources.clock (t.offer? who.eventId) quote.subtotalCents.toInt
      [(.ticket, product, quantity)]
      (attempt channel (addTicketLine who quote product quantity) (s.opened sources ⟨t, l⟩)) := by
  rw [addTicketLine, attempt_bind, attempt_lockTicketProduct channel s sources t hl]
  dsimp only
  rw [attempt_bind, attempt_demand]
  rcases hfound : (t.ticketProducts.get? product).filter fun p => p.eventId ==
    who.eventId && p.isActive with
    _ | p <;> simp only [hfound]
  · exact .inr ⟨_, rfl, .inl ⟨_, List.mem_singleton_self _, by simp [offer?, hfound]⟩⟩
  · have hprice : t.offer? who.eventId .ticket product = some p.priceCents := by
      simp [offer?, hfound]
    refine tallies_line hstart (hp.offer _ _ _ hprice) hprice fun total subtotal => ?_
    rw [attempt_bind, attempt_addTickets]
    exact ⟨_, _, _, rfl, by simp [LockStage.rank], rfl, rfl⟩

theorem tallies_addTransferLine (hl : l.Admits .product) (hstart : 0 ≤ quote.subtotalCents.toInt)
    (product : ProductId) (quantity : UInt32) :
    Tallies s t sources.clock (t.offer? who.eventId) quote.subtotalCents.toInt
      [(.transfer, product, quantity)]
      (attempt channel (addTransferLine who quote product quantity) (s.opened sources ⟨t, l⟩)) := by
  rw [addTransferLine, attempt_bind, attempt_lockTransferProduct channel s sources t hl]
  dsimp only
  rw [attempt_bind, attempt_demand]
  rcases hfound : (t.transferProducts.get? product).filter fun p => p.eventId ==
    who.eventId && p.isActive with
    _ | p <;> simp only [hfound]
  · exact .inr ⟨_, rfl, .inl ⟨_, List.mem_singleton_self _, by simp [offer?, hfound]⟩⟩
  · have hprice : t.offer? who.eventId .transfer product = some p.priceCents := by
      simp [offer?, hfound]
    exact tallies_line hstart (hp.offer _ _ _ hprice) hprice fun total subtotal =>
      ⟨_, _, _, rfl, by simp [LockStage.rank], rfl, rfl⟩

theorem tallies_addTicketLines (hl : l.Admits .product) (hstart : 0 ≤ quote.subtotalCents.toInt)
    (basket : List (ProductId × UInt32)) :
    Tallies s t sources.clock (t.offer? who.eventId) quote.subtotalCents.toInt
      (basket.map (Prod.mk .ticket))
      (attempt channel (addTicketLines who quote basket) (s.opened sources ⟨t, l⟩)) := by
  -- By induction on the basket: what the lines so far cost is where the rest starts.
  induction basket generalizing quote sources l with
  | nil => exact tallies_pure hl
  | cons line rest ih =>
    refine Tallies.bind (tallies_addTicketLine hp hl hstart line.1 line.2) hstart hp.offer ?_
    intro quote' sources' l' hl' hclock hstart'
    exact hclock ▸ ih hl' hstart'

theorem tallies_addTransferLines (hl : l.Admits .product) (hstart : 0 ≤ quote.subtotalCents.toInt)
    (basket : List (ProductId × UInt32)) :
    Tallies s t sources.clock (t.offer? who.eventId) quote.subtotalCents.toInt
      (basket.map (Prod.mk .transfer))
      (attempt channel (addTransferLines who quote basket) (s.opened sources ⟨t, l⟩)) := by
  induction basket generalizing quote sources l with
  | nil => exact tallies_pure hl
  | cons line rest ih =>
    refine Tallies.bind (tallies_addTransferLine hp hl hstart line.1 line.2) hstart hp.offer ?_
    intro quote' sources' l' hl' hclock hstart'
    exact hclock ▸ ih hl' hstart'

theorem tallies_ofBasket (hl : l.Admits .product) (tickets transfers : List (ProductId × UInt32)) :
    Tallies s t sources.clock (t.offer? who.eventId) 0
      (tickets.map (Prod.mk .ticket) ++ transfers.map (Prod.mk .transfer))
      (attempt channel (ofBasket who tickets transfers) (s.opened sources ⟨t, l⟩)) := by
  refine Tallies.bind (tallies_addTicketLines hp hl (Int.le_refl _) tickets)
    (Int.le_refl _) hp.offer ?_
  intro quote sources' l' hl' hclock hstart
  exact hclock ▸ tallies_addTransferLines hp hl' hstart transfers

end Memory.State

end EventTickets
