import EventTickets.Proofs.Memory.Serving
import EventTickets.Proofs.Memory.Tables
import EventTickets.Service.Pricing
import Mathlib.Algebra.BigOperators.Group.List.Basic
import Mathlib.Algebra.GroupWithZero.Nat
import Mathlib.Algebra.Ring.Int.Defs

/-!
# What a priced basket holds

A basket is priced line by line from the products on sale. Every line is about a product that is
there, and every unit of a ticket product draws the identifier of one new ticket, in one sequence
for the whole basket.
-/

namespace EventTickets

def ItemType.ticketsOf (tier : String) (quantity : UInt32) : ItemType → List String
  | .ticket => List.replicate quantity.toNat tier
  | .transfer => []

def Sources.skipIds (n : Nat) (sources : Sources) : Sources :=
  { sources with ids := ⟨sources.ids.item, sources.ids.taken + n⟩ }

namespace Quote

def nextTickets (who : QuoteFor) (tier : TicketType) (ids : Supply Uuid) (n : Nat) :
    List NewTicket :=
  (List.range' ids.taken n).map fun i => ticket who tier (ids.item i)

theorem nextTickets_succ (who : QuoteFor) (tier : TicketType) (ids : Supply Uuid) (n : Nat) :
    nextTickets who tier ids (n + 1) =
      ticket who tier (ids.item ids.taken) :: nextTickets who tier ⟨ids.item, ids.taken + 1⟩ n := by
  simp [nextTickets, List.range'_succ]

theorem nextTickets_length (who : QuoteFor) (tier : TicketType) (ids : Supply Uuid) (n : Nat) :
    (nextTickets who tier ids n).length = n := by
  simp [nextTickets]

/-- What holds of a basket of some lines, priced from some tables, its tickets numbered by a supply
of identifiers. -/
structure Sound (t : Memory.Tables) (who : QuoteFor) (start : Supply Uuid)
    (lines : List (ItemType × ProductId × UInt32)) (quote : Quote) (sources : Sources) : Prop where
  item_order : ∀ i ∈ quote.items, i.orderId = who.orderId
  item_stock : ∀ i ∈ quote.items, (t.stock? i.itemType i.productId).isSome
  item_label : ∀ i ∈ quote.items, t.label? i.itemType i.productId = some (who.eventId, i.productRef)
  item_line : quote.items.map (fun i => (i.itemType, i.productId, i.quantity)) = lines
  item_total : ∀ i ∈ quote.items, i.lineTotalCents.toInt = i.unitPriceCents.toInt * i.quantity.toNat
  subtotal : quote.subtotalCents.toInt = (quote.items.map (·.lineTotalCents.toInt)).sum
  ticket : ∀ k ∈ quote.tickets, ∃ tier id, k = ticket who tier id
  ticket_tier : quote.tickets.map (·.ticketType.name) =
    quote.items.flatMap fun i => i.itemType.ticketsOf i.productRef i.quantity
  ids : quote.tickets.map (·.id.uuid) =
    (List.range' start.taken quote.tickets.length).map start.item
  drawn : sources.ids = ⟨start.item, start.taken + quote.tickets.length⟩

namespace Sound

variable {t : Memory.Tables} {who : QuoteFor} {start : Supply Uuid}
  {lines : List (ItemType × ProductId × UInt32)}
  {quote : Quote} {sources : Sources}

theorem empty : Sound t who sources.ids [] Quote.empty sources :=
  ⟨nofun, nofun, nofun, rfl, nofun, rfl, nofun, rfl, rfl, rfl⟩

theorem addLine (h : quote.Sound t who start lines sources) (item : NewOrderItem)
    (tier : TicketType) (n : Nat) {subtotal : Int64} (horder : item.orderId = who.orderId)
    (hstock : (t.stock? item.itemType item.productId).isSome)
    (hlabel : t.label? item.itemType item.productId = some (who.eventId, item.productRef))
    (htotal : Amount.times? item.unitPriceCents item.quantity = some item.lineTotalCents)
    (hsubtotal : Amount.add? quote.subtotalCents item.lineTotalCents = some subtotal)
    (htier : item.itemType.ticketsOf item.productRef item.quantity = List.replicate n tier.name) :
    Sound t who start (lines ++ [(item.itemType, item.productId, item.quantity)])
      ⟨quote.items ++ [item], quote.tickets ++ nextTickets who tier sources.ids n, subtotal⟩
        (sources.skipIds n) where
  item_order := List.forall_mem_append.mpr ⟨h.item_order, List.forall_mem_singleton.mpr horder⟩
  item_stock := List.forall_mem_append.mpr ⟨h.item_stock, List.forall_mem_singleton.mpr hstock⟩
  item_label := List.forall_mem_append.mpr ⟨h.item_label, List.forall_mem_singleton.mpr hlabel⟩
  item_line := by rw [List.map_append, h.item_line, List.map_singleton]
  item_total := List.forall_mem_append.mpr
    ⟨h.item_total, List.forall_mem_singleton.mpr (Amount.times?_eq_some_iff.mp htotal)⟩
  subtotal := by
    rw [Amount.add?_eq_some_iff.mp hsubtotal, h.subtotal]
    simp
  ticket k hk := by
    rcases List.mem_append.mp hk with hk | hk
    · exact h.ticket k hk
    · obtain ⟨i, -, rfl⟩ := List.mem_map.mp hk
      exact ⟨tier, _, rfl⟩
  ticket_tier := by
    have hnext : (nextTickets who tier sources.ids n).map (·.ticketType.name) =
        List.replicate n tier.name := by
      simp [nextTickets, Function.comp_def, Quote.ticket, List.map_const']
    rw [List.map_append, h.ticket_tier, hnext, List.flatMap_append, List.flatMap_singleton, htier]
  ids := by
    have hnext : (nextTickets who tier sources.ids n).map (·.id.uuid) =
        (List.range' (start.taken + quote.tickets.length) n).map start.item := by
      simp [nextTickets, h.drawn, Function.comp_def, Quote.ticket]
    rw [List.map_append, List.length_append, nextTickets_length, List.range'_append_1.symm,
      List.map_append, h.ids, hnext]
  drawn := by
    rw [List.length_append, nextTickets_length, ← Nat.add_assoc, Sources.skipIds, h.drawn]

theorem addTicketLine (h : quote.Sound t who start lines sources) {p : TicketProduct}
    {product : ProductId} {quantity : UInt32} {total subtotal : Int64}
    (hp : t.ticketProducts.get? product = some p) (hevent : p.eventId = who.eventId)
    (htotal : Amount.times? p.priceCents quantity = some total)
    (hsubtotal : Amount.add? quote.subtotalCents total = some subtotal) :
    Sound t who start (lines ++ [(.ticket, product, quantity)])
      ⟨quote.items ++ [ticketItem who p product quantity total],
        quote.tickets ++ nextTickets who p.ticketType sources.ids quantity.toNat, subtotal⟩
      (sources.skipIds quantity.toNat) :=
  h.addLine (ticketItem who p product quantity total) p.ticketType quantity.toNat rfl
    (by simp [ticketItem, Memory.Tables.stock?, hp])
    (by simp [ticketItem, Memory.Tables.label?, hp, hevent]) htotal
    hsubtotal rfl

theorem addTransferLine (h : quote.Sound t who start lines sources) {p : TransferProduct}
    {product : ProductId} {quantity : UInt32} {total subtotal : Int64}
    (hp : t.transferProducts.get? product = some p) (hevent : p.eventId = who.eventId)
    (htotal : Amount.times? p.priceCents quantity = some total)
    (hsubtotal : Amount.add? quote.subtotalCents total = some subtotal) :
    Sound t who start (lines ++ [(.transfer, product, quantity)])
      ⟨quote.items ++ [transferItem who p product quantity total], quote.tickets,
        subtotal⟩ sources := by
  have hline := h.addLine (transferItem who p product quantity total) .single 0 rfl
    (by simp [transferItem, Memory.Tables.stock?, hp])
    (by simp [transferItem, Memory.Tables.label?, hp, hevent]) htotal
    hsubtotal rfl
  rwa [nextTickets, List.range'_zero, List.map_nil, List.append_nil] at hline

theorem subtotal_eq_zero (h : quote.Sound t who start lines sources)
    (hzero : ∀ line ∈ lines, line.2.2 = 0) : quote.subtotalCents.toInt = 0 := by
  rw [h.subtotal]
  refine List.sum_eq_zero (List.forall_mem_map.mpr fun i hi => ?_)
  have hquantity : i.quantity = 0 := hzero _ (h.item_line ▸ List.mem_map_of_mem hi)
  rw [h.item_total i hi, hquantity]
  exact Int.mul_zero _

end Sound

end Quote

namespace Memory.State

open Quote

variable {σ : Type} (channel : Channel σ) (s : State σ) (sources : Sources)
  (t : Tables) {l : LockLedger}

theorem attempt_addTickets (who : QuoteFor) (tier : TicketType) (tickets : List NewTicket) (n : Nat)
    (tx : Transaction) :
    attempt channel (addTickets who tier tickets n) (s.opened sources tx) =
      .ok (tickets ++ nextTickets who tier sources.ids n, s.opened (sources.skipIds n) tx) := by
  induction n generalizing tickets sources with
  | zero => simp [addTickets, nextTickets, Sources.skipIds]
  | succ n ih =>
    simp only [addTickets, attempt_bind, attempt_newId, ih, nextTickets_succ]
    simp [Sources.newId, Supply.draw, Sources.skipIds, Nat.add_assoc, Nat.add_comm 1 n]

theorem attempt_addTicketLine {who : QuoteFor} {quote quote' : Quote}
    {product : ProductId} {quantity : UInt32} {s' : State σ} (hl : l.Admits .product)
    (h : attempt channel (addTicketLine who quote product quantity) (s.opened sources ⟨t, l⟩) =
      .ok (quote', s')) :
    ∃ p total subtotal, t.ticketProducts.get? product = some p ∧
      p.eventId = who.eventId ∧ p.isActive = true ∧ Amount.times? p.priceCents quantity =
        some total ∧ Amount.add? quote.subtotalCents total = some subtotal ∧
      quote' = ⟨quote.items ++ [ticketItem who p product quantity total],
        quote.tickets ++ nextTickets who p.ticketType sources.ids quantity.toNat, subtotal⟩ ∧
      s' = s.opened (sources.skipIds quantity.toNat) ⟨t, ⟨some .product⟩⟩ := by
  simp only [addTicketLine, attempt_bind_eq_ok_iff, attempt_lockTicketProduct, hl,
    attempt_demand_eq_ok_iff, lineTotal, subtotalWith] at h
  obtain ⟨found, s₁, h₁, p, s₂, ⟨hp, rfl⟩, total, s₃, ⟨htotal, rfl⟩, subtotal, s₄,
      ⟨hsub, rfl⟩, h⟩ := h
  cases h₁
  obtain ⟨hfound, hsale⟩ := Option.filter_eq_some_iff.mp hp
  simp only [attempt_addTickets, attempt_pure] at h
  obtain ⟨_, _, ⟨⟩, ⟨⟩⟩ := h
  rw [Bool.and_eq_true, beq_iff_eq] at hsale
  exact ⟨p, total, subtotal, hfound, hsale.1, hsale.2, htotal, hsub, rfl, rfl⟩

theorem attempt_addTransferLine {who : QuoteFor} {quote quote' : Quote}
    {product : ProductId} {quantity : UInt32} {s' : State σ} (hl : l.Admits .product)
    (h : attempt channel (addTransferLine who quote product quantity) (s.opened sources ⟨t, l⟩) =
      .ok (quote', s')) :
    ∃ p total subtotal, t.transferProducts.get? product = some p ∧
      p.eventId = who.eventId ∧ p.isActive = true ∧ Amount.times? p.priceCents quantity =
        some total ∧ Amount.add? quote.subtotalCents total = some subtotal ∧
      quote' = ⟨quote.items ++ [transferItem who p product quantity total],
        quote.tickets, subtotal⟩ ∧
      s' = s.opened sources ⟨t, ⟨some .product⟩⟩ := by
  simp only [addTransferLine, attempt_bind_eq_ok_iff, attempt_lockTransferProduct, hl,
    attempt_demand_eq_ok_iff, lineTotal, subtotalWith] at h
  obtain ⟨found, s₁, h₁, p, s₂, ⟨hp, rfl⟩, total, s₃, ⟨htotal, rfl⟩, subtotal, s₄,
      ⟨hsub, rfl⟩, h⟩ := h
  cases h₁
  cases h
  obtain ⟨hfound, hsale⟩ := Option.filter_eq_some_iff.mp hp
  rw [Bool.and_eq_true, beq_iff_eq] at hsale
  exact ⟨p, total, subtotal, hfound, hsale.1, hsale.2, htotal, hsub, rfl, rfl⟩

theorem attempt_addTicketLines {who : QuoteFor} {start : Supply Uuid} {quote quote' : Quote}
    {lines : List (ItemType × ProductId × UInt32)}
    {basket : List (ProductId × UInt32)} {s' : State σ} (hl : l.Admits .product)
    (hq : quote.Sound t who start lines sources)
    (h : attempt channel (addTicketLines who quote basket) (s.opened sources ⟨t, l⟩) =
      .ok (quote', s')) :
    ∃ sources' l', s' = s.opened sources' ⟨t, l'⟩ ∧ l'.Admits .product ∧
      quote'.Sound t who start (lines ++ basket.map (Prod.mk .ticket)) sources' := by
  -- By induction on the basket. Each line draws the identifiers of its tickets, so the sources move
  -- on with it.
  induction basket generalizing quote sources lines l with
  | nil =>
    cases h
    rw [List.map_nil, List.append_nil]
    exact ⟨sources, l, rfl, hl, hq⟩
  | cons line rest ih =>
    obtain ⟨product, quantity⟩ := line
    obtain ⟨quote₁, s₁, h₁, h⟩ := (attempt_bind_eq_ok_iff channel).mp h
    obtain ⟨p, total, subtotal, hp, hevent, -, htotal, hsub, rfl, rfl⟩ :=
      attempt_addTicketLine channel s sources t hl h₁
    rw [List.map_cons, List.append_cons]
    exact ih _ (by simp [LockStage.rank]) (hq.addTicketLine hp hevent htotal hsub) h

theorem attempt_addTransferLines {who : QuoteFor} {start : Supply Uuid} {quote quote' : Quote}
    {lines : List (ItemType × ProductId × UInt32)}
    {basket : List (ProductId × UInt32)} {s' : State σ} (hl : l.Admits .product)
    (hq : quote.Sound t who start lines sources)
    (h : attempt channel (addTransferLines who quote basket) (s.opened sources ⟨t, l⟩) =
      .ok (quote', s')) :
    ∃ l', s' = s.opened sources ⟨t, l'⟩ ∧ l'.Admits .product ∧
      quote'.Sound t who start (lines ++ basket.map (Prod.mk .transfer)) sources := by
  induction basket generalizing quote lines l with
  | nil =>
    cases h
    rw [List.map_nil, List.append_nil]
    exact ⟨l, rfl, hl, hq⟩
  | cons line rest ih =>
    obtain ⟨product, quantity⟩ := line
    obtain ⟨quote₁, s₁, h₁, h⟩ := (attempt_bind_eq_ok_iff channel).mp h
    obtain ⟨p, total, subtotal, hp, hevent, -, htotal, hsub, rfl, rfl⟩ :=
      attempt_addTransferLine channel s sources t hl h₁
    rw [List.map_cons, List.append_cons]
    exact ih (by simp [LockStage.rank]) (hq.addTransferLine hp hevent htotal hsub) h

theorem attempt_ofBasket {who : QuoteFor} {tickets transfers : List (ProductId × UInt32)}
    {quote : Quote} {s' : State σ} (hl : l.Admits .product)
    (h : attempt channel (ofBasket who tickets transfers) (s.opened sources ⟨t, l⟩) =
      .ok (quote, s')) :
    ∃ sources' l', s' = s.opened sources' ⟨t, l'⟩ ∧ l'.Admits .product ∧
      quote.Sound t who sources.ids (tickets.map (Prod.mk .ticket) ++
        transfers.map (Prod.mk .transfer)) sources' := by
  obtain ⟨quote₁, s₁, h₁, h⟩ := (attempt_bind_eq_ok_iff channel).mp h
  obtain ⟨sources₁, l₁, rfl, hl₁, hq₁⟩ := attempt_addTicketLines channel s sources t hl .empty h₁
  obtain ⟨l', rfl, hl', hq⟩ := attempt_addTransferLines channel s sources₁ t hl₁ hq₁ h
  exact ⟨sources₁, l', rfl, hl', hq⟩

end Memory.State

end EventTickets
