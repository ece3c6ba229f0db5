import EventTickets.Memory.Tables
import Mathlib.Data.List.Nodup

/-!
# Reading tables after a write

Products of both kinds are read as stock: what is sold and the limit in force. Taking and returning
stock changes the stock of one product and no other row. Tickets are found by their identifiers as
long as no two of them share one.
-/

namespace EventTickets

namespace Table

variable {κ ν : Type} [Ranked κ] [DecidableEq κ] {t : Table κ ν} {k : κ} {v : ν}

theorem insertEntry_perm {l : List (κ × ν)} (h : ∀ e ∈ l, e.1 ≠ k) :
    (insertEntry k v l).Perm ((k, v) :: l) := by
  induction l with
  | nil => exact .refl _
  | cons a rest ih =>
    obtain ⟨ha, hrest⟩ := List.forall_mem_cons.mp h
    rw [insertEntry]
    split
    · exact .refl _
    · rw [if_neg (Ne.symm ha)]
      exact ((ih hrest).cons a).trans (.swap _ _ _)

theorem countP_insert (h : t.get? k = none) (p : ν → Bool) :
    (t.insert k v).values.countP p = t.values.countP p + if p v then 1 else 0 := by
  have hperm : (t.insert k v).values.Perm (v :: t.values) :=
    (insertEntry_perm (key_ne_of_get?_eq_none h)).map _
  rw [hperm.countP_eq, List.countP_cons]

theorem entries_split (h : t.get? k = some v) :
    ∃ front back, t.entries = front ++ (k, v) :: back ∧ (∀ e ∈ front, e.1 ≠ k) ∧
      ∀ e ∈ back, e.1 ≠ k := by
  obtain ⟨front, back, hentries⟩ := List.append_of_mem (get?_eq_some_iff.mp h)
  have hascending := t.ascending
  rw [hentries] at hascending
  obtain ⟨-, hback, hfront⟩ := List.pairwise_append.mp hascending
  refine ⟨front, back, hentries, fun e he e' => ?_, fun e he e' => ?_⟩
  · have hlt := hfront e he _ List.mem_cons_self
    rw [e'] at hlt
    exact Int.lt_irrefl _ hlt
  · have hlt := (List.pairwise_cons.mp hback).1 e he
    rw [e'] at hlt
    exact Int.lt_irrefl _ hlt

theorem countP_modify (h : t.get? k = some v) (f : ν → ν) (p : ν → Bool) :
    (t.modify k f).values.countP p + (if p v then 1 else 0) = t.values.countP p +
      if p (f v) then 1 else 0 := by
  obtain ⟨front, back, hentries, hfront, hback⟩ := entries_split h
  have hsame : ∀ l : List (κ × ν), (∀ e ∈ l, e.1 ≠ k) →
      l.map (fun e => if e.1 = k then (e.1, f e.2) else e) = l :=
    fun l hl => (List.map_congr_left fun e he => if_neg (hl e he)).trans (List.map_id' l)
  simp only [values, modify, hentries, List.map_append, List.map_cons, hsame front hfront,
    hsame back hback, if_true, List.countP_append, List.countP_cons]
  omega

end Table

namespace Memory

structure Stock where
  sold : UInt32
  limit : Option UInt32
  deriving DecidableEq

def Stock.Fits (stock : Stock) (quantity : UInt32) : Prop :=
  stock.sold.toNat + quantity.toNat ≤ 0xFFFFFFFF ∧
    ∀ limit, stock.limit = some limit → stock.sold.toNat + quantity.toNat ≤ limit.toNat

namespace Tables

variable {t t' : Tables}

def stock? (t : Tables) : ItemType → ProductId → Option Stock
  | .ticket, product => (t.ticketProducts.get? product).map fun p => ⟨p.soldCount, p.inventoryLimit⟩
  | .transfer, product => (t.transferProducts.get? product).map fun p =>
    ⟨p.soldCount, p.inventoryLimit⟩

theorem stock?_congr (hticket : t'.ticketProducts = t.ticketProducts)
    (htransfer : t'.transferProducts = t.transferProducts) : t'.stock? = t.stock? := by
  funext kind product
  cases kind <;> simp [stock?, hticket, htransfer]

def label? (t : Tables) : ItemType → ProductId → Option (EventId × String)
  | .ticket, product => (t.ticketProducts.get? product).map fun p => (p.eventId, p.ticketType.name)
  | .transfer, product => (t.transferProducts.get? product).map fun p =>
    (p.eventId, p.direction.name)

/-- The rows of orders, tickets, promo codes and people are the same; products may differ. -/
structure SameButProducts (t t' : Tables) : Prop where
  events : t'.events = t.events
  users : t'.users = t.users
  promoCodes : t'.promoCodes = t.promoCodes
  orders : t'.orders = t.orders
  orderItems : t'.orderItems = t.orderItems
  tickets : t'.tickets = t.tickets
  lastItemId : t'.lastItemId = t.lastItemId

theorem SameButProducts.refl (t : Tables) : SameButProducts t t :=
  ⟨rfl, rfl, rfl, rfl, rfl, rfl, rfl⟩

theorem SameButProducts.trans {t₁ t₂ t₃ : Tables} (h : SameButProducts t₁ t₂)
    (h' : SameButProducts t₂ t₃) : SameButProducts t₁ t₃ :=
  ⟨h'.events.trans h.events, h'.users.trans h.users, h'.promoCodes.trans h.promoCodes,
    h'.orders.trans h.orders, h'.orderItems.trans h.orderItems, h'.tickets.trans h.tickets,
    h'.lastItemId.trans h.lastItemId⟩

theorem reserved?_eq_some_iff {count quantity next : UInt32} {limit : Option UInt32} :
    reserved? count limit quantity = some next ↔
      (Stock.mk count limit).Fits quantity ∧ count + quantity = next := by
  simp only [reserved?, Stock.Fits, Option.ite_none_right_eq_some, Option.some.injEq]
  cases limit <;> simp

theorem toNat_add_of_fits {stock : Stock} {quantity : UInt32} (h : stock.Fits quantity) :
    (stock.sold + quantity).toNat = stock.sold.toNat + quantity.toNat := by
  have := h.1
  rw [UInt32.toNat_add]
  omega

theorem reserve?_eq_some {kind : ItemType} {product : ProductId} {quantity : UInt32}
    (h : t.reserve? kind product quantity = some t') :
    SameButProducts t t' ∧ ∃ stock, t.stock? kind product = some stock ∧ stock.Fits quantity ∧
      ∀ kind' product', t'.stock? kind' product' =
        if kind' = kind ∧ product' = product then some { stock with sold := stock.sold + quantity }
        else t.stock? kind' product' := by
  cases kind with
  | ticket =>
    simp only [reserve?, Option.bind_eq_bind, Option.pure_def,
      Option.bind_eq_some_iff, Option.some.injEq, reserved?_eq_some_iff] at h
    obtain ⟨p, hp, next, ⟨hfits, rfl⟩, rfl⟩ := h
    refine ⟨⟨rfl, rfl, rfl, rfl, rfl, rfl, rfl⟩, _, by simp [stock?, hp], hfits, ?_⟩
    intro kind' product'
    cases kind' <;> by_cases e : product' = product <;> simp [stock?, e, hp]
  | transfer =>
    simp only [reserve?, Option.bind_eq_bind, Option.pure_def,
      Option.bind_eq_some_iff, Option.some.injEq, reserved?_eq_some_iff] at h
    obtain ⟨p, hp, next, ⟨hfits, rfl⟩, rfl⟩ := h
    refine ⟨⟨rfl, rfl, rfl, rfl, rfl, rfl, rfl⟩, _, by simp [stock?, hp], hfits, ?_⟩
    intro kind' product'
    cases kind' <;> by_cases e : product' = product <;> simp [stock?, e, hp]

theorem sameButProducts_release (t : Tables) (kind : ItemType) (product : ProductId)
    (quantity : UInt32) : SameButProducts t (t.release kind product quantity) := by
  cases kind <;> exact ⟨rfl, rfl, rfl, rfl, rfl, rfl, rfl⟩

theorem stock?_release (t : Tables) (kind kind' : ItemType) (product product' : ProductId)
    (quantity : UInt32) : (t.release kind product quantity).stock? kind' product' =
      if kind' = kind ∧ product' = product then
        (t.stock? kind product).map fun stock => { stock with sold := released stock.sold quantity }
      else t.stock? kind' product' := by
  cases kind <;> cases kind' <;> by_cases e : product' =
    product <;> simp [stock?, release, e] <;> rfl

theorem toNat_released (count quantity : UInt32) :
    (released count quantity).toNat = count.toNat - quantity.toNat := by
  rw [released]
  split
  · next h =>
    have := UInt32.lt_iff_toNat_lt.mp h
    simp
    omega
  · next h =>
    have := UInt32.not_lt.mp h
    exact UInt32.toNat_sub_of_le _ _ this

def mapTickets (t : Tables) (f : Ticket → Ticket) : Tables := { t with tickets := t.tickets.map f }

theorem mapTickets_mapTickets (f g : Ticket → Ticket) :
    (t.mapTickets f).mapTickets g = t.mapTickets fun k => g (f k) := by
  simp [mapTickets]

theorem mapTickets_congr {f g : Ticket → Ticket} (h : ∀ k ∈ t.tickets, f k = g k) :
    t.mapTickets f = t.mapTickets g := by
  rw [mapTickets, mapTickets, List.map_congr_left h]

def TicketsDistinct (t : Tables) : Prop := (t.tickets.map (·.id)).Nodup

theorem TicketsDistinct.mapTickets {f : Ticket → Ticket} (h : t.TicketsDistinct)
    (hf : ∀ k, (f k).id = k.id) : (t.mapTickets f).TicketsDistinct := by
  simpa [TicketsDistinct, Tables.mapTickets, Function.comp_def, hf] using h

theorem modifyTicket_go_eq_map {id : TicketId} {f : Ticket → Ticket} {tickets : List Ticket}
    (h : (tickets.map (·.id)).Nodup) :
    modifyTicket.go id f tickets = tickets.map fun k => if k.id = id then f k else k := by
  induction tickets with
  | nil => rfl
  | cons k rest ih =>
    obtain ⟨hk, hrest⟩ := List.nodup_cons.mp h
    rw [modifyTicket.go, List.map_cons]
    split
    · next e =>
      -- No later ticket has the identifier again.
      have : ∀ k' ∈ rest, (if k'.id = id then f k' else k') = k' := fun k' hk' =>
        if_neg fun e' => hk (List.mem_map.mpr ⟨k', hk', e'.trans e.symm⟩)
      rw [List.map_congr_left this, List.map_id']
    · rw [ih hrest]

theorem modifyTicket_eq {id : TicketId} {f : Ticket → Ticket} (h : t.TicketsDistinct) :
    t.modifyTicket id f = t.mapTickets fun k => if k.id = id then f k else k := by
  rw [modifyTicket, modifyTicket_go_eq_map h, mapTickets]

theorem map_modifyTicket {γ : Type} {g : Ticket → γ} {f : Ticket → Ticket}
    (hf : ∀ k, g (f k) = g k) (id : TicketId) (t : Tables) :
    (t.modifyTicket id f).tickets.map g = t.tickets.map g := by
  have hgo : ∀ tickets, (modifyTicket.go id f tickets).map g = tickets.map g := by
    intro tickets
    induction tickets with
    | nil => rfl
    | cons k rest ih =>
      rw [modifyTicket.go]
      split
      · rw [List.map_cons, List.map_cons, hf]
      · rw [List.map_cons, List.map_cons, ih]
  exact hgo t.tickets

theorem ticket?_isSome_iff {id : TicketId} : (t.ticket? id).isSome ↔ id ∈ t.tickets.map (·.id) := by
  simp [ticket?]

theorem mem_of_ticket? {id : TicketId} {k : Ticket} (h : t.ticket? id = some k) :
    k ∈ t.tickets ∧ k.id = id :=
  ⟨List.mem_of_find?_eq_some h, by simpa using List.find?_some h⟩

theorem ticket?_eq_some_iff (h : t.TicketsDistinct) {id : TicketId} {k : Ticket} :
    t.ticket? id = some k ↔ k ∈ t.tickets ∧ k.id = id := by
  refine ⟨mem_of_ticket?, fun ⟨hk, e⟩ => ?_⟩
  rcases hf : t.ticket? id with _ | k'
  · exact absurd e (by simpa using List.find?_eq_none.mp hf k hk)
  · obtain ⟨hk', e'⟩ := mem_of_ticket? hf
    rw [List.inj_on_of_nodup_map h hk' hk (e'.trans e.symm)]

theorem mem_ticketsOf {order : OrderId} {k : Ticket} :
    k ∈ t.ticketsOf order ↔ k ∈ t.tickets ∧ k.orderId = order := by
  simp [ticketsOf]

def transitioned (t : Tables) (id : OrderId) (transition : OrderTransition) : Tables :=
  { t with orders := t.orders.modify id transition.apply }

theorem transition?_eq {id : OrderId} {transition : OrderTransition} {order : Order}
    (h : t.orders.get? id = some order) :
    t.transition? id transition =
      if transition.appliesTo order.status then some (t.transitioned id transition) else none := by
  simp [transition?, h, transitioned]

end Tables

end Memory

end EventTickets
