import EventTickets.Proofs.Records.Parts
import EventTickets.Proofs.Sales.Tally
import EventTickets.Proofs.Totals

/-!
# What orders come to

`Tables.sales` counts the orders, lines and tickets of some events where they stand, each once. The
rows of a report repeat an order on each of its lines; what is reckoned of them comes to the same
sums.
-/

namespace EventTickets

namespace Table

variable {κ ν : Type} [Ranked κ] [DecidableEq κ]

omit [DecidableEq κ] in
theorem keys_nodup (t : Table κ ν) : (t.entries.map (·.1)).Nodup := by
  refine List.pairwise_map.mpr (t.ascending.imp fun hlt e => ?_)
  rw [e] at hlt
  exact Int.lt_irrefl _ hlt

end Table

namespace StatsRow

/-- A row that stands for an order. -/
structure Carries (order : Order) (row : StatsRow) : Prop where
  orderId : row.orderId = order.id
  eventId : row.eventId = order.eventId
  status : row.status = order.status
  totalCents : row.totalCents = order.totalCents

variable {order : Order} {row : StatsRow} {rows more : List StatsRow}
  {seen : List (OrderId × OrderStatus)}

theorem Carries.key (h : row.Carries order) : row.key = (order.id, order.status) := by
  rw [StatsRow.key, h.orderId, h.status]

theorem Carries.amount (h : row.Carries order) (f : Figure) :
    row.amount f = amountPart order.status order.totalCents f := by
  rw [StatsRow.amount, h.status, h.totalCents]

theorem firsts_append_of_seen (h : ∀ row ∈ rows, seen.contains row.key = true) :
    firsts seen (rows ++ more) = firsts seen more := by
  induction rows with
  | nil => rfl
  | cons row rest ih =>
    obtain ⟨hrow, hrest⟩ := List.forall_mem_cons.mp h
    rw [List.cons_append, firsts, if_pos hrow, ih hrest]

theorem firsts_append_of_carries (h : ∀ r ∈ row :: rows, r.Carries order)
    (hnew : (order.id, order.status) ∉ seen) :
    firsts seen (row :: rows ++ more) = row :: firsts ((order.id, order.status) :: seen) more := by
  obtain ⟨hrow, hrows⟩ := List.forall_mem_cons.mp h
  have hunseen : ¬ seen.contains row.key = true := by
    rwa [hrow.key, List.contains_iff_mem]
  rw [List.cons_append, firsts, if_neg hunseen, hrow.key, firsts_append_of_seen]
  intro r hr
  rw [(hrows r hr).key, List.contains_iff_mem]
  exact List.mem_cons_self

end StatsRow

namespace Memory.Tables

variable (t : Tables) (f : Figure)

def linesPart (order : Order) : Int :=
  sumOf (fun i => i.orderId == order.id)
    (fun i => unitsPart i.itemType i.productRef (Int64.ofNat i.quantity.toNat) f)
    t.orderItems

def orderPart (order : Order) : Int :=
  amountPart order.status order.totalCents f + if order.status.isPurchased then
    t.linesPart f order else 0

theorem carries_statsRowsOf (order : Order) : ∀ row ∈ t.statsRowsOf order, row.Carries order := by
  rw [statsRowsOf]
  split
  · exact List.forall_mem_singleton.mpr ⟨rfl, rfl, rfl, rfl⟩
  · exact List.forall_mem_map.mpr fun _ _ => ⟨rfl, rfl, rfl, rfl⟩

theorem statsRowsOf_ne_nil (order : Order) : t.statsRowsOf order ≠ [] := by
  rw [statsRowsOf]
  split
  · exact List.cons_ne_nil _ _
  · next hne => exact fun e => hne (List.map_eq_nil_iff.mp e)

theorem units_statsRowsOf (events : EventId → Bool) (order : Order) :
    sumOf (fun row => events row.eventId) (·.units f) (t.statsRowsOf order) =
      if events order.eventId then if order.status.isPurchased then
        t.linesPart f order else 0 else 0 := by
  have hlines : t.linesPart f order =
      sumOf (fun _ => true) (fun i =>
        unitsPart i.itemType i.productRef (Int64.ofNat i.quantity.toNat) f)
          (t.itemsOf order.id) := by
    rw [itemsOf, sumOf_filter]
    simp only [Bool.and_true]
    rfl
  rw [hlines, statsRowsOf]
  split
  · next hnone =>
    rw [hnone, sumOf_cons]
    simp [StatsRow.units]
  · rw [sumOf_map]
    cases hevent : events order.eventId <;> cases hstatus : order.status.isPurchased <;>
      simp [sumOf, StatsRow.units, hevent, hstatus]

theorem reckon_orders (events : EventId → Bool) {orders : List Order}
    {seen : List (OrderId × OrderStatus)} (hdistinct : (orders.map (·.id)).Nodup)
    (hnew : ∀ order ∈ orders, ∀ status, (order.id, status) ∉ seen) :
    StatsRow.reckon events seen (orders.flatMap t.statsRowsOf) f =
      sumOf (fun order => events order.eventId) (t.orderPart f) orders := by
  induction orders generalizing seen with
  | nil => rfl
  | cons order rest ih =>
    obtain ⟨hfirst, hdistinct⟩ := List.nodup_cons.mp hdistinct
    obtain ⟨horder, hrest⟩ := List.forall_mem_cons.mp hnew
    -- The first row of the order carries its total, and the rows of later orders are still new.
    have hnew : ∀ other ∈ rest, ∀ status,
        (other.id, status) ∉ (order.id, order.status) :: seen := by
      intro other hother status hmem
      rcases List.mem_cons.mp hmem with e | hmem
      · exact hfirst (List.mem_map.mpr ⟨other, hother, congrArg Prod.fst e⟩)
      · exact hrest other hother status hmem
    have ih := ih hdistinct hnew
    have hunits := t.units_statsRowsOf f events order
    have hcarries := t.carries_statsRowsOf order
    obtain ⟨row, rows, hrows⟩ := List.exists_cons_of_ne_nil (t.statsRowsOf_ne_nil order)
    rw [hrows] at hunits hcarries
    have hrow := hcarries row List.mem_cons_self
    rw [StatsRow.reckon] at ih
    rw [List.flatMap_cons, hrows, StatsRow.reckon,
      StatsRow.firsts_append_of_carries hcarries (horder _), sumOf_cons, sumOf_append, hunits,
      sumOf_cons, ← ih, hrow.eventId, hrow.amount, orderPart]
    split <;> omega

def soldFor (events : EventId → Bool) (id : OrderId) : Bool :=
  (t.orders.get? id).any fun order => order.status.isPurchased && events order.eventId

/-- What is sold for some events and checked in to them: totals by order, transfers by line and the
rest by ticket. -/
def sales (t : Tables) (events : EventId → Bool) : Figure → Int
  | .purchasedAmount =>
    sumOf (fun order => order.status.isPurchased && events order.eventId)
      (·.totalCents.toInt) t.orders.values
  | .redeemedAmount =>
    sumOf (fun order => order.status == .redeemed && events order.eventId)
      (·.totalCents.toInt) t.orders.values
  | .tickets kind =>
    sumOf (fun k => t.soldFor events k.orderId && k.ticketType == kind) (fun _ => 1) t.tickets
  | .transfers kind =>
    sumOf (fun i => t.soldFor events i.orderId &&
      (i.itemType == .transfer && i.productRef == kind.name))
      (·.quantity.toNat) t.orderItems
  | .checkedInTickets => sumOf (fun k => k.isRedeemed && events k.eventId) (fun _ => 1) t.tickets
  | .checkedInPeople =>
    sumOf (fun k => k.isRedeemed && events k.eventId) (·.quantity.toNat) t.tickets

end Memory.Tables

theorem TransferDirection.name_injective {a b : TransferDirection} (h : a.name = b.name) :
    a = b := by
  revert h
  cases a <;> cases b <;> decide

def Figure.kind? : Figure → Option (ItemType × String)
  | .tickets kind => some (.ticket, kind.name)
  | .transfers kind => some (.transfer, kind.name)
  | _ => none

namespace OrderItem

inductive NamesKind (i : OrderItem) : Prop
  | ticket (itemType : i.itemType = .ticket) (kind : TicketType) (name : i.productRef = kind.name)
  | transfer (itemType : i.itemType = .transfer) (kind : TransferDirection)
      (name : i.productRef = kind.name)

variable {i : OrderItem}

theorem namesKind_of_label {t : Memory.Tables} {event : EventId}
    (h : t.label? i.itemType i.productId = some (event, i.productRef)) : i.NamesKind := by
  cases hkind : i.itemType <;> rw [hkind] at h <;> obtain ⟨p, -, e⟩ := Option.map_eq_some_iff.mp h
  · exact .ticket hkind p.ticketType (congrArg Prod.snd e).symm
  · exact .transfer hkind p.direction (congrArg Prod.snd e).symm

theorem NamesKind.ticket_iff (h : i.NamesKind) (kind : TicketType) :
    i.itemType = .ticket ∧ TicketType.parse? i.productRef = some kind ↔
      i.itemType = .ticket ∧ i.productRef = kind.name := by
  cases h with
  | ticket itemType kind' name =>
    rw [name, TicketType.parse?_name, Option.some.injEq]
    exact and_congr_right fun _ => ⟨congrArg _, TicketType.name_injective⟩
  | transfer itemType kind' name => simp [itemType]

theorem NamesKind.transfer_iff (h : i.NamesKind) (kind : TransferDirection) :
    i.itemType = .transfer ∧ TransferDirection.parse? i.productRef = some kind ↔
      i.itemType = .transfer ∧ i.productRef = kind.name := by
  cases h with
  | ticket itemType kind' name => simp [itemType]
  | transfer itemType kind' name =>
    rw [name, TransferDirection.parse?_name, Option.some.injEq]
    exact and_congr_right fun _ => ⟨congrArg _, TransferDirection.name_injective⟩

theorem NamesKind.unitsPart_eq (h : i.NamesKind) {f : Figure} {itemType : ItemType} {name : String}
    (hf : f.kind? = some (itemType, name)) (quantity : Int64) :
    unitsPart i.itemType i.productRef quantity f =
      if i.itemType = itemType ∧ i.productRef = name then quantity.toInt else 0 := by
  cases f with
  | tickets kind =>
    cases hf
    exact if_congr (h.ticket_iff kind) rfl rfl
  | transfers kind =>
    cases hf
    exact if_congr (h.transfer_iff kind) rfl rfl
  | _ => cases hf

theorem ticketUnits_eq_sumOf (picks : OrderItem → Bool) (items : List OrderItem) :
    (ticketUnits picks items : Int) = sumOf (fun i => i.itemType == .ticket && picks i)
    (·.quantity.toNat) items := by
  induction items with
  | nil => rfl
  | cons i rest ih =>
    rw [ticketUnits_cons, sumOf_cons, ← ih]
    simp only [Bool.and_eq_true, beq_iff_eq]
    split <;> omega

end OrderItem

theorem toInt_ofNat_toNat (quantity : UInt32) :
    (Int64.ofNat quantity.toNat).toInt = quantity.toNat :=
  Int64.toInt_ofNat_of_lt (Nat.lt_trans quantity.toNat_lt (by decide))

namespace Memory.Tables

/-- Orders are for events there can be, and lines name kinds. -/
structure Labeled (t : Tables) : Prop where
  event : ∀ id order, t.orders.get? id = some order → order.eventId.isValid = true
  names : ∀ i ∈ t.orderItems, i.NamesKind

theorem labeled_empty : Tables.empty.Labeled := by
  have horders : ∀ id, Tables.empty.orders.get? id = none := fun _ => rfl
  have hitems : Tables.empty.orderItems = [] := rfl
  constructor <;> simp [horders, hitems]

section

variable {t t' t₁ : Tables}

theorem SameSales.eventId (h : SameSales t t') {id : OrderId} {order' : Order}
    (ho' : t'.orders.get? id = some order') :
    ∃ order, t.orders.get? id = some order ∧ order'.eventId = order.eventId := by
  obtain ⟨order, ho, hplaced⟩ := h.order ho'
  exact ⟨order, ho, congrArg (·.eventId) hplaced⟩

theorem Labeled.sameSales (h : t.Labeled) (hsame : SameSales t t') : t'.Labeled := by
  refine ⟨fun id order' ho' => ?_, by rw [hsame.orderItems]; exact h.names⟩
  obtain ⟨order, ho, e⟩ := hsame.eventId ho'
  rw [e]
  exact h.event id order ho

theorem Labeled.placed {a b : Supply Uuid} {w : Purchase.Placement} (h : t.Labeled)
    (hpromo : t.PromoTaken w.order.promoCodeId t₁) (hw : w.Sound t a b) :
    (t₁.placed w).Labeled := by
  refine ⟨fun id order ho => ?_, fun i hi => ?_⟩
  · rw [orders_placed hpromo, Table.get?_insert] at ho
    split at ho
    · cases ho
      exact hw.event
    · exact h.event id order ho
  · rw [orderItems_placed hpromo] at hi
    rcases List.mem_append.mp hi with hi | hi
    · exact h.names i hi
    · obtain ⟨line, hline, n, rfl⟩ := mem_itemRows hi
      exact OrderItem.namesKind_of_label (hw.item_label line hline)

end

/-- Orders stand under their identifiers and add up. -/
structure Accountable (t : Tables) : Prop extends t.Labeled where
  order_id : ∀ id order, t.orders.get? id = some order → order.id = id
  addUp : t.AddUp

variable {t : Tables} (h : t.Accountable) (events : EventId → Bool)

include h

theorem Accountable.ids_nodup : (t.orders.values.map (·.id)).Nodup := by
  have hkeys : t.orders.values.map (·.id) = t.orders.entries.map (·.1) := by
    rw [Table.values, List.map_map]
    exact List.map_congr_left fun e he => h.order_id e.1 e.2 (Table.get?_eq_some_iff.mpr he)
  rw [hkeys]
  exact t.orders.keys_nodup

theorem Accountable.get?_of_mem {order : Order} (ho : order ∈ t.orders.values) :
    t.orders.get? order.id = some order := by
  obtain ⟨id, ho⟩ := Table.mem_values_iff.mp ho
  rwa [h.order_id id order ho]

theorem Accountable.ticket_event {k : Ticket} (hk : k ∈ t.tickets) :
    ∃ order, t.orders.get? k.orderId = some order ∧ order.eventId = k.eventId := by
  obtain ⟨order, ho⟩ := Option.isSome_iff_exists.mp (h.addUp.attached.ticket k hk)
  exact ⟨order, ho, ((h.addUp.order _ order ho).ticket k (mem_ticketsOf.mpr ⟨hk, rfl⟩)).2.2.symm⟩

def soldIds (t : Tables) (events : EventId → Bool) : List OrderId :=
  (t.orders.values.filter fun order => order.status.isPurchased && events order.eventId).map (·.id)

theorem Accountable.contains_soldIds (id : OrderId) :
    (t.soldIds events).contains id = t.soldFor events id := by
  rw [Bool.eq_iff_iff, List.contains_iff_mem, soldIds, List.mem_map, soldFor, Option.any_eq_true]
  constructor
  · rintro ⟨order, ho, rfl⟩
    obtain ⟨ho, hpicked⟩ := List.mem_filter.mp ho
    exact ⟨order, h.get?_of_mem ho, hpicked⟩
  · rintro ⟨order, ho, hpicked⟩
    exact ⟨order, List.mem_filter.mpr ⟨Table.mem_values_iff.mpr ⟨id, ho⟩, hpicked⟩,
      h.order_id id order ho⟩

theorem Accountable.sum_by_order {α : Type} (orderOf : α → OrderId) (picks : α → Bool)
    (weight : α → Int) (l : List α) :
    sumOf (fun order => order.status.isPurchased && events order.eventId)
        (fun order => sumOf (fun a => orderOf a == order.id && picks a) weight l) t.orders.values =
      sumOf (fun a => t.soldFor events (orderOf a) && picks a) weight l := by
  have hnodup : (t.soldIds events).Nodup := h.ids_nodup.sublist (List.filter_sublist.map _)
  have hsum := sum_sumOf_key hnodup orderOf picks weight l
  simp only [h.contains_soldIds events] at hsum
  rw [← hsum, soldIds, List.map_map]
  rfl

theorem Accountable.linesPart_eq {f : Figure} {itemType : ItemType} {name : String}
    (hf : f.kind? = some (itemType, name)) (order : Order) :
    t.linesPart f order =
      sumOf (fun i => i.orderId == order.id && (i.itemType == itemType && i.productRef == name))
        (·.quantity.toNat)
        t.orderItems := by
  refine sumOf_congr fun i hi => ?_
  rw [(h.names i hi).unitsPart_eq hf, toInt_ofNat_toNat]
  simp only [Bool.and_eq_true, beq_iff_eq, ite_and]

theorem Accountable.linesPart_tickets (kind : TicketType) {order : Order}
    (ho : order ∈ t.orders.values) : t.linesPart (.tickets kind) order =
      sumOf (fun k => k.orderId == order.id && k.ticketType == kind) (fun _ => 1) t.tickets := by
  have htier := (h.addUp.order _ order (h.get?_of_mem ho)).tier kind
  rw [h.linesPart_eq rfl, ← sumOf_filter, ← itemsOf, ← OrderItem.ticketUnits_eq_sumOf,
    ← htier, ← sumOf_filter, ← ticketsOf, sumOf_one, List.countP_eq_length_filter]

omit h in
theorem sumOf_orderPart_of_amount {f : Figure}
    (hunits : ∀ itemType ref quantity, unitsPart itemType ref quantity f = 0) :
    sumOf (fun order => events order.eventId) (t.orderPart f) t.orders.values =
      sumOf (fun order => events order.eventId)
        (fun order => amountPart order.status order.totalCents f)
        t.orders.values := by
  have hlines : ∀ order, t.linesPart f order = 0 :=
    fun order => sumOf_eq_zero fun i _ _ => hunits _ _ _
  exact sumOf_congr fun order _ => by rw [orderPart, hlines, ite_self, Int.add_zero]

omit h in
theorem sumOf_orderPart_of_units {f : Figure}
    (hamount : ∀ status total, amountPart status total f = 0) :
    sumOf (fun order => events order.eventId) (t.orderPart f) t.orders.values =
      sumOf (fun order => order.status.isPurchased && events order.eventId)
        (t.linesPart f) t.orders.values := by
  refine sumOf_congr fun order _ => ?_
  rw [orderPart, hamount, Int.zero_add]
  cases order.status.isPurchased <;> simp

/-- What orders add to a figure with what check-ins add is what is sold and checked in. -/
theorem Accountable.sales_eq (f : Figure) :
    sumOf (fun order => events order.eventId) (t.orderPart f) t.orders.values +
        sumOf (fun k => k.isRedeemed && events k.eventId)
          (fun k => checkInPart (Int64.ofNat k.quantity.toNat) f)
          t.tickets =
      t.sales events f := by
  have hnothing : ∀ {f : Figure}, (∀ people, checkInPart people f = 0) →
      sumOf (fun k => k.isRedeemed && events k.eventId)
        (fun k => checkInPart (Int64.ofNat k.quantity.toNat) f)
        t.tickets = 0 :=
    fun hf => sumOf_eq_zero fun k _ _ => hf _
  have hneither : ∀ {f : Figure}, (∀ itemType ref quantity, unitsPart itemType ref quantity f = 0) →
      (∀ status total, amountPart status total f = 0) →
      sumOf (fun order => events order.eventId) (t.orderPart f) t.orders.values = 0 :=
      fun hunits hamount =>
    (sumOf_orderPart_of_amount events hunits).trans (sumOf_eq_zero fun order _ _ => hamount _ _)
  cases f with
  | purchasedAmount =>
    rw [hnothing fun _ => rfl, Int.add_zero, sumOf_orderPart_of_amount events fun _ _ _ => rfl]
    refine sumOf_congr fun order _ => ?_
    cases hstatus : order.status.isPurchased <;> simp [amountPart, hstatus]
  | redeemedAmount =>
    rw [hnothing fun _ => rfl, Int.add_zero, sumOf_orderPart_of_amount events fun _ _ _ => rfl]
    refine sumOf_congr fun order _ => ?_
    by_cases hstatus : order.status = .redeemed <;> simp [amountPart, hstatus]
  | tickets kind =>
    rw [hnothing fun _ => rfl, Int.add_zero, sumOf_orderPart_of_units events fun _ _ => rfl, sales,
      ← h.sum_by_order events]
    exact sumOf_congr fun order ho => by rw [h.linesPart_tickets kind ho]
  | transfers kind =>
    rw [hnothing fun _ => rfl, Int.add_zero, sumOf_orderPart_of_units events fun _ _ => rfl, sales,
      ← h.sum_by_order events]
    exact sumOf_congr fun order _ => by rw [h.linesPart_eq rfl]
  | checkedInTickets =>
    rw [hneither (fun _ _ _ => rfl) fun _ _ => rfl, Int.zero_add]
    rfl
  | checkedInPeople =>
    rw [hneither (fun _ _ _ => rfl) fun _ _ => rfl, Int.zero_add]
    exact sumOf_congr fun k _ => by rw [checkInPart, toInt_ofNat_toNat]

end Memory.Tables

end EventTickets
