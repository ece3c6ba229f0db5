import EventTickets.Proofs.Sales.Tally
import Mathlib.Algebra.BigOperators.Group.Finset.Basic

/-!
# Figures read off all rows at once

A tally goes through the rows once and remembers whose totals it has counted. Here the figures are
said of the list as a whole, for any rows in any order: each order and status brings in the total on
its first row, and units are those on the rows of purchased orders. Going through the rows one by
one comes to the same.
-/

namespace EventTickets

theorem sum_insert_sdiff {κ : Type} [DecidableEq κ] (weight : κ → Int)
    (keys seen : Finset κ) (k : κ) : ∑ k' ∈ insert k keys \ seen, weight k' =
      (if k ∈ seen then 0 else weight k) + ∑ k' ∈ keys \ insert k seen, weight k' := by
  by_cases hseen : k ∈ seen
  · rw [if_pos hseen, Int.zero_add, Finset.insert_sdiff_of_mem _ hseen,
      Finset.insert_eq_of_mem hseen]
  · have hsplit : insert k keys \ seen = insert k (keys \ insert k seen) := by
      ext k'
      by_cases e : k' = k
      · simp [e, hseen]
      · simp [e]
    rw [if_neg hseen, hsplit, Finset.sum_insert (by simp)]

namespace StatsRow

variable {events : EventId → Bool} {weight : StatsRow → Int} {f : Figure} {row : StatsRow}
  {rows : List StatsRow}
  {key : OrderId × OrderStatus}

def keys (rows : List StatsRow) : Finset (OrderId × OrderStatus) := (rows.map StatsRow.key).toFinset

def first? (rows : List StatsRow) (key : OrderId × OrderStatus) : Option StatsRow :=
  rows.find? (·.key == key)

theorem first?_cons (row : StatsRow) (rows : List StatsRow) (key : OrderId × OrderStatus) :
    first? (row :: rows) key = if row.key = key then some row else first? rows key := by
  by_cases h : row.key = key <;> simp [first?, h]

theorem of_first?_eq_some (h : first? rows key = some row) : row ∈ rows ∧ row.key = key := by
  have hkey : (row.key == key) = true := by simpa using List.find?_some h
  exact ⟨List.mem_of_find?_eq_some h, beq_iff_eq.mp hkey⟩

/-- What the first row of an order and status weighs, if that is for one of the events. -/
def onFirst (events : EventId → Bool) (weight : StatsRow → Int) (rows : List StatsRow)
    (key : OrderId × OrderStatus) : Int :=
  (first? rows key).elim 0 fun row => if events row.eventId then weight row else 0

theorem onFirst_cons_self :
    onFirst events weight (row :: rows) row.key = if events row.eventId then weight row else 0 := by
  rw [onFirst, first?_cons, if_pos rfl, Option.elim_some]

theorem onFirst_cons_of_ne (h : key ≠ row.key) :
    onFirst events weight (row :: rows) key = onFirst events weight rows key := by
  rw [onFirst, first?_cons, if_neg (Ne.symm h), onFirst]

theorem sumOf_firsts (seen : List (OrderId × OrderStatus)) (rows : List StatsRow) :
    sumOf (fun row => events row.eventId) weight (firsts seen rows) =
      ∑ key ∈ keys rows \ seen.toFinset, onFirst events weight rows key := by
  induction rows generalizing seen with
  | nil => simp [firsts, keys]
  | cons row rest ih =>
    -- Once the first row is counted its key is seen, so the other keys have their first rows in the
    -- rest.
    have hrest : ∑ key ∈ keys rest \ insert row.key seen.toFinset,
        onFirst events weight (row :: rest) key =
        ∑ key ∈ keys rest \ insert row.key seen.toFinset, onFirst events weight rest key := by
      refine Finset.sum_congr rfl fun key hkey => onFirst_cons_of_ne ?_
      rintro rfl
      exact (Finset.mem_sdiff.mp hkey).2 (Finset.mem_insert_self _ _)
    have hkeys : keys (row :: rest) = insert row.key (keys rest) := List.toFinset_cons
    rw [hkeys, sum_insert_sdiff, hrest, onFirst_cons_self, firsts]
    by_cases hseen : row.key ∈ seen
    · have hmem : row.key ∈ seen.toFinset := List.mem_toFinset.mpr hseen
      rw [if_pos (List.contains_iff_mem.mpr hseen), if_pos hmem, Int.zero_add, ih,
        Finset.insert_eq_of_mem hmem]
    · rw [if_neg (mt List.contains_iff_mem.mp hseen),
        if_neg (mt List.mem_toFinset.mp hseen), sumOf_cons, ih, List.toFinset_cons]

def revenue (events : EventId → Bool) (statuses : List OrderStatus) (rows : List StatsRow) : Int :=
  ∑ key ∈ keys rows with key.2 ∈ statuses, onFirst events (·.totalCents.toInt) rows key

def unitsSold (events : EventId → Bool) (counts : StatsRow → Bool) (rows : List StatsRow) : Int :=
  sumOf (fun row => events row.eventId && row.status.isPurchased && counts row)
    (·.quantity.toInt) rows

/-- What a bucket of some events has to show for rows. -/
def due (events : EventId → Bool) (rows : List StatsRow) : Figure → Int
  | .purchasedAmount => revenue events [.paid, .redeemed] rows
  | .redeemedAmount => revenue events [.redeemed] rows
  | .tickets kind =>
    unitsSold events (fun row => row.itemType == some .ticket &&
      TicketType.parse? row.productRef == some kind) rows
  | .transfers kind =>
    unitsSold events (fun row => row.itemType == some .transfer &&
      TransferDirection.parse? row.productRef == some kind)
      rows
  | .checkedInTickets => 0
  | .checkedInPeople => 0

theorem reckon_of_amount {statuses : List OrderStatus}
    (hamount : ∀ row : StatsRow, row.amount f = if row.status ∈ statuses then
      row.totalCents.toInt else 0)
    (hunits : ∀ row : StatsRow, row.units f = 0) (rows : List StatsRow) :
    reckon events [] rows f = revenue events statuses rows := by
  rw [reckon, sumOf_eq_zero fun row _ _ => hunits row, Int.add_zero,
    sumOf_firsts, List.toFinset_nil, Finset.sdiff_empty, revenue, Finset.sum_filter]
  refine Finset.sum_congr rfl fun key _ => ?_
  rcases hfirst : first? rows key with _ | row
  · simp only [onFirst, hfirst, Option.elim_none, ite_self]
  · obtain ⟨-, rfl⟩ := of_first?_eq_some hfirst
    have hstatus : row.key.2 = row.status := rfl
    simp only [onFirst, hfirst, Option.elim_some, hamount, hstatus]
    split <;> split <;> rfl

theorem reckon_of_units {counts : StatsRow → Bool} (hamount : ∀ row : StatsRow, row.amount f = 0)
    (hunits : ∀ row : StatsRow, row.units f = if row.status.isPurchased && counts row then
      row.quantity.toInt else 0)
    (rows : List StatsRow) : reckon events [] rows f = unitsSold events counts rows := by
  rw [reckon, sumOf_eq_zero fun row _ _ => hamount row, Int.zero_add]
  refine sumOf_congr fun row _ => ?_
  rw [hunits, Bool.and_assoc]
  cases events row.eventId <;> rfl

theorem reckon_of_nothing (hamount : ∀ row : StatsRow, row.amount f = 0)
    (hunits : ∀ row : StatsRow, row.units f = 0) (rows : List StatsRow) :
    reckon events [] rows f = 0 := by
  rw [reckon, sumOf_eq_zero fun row _ _ => hamount row, sumOf_eq_zero fun row _ _ =>
    hunits row, Int.add_zero]

theorem units_tickets (kind : TicketType) (row : StatsRow) :
    row.units (.tickets kind) =
      if row.status.isPurchased && (row.itemType == some .ticket &&
        TicketType.parse? row.productRef == some kind)
      then row.quantity.toInt else 0 := by
  rcases hitem : row.itemType with _ | itemType
  · simp [units, hitem]
  · cases hstatus : row.status.isPurchased <;> simp [units, unitsPart, hitem, hstatus]

theorem units_transfers (kind : TransferDirection) (row : StatsRow) :
    row.units (.transfers kind) =
      if row.status.isPurchased &&
        (row.itemType == some .transfer && TransferDirection.parse? row.productRef == some kind)
      then row.quantity.toInt else 0 := by
  rcases hitem : row.itemType with _ | itemType
  · simp [units, hitem]
  · cases hstatus : row.status.isPurchased <;> simp [units, unitsPart, hitem, hstatus]

theorem reckon_eq_due (events : EventId → Bool) (rows : List StatsRow) (f : Figure) :
    reckon events [] rows f = due events rows f := by
  cases f with
  | purchasedAmount =>
    refine reckon_of_amount (fun row => ?_) (units_eq_zero fun _ _ _ => rfl) rows
    rw [amount, amountPart]
    cases row.status <;> rfl
  | redeemedAmount =>
    refine reckon_of_amount (fun row => ?_) (units_eq_zero fun _ _ _ => rfl) rows
    rw [amount, amountPart]
    cases row.status <;> rfl
  | tickets kind => exact reckon_of_units (fun _ => rfl) (units_tickets kind) rows
  | transfers kind => exact reckon_of_units (fun _ => rfl) (units_transfers kind) rows
  | checkedInTickets => exact reckon_of_nothing (fun _ => rfl) (units_eq_zero fun _ _ _ => rfl) rows
  | checkedInPeople => exact reckon_of_nothing (fun _ => rfl) (units_eq_zero fun _ _ _ => rfl) rows

end StatsRow

end EventTickets
