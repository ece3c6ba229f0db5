import EventTickets.Sales.Bucket
import EventTickets.Table

/-!
# Aggregation of sales

Orders arrive as one row per line, each carrying the total of its order. A total counts once per
order and status; units count per row. Check-ins count for all events, and for one event only where
it has orders. The tally stops where a figure would leave its range.
-/

namespace EventTickets

/-- An order with one of its lines, or without any. -/
structure StatsRow where
  orderId : OrderId
  eventId : EventId
  eventTitle : String
  status : OrderStatus
  totalCents : Int64
  itemType : Option ItemType
  productRef : String
  quantity : Int64
  deriving DecidableEq

structure CheckInRow where
  eventId : EventId
  quantity : Int64
  deriving DecidableEq

namespace StatsRow

def addUnits? (row : StatsRow) (b : StatsBucket) : Option StatsBucket :=
  match row.itemType with
  | some itemType =>
    if row.status.isPurchased then b.addUnits? itemType row.productRef row.quantity else some b
  | none => some b

/-- What a row adds to a bucket, its total only if that is new. -/
def addTo? (row : StatsRow) (isNew : Bool) (b : StatsBucket) : Option StatsBucket := do
  let b ← if isNew then b.addOrderTotal? row.status row.totalCents else some b
  row.addUnits? b

end StatsRow

structure SalesTally where
  overall : StatsBucket
  events : Table EventId StatsBucket
  seen : List (OrderId × OrderStatus)

namespace SalesTally

def empty : SalesTally := ⟨.empty none "", .empty, []⟩

def addRow? (tally : SalesTally) (row : StatsRow) : Option SalesTally := do
  let isNew := !tally.seen.contains (row.orderId, row.status)
  let bucket := (tally.events.get? row.eventId).getD (.empty (some row.eventId) row.eventTitle)
  let bucket ← row.addTo? isNew (bucket.entitle row.eventTitle)
  let overall ← row.addTo? isNew tally.overall
  return {
    overall := overall,
    events := tally.events.insert row.eventId bucket,
    seen := if isNew then (row.orderId, row.status) :: tally.seen else tally.seen }

def ofRows? (rows : List StatsRow) : Option SalesTally :=
  (rows.filter (·.eventId.isValid)).foldlM addRow? empty

def addCheckIn? (tally : SalesTally) (row : CheckInRow) : Option SalesTally := do
  let overall ← tally.overall.addCheckIn? row.quantity
  match tally.events.get? row.eventId with
  | some bucket =>
    let bucket ← bucket.addCheckIn? row.quantity
    return { tally with overall := overall, events := tally.events.insert row.eventId bucket }
  | none => return { tally with overall := overall }

def addCheckIns? (tally : SalesTally) (rows : List CheckInRow) : Option SalesTally :=
  (rows.filter (·.eventId.isValid)).foldlM addCheckIn? tally

def reported? (rows : List StatsRow) (checkIns : List CheckInRow) : Option SalesTally :=
  (ofRows? rows).bind fun tally => tally.addCheckIns? checkIns

def stats (tally : SalesTally) : TicketStats := ⟨tally.overall, tally.events.values⟩

end SalesTally

end EventTickets
