import EventTickets.Order.Record

/-!
# Order queries

Listings are narrowed by event, status and time of creation, both ends included, and cut into pages.
-/

namespace EventTickets

open Time (Instant)

structure OrderQuery where
  eventId : Option EventId
  status : Option OrderStatus
  start : Option Instant
  stop : Option Instant
  limit : UInt32
  offset : UInt32
  deriving DecidableEq

namespace OrderQuery

def fieldNames : List String := ["eventId", "status", "from", "to", "limit", "offset"]

instance : Decode OrderQuery where
  decode? j := do
    let c ← Components.of? fieldNames j
    return {
      eventId := ← c.optional "eventId",
      status := ← c.optional "status",
      start := ← c.optional "from",
      stop := ← c.optional "to",
      limit := ← c.givenOr "limit" 0,
      offset := ← c.givenOr "offset" 0 }

def defaultLimit : UInt32 := 50

def maxLimit : UInt32 := 200

/-- The size of a page: none asked for is the default, and too much is cut. -/
def normalizeLimit (limit : UInt32) : UInt32 :=
  if limit = 0 then defaultLimit else if maxLimit < limit then maxLimit else limit

def normalized (query : OrderQuery) : OrderQuery :=
  { query with limit := normalizeLimit query.limit }

def matchesOrder (query : OrderQuery) (order : Order) : Bool :=
  query.eventId.all (order.eventId == ·) && query.status.all (order.status == ·) &&
    query.start.all (fun start => decide (start ≤ order.createdAt)) &&
    query.stop.all (fun stop => decide (order.createdAt ≤ stop))

end OrderQuery

end EventTickets
