import EventTickets.Json.Reader
import EventTickets.Order.Record

/-!
# Claims of a ticket token

What a token says about its ticket. Claims are written as compact JSON in the order of their fields,
and read from a text that has each of them exactly once, or from an array of all of them. Fields of
other names need only be well-formed.
-/

namespace EventTickets

open Time (Instant)

structure Claims where
  ticketId : String
  eventId : Int64
  userId : Int64
  ticketType : String
  quantity : Int64
  nonce : String
  issuedAt : Int64
  deriving DecidableEq

namespace Claims

def fieldNames : List String :=
  ["ticketId", "eventId", "userId", "ticketType", "quantity", "nonce", "issuedAt"]

instance : Encode Claims where
  encode r := .obj [
    ("ticketId", encode r.ticketId),
    ("eventId", encode r.eventId),
    ("userId", encode r.userId),
    ("ticketType", encode r.ticketType),
    ("quantity", encode r.quantity),
    ("nonce", encode r.nonce),
    ("issuedAt", encode r.issuedAt)]

instance : Decode Claims where
  decode? j := do
    let c ← Components.of? fieldNames j
    return {
      ticketId := ← c.required "ticketId",
      eventId := ← c.required "eventId",
      userId := ← c.required "userId",
      ticketType := ← c.required "ticketType",
      quantity := ← c.required "quantity",
      nonce := ← c.required "nonce",
      issuedAt := ← c.required "issuedAt" }

def bytes (claims : Claims) : Bytes := (encode claims).compact.toUTF8.toList

def knownMembers? : List (Bytes × JsonSource) → Option (List (String × JsonSource))
  | [] => some []
  | (name, value) :: rest => do
    let name ← JsonSource.text? name
    let known ← knownMembers? rest
    return if fieldNames.contains name then (name, value) :: known else known

def component? : JsonSource → Option Json
  | .integer negative magnitude => Json.integer? negative magnitude
  | .str content => (JsonSource.text? content).map .str
  | _ => none

def ofMembers? (members : List (String × JsonSource)) : Option Claims := do
  let fields ← members.mapM fun (name, value) => (component? value).map (name, ·)
  if (fields.map (·.1)).Nodup then decode? (.obj fields) else none

def ofSource? : JsonSource → Option Claims
  | .obj members => (knownMembers? members).bind ofMembers?
  | .arr items =>
    if items.length = fieldNames.length then ofMembers? (fieldNames.zip items) else none
  | _ => none

def ofBytes? (bytes : Bytes) : Option Claims := (JsonSource.read bytes).bind ofSource?

def ofTicket (ticket : Ticket) (nonce : String) (issuedAt : Instant) : Claims where
  ticketId := ticket.id.text
  eventId := ticket.eventId.number
  userId := ticket.userId.number
  ticketType := ticket.ticketType.name
  quantity := Int64.ofNat ticket.quantity.toNat
  nonce := nonce
  issuedAt := Int64.ofInt issuedAt.seconds

def mismatch? (claims : Claims) (ticket : Ticket) : Option String :=
  if claims.ticketId ≠ ticket.id.text then some "ticketId"
  else if claims.eventId ≠ ticket.eventId.number then some "eventId"
  else if claims.userId ≠ ticket.userId.number then some "userId"
  else if !Text.sameIgnoringCase claims.ticketType ticket.ticketType.name then some "ticketType"
  else if claims.quantity.toInt ≠ ticket.quantity.toNat then some "quantity"
  else none

/-- The first claim without which a token is no ticket. -/
def missing? (claims : Claims) : Option String :=
  if (Text.trim claims.ticketId).isEmpty then some "ticketId"
  else if claims.eventId ≤ 0 then some "eventId"
  else if claims.userId ≤ 0 then some "userId"
  else if claims.quantity ≤ 0 then some "quantity"
  else if claims.issuedAt ≤ 0 then some "issuedAt"
  else none

end Claims

end EventTickets
