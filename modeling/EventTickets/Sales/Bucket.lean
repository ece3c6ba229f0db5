import EventTickets.Amount
import EventTickets.Order.Record

/-!
# Sales figures

A bucket holds the figures of one event or of all: amounts of orders, units sold per kind, and
check-ins. A fresh bucket counts every kind, at zero. A figure that would leave the range of 64 bits
stops the program, and then there is no bucket.
-/

namespace EventTickets

abbrev Counts (κ : Type) := List (κ × Int64)

namespace Counts

def zero {κ : Type} (kinds : List κ) : Counts κ := kinds.map (·, 0)

/-- Counts more of a kind, if it is counted at all. -/
def add? {κ : Type} [DecidableEq κ] (kind : κ) (quantity : Int64) : Counts κ → Option (Counts κ)
  | [] => some []
  | (k, n) :: rest =>
    if k = kind then (Amount.add? n quantity).map fun sum => (k, sum) :: rest
    else (add? kind quantity rest).map fun counts => (k, n) :: counts

def toJson {κ : Type} (name : κ → String) (counts : Counts κ) : Json :=
  .obj (counts.map fun (k, n) => (name k, encode n))

def ofJson? {κ : Type} (kinds : List κ) (name : κ → String) : Json → Option (Counts κ)
  | .obj fields =>
    if fields.all fun (n, _) => (kinds.map name).contains n then
      kinds.filterMapM fun k =>
        match fields.lookup (name k) with
        | some j => (decode? j).map fun n => some (k, n)
        | none => some none
    else none
  | _ => none

end Counts

instance : Encode (Counts TicketType) := ⟨Counts.toJson TicketType.name⟩
instance : Decode (Counts TicketType) := ⟨Counts.ofJson? TicketType.all TicketType.name⟩
instance : Encode (Counts TransferDirection) := ⟨Counts.toJson TransferDirection.name⟩
instance : Decode (Counts TransferDirection) :=
  ⟨Counts.ofJson? TransferDirection.all TransferDirection.name⟩

structure StatsBucket where
  eventId : Option EventId
  eventTitle : String
  purchasedAmountCents : Int64
  redeemedAmountCents : Int64
  ticketTypeCounts : Counts TicketType
  transferDirectionCounts : Counts TransferDirection
  checkedInTickets : Int64
  checkedInPeople : Int64
  deriving DecidableEq

namespace StatsBucket

def fieldNames : List String := [
  "eventId", "eventTitle", "purchasedAmountCents", "redeemedAmountCents", "ticketTypeCounts",
  "transferDirectionCounts", "checkedInTickets", "checkedInPeople"]

instance : Encode StatsBucket where
  encode r := .obj (
    encodePresent "eventId" r.eventId ++
    encodeNonEmpty "eventTitle" r.eventTitle ++
    [
      ("purchasedAmountCents", encode r.purchasedAmountCents),
      ("redeemedAmountCents", encode r.redeemedAmountCents),
      ("ticketTypeCounts", encode r.ticketTypeCounts),
      ("transferDirectionCounts", encode r.transferDirectionCounts),
      ("checkedInTickets", encode r.checkedInTickets),
      ("checkedInPeople", encode r.checkedInPeople)])

instance : Decode StatsBucket where
  decode? j := do
    let c ← Components.of? fieldNames j
    return {
      eventId := ← c.withDefault "eventId" none,
      eventTitle := ← c.withDefault "eventTitle" "",
      purchasedAmountCents := ← c.required "purchasedAmountCents",
      redeemedAmountCents := ← c.required "redeemedAmountCents",
      ticketTypeCounts := ← c.required "ticketTypeCounts",
      transferDirectionCounts := ← c.required "transferDirectionCounts",
      checkedInTickets := ← c.required "checkedInTickets",
      checkedInPeople := ← c.required "checkedInPeople" }

def empty (eventId : Option EventId) (eventTitle : String) : StatsBucket where
  eventId := eventId
  eventTitle := eventTitle
  purchasedAmountCents := 0
  redeemedAmountCents := 0
  ticketTypeCounts := .zero TicketType.all
  transferDirectionCounts := .zero TransferDirection.all
  checkedInTickets := 0
  checkedInPeople := 0

/-- Keeps the first title that is not empty. -/
def entitle (title : String) (b : StatsBucket) : StatsBucket :=
  if b.eventTitle.isEmpty then { b with eventTitle := title } else b

def addOrderTotal? (status : OrderStatus) (totalCents : Int64) (b : StatsBucket) :
    Option StatsBucket := do
  let purchased ← Amount.addIf? status.isPurchased b.purchasedAmountCents totalCents
  let redeemed ← Amount.addIf? (status = .redeemed) b.redeemedAmountCents totalCents
  return { b with purchasedAmountCents := purchased, redeemedAmountCents := redeemed }

/-- Units of a product that names no known kind are not counted. -/
def addUnits? (itemType : ItemType) (productRef : String) (quantity : Int64) (b : StatsBucket) :
    Option StatsBucket :=
  match itemType with
  | .ticket =>
    match TicketType.parse? productRef with
    | some kind =>
      (b.ticketTypeCounts.add? kind quantity).map fun counts =>
        { b with ticketTypeCounts := counts }
    | none => some b
  | .transfer =>
    match TransferDirection.parse? productRef with
    | some kind =>
      (b.transferDirectionCounts.add? kind quantity).map fun counts =>
        { b with transferDirectionCounts := counts }
    | none => some b

def addCheckIn? (people : Int64) (b : StatsBucket) : Option StatsBucket := do
  let tickets ← Amount.add? b.checkedInTickets 1
  let people ← Amount.add? b.checkedInPeople people
  return { b with checkedInTickets := tickets, checkedInPeople := people }

end StatsBucket

structure TicketStats where
  overall : StatsBucket
  events : List StatsBucket
  deriving DecidableEq

namespace TicketStats

def fieldNames : List String := ["global", "events"]

instance : Encode TicketStats where
  encode r := .obj [
    ("global", encode r.overall),
    ("events", encode r.events)]

instance : Decode TicketStats where
  decode? j := do
    let c ← Components.of? fieldNames j
    return {
      overall := ← c.required "global",
      events := ← c.required "events" }

end TicketStats

end EventTickets
