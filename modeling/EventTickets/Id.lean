import EventTickets.Json.Codec
import EventTickets.Text.Blank
import EventTickets.Text.Integer
import EventTickets.Time.Rfc3339
import EventTickets.Uuid

/-!
# Identifiers

Orders, tickets, products and promo codes have UUIDs of their own; events and users have the
positive numbers that the surrounding platform gave them. Each kind is a type, so none can stand for
another. Rows are kept in the order of `rank`, which tells any two identifiers of a kind apart.
-/

namespace EventTickets

class Ranked (κ : Type) where
  rank : κ → Int
  rank_injective : ∀ a b, rank a = rank b → a = b

inductive UuidKind where
  | order
  | ticket
  | product
  | promoCode

structure UuidId (kind : UuidKind) where
  uuid : Uuid
  deriving DecidableEq

namespace UuidId

variable {kind : UuidKind}

def text (id : UuidId kind) : String := id.uuid.text

def ofText? (s : String) : Option (UuidId kind) := (Uuid.ofText? (Text.trim s)).map .mk

instance : Ranked (UuidId kind) where
  rank id := id.uuid.bits.toNat
  rank_injective := by
    rintro ⟨⟨a⟩⟩ ⟨⟨b⟩⟩ h
    exact congrArg (fun bits => UuidId.mk (.mk bits)) (BitVec.eq_of_toNat_eq (Int.ofNat.inj h))

instance : Encode (UuidId kind) := ⟨fun id => .str id.text⟩

instance : Decode (UuidId kind) where
  decode?
    | .str s => (Uuid.ofText? s).map .mk
    | _ => none

end UuidId

inductive NumberKind where
  | event
  | user

structure NumberId (kind : NumberKind) where
  number : Int64
  deriving DecidableEq

namespace NumberId

variable {kind : NumberKind}

/-- Whether the platform can have issued the identifier. -/
def isValid (id : NumberId kind) : Bool := 0 < id.number

def text (id : NumberId kind) : String := toString id.number.toInt

def ofText (s : String) : Except Text.IntegerError (NumberId kind) :=
  (Text.int64 (Text.trim s)).map .mk

instance : Ranked (NumberId kind) where
  rank id := id.number.toInt
  rank_injective := by
    rintro ⟨a⟩ ⟨b⟩ h
    exact congrArg _ (Int64.toInt_inj.mp h)

instance : Encode (NumberId kind) := ⟨fun id => encode id.number⟩

instance : Decode (NumberId kind) := ⟨fun j => (decode? j).map .mk⟩

end NumberId

abbrev OrderId := UuidId .order

abbrev TicketId := UuidId .ticket

/-- Ticket and transfer products share one kind of identifier. -/
abbrev ProductId := UuidId .product

abbrev PromoCodeId := UuidId .promoCode

abbrev EventId := NumberId .event

abbrev UserId := NumberId .user

abbrev OperatorId := UserId

open Time (Instant)

instance : Encode Instant := ⟨fun t => .str t.text⟩

instance : Decode Instant where
  decode?
    | .str s => Instant.ofText? s
    | _ => none

end EventTickets
