import EventTickets.Json.Codec
import EventTickets.Text.Blank

/-!
# Order status

An order waits for payment, is paid, and ends canceled or with all its tickets redeemed.
-/

namespace EventTickets

inductive OrderStatus where
  | pending
  | paid
  | canceled
  | redeemed
  deriving DecidableEq

namespace OrderStatus

def all : List OrderStatus := [.pending, .paid, .canceled, .redeemed]

def name : OrderStatus → String
  | .pending => "PENDING"
  | .paid => "PAID"
  | .canceled => "CANCELED"
  | .redeemed => "REDEEMED"

/-- A paid order may also be called confirmed, but is never written so. -/
def ofName? (s : String) : Option OrderStatus :=
  if s = "CONFIRMED" then some .paid else all.find? (·.name == s)

def parse? (raw : String) : Option OrderStatus := ofName? (Text.normalizeToken raw)

/-- Whether the order counts as sold. -/
def isPurchased : OrderStatus → Bool
  | .paid => true
  | .redeemed => true
  | _ => false

def isTerminal : OrderStatus → Bool
  | .canceled => true
  | .redeemed => true
  | _ => false

instance : Encode OrderStatus := ⟨fun k => .str k.name⟩

instance : Decode OrderStatus := ⟨fun j => (alternative? j).bind ofName?⟩

end OrderStatus

end EventTickets
