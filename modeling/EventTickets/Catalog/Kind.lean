import EventTickets.Json.Codec
import EventTickets.Text.Blank

/-!
# Kinds of product

Ticket tiers, directions of transport, and which of the two a line of an order is about. A kind is
written under its upper-case name; `parse?` also takes other spellings of the name.
-/

namespace EventTickets

inductive TicketType where
  | single
  | group2
  | group10
  deriving DecidableEq

namespace TicketType

def all : List TicketType := [.single, .group2, .group10]

def name : TicketType → String
  | .single => "SINGLE"
  | .group2 => "GROUP2"
  | .group10 => "GROUP10"

def ofName? (s : String) : Option TicketType := all.find? (·.name == s)

def parse? (raw : String) : Option TicketType := ofName? (Text.normalizeToken raw)

/-- How many people one ticket of the tier admits. -/
def groupSize : TicketType → UInt32
  | .single => 1
  | .group2 => 2
  | .group10 => 10

instance : Encode TicketType := ⟨fun k => .str k.name⟩

instance : Decode TicketType := ⟨fun j => (alternative? j).bind ofName?⟩

end TicketType

inductive TransferDirection where
  | there
  | back
  | roundtrip
  deriving DecidableEq

namespace TransferDirection

def all : List TransferDirection := [.there, .back, .roundtrip]

def name : TransferDirection → String
  | .there => "THERE"
  | .back => "BACK"
  | .roundtrip => "ROUNDTRIP"

def ofName? (s : String) : Option TransferDirection := all.find? (·.name == s)

def parse? (raw : String) : Option TransferDirection := ofName? (Text.normalizeToken raw)

instance : Encode TransferDirection := ⟨fun k => .str k.name⟩

instance : Decode TransferDirection := ⟨fun j => (alternative? j).bind ofName?⟩

end TransferDirection

inductive ItemType where
  | ticket
  | transfer
  deriving DecidableEq

namespace ItemType

def all : List ItemType := [.ticket, .transfer]

def name : ItemType → String
  | .ticket => "TICKET"
  | .transfer => "TRANSFER"

def ofName? (s : String) : Option ItemType := all.find? (·.name == s)

def parse? (raw : String) : Option ItemType := ofName? (Text.normalizeToken raw)

instance : Encode ItemType := ⟨fun k => .str k.name⟩

instance : Decode ItemType := ⟨fun j => (alternative? j).bind ofName?⟩

end ItemType

end EventTickets
