import EventTickets.Order.Record

/-!
# Samples

An event, its buyer and an operator for rehearsals and examples.
-/

namespace EventTickets

namespace Sample

def event : EventId := ⟨1⟩

def eventTitle : String := "Summer Festival"

def operator : OperatorId := ⟨900⟩

def buyer : Purchaser where
  userId := ⟨7⟩
  messengerId := some 7000
  firstName := "Ada"
  lastName := "Lovelace"
  username := "user7"

def secretText : String := "test-ticket-secret"

def time : Time.Instant := ⟨1735689600, 0⟩

end Sample

end EventTickets
