/-!
# Lock stages

The kinds of row a transaction locks, in the one order in which it may lock them.
-/

namespace EventTickets

inductive LockStage where
  | product
  | promo
  | order
  | orderItem
  | ticket
  deriving DecidableEq

namespace LockStage

def all : List LockStage := [.product, .promo, .order, .orderItem, .ticket]

def rank : LockStage → Nat
  | .product => 0
  | .promo => 1
  | .order => 2
  | .orderItem => 3
  | .ticket => 4

def name : LockStage → String
  | .product => "Product"
  | .promo => "Promo"
  | .order => "Order"
  | .orderItem => "OrderItem"
  | .ticket => "Ticket"

def ofName? (s : String) : Option LockStage := all.find? (·.name == s)

end LockStage

end EventTickets
