import EventTickets.Order.Record

/-!
# Delivery

Once an order is confirmed its tickets go to the purchaser through a channel. What a channel does
with them is its own business; all that comes back is whether it took them.
-/

namespace EventTickets

/-- A channel works on some state of its own and may refuse with a reason. -/
abbrev Channel (σ : Type) := Purchaser → OrderDetail → StateM σ (Except String Unit)

structure Handover where
  userId : UserId
  orderId : OrderId
  tickets : Nat
  deriving DecidableEq

instance : Encode Handover where
  encode h := .arr [encode h.userId, encode h.orderId, encode h.tickets]

namespace Channel

def record : Channel (List Handover) := fun purchaser detail sent =>
  (.ok (), sent ++ [⟨purchaser.userId, detail.order.id, detail.tickets.length⟩])

def failing {σ : Type} (reason : String) : Channel σ := fun _ _ => pure (.error reason)

/-- Leaves the tickets to whoever reads the log, if the purchaser can be reached at all. -/
def log {σ : Type} : Channel σ := fun purchaser _ =>
  match purchaser.messengerId with
  | some _ => pure (.ok ())
  | none => pure (.error ("user " ++ purchaser.userId.text ++ " has no messenger account"))

end Channel

inductive DeliveryOutcome where
  | delivered
  | noRecipient
  | failed (reason : String)
  deriving DecidableEq

namespace DeliveryOutcome

instance : Encode DeliveryOutcome where
  encode
    | .delivered => .obj [("status", .str "delivered")]
    | .noRecipient => .obj [("status", .str "no_recipient")]
    | .failed reason => .obj [("status", .str "failed"), ("detail", .str reason)]

end DeliveryOutcome

end EventTickets
