import EventTickets.Store.Lock

/-!
# Store errors

A store fails because a statement failed, because a stored row is none of ours, or because a
transaction asked for a lock that it had to take earlier.
-/

namespace EventTickets

inductive StoreError where
  | database (detail : String)
  | decode (entity detail : String)
  | lockOrder (held requested : LockStage)
  deriving DecidableEq

namespace StoreError

def code : StoreError → String
  | .database _ => "database"
  | .decode _ _ => "decode"
  | .lockOrder _ _ => "lock_order"

def message : StoreError → String
  | .database detail => "database error: " ++ detail
  | .decode entity detail => "failed to decode " ++ entity ++ ": " ++ detail
  | .lockOrder held requested =>
    "lock order violation: " ++ requested.name ++ " requested while holding " ++ held.name

end StoreError

end EventTickets
