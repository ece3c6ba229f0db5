import EventTickets.CommandLine.Tree
import EventTickets.Order.Query

/-!
# Commands of the operator

What an operator can ask for on the command line. Whoever acts on an order says who they are, by an
option or by a variable.
-/

namespace EventTickets.Operator

open CommandLine
open Time (Instant)

inductive Command where
  | migrate
  | confirm (order : OrderId) (operator : OperatorId) (deliver : Bool)
  | cancel (order : OrderId) (operator : OperatorId) (reason : Option String)
  | redeem (ticket : TicketId) (operator : OperatorId) (token : Option String)
  | stats (event : Option EventId)
  | promoCheck (event : EventId) (code : String) (subtotalCents : Int64)
  | products (event : EventId)
  | listOrders (query : OrderQuery)
  | showOrder (order : OrderId) (withPurchaser : Bool)
  | userOrders (user : UserId) (event : Option EventId) (limit offset : UInt32)
  deriving DecidableEq

namespace Command

def order? (text : String) : Option OrderId := UuidId.ofText? text

def ticket? (text : String) : Option TicketId := UuidId.ofText? text

def event? (text : String) : Option EventId := (NumberId.ofText text).toOption

def user? (text : String) : Option UserId := (NumberId.ofText text).toOption

def cents? (text : String) : Option Int64 := (Text.int64 text).toOption

def count? (text : String) : Option UInt32 := do
  let n ← (Text.int64 text).toOption
  if 0 ≤ n.toInt ∧ n.toInt ≤ 0xFFFFFFFF then some (UInt32.ofNat n.toInt.toNat) else none

def operator : Parameter := ((Parameter.option "admin" user?).required).orVariable
    "BOXOFFICE_ADMIN_ID"

def pageOptions : List Parameter := [.option "limit" count?, .option "offset" count?]

def limitOf (a : Arguments) : UInt32 := (a.value? "limit" count?).getD OrderQuery.defaultLimit

def offsetOf (a : Arguments) : UInt32 := (a.value? "offset" count?).getD 0

def orders : CommandTree Command := .group [
  ("list", .command
    ([.option "event" event?, .option "status" OrderStatus.parse?, .option "from" Instant.ofText?,
      .option "to" Instant.ofText?] ++ pageOptions)
    fun a => return .listOrders {
      eventId := a.value? "event" event?,
      status := a.value? "status" OrderStatus.parse?,
      start := a.value? "from" Instant.ofText?,
      stop := a.value? "to" Instant.ofText?,
      limit := limitOf a,
      offset := offsetOf a }),
  ("show", .command [.argument "order" order?, .flag "purchaser"]
    fun a => return .showOrder (← a.value "order" order?) (a.has "purchaser")),
  ("user", .command ([.argument "user" user?, .option "event" event?] ++ pageOptions)
    fun a =>
      return .userOrders (← a.value "user" user?) (a.value? "event" event?)
        (limitOf a) (offsetOf a))]

def tree : CommandTree Command := .group [
  ("migrate", .command [] fun _ => return .migrate),
  ("confirm", .command [.argument "order" order?, operator, .flag "deliver"]
    fun a =>
      return .confirm (← a.value "order" order?) (← a.value "admin" user?) (a.has "deliver")),
  ("cancel", .command [.argument "order" order?, operator, .option "reason" some]
    fun a =>
      return .cancel (← a.value "order" order?) (← a.value "admin" user?) (a.value? "reason" some)),
  ("redeem", .command [.argument "ticket" ticket?, operator, .option "token" some]
    fun a =>
      return .redeem (← a.value "ticket" ticket?) (← a.value "admin" user?)
        (a.value? "token" some)),
  ("stats", .command [.option "event" event?] fun a => return .stats (a.value? "event" event?)),
  ("promo-check", .command
    [(Parameter.option "event" event?).required, (Parameter.option "code" some).required,
      (Parameter.option "subtotal" cents?).required]
    fun a =>
      return .promoCheck (← a.value "event" event?) (← a.value "code" some)
        (← a.value "subtotal" cents?)),
  ("products", .command [.argument "event" event?] fun a =>
    return .products (← a.value "event" event?)),
  ("orders", orders)]

def parse (vars : List (String × String)) (words : List String) : Except UsageError Command :=
  tree.parse vars words

end Command

end EventTickets.Operator
