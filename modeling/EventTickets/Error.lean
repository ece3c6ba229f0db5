import EventTickets.Id
import EventTickets.Order.Status
import EventTickets.Promo.Verdict
import EventTickets.Store.Error
import EventTickets.Ticket.Token

/-!
# Errors of the ticket office

All but failures of the store and of signing are expected outcomes that a caller shows to somebody.
Any of them undoes the transaction in which it arises.
-/

namespace EventTickets

inductive TokenMismatch where
  | malformed (detail : String)
  | signature
  | field (name : String)
  | hash
  deriving DecidableEq

namespace TokenMismatch

def message : TokenMismatch → String
  | .malformed detail => "malformed token (" ++ detail ++ ")"
  | .signature => "bad signature"
  | .field name => name ++ " does not match"
  | .hash => "token was not issued for this ticket"

def ofTokenError : TokenError → TokenMismatch
  | .badSignature => .signature
  | e => .malformed e.message

end TokenMismatch

inductive ErrorClass where
  | invalidInput
  | notFound
  | conflict
  | internal
  deriving DecidableEq

namespace ErrorClass

def name : ErrorClass → String
  | .invalidInput => "InvalidInput"
  | .notFound => "NotFound"
  | .conflict => "Conflict"
  | .internal => "Internal"

def httpStatus : ErrorClass → Nat
  | .invalidInput => 400
  | .notFound => 404
  | .conflict => 409
  | .internal => 500

end ErrorClass

inductive TicketingError where
  | invalidProduct (detail : String)
  | promoInvalid (failure : PromoFailure)
  | tokenMismatch (mismatch : TokenMismatch)
  | orderNotFound (id : OrderId)
  | ticketNotFound (id : TicketId)
  | productNotFound (id : ProductId)
  | promoCodeNotFound (id : PromoCodeId)
  | orderStateNotAllowed (status : OrderStatus)
  | inventoryLimitReached (product : ProductId)
  | ticketAlreadyRedeemed (id : TicketId)
  | signing (error : TokenError)
  | store (error : StoreError)
  deriving DecidableEq

namespace TicketingError

def message : TicketingError → String
  | .invalidProduct detail => "invalid product: " ++ detail
  | .promoInvalid failure => "promo code rejected: " ++ failure.code
  | .tokenMismatch mismatch => "ticket QR mismatch: " ++ mismatch.message
  | .orderNotFound id => "order not found: " ++ id.text
  | .ticketNotFound id => "ticket not found: " ++ id.text
  | .productNotFound id => "product not found: " ++ id.text
  | .promoCodeNotFound id => "promo code not found: " ++ id.text
  | .orderStateNotAllowed status =>
    "order state " ++ status.name ++ " does not allow this operation"
  | .inventoryLimitReached product => "inventory limit reached for product " ++ product.text
  | .ticketAlreadyRedeemed id => "ticket already redeemed: " ++ id.text
  | .signing error => "ticket signing failed: " ++ error.message
  | .store error => error.message

def code : TicketingError → String
  | .invalidProduct _ => "invalid_product"
  | .promoInvalid _ => "promo_invalid"
  | .tokenMismatch _ => "ticket_qr_mismatch"
  | .orderNotFound _ => "order_not_found"
  | .ticketNotFound _ => "ticket_not_found"
  | .productNotFound _ => "product_not_found"
  | .promoCodeNotFound _ => "promo_code_not_found"
  | .orderStateNotAllowed _ => "order_state_not_allowed"
  | .inventoryLimitReached _ => "inventory_limit_reached"
  | .ticketAlreadyRedeemed _ => "ticket_already_redeemed"
  | .signing _ => "internal"
  | .store _ => "internal"

def errorClass : TicketingError → ErrorClass
  | .invalidProduct _ => .invalidInput
  | .promoInvalid _ => .invalidInput
  | .tokenMismatch _ => .invalidInput
  | .orderNotFound _ => .notFound
  | .ticketNotFound _ => .notFound
  | .productNotFound _ => .notFound
  | .promoCodeNotFound _ => .notFound
  | .orderStateNotAllowed _ => .conflict
  | .inventoryLimitReached _ => .conflict
  | .ticketAlreadyRedeemed _ => .conflict
  | .signing _ => .internal
  | .store _ => .internal

/-- Whether the error is an expected outcome. -/
def isBusiness (e : TicketingError) : Bool := e.errorClass ≠ .internal

end TicketingError

end EventTickets
