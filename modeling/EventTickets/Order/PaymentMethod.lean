import EventTickets.Json.Codec
import EventTickets.Text.Blank

/-!
# Payment methods

A bank transfer to a phone number, a stablecoin transfer, or a printed payment code. All are checked
by hand.
-/

namespace EventTickets

inductive PaymentMethod where
  | phone
  | usdt
  | paymentQr
  deriving DecidableEq

namespace PaymentMethod

def all : List PaymentMethod := [.phone, .usdt, .paymentQr]

def name : PaymentMethod → String
  | .phone => "PHONE"
  | .usdt => "USDT"
  | .paymentQr => "PAYMENT_QR"

def ofName? (s : String) : Option PaymentMethod := all.find? (·.name == s)

def parse? (raw : String) : Option PaymentMethod := ofName? (Text.normalizeToken raw)

instance : Encode PaymentMethod := ⟨fun k => .str k.name⟩

instance : Decode PaymentMethod := ⟨fun j => (alternative? j).bind ofName?⟩

end PaymentMethod

end EventTickets
