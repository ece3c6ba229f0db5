import EventTickets.Order.Basket
import EventTickets.Proofs.Json.Schema
import EventTickets.Proofs.Records.Parts
import EventTickets.Ticket.Claims

/-!
# Order records

Orders with their lines, tickets and purchasers, the request for one, the claims of a token and the
sales figures, component by component.
-/

namespace EventTickets

open Schema Component

namespace ProductSelection

def schema : Schema ProductSelection :=
  next (required "productId") productId fun productId =>
  next (required "quantity") quantity fun quantity =>
  done ⟨productId, quantity⟩

theorem schema_describes : schema.Describes fieldNames where
  encode_eq _ := rfl
  decode?_eq _ := rfl
  agrees := by simp [schema, Agrees]
  names_eq _ := rfl
  nodup := by decide

instance : TwoWay ProductSelection := schema_describes.twoWay

instance : Bounded ProductSelection := schema_describes.bounded fun _ => rfl

end ProductSelection

namespace CreateOrderRequest

def schema : Schema CreateOrderRequest :=
  next (required "userId") userId fun userId =>
  next (required "eventId") eventId fun eventId =>
  next (required "paymentMethod") paymentMethod fun paymentMethod =>
  next (defaulted "paymentReference" none isDefault_none) paymentReference fun paymentReference =>
  next (required "ticketItems") ticketItems fun ticketItems =>
  next (defaulted "transferItems" [] isDefault_nil) transferItems fun transferItems =>
  next (defaulted "promoCode" none isDefault_none) promoCode fun promoCode =>
  done ⟨userId, eventId, paymentMethod, paymentReference, ticketItems, transferItems, promoCode⟩

theorem schema_describes : schema.Describes fieldNames where
  encode_eq _ := rfl
  decode?_eq _ := rfl
  agrees := by simp [schema, Agrees]
  names_eq _ := rfl
  nodup := by decide

instance : TwoWay CreateOrderRequest := schema_describes.twoWay

end CreateOrderRequest

namespace Order

def schema : Schema Order :=
  next (required "id") id fun id =>
  next (required "userId") userId fun userId =>
  next (required "eventId") eventId fun eventId =>
  next (nonEmpty "eventTitle") eventTitle fun eventTitle =>
  next (required "status") status fun status =>
  next (required "paymentMethod") paymentMethod fun paymentMethod =>
  next (optional "paymentReference") paymentReference fun paymentReference =>
  next (optional "paymentNotes") paymentNotes fun paymentNotes =>
  next (optional "promoCodeId") promoCodeId fun promoCodeId =>
  next (required "subtotalCents") subtotalCents fun subtotalCents =>
  next (required "discountCents") discountCents fun discountCents =>
  next (required "totalCents") totalCents fun totalCents =>
  next (required "currency") currency fun currency =>
  next (optional "confirmedAt") confirmedAt fun confirmedAt =>
  next (optional "confirmedBy") confirmedBy fun confirmedBy =>
  next (optional "canceledAt") canceledAt fun canceledAt =>
  next (optional "canceledBy") canceledBy fun canceledBy =>
  next (optional "canceledReason") canceledReason fun canceledReason =>
  next (optional "redeemedAt") redeemedAt fun redeemedAt =>
  next (required "createdAt") createdAt fun createdAt =>
  next (required "updatedAt") updatedAt fun updatedAt =>
  done ⟨id, userId, eventId, eventTitle, status, paymentMethod, paymentReference,
    paymentNotes, promoCodeId, subtotalCents, discountCents, totalCents, currency, confirmedAt,
    confirmedBy, canceledAt, canceledBy, canceledReason, redeemedAt, createdAt, updatedAt⟩

theorem schema_describes : schema.Describes fieldNames where
  encode_eq _ := rfl
  decode?_eq _ := rfl
  agrees := by simp [schema, Agrees]
  names_eq _ := rfl
  nodup := by decide

instance : TwoWay Order := schema_describes.twoWay

instance : Bounded Order := schema_describes.bounded fun _ => rfl

end Order

namespace OrderItem

def schema : Schema OrderItem :=
  next (required "id") id fun id =>
  next (required "orderId") orderId fun orderId =>
  next (required "itemType") itemType fun itemType =>
  next (required "productId") productId fun productId =>
  next (required "productRef") productRef fun productRef =>
  next (required "quantity") quantity fun quantity =>
  next (required "unitPriceCents") unitPriceCents fun unitPriceCents =>
  next (required "lineTotalCents") lineTotalCents fun lineTotalCents =>
  next (required "meta") details fun details =>
  next (required "createdAt") createdAt fun createdAt =>
  done ⟨id, orderId, itemType, productId, productRef, quantity, unitPriceCents,
    lineTotalCents, details, createdAt⟩

theorem schema_describes : schema.Describes fieldNames where
  encode_eq _ := rfl
  decode?_eq _ := rfl
  agrees := by simp [schema, Agrees]
  names_eq _ := rfl
  nodup := by decide

instance : TwoWay OrderItem := schema_describes.twoWay

instance : Bounded OrderItem := schema_describes.bounded fun _ => rfl

end OrderItem

namespace Ticket

def schema : Schema Ticket :=
  next (required "id") id fun id =>
  next (required "orderId") orderId fun orderId =>
  next (present "orderStatus") orderStatus fun orderStatus =>
  next (required "userId") userId fun userId =>
  next (required "eventId") eventId fun eventId =>
  next (required "ticketType") ticketType fun ticketType =>
  next (required "quantity") quantity fun quantity =>
  next (optional "qrPayload") qrPayload fun qrPayload =>
  next (optional "qrPayloadHash") qrPayloadHash fun qrPayloadHash =>
  next (optional "qrIssuedAt") qrIssuedAt fun qrIssuedAt =>
  next (optional "redeemedAt") redeemedAt fun redeemedAt =>
  next (optional "redeemedBy") redeemedBy fun redeemedBy =>
  next (required "createdAt") createdAt fun createdAt =>
  done ⟨id, orderId, orderStatus, userId, eventId, ticketType, quantity, qrPayload,
    qrPayloadHash, qrIssuedAt, redeemedAt, redeemedBy, createdAt⟩

theorem schema_describes : schema.Describes fieldNames where
  encode_eq _ := rfl
  decode?_eq _ := rfl
  agrees := by simp [schema, Agrees]
  names_eq _ := rfl
  nodup := by decide

instance : TwoWay Ticket := schema_describes.twoWay

instance : Bounded Ticket := schema_describes.bounded fun _ => rfl

end Ticket

namespace Purchaser

def schema : Schema Purchaser :=
  next (required "userId") userId fun userId =>
  next (optional "messengerId") messengerId fun messengerId =>
  next (required "firstName") firstName fun firstName =>
  next (required "lastName") lastName fun lastName =>
  next (required "username") username fun username =>
  done ⟨userId, messengerId, firstName, lastName, username⟩

theorem schema_describes : schema.Describes fieldNames where
  encode_eq _ := rfl
  decode?_eq _ := rfl
  agrees := by simp [schema, Agrees]
  names_eq _ := rfl
  nodup := by decide

instance : TwoWay Purchaser := schema_describes.twoWay

instance : Bounded Purchaser := schema_describes.bounded fun _ => rfl

instance : NullFree Purchaser := schema_describes.nullFree

end Purchaser

namespace OrderDetail

def schema : Schema OrderDetail :=
  next (required "order") order fun order =>
  next (present "purchaser") purchaser fun purchaser =>
  next (required "items") items fun items =>
  next (required "tickets") tickets fun tickets =>
  done ⟨order, purchaser, items, tickets⟩

theorem schema_describes : schema.Describes fieldNames where
  encode_eq _ := rfl
  decode?_eq _ := rfl
  agrees := by simp [schema, Agrees]
  names_eq _ := rfl
  nodup := by decide

instance : TwoWay OrderDetail := schema_describes.twoWay

instance : Bounded OrderDetail := schema_describes.bounded fun _ => rfl

end OrderDetail

namespace OrderSummary

def schema : Schema OrderSummary :=
  next (required "order") order fun order =>
  next (optional "purchaser") purchaser fun purchaser =>
  done ⟨order, purchaser⟩

theorem schema_describes : schema.Describes fieldNames where
  encode_eq _ := rfl
  decode?_eq _ := rfl
  agrees := by simp [schema, Agrees]
  names_eq _ := rfl
  nodup := by decide

instance : TwoWay OrderSummary := schema_describes.twoWay

instance : Bounded OrderSummary := schema_describes.bounded fun _ => rfl

end OrderSummary

namespace Page

variable {α : Type} [Encode α] [Decode α] [TwoWay α] [Bounded α]

def schema : Schema (Page α) :=
  next (required "items") items fun items =>
  next (required "total") total fun total =>
  done ⟨items, total⟩

theorem schema_describes : (schema : Schema (Page α)).Describes ["items", "total"] where
  encode_eq _ := rfl
  decode?_eq _ := rfl
  agrees := by simp [schema, Agrees]
  names_eq _ := rfl
  nodup := by decide

instance : TwoWay (Page α) := schema_describes.twoWay

instance : Bounded (Page α) := schema_describes.bounded fun _ => rfl

end Page

namespace Claims

def schema : Schema Claims :=
  next (required "ticketId") ticketId fun ticketId =>
  next (required "eventId") eventId fun eventId =>
  next (required "userId") userId fun userId =>
  next (required "ticketType") ticketType fun ticketType =>
  next (required "quantity") quantity fun quantity =>
  next (required "nonce") nonce fun nonce =>
  next (required "issuedAt") issuedAt fun issuedAt =>
  done ⟨ticketId, eventId, userId, ticketType, quantity, nonce, issuedAt⟩

theorem schema_describes : schema.Describes fieldNames where
  encode_eq _ := rfl
  decode?_eq _ := rfl
  agrees := by simp [schema, Agrees]
  names_eq _ := rfl
  nodup := by decide

instance : TwoWay Claims := schema_describes.twoWay

instance : Bounded Claims := schema_describes.bounded fun _ => rfl

end Claims

namespace StatsBucket

def schema : Schema StatsBucket :=
  next (present "eventId") eventId fun eventId =>
  next (nonEmpty "eventTitle") eventTitle fun eventTitle =>
  next (required "purchasedAmountCents") purchasedAmountCents fun purchasedAmountCents =>
  next (required "redeemedAmountCents") redeemedAmountCents fun redeemedAmountCents =>
  next (required "ticketTypeCounts") ticketTypeCounts fun ticketTypeCounts =>
  next (required "transferDirectionCounts") transferDirectionCounts fun transferDirectionCounts =>
  next (required "checkedInTickets") checkedInTickets fun checkedInTickets =>
  next (required "checkedInPeople") checkedInPeople fun checkedInPeople =>
  done ⟨eventId, eventTitle, purchasedAmountCents, redeemedAmountCents, ticketTypeCounts,
    transferDirectionCounts, checkedInTickets, checkedInPeople⟩

theorem schema_describes : schema.Describes fieldNames where
  encode_eq _ := congrArg Json.obj (List.append_assoc _ _ _)
  decode?_eq _ := rfl
  agrees := by simp [schema, Agrees]
  names_eq _ := rfl
  nodup := by decide

instance : TwoWay StatsBucket := schema_describes.twoWay

instance : Bounded StatsBucket := schema_describes.bounded fun _ => rfl

end StatsBucket

namespace TicketStats

def schema : Schema TicketStats :=
  next (required "global") overall fun overall =>
  next (required "events") events fun events =>
  done ⟨overall, events⟩

theorem schema_describes : schema.Describes fieldNames where
  encode_eq _ := rfl
  decode?_eq _ := rfl
  agrees := by simp [schema, Agrees]
  names_eq _ := rfl
  nodup := by decide

instance : TwoWay TicketStats := schema_describes.twoWay

instance : Bounded TicketStats := schema_describes.bounded fun _ => rfl

end TicketStats

end EventTickets
