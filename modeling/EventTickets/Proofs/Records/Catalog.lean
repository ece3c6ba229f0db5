import EventTickets.Catalog.Draft
import EventTickets.Catalog.Filter
import EventTickets.Proofs.Json.Schema
import EventTickets.Proofs.Records.Parts

/-!
# Catalog records

Products, promo codes, what is asked for when they are created, and how they are listed, component
by component.
-/

namespace EventTickets

open Schema Component

namespace TicketProduct

def schema : Schema TicketProduct :=
  next (required "id") id fun id =>
  next (required "eventId") eventId fun eventId =>
  next (required "name") name fun name =>
  next (required "type") ticketType fun ticketType =>
  next (required "priceCents") priceCents fun priceCents =>
  next (optional "inventoryLimit") inventoryLimit fun inventoryLimit =>
  next (required "soldCount") soldCount fun soldCount =>
  next (required "isActive") isActive fun isActive =>
  next (optional "createdBy") createdBy fun createdBy =>
  next (required "createdAt") createdAt fun createdAt =>
  next (required "updatedAt") updatedAt fun updatedAt =>
  done ⟨id, eventId, name, ticketType, priceCents, inventoryLimit, soldCount, isActive,
    createdBy, createdAt, updatedAt⟩

theorem schema_describes : schema.Describes fieldNames where
  encode_eq _ := rfl
  decode?_eq _ := rfl
  agrees := by simp [schema, Agrees]
  names_eq _ := rfl
  nodup := by decide

instance : TwoWay TicketProduct := schema_describes.twoWay

instance : Bounded TicketProduct := schema_describes.bounded fun _ => rfl

end TicketProduct

namespace TransferProduct

def schema : Schema TransferProduct :=
  next (required "id") id fun id =>
  next (required "eventId") eventId fun eventId =>
  next (required "name") name fun name =>
  next (required "direction") direction fun direction =>
  next (required "priceCents") priceCents fun priceCents =>
  next (required "info") info fun info =>
  next (optional "inventoryLimit") inventoryLimit fun inventoryLimit =>
  next (required "soldCount") soldCount fun soldCount =>
  next (required "isActive") isActive fun isActive =>
  next (optional "createdBy") createdBy fun createdBy =>
  next (required "createdAt") createdAt fun createdAt =>
  next (required "updatedAt") updatedAt fun updatedAt =>
  done ⟨id, eventId, name, direction, priceCents, info, inventoryLimit, soldCount, isActive,
    createdBy, createdAt, updatedAt⟩

theorem schema_describes : schema.Describes fieldNames where
  encode_eq _ := rfl
  decode?_eq _ := rfl
  agrees := by simp [schema, Agrees]
  names_eq _ := rfl
  nodup := by decide

instance : TwoWay TransferProduct := schema_describes.twoWay

instance : Bounded TransferProduct := schema_describes.bounded fun _ => rfl

end TransferProduct

namespace PurchasableProducts

def schema : Schema PurchasableProducts :=
  next (required "tickets") tickets fun tickets =>
  next (required "transfers") transfers fun transfers =>
  done ⟨tickets, transfers⟩

theorem schema_describes : schema.Describes fieldNames where
  encode_eq _ := rfl
  decode?_eq _ := rfl
  agrees := by simp [schema, Agrees]
  names_eq _ := rfl
  nodup := by decide

instance : TwoWay PurchasableProducts := schema_describes.twoWay

instance : Bounded PurchasableProducts := schema_describes.bounded fun _ => rfl

end PurchasableProducts

namespace ProductFilter

def schema : Schema ProductFilter :=
  next (optional "eventId") eventId fun eventId =>
  next (optional "active") active fun active =>
  done ⟨eventId, active⟩

theorem schema_describes : schema.Describes fieldNames where
  encode_eq _ := rfl
  decode?_eq _ := rfl
  agrees := by simp [schema, Agrees]
  names_eq _ := rfl
  nodup := by decide

instance : TwoWay ProductFilter := schema_describes.twoWay

instance : Bounded ProductFilter := schema_describes.bounded fun _ => rfl

end ProductFilter

namespace PromoCode

def schema : Schema PromoCode :=
  next (required "id") id fun id =>
  next (required "code") code fun code =>
  next (required "discountType") discountType fun discountType =>
  next (required "value") value fun value =>
  next (optional "usageLimit") usageLimit fun usageLimit =>
  next (required "usedCount") usedCount fun usedCount =>
  next (optional "activeFrom") activeFrom fun activeFrom =>
  next (optional "activeTo") activeTo fun activeTo =>
  next (optional "eventId") eventId fun eventId =>
  next (required "isActive") isActive fun isActive =>
  next (optional "createdBy") createdBy fun createdBy =>
  next (required "createdAt") createdAt fun createdAt =>
  next (required "updatedAt") updatedAt fun updatedAt =>
  done ⟨id, code, discountType, value, usageLimit, usedCount, activeFrom, activeTo, eventId,
    isActive, createdBy, createdAt, updatedAt⟩

theorem schema_describes : schema.Describes fieldNames where
  encode_eq _ := rfl
  decode?_eq _ := rfl
  agrees := by simp [schema, Agrees]
  names_eq _ := rfl
  nodup := by decide

instance : TwoWay PromoCode := schema_describes.twoWay

instance : Bounded PromoCode := schema_describes.bounded fun _ => rfl

end PromoCode

namespace PromoValidation

def schema : Schema PromoValidation :=
  next (required "valid") valid fun valid =>
  next (required "discountCents") discountCents fun discountCents =>
  next (required "totalCents") totalCents fun totalCents =>
  next (optional "reason") reason fun reason =>
  done ⟨valid, discountCents, totalCents, reason⟩

theorem schema_describes : schema.Describes fieldNames where
  encode_eq _ := rfl
  decode?_eq _ := rfl
  agrees := by simp [schema, Agrees]
  names_eq _ := rfl
  nodup := by decide

instance : TwoWay PromoValidation := schema_describes.twoWay

instance : Bounded PromoValidation := schema_describes.bounded fun _ => rfl

end PromoValidation

namespace TicketProductInput

def schema : Schema TicketProductInput :=
  next (required "eventId") eventId fun eventId =>
  next (defaulted "name" "" isDefault_empty) name fun name =>
  next (required "type") ticketType fun ticketType =>
  next (required "priceCents") priceCents fun priceCents =>
  next (optional "inventoryLimit") inventoryLimit fun inventoryLimit =>
  next (optional "isActive") isActive fun isActive =>
  done ⟨eventId, name, ticketType, priceCents, inventoryLimit, isActive⟩

theorem schema_describes : schema.Describes fieldNames where
  encode_eq _ := rfl
  decode?_eq _ := rfl
  agrees := by simp [schema, Agrees]
  names_eq _ := rfl
  nodup := by decide

instance : TwoWay TicketProductInput := schema_describes.twoWay

instance : Bounded TicketProductInput := schema_describes.bounded fun _ => rfl

end TicketProductInput

namespace TransferProductInput

def schema : Schema TransferProductInput :=
  next (required "eventId") eventId fun eventId =>
  next (defaulted "name" "" isDefault_empty) name fun name =>
  next (required "direction") direction fun direction =>
  next (required "priceCents") priceCents fun priceCents =>
  next (defaulted "info" [] isDefault_noFields) info fun info =>
  next (optional "inventoryLimit") inventoryLimit fun inventoryLimit =>
  next (optional "isActive") isActive fun isActive =>
  done ⟨eventId, name, direction, priceCents, info, inventoryLimit, isActive⟩

theorem schema_describes : schema.Describes fieldNames where
  encode_eq _ := rfl
  decode?_eq _ := rfl
  agrees := by simp [schema, Agrees]
  names_eq _ := rfl
  nodup := by decide

instance : TwoWay TransferProductInput := schema_describes.twoWay

end TransferProductInput

namespace PromoCodeInput

def schema : Schema PromoCodeInput :=
  next (required "code") code fun code =>
  next (required "discountType") discountType fun discountType =>
  next (required "value") value fun value =>
  next (optional "usageLimit") usageLimit fun usageLimit =>
  next (optional "activeFrom") activeFrom fun activeFrom =>
  next (optional "activeTo") activeTo fun activeTo =>
  next (optional "eventId") eventId fun eventId =>
  next (optional "isActive") isActive fun isActive =>
  done ⟨code, discountType, value, usageLimit, activeFrom, activeTo, eventId, isActive⟩

theorem schema_describes : schema.Describes fieldNames where
  encode_eq _ := rfl
  decode?_eq _ := rfl
  agrees := by simp [schema, Agrees]
  names_eq _ := rfl
  nodup := by decide

instance : TwoWay PromoCodeInput := schema_describes.twoWay

instance : Bounded PromoCodeInput := schema_describes.bounded fun _ => rfl

end PromoCodeInput

end EventTickets
