import EventTickets.Service.Request

/-!
# Catalog administration

Entries are checked before the store sees them. What a patch says is checked by itself, and an entry
that is not there is an error.
-/

namespace EventTickets

def listTicketProducts (filter : ProductFilter) : Service (List TicketProduct) :=
  Service.store (.listTicketProducts filter)

def createTicketProduct (createdBy : UserId) (input : TicketProductInput) :
    Service TicketProduct := do
  let draft ← liftExcept (input.intoDraft (some createdBy))
  Service.store (.createTicketProduct draft)

def updateTicketProduct (id : ProductId) (patch : TicketProductPatch) : Service TicketProduct := do
  if let some price := patch.priceCents then liftExcept (Catalog.checkPrice price)
  Service.demand (.productNotFound id) (← Service.store (.updateTicketProduct id patch))

def deleteTicketProduct (id : ProductId) : Service Unit := do
  Service.require (.productNotFound id) (← Service.store (.deleteTicketProduct id))

def listTransferProducts (filter : ProductFilter) : Service (List TransferProduct) :=
  Service.store (.listTransferProducts filter)

def createTransferProduct (createdBy : UserId) (input : TransferProductInput) :
    Service TransferProduct := do
  let draft ← liftExcept (input.intoDraft (some createdBy))
  Service.store (.createTransferProduct draft)

def updateTransferProduct (id : ProductId) (patch : TransferProductPatch) :
    Service TransferProduct := do
  if let some price := patch.priceCents then liftExcept (Catalog.checkPrice price)
  Service.demand (.productNotFound id) (← Service.store (.updateTransferProduct id patch))

def deleteTransferProduct (id : ProductId) : Service Unit := do
  Service.require (.productNotFound id) (← Service.store (.deleteTransferProduct id))

def listPromoCodes (filter : ProductFilter) : Service (List PromoCode) :=
  Service.store (.listPromoCodes filter)

def createPromoCode (createdBy : UserId) (input : PromoCodeInput) : Service PromoCode := do
  let draft ← liftExcept (input.intoDraft (some createdBy))
  Service.store (.createPromoCode draft)

def updatePromoCode (id : PromoCodeId) (patch : PromoCodePatch) : Service PromoCode := do
  if let some kind := patch.discountType then
    let _ ← liftExcept (Catalog.supportedDiscount kind)
  liftExcept (Catalog.checkWindow patch.activeFrom patch.activeTo)
  Service.demand (.promoCodeNotFound id) (← Service.store (.updatePromoCode id patch))

def deletePromoCode (id : PromoCodeId) : Service Unit := do
  Service.require (.promoCodeNotFound id) (← Service.store (.deletePromoCode id))

def purchasableProducts (event : EventId) : Service PurchasableProducts := do
  let tickets ← Service.store (.listTicketProducts (.purchasable event))
  let transfers ← Service.store (.listTransferProducts (.purchasable event))
  return ⟨tickets, transfers⟩

end EventTickets
