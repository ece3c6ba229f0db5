import EventTickets.Memory.Transaction
import EventTickets.Service.Request

/-!
# The store in memory

Committed tables and at most one open transaction on a copy of them. Committing puts the copy in
their place; a rollback throws it away. Catalog changes go straight to the committed tables and are
stamped by the clock.
-/

namespace EventTickets.Memory

open Time (Instant)

/-- The store with the sources and the delivery channel that its services use. -/
structure State (σ : Type) where
  sources : Sources
  committed : Tables
  transaction : Option Transaction
  channel : σ

namespace State

variable {σ : Type}

def start (sources : Sources) (channel : σ) : State σ := ⟨sources, .empty, none, channel⟩

def addEvent (s : State σ) (event : EventId) (title : String) : State σ :=
  { s with committed := { s.committed with events := s.committed.events.insert event title } }

def addUser (s : State σ) (user : Purchaser) : State σ :=
  { s with committed := { s.committed with users := s.committed.users.insert user.userId user } }

def sourced {α : Type} (draw : StateM Sources α) : StateM (State σ) α := fun s =>
  let (a, sources) := draw s.sources
  (a, { s with sources := sources })

def read {α : Type} (f : Tables → α) : StateM (State σ) (Except StoreError α) :=
  fun s => (.ok (f s.committed), s)

def change (f : Tables → Tables) : StateM (State σ) Unit := fun s => ((),
    { s with committed := f s.committed })

def commit : StateM (State σ) (Except StoreError Unit) := fun s =>
  match s.transaction with
  | some t => (.ok (), { s with committed := t.tables, transaction := none })
  | none => (.ok (), s)

def discard : StateM (State σ) (Except StoreError Unit) := fun s => (.ok (),
    { s with transaction := none })

def within (c : TransactionCall) : StateM (State σ) (Except StoreError c.Reply) := fun s =>
  match s.transaction with
  | some t =>
    let (reply, t) := Transaction.answer c t
    (reply, { s with transaction := some t })
  | none => (.error (.database "no transaction is open"), s)

def createTicketProduct (draft : TicketProductDraft) : StateM (State σ) TicketProduct := do
  let now ← sourced Sources.now
  let product := draft.product ⟨← sourced Sources.newId⟩ now
  change fun t => { t with ticketProducts := t.ticketProducts.insert product.id product }
  return product

def createTransferProduct (draft : TransferProductDraft) : StateM (State σ) TransferProduct := do
  let now ← sourced Sources.now
  let product := draft.product ⟨← sourced Sources.newId⟩ now
  change fun t => { t with transferProducts := t.transferProducts.insert product.id product }
  return product

def createPromoCode (draft : PromoCodeDraft) : StateM (State σ) (Except StoreError PromoCode) := do
  let now ← sourced Sources.now
  if ((← get).committed.promoByCode? draft.code).isSome then
    return .error (.database ("promo code " ++ draft.code ++ " already exists"))
  let promo := draft.promo ⟨← sourced Sources.newId⟩ now
  change fun t => { t with promoCodes := t.promoCodes.insert promo.id promo }
  return .ok promo

def updateTicketProduct (id : ProductId) (patch : TicketProductPatch) :
    StateM (State σ) (Option TicketProduct) := do
  let now ← sourced Sources.now
  change fun t => { t with ticketProducts := t.ticketProducts.modify id (patch.apply now) }
  return (← get).committed.ticketProducts.get? id

def updateTransferProduct (id : ProductId) (patch : TransferProductPatch) :
    StateM (State σ) (Option TransferProduct) := do
  let now ← sourced Sources.now
  change fun t => { t with transferProducts := t.transferProducts.modify id (patch.apply now) }
  return (← get).committed.transferProducts.get? id

def updatePromoCode (id : PromoCodeId) (patch : PromoCodePatch) :
    StateM (State σ) (Option PromoCode) := do
  let now ← sourced Sources.now
  change fun t => { t with promoCodes := t.promoCodes.modify id (patch.apply now) }
  return (← get).committed.promoCodes.get? id

def deleteTicketProduct (id : ProductId) : StateM (State σ) Bool := do
  let found := ((← get).committed.ticketProducts.get? id).isSome
  change fun t => { t with ticketProducts := t.ticketProducts.erase id }
  return found

def deleteTransferProduct (id : ProductId) : StateM (State σ) Bool := do
  let found := ((← get).committed.transferProducts.get? id).isSome
  change fun t => { t with transferProducts := t.transferProducts.erase id }
  return found

def deletePromoCode (id : PromoCodeId) : StateM (State σ) Bool := do
  let found := ((← get).committed.promoCodes.get? id).isSome
  change fun t => { t with promoCodes := t.promoCodes.erase id }
  return found

def answerStore : (c : StoreCall) → StateM (State σ) (Except StoreError c.Reply)
  | .begin => fun s => (.ok (), { s with transaction := some ⟨s.committed, .empty⟩ })
  | .within c => within c
  | .commit => commit
  | .rollback => discard
  | .abandon => discard
  | .findPromoByCode code => read fun t => t.promoByCode? code
  | .orderDetail order withPurchaser => read fun t => t.detail? order withPurchaser
  | .listOrders query => read fun t => t.page query.matchesOrder query.limit query.offset
  | .listUserOrders user limit offset => read fun t => t.page (·.userId == user) limit offset
  | .listUserTickets user event => read fun t => t.userTickets user event
  | .statsRows event => read fun t => t.statsRows event
  | .checkInRows event => read fun t => t.checkInRows event
  | .listTicketProducts filter => read fun t =>
    Tables.newestFirst (·.createdAt) (t.ticketProducts.values.filter filter.admitsTicket)
  | .createTicketProduct draft => .ok <$> createTicketProduct draft
  | .updateTicketProduct id patch => .ok <$> updateTicketProduct id patch
  | .deleteTicketProduct id => .ok <$> deleteTicketProduct id
  | .listTransferProducts filter => read fun t =>
    Tables.newestFirst (·.createdAt) (t.transferProducts.values.filter filter.admitsTransfer)
  | .createTransferProduct draft => .ok <$> createTransferProduct draft
  | .updateTransferProduct id patch => .ok <$> updateTransferProduct id patch
  | .deleteTransferProduct id => .ok <$> deleteTransferProduct id
  | .listPromoCodes filter => read fun t =>
    Tables.newestFirst (·.createdAt) (t.promoCodes.values.filter filter.admitsPromo)
  | .createPromoCode draft => createPromoCode draft
  | .updatePromoCode id patch => .ok <$> updatePromoCode id patch
  | .deletePromoCode id => .ok <$> deletePromoCode id
  | .migrate => pure (.ok ())

def answer (channel : Channel σ) : (r : Request) → StateM (State σ) r.Reply
  | .store c => answerStore c
  | .now => sourced Sources.now
  | .newId => sourced Sources.newId
  | .newNonce size => sourced (Sources.newNonce size)
  | .deliver recipient detail => fun s =>
    let (reply, inner) := channel recipient detail s.channel
    (reply, { s with channel := inner })

end State

end EventTickets.Memory
