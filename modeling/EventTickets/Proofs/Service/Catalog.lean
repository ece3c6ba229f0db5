import EventTickets.Proofs.Memory.Tables
import EventTickets.Proofs.Memory.Transactions
import EventTickets.Service.Catalog

/-!
# What catalog administration changes

A catalog call adds, patches or drops one row of one of the three catalog tables, or changes
nothing. A new product has sold nothing and has an identifier of its own; a patch never touches what
is sold. No price that is set is negative.
-/

namespace EventTickets

theorem Catalog.checkPrice_eq_ok {price : Int64} (h : Catalog.checkPrice price = .ok ()) :
    0 ≤ price.toInt := by
  rw [Catalog.checkPrice] at h
  split at h
  · cases h
  · next hnonneg => exact Int.not_lt.mp fun hlt => hnonneg (Int64.lt_iff_toInt_lt.mpr hlt)

theorem Catalog.price_of_checked {α : Type} {event : EventId} {price : Int64} {draft a : α}
    (h : (do Catalog.checkEvent event; Catalog.checkPrice price; return draft) = Except.ok a) :
    0 ≤ price.toInt ∧ draft = a := by
  rcases hevent : Catalog.checkEvent event with e | ⟨⟩ <;> rw [hevent] at h
  · cases h
  · rcases hprice : Catalog.checkPrice price with e | ⟨⟩ <;> rw [hprice] at h
    · cases h
    · exact ⟨Catalog.checkPrice_eq_ok hprice, Except.ok.inj h⟩

theorem Catalog.draft_of_checked {α β : Type} {checked : Except TicketingError α}
    {window : Except TicketingError Unit} {draft : α → β} {b : β}
    (h : (do let a ← checked; window; return draft a) = Except.ok b) :
    ∃ a, checked = .ok a ∧ window = .ok () ∧ draft a = b := by
  rcases checked with e | a
  · cases h
  · rcases window with e | ⟨⟩
    · cases h
    · exact ⟨a, rfl, rfl, Except.ok.inj h⟩

theorem TicketProductInput.price_intoDraft {input : TicketProductInput} {createdBy : Option UserId}
    {draft : TicketProductDraft} (h : input.intoDraft createdBy = .ok draft) :
    0 ≤ draft.priceCents.toInt := by
  rw [TicketProductInput.intoDraft] at h
  split at h
  · obtain ⟨hprice, rfl⟩ := Catalog.price_of_checked h
    exact hprice
  · cases h

theorem TransferProductInput.price_intoDraft {input : TransferProductInput}
    {createdBy : Option UserId} {draft : TransferProductDraft}
    (h : input.intoDraft createdBy = .ok draft) : 0 ≤ draft.priceCents.toInt := by
  rw [TransferProductInput.intoDraft] at h
  split at h
  · obtain ⟨hprice, rfl⟩ := Catalog.price_of_checked h
    exact hprice
  · cases h

/-- What a catalog call may do to the tables, with identifiers between two states of their
supply. -/
inductive CatalogChange (before after : Supply Uuid) (t : Memory.Tables) : Memory.Tables → Prop
  | same : CatalogChange before after t t
  | addTicketProduct (p : TicketProduct) (next : before.Next p.id.uuid after)
      (sold : p.soldCount = 0)
    (price : 0 ≤ p.priceCents.toInt) :
    CatalogChange before after t { t with ticketProducts := t.ticketProducts.insert p.id p }
  | patchTicketProduct (id : ProductId) (patch : TicketProductPatch) (now : Time.Instant)
    (price : ∀ price, patch.priceCents = some price → 0 ≤ price.toInt) :
    CatalogChange before after t
      { t with ticketProducts := t.ticketProducts.modify id (patch.apply now) }
  | dropTicketProduct (id : ProductId) :
    CatalogChange before after t { t with ticketProducts := t.ticketProducts.erase id }
  | addTransferProduct (p : TransferProduct) (next : before.Next p.id.uuid after)
      (sold : p.soldCount = 0)
    (price : 0 ≤ p.priceCents.toInt) :
    CatalogChange before after t { t with transferProducts := t.transferProducts.insert p.id p }
  | patchTransferProduct (id : ProductId) (patch : TransferProductPatch) (now : Time.Instant)
    (price : ∀ price, patch.priceCents = some price → 0 ≤ price.toInt) :
    CatalogChange before after t
      { t with transferProducts := t.transferProducts.modify id (patch.apply now) }
  | dropTransferProduct (id : ProductId) :
    CatalogChange before after t { t with transferProducts := t.transferProducts.erase id }
  | addPromoCode (p : PromoCode) (next : before.Next p.id.uuid after) (used : p.usedCount = 0) :
    CatalogChange before after t { t with promoCodes := t.promoCodes.insert p.id p }
  | patchPromoCode (id : PromoCodeId) (patch : PromoCodePatch) (now : Time.Instant) :
    CatalogChange before after t { t with promoCodes := t.promoCodes.modify id (patch.apply now) }
  | dropPromoCode (id : PromoCodeId) :
    CatalogChange before after t { t with promoCodes := t.promoCodes.erase id }

namespace Memory.Tables

-- Products of both kinds are read as stock, so what their changes do is said once for any rows.
section

variable {κ ν : Type} [Ranked κ] [DecidableEq κ] {f : ν → Stock} {rows : Table κ ν}
  {product id : κ} {stock' : Stock}

theorem stock_insert {v : ν} (h : ((rows.insert id v).get? product).map f = some stock') :
    product = id ∧ stock' = f v ∨ (rows.get? product).map f = some stock' := by
  rw [Table.get?_insert] at h
  split at h
  · next e => exact .inl ⟨e, (Option.some.inj h).symm⟩
  · exact .inr h

theorem stock_modify {g : ν → ν} (hg : ∀ v, (f (g v)).sold = (f v).sold)
    (h : ((rows.modify id g).get? product).map f = some stock') :
    ∃ stock, (rows.get? product).map f = some stock ∧ stock'.sold = stock.sold := by
  rw [Table.get?_modify] at h
  split at h
  · rw [Option.map_map, Option.map_eq_some_iff] at h
    obtain ⟨v, hv, rfl⟩ := h
    exact ⟨f v, by rw [hv]; rfl, hg v⟩
  · exact ⟨stock', h, rfl⟩

theorem stock_erase (h : ((rows.erase id).get? product).map f = some stock') :
    (rows.get? product).map f = some stock' := by
  rw [Table.get?_erase] at h
  split at h
  · cases h
  · exact h

end

structure SameOrders (t t' : Tables) : Prop where
  orders : t'.orders = t.orders
  orderItems : t'.orderItems = t.orderItems
  tickets : t'.tickets = t.tickets

end Memory.Tables

namespace CatalogChange

open Memory Memory.Tables

variable {before after : Supply Uuid} {t t' : Tables}

theorem sameOrders (h : CatalogChange before after t t') : SameOrders t t' := by
  cases h <;> exact ⟨rfl, rfl, rfl⟩

theorem stock (h : CatalogChange before after t t') {kind : ItemType}
    {product : ProductId} {stock' : Stock} (hstock : t'.stock? kind product = some stock') :
    (∃ stock, t.stock? kind product = some stock ∧ stock'.sold = stock.sold) ∨
      before.Next product.uuid after ∧ stock'.sold = 0 := by
  cases h with
  | addTicketProduct p hid hsold =>
    cases kind with
    | transfer => exact .inl ⟨stock', hstock, rfl⟩
    | ticket =>
      rcases stock_insert hstock with ⟨rfl, rfl⟩ | h
      · exact .inr ⟨hid, hsold⟩
      · exact .inl ⟨stock', h, rfl⟩
  | addTransferProduct p hid hsold =>
    cases kind with
    | ticket => exact .inl ⟨stock', hstock, rfl⟩
    | transfer =>
      rcases stock_insert hstock with ⟨rfl, rfl⟩ | h
      · exact .inr ⟨hid, hsold⟩
      · exact .inl ⟨stock', h, rfl⟩
  | patchTicketProduct id patch now =>
    cases kind with
    | transfer => exact .inl ⟨stock', hstock, rfl⟩
    | ticket => exact .inl (stock_modify (g := patch.apply now) (fun _ => rfl) hstock)
  | patchTransferProduct id patch now =>
    cases kind with
    | ticket => exact .inl ⟨stock', hstock, rfl⟩
    | transfer => exact .inl (stock_modify (g := patch.apply now) (fun _ => rfl) hstock)
  | dropTicketProduct id =>
    cases kind with
    | transfer => exact .inl ⟨stock', hstock, rfl⟩
    | ticket => exact .inl ⟨stock', stock_erase hstock, rfl⟩
  | dropTransferProduct id =>
    cases kind with
    | ticket => exact .inl ⟨stock', hstock, rfl⟩
    | transfer => exact .inl ⟨stock', stock_erase hstock, rfl⟩
  | _ => exact .inl ⟨stock', hstock, rfl⟩

theorem promo (h : CatalogChange before after t t') {id : PromoCodeId} {p' : PromoCode}
    (hp' : t'.promoCodes.get? id = some p') :
    (∃ p, t.promoCodes.get? id = some p ∧ p'.id = p.id ∧ p'.usedCount = p.usedCount) ∨
      p'.id = id ∧ before.Next id.uuid after ∧ p'.usedCount = 0 := by
  cases h with
  | addPromoCode p hid hused =>
    rw [Table.get?_insert] at hp'
    split at hp'
    · next e =>
      cases hp'
      exact .inr ⟨e.symm, e ▸ hid, hused⟩
    · exact .inl ⟨p', hp', rfl, rfl⟩
  | patchPromoCode id₁ patch now =>
    rw [Table.get?_modify] at hp'
    split at hp'
    · obtain ⟨p, hp, rfl⟩ := Option.map_eq_some_iff.mp hp'
      exact .inl ⟨p, hp, rfl, rfl⟩
    · exact .inl ⟨p', hp', rfl, rfl⟩
  | dropPromoCode id₁ =>
    rw [Table.get?_erase] at hp'
    split at hp'
    · cases hp'
    · exact .inl ⟨p', hp', rfl, rfl⟩
  | _ => exact .inl ⟨p', hp', rfl, rfl⟩

end CatalogChange

namespace Memory.State

variable {σ : Type} (channel : Channel σ) {s : State σ}

def CatalogOutcome {α : Type} (s : State σ) (outcome : Except TicketingError α × State σ) : Prop :=
  (∃ e s', outcome = (.error e, s') ∧ s.Becomes s.committed s') ∨
    ∃ a s' t', outcome = (.ok a, s') ∧ s.Becomes t' s' ∧
    CatalogChange s.sources.ids s'.sources.ids s.committed t'

theorem catalogOutcome_demand {α : Type} {p : Service (Option α)} {found : Option α} {s₁ : State σ}
    (hp : serve channel p s = (.ok found, s₁)) (hs : s.Becomes s₁.committed s₁)
    (hchange : CatalogChange s.sources.ids s₁.sources.ids s.committed s₁.committed)
    (hnone : found = none → s₁.committed = s.committed) (e : TicketingError) :
    CatalogOutcome s (serve channel (p >>= Service.demand e) s) := by
  rw [serve_bind, hp]
  cases found with
  | none => exact .inl ⟨e, s₁, rfl, hnone rfl ▸ hs⟩
  | some a => exact .inr ⟨a, s₁, _, rfl, hs, hchange⟩

theorem catalogOutcome_require {p : Service Bool} {found : Bool} {s₁ : State σ}
    (hp : serve channel p s = (.ok found, s₁)) (hs : s.Becomes s₁.committed s₁)
    (hchange : CatalogChange s.sources.ids s₁.sources.ids s.committed s₁.committed)
    (hfalse : found = false → s₁.committed = s.committed) (e : TicketingError) :
    CatalogOutcome s (serve channel (p >>= Service.require e) s) := by
  rw [serve_bind, hp]
  cases found with
  | false => exact .inl ⟨e, s₁, rfl, hfalse rfl ▸ hs⟩
  | true => exact .inr ⟨(), s₁, _, rfl, hs, hchange⟩

theorem catalogOutcome_check {α β : Type} {x : Except TicketingError α} {f : α → Service β}
    (h : ∀ a, x = .ok a → CatalogOutcome s (serve channel (f a) s)) :
    CatalogOutcome s (serve channel (liftExcept x >>= f) s) := by
  rw [serve_bind, serve_liftExcept]
  cases x with
  | error e => exact .inl ⟨e, s, rfl, .refl⟩
  | ok a => exact h a rfl

theorem serve_createTicketProduct (createdBy : UserId) (input : TicketProductInput) :
    CatalogOutcome s (serve channel (EventTickets.createTicketProduct createdBy input) s) :=
  catalogOutcome_check channel fun draft hdraft =>
    .inr ⟨_, _, _, rfl, ⟨rfl, fun hidle => hidle, .trans (.now _) (.newId _)⟩,
      .addTicketProduct (draft.product _ _) ⟨rfl, rfl⟩ rfl
        (TicketProductInput.price_intoDraft hdraft)⟩

theorem serve_createTransferProduct (createdBy : UserId)
    (input : TransferProductInput) :
    CatalogOutcome s (serve channel (EventTickets.createTransferProduct createdBy input) s) :=
  catalogOutcome_check channel fun draft hdraft =>
    .inr ⟨_, _, _, rfl, ⟨rfl, fun hidle => hidle, .trans (.now _) (.newId _)⟩,
      .addTransferProduct (draft.product _ _) ⟨rfl, rfl⟩ rfl
        (TransferProductInput.price_intoDraft hdraft)⟩

theorem serve_createPromoCode (createdBy : UserId) (input : PromoCodeInput) :
    CatalogOutcome s (serve channel (EventTickets.createPromoCode createdBy input) s) := by
  refine catalogOutcome_check channel fun draft _ => ?_
  have hanswer : answerStore (.createPromoCode draft) s = createPromoCode draft s := rfl
  rw [serve_store, hanswer, createPromoCode_eq]
  by_cases h : (s.committed.promoByCode? draft.code).isSome = true
  · rw [if_pos h]
    exact .inl ⟨_, { s with sources := s.sources.now.2 }, rfl, ⟨rfl, fun hidle => hidle, .now _⟩⟩
  · rw [if_neg h]
    let promo := draft.promo ⟨s.sources.now.2.newId.1⟩ s.sources.now.1
    exact .inr ⟨promo, { s with
      sources := s.sources.now.2.newId.2,
      committed :=
        { s.committed with promoCodes := s.committed.promoCodes.insert promo.id promo } },
      _, rfl, ⟨rfl, fun hidle => hidle, .trans (.now _) (.newId _)⟩,
      .addPromoCode promo ⟨rfl, rfl⟩ rfl⟩

theorem serve_updateTicketProduct (id : ProductId) (patch : TicketProductPatch) :
    CatalogOutcome s (serve channel (EventTickets.updateTicketProduct id patch) s) := by
  have hupdate := fun hprice => catalogOutcome_demand channel
      (p := Service.store (.updateTicketProduct id patch)) rfl
    ⟨rfl, fun hidle => hidle, .now s.sources⟩ (.patchTicketProduct id patch _ hprice)
    (fun h => congrArg (fun rows =>
      { s.committed with ticketProducts := rows }) (Table.modify_eq_self h))
    (.productNotFound id)
  rw [EventTickets.updateTicketProduct]
  cases hp : patch.priceCents with
  | none => exact hupdate (by rw [hp]; exact nofun)
  | some price =>
    refine catalogOutcome_check channel fun _ hchecked => hupdate ?_
    rw [hp]
    rintro _ ⟨⟩
    exact Catalog.checkPrice_eq_ok hchecked

theorem serve_updateTransferProduct (id : ProductId) (patch : TransferProductPatch) :
    CatalogOutcome s (serve channel (EventTickets.updateTransferProduct id patch) s) := by
  have hupdate := fun hprice => catalogOutcome_demand channel
      (p := Service.store (.updateTransferProduct id patch)) rfl
    ⟨rfl, fun hidle => hidle, .now s.sources⟩ (.patchTransferProduct id patch _ hprice)
    (fun h => congrArg (fun rows =>
      { s.committed with transferProducts := rows }) (Table.modify_eq_self h))
    (.productNotFound id)
  rw [EventTickets.updateTransferProduct]
  cases hp : patch.priceCents with
  | none => exact hupdate (by rw [hp]; exact nofun)
  | some price =>
    refine catalogOutcome_check channel fun _ hchecked => hupdate ?_
    rw [hp]
    rintro _ ⟨⟩
    exact Catalog.checkPrice_eq_ok hchecked

theorem serve_updatePromoCode (id : PromoCodeId) (patch : PromoCodePatch) :
    CatalogOutcome s (serve channel (EventTickets.updatePromoCode id patch) s) := by
  have hupdate := catalogOutcome_check channel
      (x := Catalog.checkWindow patch.activeFrom patch.activeTo)
    fun _ _ => catalogOutcome_demand channel (p := Service.store (.updatePromoCode id patch)) rfl
      ⟨rfl, fun hidle => hidle, .now _⟩ (.patchPromoCode id patch _)
      (fun h => congrArg (fun rows =>
        { s.committed with promoCodes := rows }) (Table.modify_eq_self h))
      (.promoCodeNotFound id)
  rw [EventTickets.updatePromoCode]
  cases patch.discountType with
  | none => exact hupdate
  | some kind => exact catalogOutcome_check channel fun _ _ => hupdate

theorem serve_deleteTicketProduct (id : ProductId) :
    CatalogOutcome s (serve channel (EventTickets.deleteTicketProduct id) s) :=
  catalogOutcome_require channel (p := Service.store (.deleteTicketProduct id)) rfl
    ⟨rfl, fun hidle => hidle, .refl _⟩ (.dropTicketProduct id)
    (fun h => congrArg (fun rows => { s.committed with ticketProducts := rows })
      (Table.erase_eq_self (Option.not_isSome_iff_eq_none.mp (Bool.eq_false_iff.mp h))))
    (.productNotFound id)

theorem serve_deleteTransferProduct (id : ProductId) :
    CatalogOutcome s (serve channel (EventTickets.deleteTransferProduct id) s) :=
  catalogOutcome_require channel (p := Service.store (.deleteTransferProduct id)) rfl
    ⟨rfl, fun hidle => hidle, .refl _⟩ (.dropTransferProduct id)
    (fun h => congrArg (fun rows => { s.committed with transferProducts := rows })
      (Table.erase_eq_self (Option.not_isSome_iff_eq_none.mp (Bool.eq_false_iff.mp h))))
    (.productNotFound id)

theorem serve_deletePromoCode (id : PromoCodeId) :
    CatalogOutcome s (serve channel (EventTickets.deletePromoCode id) s) :=
  catalogOutcome_require channel (p := Service.store (.deletePromoCode id)) rfl
    ⟨rfl, fun hidle => hidle, .refl _⟩
    (.dropPromoCode id)
    (fun h => congrArg (fun rows => { s.committed with promoCodes := rows })
      (Table.erase_eq_self (Option.not_isSome_iff_eq_none.mp (Bool.eq_false_iff.mp h))))
    (.promoCodeNotFound id)

end Memory.State

end EventTickets
