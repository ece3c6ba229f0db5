import EventTickets.Proofs.Service.Calls

/-!
# Catalog calls one by one

A catalog call that succeeds writes one row: a creation puts its draft under the next identifier, a
patch is applied to the row it is for, and a deletion takes a row that was there.
-/

namespace EventTickets

/-- The values that a patch sets are in order by themselves, whatever row it is for. -/
structure PromoCodePatch.Checked (patch : PromoCodePatch) : Prop where
  supported : ∀ kind, patch.discountType = some kind → kind = .percent ∨ kind = .fixed
  window : Catalog.checkWindow patch.activeFrom patch.activeTo = .ok ()

theorem Catalog.supportedDiscount_eq_ok {kind kind' : DiscountType}
    (h : supportedDiscount kind = .ok kind') :
    kind' = kind ∧ (kind = .percent ∨ kind = .fixed) := by
  cases kind with
  | percent => exact ⟨(Except.ok.inj h).symm, .inl rfl⟩
  | fixed => exact ⟨(Except.ok.inj h).symm, .inr rfl⟩
  | other name => cases h

/-- What a catalog call writes at a time, with identifiers between two states of their supply. -/
inductive CatalogWrite (before after : Supply Uuid) (now : Time.Instant) (t : Memory.Tables) :
    ServiceCall → Memory.Tables → Prop
  | createTicketProduct {createdBy : UserId} {input : TicketProductInput}
      {draft : TicketProductDraft}
    (drafted : input.intoDraft (some createdBy) = .ok draft) (id : ProductId)
    (next : before.Next id.uuid after) :
    CatalogWrite before after now t (.createTicketProduct createdBy input)
      { t with ticketProducts := t.ticketProducts.insert id (draft.product id now) }
  | updateTicketProduct {id : ProductId} {patch : TicketProductPatch}
      (found : (t.ticketProducts.get? id).isSome) :
    CatalogWrite before after now t (.updateTicketProduct id patch)
      { t with ticketProducts := t.ticketProducts.modify id (patch.apply now) }
  | deleteTicketProduct {id : ProductId} (found : (t.ticketProducts.get? id).isSome) :
    CatalogWrite before after now t (.deleteTicketProduct id)
      { t with ticketProducts := t.ticketProducts.erase id }
  | createTransferProduct {createdBy : UserId} {input : TransferProductInput}
      {draft : TransferProductDraft}
    (drafted : input.intoDraft (some createdBy) = .ok draft) (id : ProductId)
    (next : before.Next id.uuid after) :
    CatalogWrite before after now t (.createTransferProduct createdBy input)
      { t with transferProducts := t.transferProducts.insert id (draft.product id now) }
  | updateTransferProduct {id : ProductId} {patch : TransferProductPatch}
    (found : (t.transferProducts.get? id).isSome) :
    CatalogWrite before after now t (.updateTransferProduct id patch)
      { t with transferProducts := t.transferProducts.modify id (patch.apply now) }
  | deleteTransferProduct {id : ProductId} (found : (t.transferProducts.get? id).isSome) :
    CatalogWrite before after now t (.deleteTransferProduct id)
      { t with transferProducts := t.transferProducts.erase id }
  | createPromoCode {createdBy : UserId} {input : PromoCodeInput} {draft : PromoCodeDraft}
    (drafted : input.intoDraft (some createdBy) = .ok draft) (id : PromoCodeId)
    (next : before.Next id.uuid after)
    (unknown : t.promoByCode? draft.code = none) :
    CatalogWrite before after now t (.createPromoCode createdBy input)
      { t with promoCodes := t.promoCodes.insert id (draft.promo id now) }
  | updatePromoCode {id : PromoCodeId} {patch : PromoCodePatch}
      (found : (t.promoCodes.get? id).isSome)
    (checked : patch.Checked) :
    CatalogWrite before after now t (.updatePromoCode id patch)
      { t with promoCodes := t.promoCodes.modify id (patch.apply now) }
  | deletePromoCode {id : PromoCodeId} (found : (t.promoCodes.get? id).isSome) :
    CatalogWrite before after now t (.deletePromoCode id)
      { t with promoCodes := t.promoCodes.erase id }

namespace Memory.State

variable {σ : Type} (channel : Channel σ) {s s' : State σ}

theorem attempt_check {α β : Type} {x : Except TicketingError α}
    {f : α → Service β} {r : β × State σ} (h : attempt channel (liftExcept x >>= f) s = .ok r) :
    ∃ a, x = .ok a ∧ attempt channel (f a) s = .ok r := by
  obtain ⟨a, s₁, hlift, hf⟩ := (attempt_bind_eq_ok_iff channel).mp h
  obtain ⟨hx, rfl⟩ := (attempt_liftExcept_eq_ok_iff channel).mp hlift
  exact ⟨a, hx, hf⟩

theorem attempt_store_demand {α : Type} {p : Service (Option α)} {e : TicketingError}
    {r : α × State σ} (h : attempt channel (p >>= Service.demand e) s = .ok r) :
    attempt channel p s = .ok (some r.1, r.2) := by
  obtain ⟨found, s₁, hp, hdemand⟩ := (attempt_bind_eq_ok_iff channel).mp h
  obtain ⟨rfl, hs⟩ := (attempt_demand_eq_ok_iff channel).mp hdemand
  rw [hp, hs]

theorem attempt_store_require {p : Service Bool} {e : TicketingError} {r : Unit × State σ}
    (h : attempt channel (p >>= Service.require e) s = .ok r) :
    attempt channel p s = .ok (true, r.2) := by
  obtain ⟨found, s₁, hp, hrequire⟩ := (attempt_bind_eq_ok_iff channel).mp h
  obtain ⟨rfl, hs⟩ := (attempt_require_eq_ok_iff channel).mp hrequire
  rw [hp, hs]

theorem isSome_of_patched {κ ν : Type} [Ranked κ] [DecidableEq κ] {rows : Table κ ν}
    {k : κ} {f : ν → ν} {v : ν} (h : (rows.modify k f).get? k = some v) : (rows.get? k).isSome := by
  rw [Table.get?_modify, if_pos rfl] at h
  obtain ⟨w, hw, -⟩ := Option.map_eq_some_iff.mp h
  exact Option.isSome_of_eq_some hw

theorem write_updateTicketProduct {id : ProductId} {patch : TicketProductPatch}
    {r : TicketProduct × State σ}
    (h : attempt channel (EventTickets.updateTicketProduct id patch) s = .ok r) :
    CatalogWrite s.sources.ids r.2.sources.ids s.sources.now.1 s.committed
      (.updateTicketProduct id patch)
      r.2.committed := by
  have hdemand : attempt channel
      (Service.store (.updateTicketProduct id patch) >>= Service.demand (.productNotFound id)) s =
      .ok r := by
    rw [EventTickets.updateTicketProduct] at h
    split at h
    · obtain ⟨_, -, hdemand⟩ := attempt_check channel h
      exact hdemand
    · exact h
  obtain ⟨hrow, hs⟩ := Prod.mk.inj (Except.ok.inj (attempt_store_demand channel hdemand))
  rw [← hs]
  exact .updateTicketProduct (isSome_of_patched hrow)

theorem write_updateTransferProduct {id : ProductId} {patch : TransferProductPatch}
    {r : TransferProduct × State σ}
    (h : attempt channel (EventTickets.updateTransferProduct id patch) s = .ok r) :
    CatalogWrite s.sources.ids r.2.sources.ids s.sources.now.1 s.committed
      (.updateTransferProduct id patch)
      r.2.committed := by
  have hdemand : attempt channel
      (Service.store (.updateTransferProduct id patch) >>= Service.demand (.productNotFound id)) s =
      .ok r := by
    rw [EventTickets.updateTransferProduct] at h
    split at h
    · obtain ⟨_, -, hdemand⟩ := attempt_check channel h
      exact hdemand
    · exact h
  obtain ⟨hrow, hs⟩ := Prod.mk.inj (Except.ok.inj (attempt_store_demand channel hdemand))
  rw [← hs]
  exact .updateTransferProduct (isSome_of_patched hrow)

theorem checked_updatePromoCode {id : PromoCodeId} {patch : PromoCodePatch}
    {r : PromoCode × State σ} (h : attempt channel (EventTickets.updatePromoCode id patch) s =
      .ok r) :
    patch.Checked ∧ attempt channel
      (Service.store (.updatePromoCode id patch) >>= Service.demand (.promoCodeNotFound id)) s =
        .ok r := by
  rw [EventTickets.updatePromoCode] at h
  split at h
  · next kind hkind =>
    obtain ⟨_, hsupported, hwindow⟩ := attempt_check channel h
    obtain ⟨_, hwindow, hdemand⟩ := attempt_check channel hwindow
    exact ⟨⟨fun kind' e => Option.some.inj (hkind.symm.trans e) ▸
      (Catalog.supportedDiscount_eq_ok hsupported).2, hwindow⟩, hdemand⟩
  · next hkept =>
    obtain ⟨_, hwindow, hdemand⟩ := attempt_check channel h
    exact ⟨⟨fun kind e => (hkept kind e).elim, hwindow⟩, hdemand⟩

theorem write_updatePromoCode {id : PromoCodeId} {patch : PromoCodePatch} {r : PromoCode × State σ}
    (h : attempt channel (EventTickets.updatePromoCode id patch) s = .ok r) :
    CatalogWrite s.sources.ids r.2.sources.ids s.sources.now.1 s.committed
      (.updatePromoCode id patch)
      r.2.committed := by
  obtain ⟨hchecked, hdemand⟩ := checked_updatePromoCode channel h
  obtain ⟨hrow, hs⟩ := Prod.mk.inj (Except.ok.inj (attempt_store_demand channel hdemand))
  rw [← hs]
  exact .updatePromoCode (isSome_of_patched hrow) hchecked

theorem write_createPromoCode {createdBy : UserId} {input : PromoCodeInput}
    {r : PromoCode × State σ}
    (h : attempt channel (EventTickets.createPromoCode createdBy input) s = .ok r) :
    CatalogWrite s.sources.ids r.2.sources.ids s.sources.now.1 s.committed
      (.createPromoCode createdBy input)
      r.2.committed := by
  obtain ⟨draft, hdraft, hstore⟩ := attempt_check channel h
  have hanswer : answerStore (.createPromoCode draft) s = createPromoCode draft s := rfl
  rw [attempt, serve_store, hanswer, createPromoCode_eq] at hstore
  by_cases hknown : (s.committed.promoByCode? draft.code).isSome = true
  · rw [if_pos hknown] at hstore
    cases hstore
  · rw [if_neg hknown] at hstore
    cases hstore
    exact .createPromoCode hdraft _ ⟨rfl, rfl⟩ (Option.not_isSome_iff_eq_none.mp hknown)

theorem catalogWrite_of_attempt {env : Environment} {c : ServiceCall} {r : c.Reply × State σ}
    (hc : c.ChangesCatalog) (h : attempt channel (c.service env) s = .ok r) :
    CatalogWrite s.sources.ids r.2.sources.ids s.sources.now.1 s.committed c r.2.committed := by
  cases c with
  | createTicketProduct createdBy input =>
    obtain ⟨draft, hdraft, hstore⟩ := attempt_check channel h
    cases hstore
    exact .createTicketProduct hdraft _ ⟨rfl, rfl⟩
  | createTransferProduct createdBy input =>
    obtain ⟨draft, hdraft, hstore⟩ := attempt_check channel h
    cases hstore
    exact .createTransferProduct hdraft _ ⟨rfl, rfl⟩
  | createPromoCode createdBy input => exact write_createPromoCode channel h
  | updateTicketProduct id patch => exact write_updateTicketProduct channel h
  | updateTransferProduct id patch => exact write_updateTransferProduct channel h
  | updatePromoCode id patch => exact write_updatePromoCode channel h
  | deleteTicketProduct id =>
    obtain ⟨hrow, hs⟩ := Prod.mk.inj (Except.ok.inj (attempt_store_require channel h))
    rw [← hs]
    exact .deleteTicketProduct hrow
  | deleteTransferProduct id =>
    obtain ⟨hrow, hs⟩ := Prod.mk.inj (Except.ok.inj (attempt_store_require channel h))
    rw [← hs]
    exact .deleteTransferProduct hrow
  | deletePromoCode id =>
    obtain ⟨hrow, hs⟩ := Prod.mk.inj (Except.ok.inj (attempt_store_require channel h))
    rw [← hs]
    exact .deletePromoCode hrow
  | _ => exact hc.elim

end Memory.State

end EventTickets
