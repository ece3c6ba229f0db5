import EventTickets.Proofs.Runs

/-!
# Prices

No product ever has a negative price, and each stands under its own identifier. Stock is taken and
given back without touching either.
-/

namespace EventTickets

namespace Table

variable {κ ν : Type} [Ranked κ] [DecidableEq κ] {P : κ → ν → Prop} {t : Table κ ν} {k : κ}

def Each (P : κ → ν → Prop) (t : Table κ ν) : Prop := ∀ k v, t.get? k = some v → P k v

theorem Each.insert (h : t.Each P) {v : ν} (hv : P k v) : (t.insert k v).Each P := by
  intro k' v' hget
  rw [get?_insert] at hget
  split at hget
  · next e =>
    cases hget
    exact e ▸ hv
  · exact h k' v' hget

theorem Each.modify (h : t.Each P) {f : ν → ν} (hf : ∀ v, P k v → P k (f v)) :
    (t.modify k f).Each P := by
  intro k' v' hget
  rw [get?_modify] at hget
  split at hget
  · next e =>
    subst e
    obtain ⟨v, hv, rfl⟩ := Option.map_eq_some_iff.mp hget
    exact hf v (h k' v hv)
  · exact h k' v' hget

theorem Each.erase (h : t.Each P) : (t.erase k).Each P := by
  intro k' v' hget
  rw [get?_erase] at hget
  split at hget
  · cases hget
  · exact h k' v' hget

end Table

namespace Memory.Tables

variable {t t' : Tables}

structure Priced (t : Tables) : Prop where
  ticket : t.ticketProducts.Each fun id p => p.id = id ∧ 0 ≤ p.priceCents.toInt
  transfer : t.transferProducts.Each fun id p => p.id = id ∧ 0 ≤ p.priceCents.toInt

theorem priced_empty : empty.Priced := ⟨nofun, nofun⟩

theorem Priced.reserve? (h : t.Priced) {kind : ItemType} {product : ProductId} {quantity : UInt32}
    (hr : t.reserve? kind product quantity = some t') : t'.Priced := by
  cases kind with
  | ticket =>
    simp only [Tables.reserve?, Option.bind_eq_bind, Option.pure_def, Option.bind_eq_some_iff,
      Option.some.injEq] at hr
    obtain ⟨p, -, count, -, rfl⟩ := hr
    exact ⟨h.ticket.modify fun _ hp => hp, h.transfer⟩
  | transfer =>
    simp only [Tables.reserve?, Option.bind_eq_bind, Option.pure_def, Option.bind_eq_some_iff,
      Option.some.injEq] at hr
    obtain ⟨p, -, count, -, rfl⟩ := hr
    exact ⟨h.ticket, h.transfer.modify fun _ hp => hp⟩

theorem Priced.release (h : t.Priced) (kind : ItemType) (product : ProductId) (quantity : UInt32) :
    (t.release kind product quantity).Priced := by
  cases kind with
  | ticket => exact ⟨h.ticket.modify fun _ hp => hp, h.transfer⟩
  | transfer => exact ⟨h.ticket, h.transfer.modify fun _ hp => hp⟩

theorem Priced.reserveAll (h : t.Priced) {items : List OrderItem}
    (hr : t.reserveAll items = .ok t') : t'.Priced := by
  induction items generalizing t with
  | nil =>
    cases hr
    exact h
  | cons i rest ih =>
    rw [Tables.reserveAll] at hr
    split at hr
    · next t₁ h₁ => exact ih (h.reserve? h₁) hr
    · cases hr

theorem Priced.releaseAll (h : t.Priced) (items : List OrderItem) :
    (t.releaseAll items).Priced := by
  induction items generalizing t with
  | nil => exact h
  | cons i rest ih => exact ih (h.release i.itemType i.productId i.quantity)

theorem Priced.congr (h : t.Priced) (hticket : t'.ticketProducts = t.ticketProducts)
    (htransfer : t'.transferProducts = t.transferProducts) : t'.Priced :=
  ⟨hticket ▸ h.ticket, htransfer ▸ h.transfer⟩

theorem Priced.change {before after : Supply Uuid} (h : t.Priced)
    (hchange : CatalogChange before after t t') : t'.Priced := by
  have hpatched : ∀ {price : Option Int64} {old : Int64},
      (∀ new, price = some new → 0 ≤ new.toInt) → 0 ≤ old.toInt →
      0 ≤ (price.getD old).toInt := by
    intro price old hnew hold
    cases price with
    | none => exact hold
    | some new => exact hnew new rfl
  cases hchange with
  | addTicketProduct p next sold price => exact ⟨h.ticket.insert ⟨rfl, price⟩, h.transfer⟩
  | addTransferProduct p next sold price => exact ⟨h.ticket, h.transfer.insert ⟨rfl, price⟩⟩
  | patchTicketProduct id patch now price =>
    exact ⟨h.ticket.modify fun p hp => ⟨hp.1, hpatched price hp.2⟩, h.transfer⟩
  | patchTransferProduct id patch now price =>
    exact ⟨h.ticket, h.transfer.modify fun p hp => ⟨hp.1, hpatched price hp.2⟩⟩
  | dropTicketProduct id => exact ⟨h.ticket.erase, h.transfer⟩
  | dropTransferProduct id => exact ⟨h.ticket, h.transfer.erase⟩
  | same => exact h
  | addPromoCode p next used => exact h.congr rfl rfl
  | patchPromoCode id patch now => exact h.congr rfl rfl
  | dropPromoCode id => exact h.congr rfl rfl

theorem Priced.effect {env : Environment} {a b : Supply Uuid} {now : Time.Instant}
    {c : ServiceCall} (h : t.Priced) (he : Effect env a b now t c t') : t'.Priced := by
  cases he with
  | catalog hchange => exact h.change hchange
  | place request w t₁ hpromo hw =>
    rw [hpromo.eq]
    exact h.congr rfl rfl
  | @confirm _ _ operator call t₁ nonces hr =>
    obtain ⟨order, -, -, hall⟩ := reservedFor_eq_ok hr
    rw [confirmed_eq]
    exact (h.reserveAll hall).congr rfl rfl
  | cancel id operator reason order found open_ =>
    have hreturned : (t.stockReturned id order).Priced := by
      rw [stockReturned]
      split
      · exact h.releaseAll _
      · exact h
    rw [canceled]
    cases order.promoCodeId <;> exact hreturned.congr rfl rfl
  | redeem id operator presented ticket order admitted =>
    simp only [redeemed]
    split <;> exact h.congr rfl rfl

end Memory.Tables

theorem Memory.State.Reachable.priced {σ : Type} {channel : Channel σ}
    {allowed : State σ → Environment → ServiceCall → Prop} {s : State σ}
    (h : Reachable channel allowed s) : s.committed.Priced := by
  refine h.kept (P := fun s => s.committed.Priced) (fun _ _ => Tables.priced_empty)
    (fun _ _ _ hp => hp.congr rfl rfl) ?_
  intro s s' env c t' _ _ hbecomes heffect hp
  rw [hbecomes.committed]
  exact hp.effect heffect

end EventTickets
