import EventTickets.Proofs.OwnRows
import EventTickets.Proofs.Prices

/-!
# Where rows of promo codes come from

A row that is there after a call was put there by it, was patched by it, or was there before and has
at most its uses counted anew. So what holds of new rows, and is kept where patches and uses are
allowed, holds of all rows.
-/

namespace EventTickets

open Memory Memory.Tables

structure PromoCodeDraft.Checked (draft : PromoCodeDraft) : Prop where
  named : draft.code.isEmpty = false
  normal : ∃ raw, draft.code = Text.normalizeToken raw
  supported : draft.discountType = .percent ∨ draft.discountType = .fixed
  window : Catalog.checkWindow draft.activeFrom draft.activeTo = .ok ()
  scope : ∀ scope ∈ draft.eventId, scope.isValid = true

theorem PromoCodeInput.checked_intoDraft {input : PromoCodeInput} {createdBy : Option UserId}
    {draft : PromoCodeDraft} (h : input.intoDraft createdBy = .ok draft) : draft.Checked := by
  simp only [intoDraft] at h
  split at h
  · cases h
  · next hnamed =>
    obtain ⟨kind, hkind, hwindow, rfl⟩ := Catalog.draft_of_checked h
    obtain ⟨e, hsupported⟩ := Catalog.supportedDiscount_eq_ok hkind
    rw [← e] at hsupported
    refine ⟨Bool.eq_false_iff.mpr hnamed, ⟨_, rfl⟩, hsupported, hwindow, fun scope hscope => ?_⟩
    exact (Option.mem_filter_iff.mp hscope).2

/-- Where the row under an identifier after a call comes from, at a time and with the identifier
that is next. -/
inductive PromoOrigin (next : PromoCodeId) (now : Time.Instant) (t : Tables) (c : ServiceCall)
    (id : PromoCodeId) : PromoCode → Prop
  | kept {p p' : PromoCode} (found : t.promoCodes.get? id = some p) (reused : p.Reused p') :
    PromoOrigin next now t c id p'
  | patched {p : PromoCode} (found : t.promoCodes.get? id = some p) (patch : PromoCodePatch)
    (call : c = .updatePromoCode id patch) (checked : patch.Checked) :
    PromoOrigin next now t c id (patch.apply now p)
  | created (createdBy : UserId) (input : PromoCodeInput) (draft : PromoCodeDraft)
    (call : c = .createPromoCode createdBy input)
    (drafted : input.intoDraft (some createdBy) = .ok draft)
    (unknown : t.promoByCode? draft.code = none) (new : id = next) : PromoOrigin next now t c id
      (draft.promo id now)

namespace PromoCode

variable {p p' : PromoCode}

theorem Reused.refl (p : PromoCode) : p.Reused p := ⟨p.usedCount, rfl⟩

end PromoCode

namespace PromoOrigin

variable {t t' t₁ : Tables} {c : ServiceCall} {id next : PromoCodeId}
  {now : Time.Instant} {p' : PromoCode}

theorem same (h : t.promoCodes.get? id = some p') :
    PromoOrigin next now t c id p' := .kept h (.refl p')

theorem of_changes {keys : PromoCodeId → Prop}
    (h : t.promoCodes.Changes keys PromoCode.Reused t'.promoCodes)
    (h' : t'.promoCodes.get? id = some p') : PromoOrigin next now t c id p' := by
  rcases h id with e | ⟨-, p, p'', hp, hp'', hreused⟩
  · exact .same (e.symm.trans h')
  · cases hp''.symm.trans h'
    exact .kept hp hreused

theorem of_catalogWrite {a b : Supply Uuid} (h : CatalogWrite a b now t c t')
    (h' : t'.promoCodes.get? id = some p') : PromoOrigin ⟨a.item a.taken⟩ now t c id p' := by
  cases h with
  | createPromoCode drafted id₁ new unknown =>
    rw [Table.get?_insert] at h'
    split at h'
    · next e =>
      cases h'
      subst e
      exact .created _ _ _ rfl drafted unknown (congrArg UuidId.mk new.item)
    · exact .same h'
  | @updatePromoCode id₁ patch _ checked =>
    rw [Table.get?_modify] at h'
    split at h'
    · next e =>
      subst e
      obtain ⟨p, hp, rfl⟩ := Option.map_eq_some_iff.mp h'
      exact .patched hp patch rfl checked
    · exact .same h'
  | deletePromoCode =>
    rw [Table.get?_erase] at h'
    split at h'
    · cases h'
    · exact .same h'
  | _ => exact .same h'

theorem of_effect {a b : Supply Uuid} {env : Environment} (hc : ¬ c.ChangesCatalog)
    (he : Effect env a b now t c t') (h' : t'.promoCodes.get? id = some p') :
    PromoOrigin next now t c id p' := by
  cases he with
  | catalog change call =>
    rw [call.resolve_left hc] at h'
    exact .same h'
  | place request w t₁ promo sound named => exact of_changes promo.changes h'
  | confirm call t₁ nonces reserved =>
    rw [promoCodes_confirmed reserved] at h'
    exact .same h'
  | cancel order operator reason row found open_ =>
    exact of_changes (orderCanceled_canceled found operator now _).promo h'
  | redeem ticket operator token row order admitted =>
    rw [promoCodes_redeemed] at h'
    exact .same h'

end PromoOrigin

namespace Memory.State

variable {σ : Type} {channel : Channel σ} {allowed : State σ → Environment → ServiceCall → Prop}
  {s : State σ}

theorem promoOrigin_call (env : Environment) (c : ServiceCall) {id : PromoCodeId} {p' : PromoCode}
    (h' : (serve channel (c.service env) s).2.committed.promoCodes.get? id = some p') :
    PromoOrigin ⟨s.sources.newId.1⟩ s.sources.now.1 s.committed c id p' := by
  rcases call_ends channel env s c with
    ⟨e, s', hs, hbecomes⟩ | ⟨a, s', t', hs, hbecomes, heffect⟩ <;> rw [hs] at h'
  · rw [hbecomes.committed] at h'
    exact .same h'
  · by_cases hc : c.ChangesCatalog
    · exact .of_catalogWrite (catalogWrite_of_attempt channel hc
        ((attempt_eq_ok_iff channel).mpr hs)) h'
    · rw [hbecomes.committed] at h'
      exact .of_effect hc heffect h'

theorem Reachable.eachPromo {I : PromoCode → Prop} (h : Reachable channel allowed s)
    (hcreated : ∀ {draft : PromoCodeDraft}, draft.Checked → ∀ id now, I (draft.promo id now))
    (hpatched : ∀ {s : State σ} {env id patch p}, allowed s env (.updatePromoCode id patch) →
      patch.Checked → s.committed.promoCodes.get? id = some p → I p → ∀ now, I (patch.apply now p))
    (hreused : ∀ {p p' : PromoCode}, p.Reused p' → I p → I p') :
    s.committed.promoCodes.Each fun _ p => I p := by
  induction h with
  | start sources inner => exact fun id p hp => by cases hp
  | addEvent h event title ih => exact ih
  | addUser h user ih => exact ih
  | call h env c ha ih =>
    intro id p' h'
    cases promoOrigin_call env c h' with
    | kept found reused => exact hreused reused (ih _ _ found)
    | patched found patch call checked => exact hpatched (call ▸ ha) checked found (ih _ _ found) _
    | created createdBy input draft call drafted =>
      exact hcreated (PromoCodeInput.checked_intoDraft drafted) _ _

end Memory.State

end EventTickets
