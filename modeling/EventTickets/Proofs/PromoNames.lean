import EventTickets.Proofs.PromoPreview
import EventTickets.Proofs.PromoRows
import EventTickets.Proofs.Text.LetterCase

/-!
# Promo codes are found by any spelling

Codes are stored trimmed and in upper case, and a new code must not be one that is found already.
Previews and orders both bring what they are given into that form before the tables search without
regard to case, so a text finds the one code that it is a spelling of, and no other.
-/

namespace EventTickets

open Memory Memory.Tables

structure PromoCode.Normalized (p : PromoCode) : Prop where
  named : p.code.isEmpty = false
  trimmed : Text.trim p.code = p.code
  upper : Text.upper p.code = p.code
  supported : p.discountType = .percent ∨ p.discountType = .fixed

namespace Memory.Tables

variable {t : Tables}

/-- Two rows do not have one code, whatever its case. -/
def CodesApart (t : Tables) : Prop :=
  ∀ id id' p p', t.promoCodes.get? id = some p → t.promoCodes.get? id' = some p' →
    Text.sameIgnoringCase p.code p'.code = true → id = id'

theorem promoByCode?_eq_none {code : String} (h : t.promoByCode? code = none)
    {id : PromoCodeId} {p : PromoCode} (hp : t.promoCodes.get? id = some p) :
    Text.sameIgnoringCase p.code (Text.trim code) = false :=
  Bool.eq_false_iff.mpr (List.find?_eq_none.mp h p (Table.mem_values_iff.mpr ⟨id, hp⟩))

theorem promoByCode?_eq_some {code : String} {p : PromoCode} (h : t.promoByCode? code = some p) :
    (∃ id, t.promoCodes.get? id = some p) ∧
      Text.sameIgnoringCase p.code (Text.trim code) = true := by
  refine ⟨Table.mem_values_iff.mp (List.mem_of_find?_eq_some h), ?_⟩
  rw [promoByCode?] at h
  simpa using List.find?_some h

theorem CodesApart.promoByCode?_eq_some_iff (h : t.CodesApart)
    (hnormal : t.promoCodes.Each fun _ p => p.Normalized) (text : String) {p : PromoCode} :
    t.promoByCode? (Text.normalizeToken text) = some p ↔
      (∃ id, t.promoCodes.get? id = some p) ∧ p.code = Text.normalizeToken text := by
  have hmatch : ∀ {id p}, t.promoCodes.get? id = some p →
      (Text.sameIgnoringCase p.code (Text.trim (Text.normalizeToken text)) = true ↔
        p.code = Text.normalizeToken text) := by
    intro id p hp
    rw [Text.trim_normalizeToken]
    exact Text.sameIgnoringCase_iff (hnormal id p hp).upper (Text.upper_normalizeToken text)
  constructor
  · intro hfound
    obtain ⟨⟨id, hp⟩, hsame⟩ := promoByCode?_eq_some hfound
    exact ⟨⟨id, hp⟩, (hmatch hp).mp hsame⟩
  · rintro ⟨⟨id, hp⟩, hcode⟩
    rcases hfound : t.promoByCode? (Text.normalizeToken text) with _ | q
    · have hmissed := promoByCode?_eq_none hfound hp
      rw [(hmatch hp).mpr hcode] at hmissed
      cases hmissed
    · obtain ⟨⟨id', hq⟩, hsame⟩ := promoByCode?_eq_some hfound
      have hcodes : p.code = q.code := hcode.trans ((hmatch hq).mp hsame).symm
      cases h id id' p q hp hq (beq_iff_eq.mpr (congrArg Text.lower hcodes))
      rw [← hp, ← hq]

end Memory.Tables

namespace PromoOrigin

variable {next : PromoCodeId} {now : Time.Instant} {t : Tables} {c : ServiceCall}
  {id : PromoCodeId} {p : PromoCode}

theorem code (h : PromoOrigin next now t c id p) :
    (∃ p₀, t.promoCodes.get? id = some p₀ ∧ p.code = p₀.code) ∨
      id = next ∧ ∀ id' q, t.promoCodes.get? id' = some q →
        Text.sameIgnoringCase q.code p.code = false := by
  cases h with
  | kept found reused =>
    obtain ⟨n, rfl⟩ := reused
    exact .inl ⟨_, found, rfl⟩
  | patched found patch call checked => exact .inl ⟨_, found, rfl⟩
  | created createdBy input draft call drafted unknown new =>
    obtain ⟨raw, hnormal⟩ := (PromoCodeInput.checked_intoDraft drafted).normal
    refine .inr ⟨new, fun id' q hq => ?_⟩
    have hmissed := promoByCode?_eq_none unknown hq
    rwa [hnormal, Text.trim_normalizeToken, ← hnormal] at hmissed

end PromoOrigin

namespace Memory.State

variable {σ : Type} {channel : Channel σ} {allowed : State σ → Environment → ServiceCall → Prop}
  {s : State σ}

theorem codesApart_call (env : Environment) (c : ServiceCall) (h : s.committed.CodesApart) :
    (serve channel (c.service env) s).2.committed.CodesApart := by
  intro id id' p p' hp hp' hsame
  rcases (promoOrigin_call env c hp).code with ⟨p₀, hp₀, e⟩ | ⟨hnew, hunknown⟩ <;>
    rcases (promoOrigin_call env c hp').code with ⟨p₀', hp₀', e'⟩ | ⟨hnew', hunknown'⟩
  · rw [e, e'] at hsame
    exact h id id' p₀ p₀' hp₀ hp₀' hsame
  · rw [e, hunknown' id p₀ hp₀] at hsame
    cases hsame
  · rw [Text.sameIgnoringCase, BEq.comm, ← Text.sameIgnoringCase, e',
      hunknown id' p₀' hp₀'] at hsame
    cases hsame
  · rw [hnew, hnew']

theorem Reachable.codesApart (h : Reachable channel allowed s) : s.committed.CodesApart := by
  induction h with
  | start sources inner => exact fun id id' p p' hp => by cases hp
  | addEvent h event title ih => exact ih
  | addUser h user ih => exact ih
  | call h env c ha ih => exact codesApart_call env c ih

theorem Reachable.normalized (h : Reachable channel allowed s) :
    s.committed.promoCodes.Each fun _ p => p.Normalized := by
  refine h.eachPromo ?_ ?_ ?_
  · intro draft hdraft id now
    obtain ⟨raw, hcode⟩ := hdraft.normal
    refine ⟨hdraft.named, ?_, ?_, hdraft.supported⟩
    · exact (congrArg Text.trim hcode).trans ((Text.trim_normalizeToken raw).trans hcode.symm)
    · exact (congrArg Text.upper hcode).trans ((Text.upper_normalizeToken raw).trans hcode.symm)
  · intro s env id patch p _ hchecked _ hp now
    refine ⟨hp.named, hp.trimmed, hp.upper, ?_⟩
    rcases hkind : patch.discountType with _ | kind
    · rw [PromoCodePatch.apply, hkind]
      exact hp.supported
    · rw [PromoCodePatch.apply, hkind]
      exact hchecked.supported kind hkind
  · rintro p _ ⟨n, rfl⟩ hp
    exact ⟨hp.named, hp.trimmed, hp.upper, hp.supported⟩

end Memory.State

/-- How a request ends whose code stands for a promo code, or for none: an order is placed with the
promo code, or that says no, or there is none. Before, the request must be valid; afterwards the
identifier of the order must be free. -/
inductive Memory.Tables.Settles (t : Tables) (sources : Sources) (valid : Prop)
    (context : PromoContext) (found : Option PromoCode) : Except TicketingError OrderDetail → Prop
  | placed (p : PromoCode) (cents : Int64) (detail : OrderDetail) (holds : valid)
    (stands : found = some p) (answers : p.answer context = .ok cents)
    (promoCodeId : detail.order.promoCodeId = some p.id)
    (discountCents : detail.order.discountCents = cents) :
    t.Settles sources valid context found (.ok detail)
  | refused (p : PromoCode) (reason : PromoRejection) (holds : valid) (stands : found = some p)
    (answers : p.answer context = .error reason) :
    t.Settles sources valid context found (.error (.promoInvalid (.rejected reason)))
  | unknown (holds : valid) (stands : found = none) :
    t.Settles sources valid context found (.error (.promoInvalid .notFound))
  | invalid (message : String) (fails : ¬ valid) :
    t.Settles sources valid context found (.error (.invalidProduct message))
  | duplicate (p : PromoCode) (cents : Int64) (e : StoreError) (holds : valid)
    (stands : found = some p) (answers : p.answer context = .ok cents)
    (present : (t.orders.get? ⟨sources.newId.1⟩).isSome = true) :
    t.Settles sources valid context found (.error (.store e))

namespace Memory.State

variable {σ : Type}

/-- A text stands for a promo code, or for none, in previews at any subtotal above zero and in
orders: a preview gives the verdict of the promo code, and an order is placed with it if its answer
is yes. -/
structure Resolves (channel : Channel σ) (s : State σ) (text : String) (found : Option PromoCode) :
    Prop where
  preview : ∀ event subtotal, 0 < subtotal →
    ∃ after, serve channel (validatePromoCode event text subtotal) s =
      (.ok (found.elim (.failed (Text.normalizeToken text) subtotal .notFound) fun p =>
        .ofValidation p (p.rule.validate ⟨s.sources.now.1, event, subtotal⟩)), after)
  order : ∀ env (request : CreateOrderRequest), request.promoCode = some text →
    ∃ listing cents r after,
      serve channel (purchasableProducts request.eventId) s = (.ok listing, s) ∧
      cents = request.subtotal env.policy.maxQuantityPerProduct listing ∧
      serve channel (createOrder env request) s = (r, after) ∧
      s.committed.Settles s.sources
        (request.Valid env.policy.maxQuantityPerProduct s.committed listing)
        (.ofOrder s.sources request.eventId cents) found r

/-- A text is no code: a preview does not take it for one, and an order is placed as it is without a
code. -/
structure Ignores (channel : Channel σ) (s : State σ) (text : String) : Prop where
  preview : ∀ event subtotal, serve channel (validatePromoCode event text subtotal) s =
    (.ok (.failed (Text.normalizeToken text) subtotal .invalidInput), s)
  order : ∀ env (request : CreateOrderRequest), request.promoCode = some text →
    createOrder env request = createOrder env { request with promoCode := none }
  placed : ∀ env (request : CreateOrderRequest) detail after, request.promoCode = some text →
    serve channel (createOrder env request) s = (.ok detail, after) →
    detail.order.promoCodeId = none

variable {channel : Channel σ} {allowed : State σ → Environment → ServiceCall → Prop} {s : State σ}
  {text : String}

theorem Reachable.resolves (h : Reachable channel allowed s)
    (htext : (Text.normalizeToken text).isEmpty = false) :
    s.Resolves channel text (s.committed.promoByCode? (Text.normalizeToken text)) := by
  refine ⟨fun event subtotal hpositive => ?_, fun env request hrequest => ?_⟩
  · have hasked : ((Text.normalizeToken text).isEmpty || decide (subtotal ≤ 0)) = false := by
      rw [htext, Bool.false_or, decide_eq_false_iff_not]
      exact Int64.not_le.mpr hpositive
    have hfind : serve channel (Service.store (.findPromoByCode (Text.normalizeToken text))) s =
        (.ok (s.committed.promoByCode? (Text.normalizeToken text)), s) := rfl
    simp only [validatePromoCode, hasked, Bool.false_eq_true, if_false]
    rw [serve_bind, hfind]
    cases s.committed.promoByCode? (Text.normalizeToken text) with
    | none => exact ⟨_, rfl⟩
    | some p => exact ⟨_, rfl⟩
  · have hnamed : text.toList.all Text.isBlank = false :=
      (Text.normalizeToken_isEmpty text).symm.trans htext
    obtain ⟨listing, hlisting⟩ : ∃ listing, listing = s.committed.purchasable request.eventId :=
      ⟨_, rfl⟩
    obtain ⟨cents, hcents⟩ :
        ∃ cents, cents = request.subtotal env.policy.maxQuantityPerProduct listing := ⟨_, rfl⟩
    have hserve := serve_purchasableProducts channel (s := s) request.eventId
    rw [← hlisting] at hserve
    rcases serve_createOrder_cases channel h.priced h.promo_id env request hlisting rfl hcents with
      ⟨detail, promo, order, after, hs, hvalid, hgrants, hordered, hpromo⟩ |
        ⟨why, after, hs, -, hvalid, hrefuses⟩ | ⟨message, after, hs, -, hinvalid⟩ |
        ⟨e, promo, after, hs, hvalid, hgrants, hpresent⟩
    · rw [hrequest, grants_named_iff hnamed] at hgrants
      obtain ⟨p, rfl, haccepts⟩ := hgrants
      refine ⟨listing, cents, _, after, hserve, hcents, hs,
        .placed p _ detail hvalid haccepts.found haccepts.answer ?_ ?_⟩
      · rw [hordered.detail_order]
        exact hpromo
      · rw [hordered.detail_order]
        exact hordered.discount
    · refine ⟨listing, cents, _, after, hserve, hcents, hs, ?_⟩
      cases hrefuses with
      | unknown c given _ missing =>
        cases hrequest.symm.trans given
        exact .unknown hvalid missing
      | rejected c p reason given _ found answers =>
        cases hrequest.symm.trans given
        exact .refused p reason hvalid found answers
    · exact ⟨listing, cents, _, after, hserve, hcents, hs, .invalid message hinvalid⟩
    · rw [hrequest, grants_named_iff hnamed] at hgrants
      obtain ⟨p, rfl, haccepts⟩ := hgrants
      exact ⟨listing, cents, _, after, hserve, hcents, hs,
        .duplicate p _ e hvalid haccepts.found haccepts.answer hpresent⟩

theorem Reachable.ignores (h : Reachable channel allowed s)
    (htext : (Text.normalizeToken text).isEmpty = true) : s.Ignores channel text := by
  refine ⟨fun event subtotal => ?_, fun env request hrequest => ?_,
    fun env request detail after hrequest hs => ?_⟩
  · simp only [validatePromoCode, htext, Bool.true_or, if_true]
    rfl
  · have hnone : (request.promoCode.map Text.normalizeToken).filter (!·.isEmpty) = none := by
      rw [hrequest, Option.map_some, Option.filter_some, htext]
      rfl
    have hcheck : Purchase.check env.policy request =
        Purchase.check env.policy { request with promoCode := none } := by
      simp only [Purchase.check, hnone, Option.map_none, Option.filter_none]
    rw [createOrder, createOrder, hcheck]
  · obtain ⟨listing, hlisting⟩ : ∃ listing, listing = s.committed.purchasable request.eventId :=
      ⟨_, rfl⟩
    obtain ⟨cents, hcents⟩ :
        ∃ cents, cents = request.subtotal env.policy.maxQuantityPerProduct listing := ⟨_, rfl⟩
    rcases serve_createOrder_cases channel h.priced h.promo_id env request hlisting rfl hcents with
      ⟨detail', promo, order, after', hs', -, hgrants, hordered, hpromo⟩ |
        ⟨why, after', hs', -⟩ | ⟨message, after', hs', -⟩ | ⟨e, promo, after', hs', -⟩ <;>
      cases hs.symm.trans hs'
    rw [hordered.detail_order]
    refine hpromo.trans ?_
    cases hgrants with
    | nothing => rfl
    | promo c p given named =>
      cases hrequest.symm.trans given
      rw [Text.normalizeToken_isEmpty, named] at htext
      cases htext

/-- Codes are stored in their normal form and differ in more than case. A text stands for the promo
code whose code it becomes by trimming and upper-casing, in previews and in orders, and for no
other; without such a promo code it stands for none. -/
theorem promo_codes_found_by_spelling (h : Reachable channel anyCall s) :
    s.committed.CodesApart ∧ (s.committed.promoCodes.Each fun _ p => p.Normalized) ∧
      (∀ id p, s.committed.promoCodes.get? id = some p → p.id = id ∧ ∀ text,
        (Text.normalizeToken text = p.code → s.Resolves channel text (some p)) ∧
          (Text.normalizeToken text ≠ p.code → s.Ignores channel text ∨
            ∃ found, s.Resolves channel text found ∧ ∀ q, found = some q → q.id ≠ id)) ∧
      ∀ text, (Text.normalizeToken text).isEmpty = false →
        (∀ id p, s.committed.promoCodes.get? id = some p → p.code ≠ Text.normalizeToken text) →
          s.Resolves channel text none := by
  have hfound := h.codesApart.promoByCode?_eq_some_iff h.normalized
  refine ⟨h.codesApart, h.normalized, fun id p hp => ⟨h.promo_id id p hp, fun text => ⟨?_, ?_⟩⟩,
    fun text htext hnone => ?_⟩
  · intro htext
    have hnamed : (Text.normalizeToken text).isEmpty = false := by
      rw [htext]
      exact (h.normalized id p hp).named
    rw [← (hfound text).mpr ⟨⟨id, hp⟩, htext.symm⟩]
    exact h.resolves hnamed
  · intro htext
    rcases hblank : (Text.normalizeToken text).isEmpty with _ | _
    · refine .inr ⟨_, h.resolves hblank, fun q hq hid => htext ?_⟩
      obtain ⟨⟨id', hrow⟩, hcode⟩ := (hfound text).mp hq
      have hid' := h.promo_id id' q hrow
      rw [← hid', hid, hp] at hrow
      rw [Option.some.inj hrow, hcode]
    · exact .inl (h.ignores hblank)
  · have hmissing : s.committed.promoByCode? (Text.normalizeToken text) = none := by
      refine Option.eq_none_iff_forall_ne_some.mpr fun p hp => ?_
      obtain ⟨⟨id, hrow⟩, hcode⟩ := (hfound text).mp hp
      exact hnone id p hrow hcode
    rw [← hmissing]
    exact h.resolves htext

end Memory.State

namespace Sample

def spelledRequest : CreateOrderRequest := { discountedRequest with promoCode := some "\tWelCome " }

end Sample

namespace Memory.State

theorem promo_codes_found_by_spelling_welcome :
    ∃ p, (Sample.store Sample.onSale).committed.promoCodes.get? Sample.promo = some p ∧
      p.code = "WELCOME" ∧
      (∃ detail after, serve .log (createOrder Sample.environment Sample.spelledRequest)
          (Sample.store Sample.onSale) = (.ok detail, after) ∧
        detail.order.promoCodeId = some Sample.promo) ∧
      (Sample.store Sample.onSale).Resolves .log "WELCOME2" none := by
  have hstored : ((Sample.store Sample.onSale).committed.promoCodes.get? Sample.promo).map
      (·.code) =
      some "WELCOME" := by decide +kernel
  have honly : ∀ p ∈ (Sample.store Sample.onSale).committed.promoCodes.values,
      p.code ≠ Text.normalizeToken "WELCOME2" := by decide +kernel
  obtain ⟨p, hp, hcode⟩ := Option.map_eq_some_iff.mp hstored
  have hspelled : Text.normalizeToken "\tWelCome " = "WELCOME" := by decide +kernel
  obtain ⟨-, -, hfinds, hmisses⟩ :=
    promo_codes_found_by_spelling (Sample.store_reachable Sample.onSale)
  obtain ⟨hid, hresolves⟩ := hfinds Sample.promo p hp
  obtain ⟨listing, cents, r, after, -, -, hs, hsettles⟩ :=
    ((hresolves "\tWelCome ").1 (hspelled.trans hcode.symm)).order Sample.environment
      Sample.spelledRequest rfl
  have hok : (serve .log (createOrder Sample.environment Sample.spelledRequest)
      (Sample.store Sample.onSale)).1.isOk = true := by decide +kernel
  rw [hs] at hok
  refine ⟨p, hp, hcode, ?_, hmisses "WELCOME2" (by decide +kernel) fun id q hq =>
    honly q (Table.mem_values_iff.mpr ⟨id, hq⟩)⟩
  cases hsettles with
  | placed q cents detail _ stands _ promoCodeId =>
    cases stands
    exact ⟨detail, after, hs, hid ▸ promoCodeId⟩
  | _ => cases hok

end Memory.State

end EventTickets
