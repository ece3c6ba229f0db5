import EventTickets.Proofs.CheckIn
import EventTickets.Proofs.OrderAcceptance

/-!
# Trying a promo code tells what an order with it gets

A preview looks a code up beside any transaction and only asks its rule; an order locks the code,
asks the rule and then uses the code up. Both meet the same verdict. What an order costs without a
code does not depend on the code, so a preview at that sum says how the order with the code ends,
and for what reason if it is refused.
-/

namespace EventTickets

namespace Memory.Tables

variable {t : Tables}

/-- The promo code that a code names with what it takes off, or why it takes off nothing. -/
def verdict (t : Tables) (context : PromoContext) (code : String) :
    Except PromoFailure (PromoCode × Int64) :=
  match t.promoByCode? code with
  | none => .error .notFound
  | some p =>
    match (p.rule.validate context).result with
    | .ok cents => .ok (p, cents)
    | .error why => .error (.rejected why)

theorem verdict_bounds {now : Time.Instant} {event : EventId} {subtotal : Int64}
    {code : String} {p : PromoCode} {cents : Int64} (hpositive : 0 < subtotal)
    (h : t.verdict ⟨now, event, subtotal⟩ code = .ok (p, cents)) :
    0 ≤ cents.toInt ∧ cents.toInt ≤ subtotal.toInt := by
  have hnonneg : (0 : Int64).toInt ≤ subtotal.toInt :=
    Int.le_of_lt (Int64.lt_iff_toInt_lt.mp hpositive)
  rw [verdict] at h
  split at h
  · cases h
  · next p' hfound =>
    split at h
    · next cents' hresult =>
      cases h
      have hmapped : (p.rule.validate ⟨now, event, subtotal⟩).result.mapError
          (fun why => TicketingError.promoInvalid (.rejected why)) = .ok cents := by
        rw [hresult]
        rfl
      obtain ⟨value, rfl⟩ := Purchase.cents_of_result hmapped
      exact Amount.clamp_bounds hnonneg value
    · cases h

end Memory.Tables

/-- Whether a preview at a subtotal says what a verdict says. -/
def PromoCheck.Tells (check : PromoCheck) (subtotal : Int64) :
    Except PromoFailure (PromoCode × Int64) → Prop
  | .ok (_, cents) =>
    check.valid = true ∧ check.discountCents = cents ∧
      check.totalCents = subtotal - cents ∧ check.reason = none
  | .error why => check.valid = false ∧ check.reason = some why

theorem PromoCheck.tells_ofValidation (p : PromoCode) (context : PromoContext) :
    (PromoCheck.ofValidation p (p.rule.validate context)).Tells context.subtotalCents
      (match (p.rule.validate context).result with
      | .ok cents => .ok (p, cents)
      | .error why => .error (.rejected why)) := by
  rcases p.rule.validate_cases context with ⟨value, -, e⟩ | ⟨reason, -, e⟩ <;> rw [e]
  · exact ⟨rfl, rfl, rfl, rfl⟩
  · exact ⟨rfl, rfl⟩

namespace Purchase

/-- What is settled about an order before its promo code is asked. -/
structure Bill where
  start : Time.Instant
  id : OrderId
  quote : Quote

def bill (order : Intent) : Service Bill := do
  let start ← Service.now
  let title ← Service.within (.eventTitle order.eventId)
  Service.require (.invalidProduct ("event " ++ order.eventId.text ++ " not found")) title.isSome
  let orderId : OrderId := ⟨← Service.ask .newId⟩
  let time ← Service.now
  let quote ← Quote.ofBasket ⟨orderId, order.userId, order.eventId, time⟩
    order.tickets order.transfers
  Service.require (.invalidProduct "order subtotal must be positive") (0 < quote.subtotalCents)
  return ⟨start, orderId, quote⟩

def write (policy : OrderPolicy) (order : Intent) (bill : Bill) (discount : Discount) :
    Service OrderDetail := do
  Service.within (.insertOrder (order.newOrder policy bill.id bill.start bill.quote discount))
  insertItems bill.quote.items
  insertTickets bill.quote.tickets
  Service.demand (.orderNotFound bill.id) (← Service.within (.orderDetail bill.id false))

theorem place_eq (policy : OrderPolicy) (order : Intent) :
    place policy order = (do
      let bill ← bill order
      let discount ← applyPromoGiven order.promoCode order.eventId bill.quote.subtotalCents
      write policy order bill discount) := by
  rw [place, bill]
  simp only [bind_assoc, pure_bind]
  rfl

theorem check_promoCode {policy : OrderPolicy} {request : CreateOrderRequest} {intent : Intent}
    (h : check policy { request with promoCode := none } = .ok intent) (code : Option String) :
    check policy { request with promoCode := code } =
      .ok { intent with promoCode := (code.map Text.normalizeToken).filter (!·.isEmpty) } := by
  simp only [check] at h ⊢
  split at h
  · cases h
  · next hvalid =>
    rw [if_neg hvalid]
    split at h
    · split at h
      · cases h
      · next htickets =>
        cases h
        simp only [if_neg htickets]
        rfl
    · cases h

theorem createOrder_eq {env : Environment} {request : CreateOrderRequest} {intent : Intent}
    (h : check env.policy request = .ok intent) :
    createOrder env request = Service.transaction (place env.policy intent) := by
  rw [createOrder, h]
  rfl

end Purchase

namespace Memory.State

open Tables Purchase

variable {σ α : Type} (channel : Channel σ)

theorem answer_clock (r : Request) (s : State σ) :
    (answer channel r s).2.sources.clock.item = s.sources.clock.item := by
  cases r with
  | store c =>
    cases c with
    | within c =>
      simp only [answer, answerStore, State.within]
      split <;> rfl
    | commit =>
      simp only [answer, answerStore, commit]
      split <;> rfl
    | createPromoCode draft =>
      simp only [answer, answerStore, createPromoCode_eq]
      split <;> rfl
    | _ => rfl
  | _ => rfl

theorem serve_clock (p : Service α) (s : State σ) :
    (serve channel p s).2.sources.clock.item = s.sources.clock.item := by
  have h : ∀ (p : Program Request.signature (Except TicketingError α)) (s : State σ),
      (Program.run (S := Request.signature) (answer channel) p s).2.sources.clock.item =
      s.sources.clock.item := by
    intro p
    induction p with
    | done a => exact fun s => rfl
    | call r next ih => exact fun s => (ih _ _).trans (answer_clock channel r s)
  exact h p.run s

variable (s : State σ) (sources : Sources) (t : Tables) {l : LockLedger}

theorem serve_validatePromoCode (event : EventId) {code : String}
    (hnamed : code.toList.all Text.isBlank = false) {subtotal : Int64} (hpositive : 0 < subtotal) :
    ∃ check after, serve channel (validatePromoCode event code subtotal) s = (.ok check, after) ∧
      check.Tells subtotal (s.committed.verdict ⟨s.sources.now.1, event, subtotal⟩
        (Text.normalizeToken code)) := by
  have hasked : ((Text.normalizeToken code).isEmpty || decide (subtotal ≤ 0)) = false := by
    rw [Text.normalizeToken_isEmpty, hnamed, Bool.false_or, decide_eq_false_iff_not]
    exact Int64.not_le.mpr hpositive
  have hfind : serve channel (Service.store (.findPromoByCode (Text.normalizeToken code))) s =
      (.ok (s.committed.promoByCode? (Text.normalizeToken code)), s) := rfl
  simp only [validatePromoCode, hasked, Bool.false_eq_true, if_false]
  rw [serve_bind, hfind, verdict]
  rcases s.committed.promoByCode? (Text.normalizeToken code) with _ | p
  · exact ⟨_, _, rfl, rfl, rfl⟩
  · exact ⟨_, _, rfl, PromoCheck.tells_ofValidation p ⟨s.sources.now.1, event, subtotal⟩⟩

theorem attempt_applyPromo (hid : t.promoCodes.Each fun id p => p.id = id)
    (hl : l.Admits .promo) (code : String)
    (hrange : ∀ p, t.promoByCode? code = some p → p.usedCount.toNat < 2 ^ 32 - 1)
    (event : EventId) (subtotal : Int64) :
    match t.verdict ⟨sources.now.1, event, subtotal⟩ code with
    | .error why => attempt channel (applyPromo code event subtotal) (s.opened sources ⟨t, l⟩) =
        .error (.promoInvalid why)
    | .ok (p, cents) => ∃ t', t.consumePromo? p.id = some t' ∧
        attempt channel (applyPromo code event subtotal) (s.opened sources ⟨t, l⟩) =
          .ok (⟨some p.id, cents⟩, s.opened sources.now.2 ⟨t', ⟨some .promo⟩⟩) := by
  rw [applyPromo, attempt_bind, attempt_lockPromoByCode channel s sources t hl, verdict]
  dsimp only
  rw [attempt_bind, attempt_demand]
  rcases hfound : t.promoByCode? code with _ | p
  · rfl
  dsimp only
  rw [attempt_bind, attempt_now]
  dsimp only
  rw [attempt_bind, attempt_liftExcept]
  rcases p.rule.validate_result ⟨sources.now.1, event, subtotal⟩ with
    ⟨-, hrule, e⟩ | ⟨-, why, e⟩ <;> rw [e]
  · obtain ⟨t', huse⟩ := Option.isSome_iff_exists.mp
      ((consumePromo?_isSome_iff (promoByCode?_get? hid hfound) hrule).mpr (hrange p hfound))
    refine ⟨t', huse, ?_⟩
    dsimp only [Except.mapError]
    rw [attempt_bind, attempt_consumePromo, huse]
    rfl
  · rfl

theorem attempt_bill {intent : Intent} {b : Bill} {s' : State σ}
    (h : attempt channel (bill intent) (s.opened sources ⟨t, .empty⟩) = .ok (b, s')) :
    ∃ after l, s' = s.opened after ⟨t, l⟩ ∧ l.Admits .promo ∧
      after.clock.item = sources.clock.item ∧ 0 < b.quote.subtotalCents := by
  have hclock := serve_clock channel (bill intent) (s.opened sources ⟨t, .empty⟩)
  rw [(attempt_eq_ok_iff channel).mp h] at hclock
  obtain ⟨start, s₁, h₁, h⟩ := (attempt_bind_eq_ok_iff channel).mp h
  rw [attempt_now] at h₁
  cases h₁
  obtain ⟨title, s₁, h₁, h⟩ := (attempt_bind_eq_ok_iff channel).mp h
  rw [attempt_eventTitle] at h₁
  cases h₁
  obtain ⟨_, s₁, h₁, h⟩ := (attempt_bind_eq_ok_iff channel).mp h
  obtain ⟨-, rfl⟩ := (attempt_require_eq_ok_iff channel).mp h₁
  obtain ⟨id, s₁, h₁, h⟩ := (attempt_bind_eq_ok_iff channel).mp h
  rw [attempt_newId] at h₁
  cases h₁
  obtain ⟨time, s₁, h₁, h⟩ := (attempt_bind_eq_ok_iff channel).mp h
  rw [attempt_now] at h₁
  cases h₁
  obtain ⟨quote, s₁, h₁, h⟩ := (attempt_bind_eq_ok_iff channel).mp h
  obtain ⟨after, l, rfl, hl, -⟩ := attempt_ofBasket channel s _ t (by simp) h₁
  obtain ⟨_, s₁, h₁, h⟩ := (attempt_bind_eq_ok_iff channel).mp h
  obtain ⟨hcosts, rfl⟩ := (attempt_require_eq_ok_iff channel).mp h₁
  cases h
  exact ⟨after, l, rfl, hl.mono (by decide), hclock, of_decide_eq_true hcosts⟩

theorem attempt_write (l : LockLedger) (policy : OrderPolicy) (intent : Intent) (b : Bill)
    (discount : Discount) (habsent : t.orders.get? b.id = none) :
    ∃ detail t', attempt channel (write policy intent b discount) (s.opened sources ⟨t, l⟩) =
        .ok (detail, s.opened sources ⟨t', l⟩) ∧
          detail.order.subtotalCents = b.quote.subtotalCents ∧
      detail.order.discountCents = discount.cents ∧
      detail.order.totalCents = max (b.quote.subtotalCents - discount.cents) 0 := by
  let w : Placement := ⟨intent.newOrder policy b.id b.start b.quote discount,
    b.quote.items, b.quote.tickets⟩
  obtain ⟨detail, hdetail, hs⟩ := attempt_insertAll channel s sources t w habsent
  refine ⟨detail, t.placed w, hs, ?_⟩
  have hrow : (t.placed w).orders.get? w.order.id = some w.order.order := by simp [placed]
  rw [detail?, hrow, Option.map_some, Option.some.injEq] at hdetail
  subst hdetail
  exact ⟨rfl, rfl, rfl⟩

theorem absent_of_attempt_write {policy : OrderPolicy} {intent : Intent} {b : Bill}
    {discount : Discount} {r : OrderDetail × State σ}
    (h : attempt channel (write policy intent b discount) (s.opened sources ⟨t, l⟩) = .ok r) :
    t.orders.get? b.id = none := by
  obtain ⟨_, s₁, h₁, -⟩ := (attempt_bind_eq_ok_iff channel).mp h
  rw [attempt_insertOrder] at h₁
  split at h₁
  · cases h₁
  · next habsent => exact habsent

section

variable {channel} {s} {env : Environment} {request : CreateOrderRequest}
  {intent : Intent} {b : Bill}

theorem bill_of_accepted {detail : OrderDetail} {after : State σ}
    (h : serve channel (createOrder env
      { request with promoCode := none }) s = (.ok detail, after)) :
    ∃ intent b priced l, check env.policy { request with promoCode := none } = .ok intent ∧
      intent.eventId = request.eventId ∧
      attempt channel (bill intent) s.begun = .ok (b, s.opened priced ⟨s.committed, l⟩) ∧
      l.Admits .promo ∧ priced.clock.item = s.sources.clock.item ∧
      s.committed.orders.get? b.id = none ∧ 0 < b.quote.subtotalCents ∧
      detail.order.subtotalCents = b.quote.subtotalCents := by
  rcases check_cases env.policy { request with promoCode := none } with
    ⟨intent, hcheck, -, -, hevent, -, hcode⟩ | ⟨⟨message, hcheck⟩, -⟩
  swap
  · rw [createOrder, serve_bind, serve_liftExcept, hcheck] at h
    cases h
  rw [createOrder_eq hcheck] at h
  rcases serve_transaction channel (careful_place env.policy intent).inner s with
    ⟨e, _, -, -, hs⟩ | ⟨detail', sources', tx, hbody, -, hs⟩
  · cases hs.symm.trans h
  · cases hs.symm.trans h
    rw [place_eq] at hbody
    obtain ⟨b, s₁, hbill, hbody⟩ := (attempt_bind_eq_ok_iff channel).mp hbody
    obtain ⟨priced, l, rfl, hl, hclock, hpositive⟩ :=
      attempt_bill channel s s.sources s.committed hbill
    obtain ⟨discount, s₁, h₁, hwrite⟩ := (attempt_bind_eq_ok_iff channel).mp hbody
    rw [hcode] at h₁
    cases h₁
    have habsent := absent_of_attempt_write channel s priced s.committed hwrite
    obtain ⟨detail', t', hwrite', hsubtotal, -⟩ :=
      attempt_write channel s priced s.committed l env.policy intent b ⟨none, 0⟩ habsent
    cases hwrite.symm.trans hwrite'
    exact ⟨intent, b, _, l, hcheck, hevent, hbill, hl, hclock, habsent, hpositive, hsubtotal⟩

theorem serve_createOrder_with_code (hid : s.committed.promoCodes.Each fun id p => p.id = id)
    (hcheck : check env.policy { request with promoCode := none } = .ok intent)
    {priced : Sources} {l : LockLedger}
    (hbill : attempt channel (bill intent) s.begun = .ok (b, s.opened priced ⟨s.committed, l⟩))
    (hl : l.Admits .promo) (habsent : s.committed.orders.get? b.id = none)
    (hpositive : 0 < b.quote.subtotalCents) {code : String}
    (hnamed : code.toList.all Text.isBlank = false)
    (hrange : ∀ p, s.committed.promoByCode? (Text.normalizeToken code) = some p →
      p.usedCount.toNat < 2 ^ 32 - 1) :
    match s.committed.verdict ⟨priced.now.1, intent.eventId, b.quote.subtotalCents⟩
      (Text.normalizeToken code) with
    | .error why => ∃ after, serve channel (createOrder env
        { request with promoCode := some code }) s =
        (.error (.promoInvalid why), after) ∧ after.committed = s.committed
    | .ok (_, cents) => ∃ detail after,
        serve channel (createOrder env
          { request with promoCode := some code }) s = (.ok detail, after) ∧
        detail.order.discountCents = cents ∧
        detail.order.totalCents = b.quote.subtotalCents - cents := by
  have hgiven : ((some code).map Text.normalizeToken).filter (!·.isEmpty) =
      some (Text.normalizeToken code) := by
    rw [Option.map_some, Option.filter_some, Text.normalizeToken_isEmpty, hnamed]
    rfl
  have hwith := check_promoCode hcheck (some code)
  rw [hgiven] at hwith
  have hinner := (careful_place env.policy
      { intent with promoCode := some (Text.normalizeToken code) }).inner
  rw [createOrder_eq hwith]
  have hbody : attempt channel (place env.policy
      { intent with promoCode := some (Text.normalizeToken code) }) s.begun =
      attempt channel (do
        let discount ← applyPromo (Text.normalizeToken code) intent.eventId b.quote.subtotalCents
        write env.policy { intent with promoCode := some (Text.normalizeToken code) } b discount)
        (s.opened priced ⟨s.committed, l⟩) := by
    rw [place_eq, attempt_bind]
    have hsame : bill
        { intent with promoCode := some (Text.normalizeToken code) } = bill intent := rfl
    rw [hsame, hbill]
    rfl
  rw [attempt_bind] at hbody
  have hpromo := attempt_applyPromo channel s priced s.committed hid hl (Text.normalizeToken code)
    hrange intent.eventId
    b.quote.subtotalCents
  rcases hverdict : s.committed.verdict ⟨priced.now.1, intent.eventId, b.quote.subtotalCents⟩
    (Text.normalizeToken code) with why | ⟨p, cents⟩ <;>
    rw [hverdict] at hpromo <;> dsimp only at hpromo ⊢
  · rw [hpromo] at hbody
    obtain ⟨after, -, hs⟩ := serve_transaction_of_error channel hinner hbody
    exact ⟨_, hs, rfl⟩
  · obtain ⟨t', huse, happlied⟩ := hpromo
    have htaken : s.committed.PromoTaken (some p.id) t' := .inr ⟨p.id, rfl, huse⟩
    obtain ⟨detail, t₁, hwrite, -, hdiscount, htotal⟩ :=
      attempt_write channel s priced.now.2 t' ⟨some .promo⟩ env.policy
      { intent with
        promoCode := some (Text.normalizeToken code) } b ⟨some p.id,
        cents⟩ (by rw [htaken.eq]; exact habsent)
    rw [happlied] at hbody
    dsimp only at hbody
    rw [hwrite] at hbody
    obtain ⟨-, hs⟩ := serve_transaction_of_ok channel hinner hbody
    obtain ⟨hnonneg, hle⟩ := verdict_bounds hpositive hverdict
    exact ⟨detail, _, hs, hdiscount, htotal.trans (Amount.max_sub_eq hnonneg hle)⟩

end

theorem Reachable.promo_id {channel : Channel σ}
    {allowed : State σ → Environment → ServiceCall → Prop} {s : State σ}
    (h : Reachable channel allowed s) : s.committed.promoCodes.Each fun id p => p.id = id := by
  have hempty : Tables.empty.promoCodes.Each fun id p => p.id = id := fun id p hp => by cases hp
  refine h.kept (P := fun s => s.committed.promoCodes.Each fun id (p : PromoCode) => p.id = id)
    (fun _ _ => hempty) (fun _ _ _ hid => hid) ?_
  intro s s' env c t' _ _ hbecomes heffect hid id p' hp'
  rw [hbecomes.committed] at hp'
  cases heffect with
  | catalog hchange =>
    rcases hchange.promo hp' with ⟨p, hp, e, -⟩ | ⟨e, -⟩
    · exact e.trans (hid id p hp)
    · exact e
  | place request w t₁ hpromo =>
    obtain ⟨p, hp, hsame⟩ := hpromo.row hp'
    rcases hsame with ⟨-, e⟩ | ⟨-, -, e⟩ <;> rw [e] <;> exact hid id p hp
  | confirm call t₁ nonces hr =>
    rw [promoCodes_confirmed hr] at hp'
    exact hid id p' hp'
  | cancel _ operator reason order ho hopen =>
    rw [get?_promoCodes_canceled] at hp'
    split at hp'
    · obtain ⟨p, hp, rfl⟩ := Option.map_eq_some_iff.mp hp'
      exact hid id p hp
    · exact hid id p' hp'
  | redeem _ operator token ticket order hadmitted =>
    rw [promoCodes_redeemed] at hp'
    exact hid id p' hp'

theorem serve_validatePromoCode_sources (channel : Channel σ) (s : State σ)
    (event : EventId) (code : String) (subtotal : Int64) :
    ∃ check sources, serve channel (validatePromoCode event code subtotal) s =
      (.ok check, { s with sources := sources }) := by
  simp only [validatePromoCode]
  split
  · exact ⟨_, s.sources, rfl⟩
  · have hfind : serve channel (Service.store (.findPromoByCode (Text.normalizeToken code))) s =
        (.ok (s.committed.promoByCode? (Text.normalizeToken code)), s) := rfl
    rw [serve_bind, hfind]
    rcases s.committed.promoByCode? (Text.normalizeToken code) with _ | p
    · exact ⟨_, s.sources, rfl⟩
    · exact ⟨_, s.sources.now.2, rfl⟩

/-- A preview changes nothing. Asked about what an order comes to without a code, at a time that
stands still, it is favorable to a code exactly if the order is placed with it, at the discount and
the total that it tells; and if it tells a reason, the order with the code is refused for that
reason. -/
theorem promo_preview_agrees {channel : Channel σ} {s : State σ} (h : Reachable channel anyCall s) :
    (∀ event code subtotal, ∃ check sources,
      serve channel (validatePromoCode event code subtotal) s =
      (.ok check, { s with sources := sources })) ∧
    ∀ (clock : Clock) (time : Time.Instant), (∀ n, clock.item n = time) →
      ∀ (env : Environment) (request : CreateOrderRequest) (detail : OrderDetail) (after : State σ),
        serve channel (createOrder env
          { request with promoCode := none }) (s.withClock clock) = (.ok detail, after) →
      ∀ code : String, code.toList.all Text.isBlank = false →
        (∀ p, s.committed.promoByCode? (Text.normalizeToken code) = some p →
          p.usedCount.toNat < 2 ^ 32 - 1) →
      ∃ check after',
      serve channel (validatePromoCode request.eventId code detail.order.subtotalCents)
          (s.withClock clock) = (.ok check, after') ∧
        (∀ discount total,
          (check.valid = true ∧ check.discountCents = discount ∧ check.totalCents = total) ↔
          ∃ detail' after', serve channel (createOrder env
            { request with promoCode := some code }) (s.withClock clock) =
            (.ok detail', after') ∧ detail'.order.discountCents = discount ∧
            detail'.order.totalCents = total) ∧
        ∀ why, check.reason = some why →
          ∃ after', serve channel (createOrder env
            { request with promoCode := some code }) (s.withClock clock) =
            (.error (.promoInvalid why), after') ∧ after'.committed = s.committed := by
  refine ⟨serve_validatePromoCode_sources channel s, ?_⟩
  intro clock time hclock env request detail after haccepted code hnamed hrange
  obtain ⟨intent, b, priced, l, hcheck, hevent, hbill, hl, hitem, habsent, hpositive, hsubtotal⟩ :=
    bill_of_accepted haccepted
  obtain ⟨check, after', hs, htells⟩ :=
    serve_validatePromoCode channel (s.withClock clock) request.eventId hnamed
    hpositive
  have hwith := serve_createOrder_with_code (s := s.withClock clock) h.promo_id hcheck hbill
    hl habsent hpositive
    hnamed hrange
  have hnow : ∀ {sources : Sources}, sources.clock.item = clock.item → sources.now.1 = time :=
    fun e => (congrFun e _).trans (hclock _)
  rw [hnow hitem, hevent] at hwith
  rw [hnow rfl] at htells
  rw [hsubtotal]
  refine ⟨check, after', hs, ?_⟩
  rcases hverdict : (s.withClock clock).committed.verdict
      ⟨time, request.eventId, b.quote.subtotalCents⟩ (Text.normalizeToken code)
    with why | ⟨p, cents⟩ <;> rw [hverdict] at htells hwith
  · obtain ⟨hinvalid, hreason⟩ := htells
    obtain ⟨after', hrefused, hsame⟩ := hwith
    refine ⟨fun discount total => ⟨fun hvalid => ?_, ?_⟩, fun why' e => ?_⟩
    · cases hinvalid.symm.trans hvalid.1
    · rintro ⟨_, _, hok, -⟩
      cases hrefused.symm.trans hok
    · cases hreason.symm.trans e
      exact ⟨after', hrefused, hsame⟩
  · obtain ⟨hvalid, hdiscount, htotal, hreason⟩ := htells
    obtain ⟨detail', after', hplaced, hdiscount', htotal'⟩ := hwith
    refine ⟨fun discount total => ⟨?_, ?_⟩, fun why' e => ?_⟩
    · rintro ⟨-, rfl, rfl⟩
      exact ⟨detail', after', hplaced, hdiscount'.trans hdiscount.symm, htotal'.trans htotal.symm⟩
    · rintro ⟨detail'', after'', hok, rfl, rfl⟩
      cases hplaced.symm.trans hok
      exact ⟨hvalid, hdiscount.trans hdiscount'.symm, htotal.trans htotal'.symm⟩
    · cases hreason.symm.trans e

theorem promo_preview_agrees_welcome :
    let s := (Sample.store Sample.onSale).withClock (.fixed Sample.time)
    (∃ check after, serve .log (validatePromoCode Sample.event "\tWelCome" 10000) s =
      (.ok check, after) ∧
      check.valid = true ∧ check.discountCents = 1000 ∧ check.totalCents = 9000) ∧
    ∃ detail after, serve .log (createOrder Sample.environment
        { Sample.discountedRequest with promoCode := some "\tWelCome" }) s = (.ok detail, after) ∧
      detail.order.discountCents = 1000 ∧ detail.order.totalCents = 9000 := by
  intro s
  have hplaced :
      (serve .log (createOrder Sample.environment
          { Sample.discountedRequest with promoCode := none }) s).1.toOption.map
          (·.order.subtotalCents) =
        some 10000 := by decide +kernel
  have hused :
      ((Sample.store Sample.onSale).committed.promoByCode?
          (Text.normalizeToken "\tWelCome")).map (·.usedCount) =
        some 0 := by decide +kernel
  have htold :
      (serve .log (validatePromoCode Sample.event "\tWelCome" 10000) s).1.toOption.map
          (fun check => (check.valid, check.discountCents, check.totalCents)) =
        some (true, 1000, 9000) := by decide +kernel
  rcases haccepted : serve .log (createOrder Sample.environment
    { Sample.discountedRequest with promoCode := none }) s
    with ⟨e | detail, after⟩ <;> rw [haccepted] at hplaced
  · cases hplaced
  have hsubtotal : detail.order.subtotalCents = 10000 := Option.some.inj hplaced
  have hrange : ∀ p, (Sample.store Sample.onSale).committed.promoByCode?
      (Text.normalizeToken "\tWelCome") = some p →
      p.usedCount.toNat < 2 ^ 32 - 1 := by
    intro p hp
    rw [hp, Option.map_some, Option.some.injEq] at hused
    rw [hused]
    decide
  obtain ⟨check, after', hs, hiff, -⟩ :=
    (promo_preview_agrees (Sample.store_reachable Sample.onSale)).2 (.fixed Sample.time)
      Sample.time (fun _ => rfl) Sample.environment Sample.discountedRequest detail after haccepted
      "\tWelCome" (by decide +kernel) hrange
  rw [hsubtotal] at hs
  have hevent : Sample.discountedRequest.eventId = Sample.event := rfl
  rw [hevent] at hs
  rw [hs] at htold
  have hcheck : check.valid = true ∧ check.discountCents = 1000 ∧ check.totalCents = 9000 := by
    simpa [Except.toOption] using htold
  exact ⟨⟨check, after', hs, hcheck⟩, (hiff 1000 9000).mp hcheck⟩

end Memory.State

end EventTickets
