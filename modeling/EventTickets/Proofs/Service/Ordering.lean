import EventTickets.Proofs.Service.Subtotal
import EventTickets.Proofs.Text.Blank

/-!
# Which orders are placed

What was checked without the store is placed exactly if it is for sale and its promo code, if there
is one, is granted.
-/

namespace EventTickets

namespace PromoRule

variable (rule : PromoRule) (context : PromoContext)

theorem validate_result :
    ((rule.validate context).valid = true ∧ rule.isExhausted = false ∧
      (rule.validate context).result = .ok (rule.validate context).discountCents) ∨
    ((rule.validate context).valid = false ∧ ∃ reason, (rule.validate context).result =
      .error reason) := by
  rcases rule.validate_cases context with ⟨value, hcheck, e⟩ | ⟨reason, -, e⟩ <;> rw [e]
  · refine .inl ⟨rfl, ?_, rfl⟩
    rw [check?] at hcheck
    by_contra hexhausted
    rw [Bool.not_eq_false] at hexhausted
    rw [if_pos hexhausted] at hcheck
    repeat' split at hcheck
    all_goals cases hcheck
  · exact .inr ⟨rfl, reason, rfl⟩

end PromoRule

/-- What a promo code says to an order: its verdict, and then whether it can be counted once
more. -/
def PromoCode.answer (p : PromoCode) (context : PromoContext) : Except PromoRejection Int64 := do
  let cents ← (p.rule.validate context).result
  if p.usedCount.toNat < 2 ^ 32 - 1 then return cents else throw .usageLimitReached

def PromoContext.discount (context : PromoContext) (promo : Option PromoCode) : Int64 :=
  promo.elim 0 fun p => (p.rule.validate context).discountCents

/-- An order as its promo code sees it. The clock is read twice before: for the order, and for its
tickets. -/
def PromoContext.ofOrder (sources : Sources) (event : EventId) (subtotal : Int) : PromoContext :=
  ⟨sources.clock.item (sources.clock.taken + 2), event, Int64.ofInt subtotal⟩

namespace Memory.Tables

variable {t : Tables}

theorem consumePromo?_isSome_iff {id : PromoCodeId} {p : PromoCode}
    (hp : t.promoCodes.get? id = some p) (hrule : p.rule.isExhausted = false) :
    (t.consumePromo? id).isSome ↔ p.usedCount.toNat < 2 ^ 32 - 1 := by
  constructor
  · intro hsome
    obtain ⟨t', ht'⟩ := Option.isSome_iff_exists.mp hsome
    obtain ⟨p', hp', huse, -⟩ := consumePromo?_eq_some ht'
    cases hp.symm.trans hp'
    exact huse.range
  · intro hrange
    have hfits : (Stock.mk p.usedCount (p.usageLimit.filter (0 < ·))).Fits 1 := by
      refine ⟨Nat.succ_le_of_lt hrange, fun limit hlimit => ?_⟩
      obtain ⟨hlimit, hpositive⟩ := Option.filter_eq_some_iff.mp hlimit
      simp only [PromoRule.isExhausted, PromoCode.rule, hlimit, Option.any_some,
        hpositive, Bool.true_and, decide_eq_false_iff_not, UInt32.not_le] at hrule
      exact UInt32.lt_iff_toNat_lt.mp hrule
    rw [consumePromo?, hp]
    simp [reserved?_eq_some_iff.mpr ⟨hfits, rfl⟩]

structure Accepts (t : Tables) (context : PromoContext) (code : String) (p : PromoCode) : Prop where
  found : t.promoByCode? code = some p
  valid : (p.rule.validate context).valid = true
  range : p.usedCount.toNat < 2 ^ 32 - 1

/-- What a code grants an order: nothing if there is none or it is blank, and else the promo code
that it names. -/
inductive Grants (t : Tables) (context : PromoContext) (code : Option String) :
    Option PromoCode → Prop
  | nothing (blank : ∀ c, code = some c → c.toList.all Text.isBlank = true) :
      Grants t context code none
  | promo (c : String) (p : PromoCode) (given : code = some c)
      (named : c.toList.all Text.isBlank = false)
    (accepts : t.Accepts context (Text.normalizeToken c) p) : Grants t context code (some p)

/-- Why a code that is not blank grants an order nothing: no promo code has it, or the one that has
it says so. -/
inductive Refuses (t : Tables) (context : PromoContext) (code : Option String) : PromoFailure → Prop
  | unknown (c : String) (given : code = some c) (named : c.toList.all Text.isBlank = false)
    (missing : t.promoByCode? (Text.normalizeToken c) = none) : Refuses t context code .notFound
  | rejected (c : String) (p : PromoCode) (reason : PromoRejection) (given : code = some c)
    (named : c.toList.all Text.isBlank = false)
    (found : t.promoByCode? (Text.normalizeToken c) = some p)
    (answers : p.answer context = .error reason) : Refuses t context code (.rejected reason)

theorem Accepts.answer {context : PromoContext} {code : String} {p : PromoCode}
    (h : t.Accepts context code p) :
    p.answer context = .ok (p.rule.validate context).discountCents := by
  rcases p.rule.validate_result context with ⟨-, -, e⟩ | ⟨hinvalid, -⟩
  · rw [PromoCode.answer, e]
    exact if_pos h.range
  · rw [h.valid] at hinvalid
    cases hinvalid

theorem Refuses.not_grants {context : PromoContext} {code : Option String} {why : PromoFailure}
    (h : t.Refuses context code why) (promo : Option PromoCode) :
    ¬ t.Grants context code promo := by
  intro hgrants
  cases hgrants with
  | nothing blank =>
    cases h with
    | unknown c given named missing =>
      rw [blank c given] at named
      cases named
    | rejected c p reason given named found answers =>
      rw [blank c given] at named
      cases named
  | promo c p given _ accepts =>
    cases given
    cases h with
    | unknown _ given _ missing =>
      cases given
      cases missing.symm.trans accepts.found
    | rejected _ _ _ given _ found answers =>
      cases given
      cases found.symm.trans accepts.found
      cases answers.symm.trans accepts.answer

theorem grants_named_iff {context : PromoContext} {c : String}
    (hnamed : c.toList.all Text.isBlank = false) {promo : Option PromoCode} :
    t.Grants context (some c) promo ↔ ∃ p, promo = some p ∧
      t.Accepts context (Text.normalizeToken c) p := by
  constructor
  · intro hgrants
    cases hgrants with
    | nothing blank =>
      rw [blank c rfl] at hnamed
      cases hnamed
    | promo _ p given _ accepts =>
      cases given
      exact ⟨p, rfl, accepts⟩
  · rintro ⟨p, rfl, haccepts⟩
    exact .promo c p rfl hnamed haccepts

theorem promoByCode?_get? (hid : t.promoCodes.Each fun id p => p.id = id)
    {code : String} {p : PromoCode} (h : t.promoByCode? code = some p) :
    t.promoCodes.get? p.id = some p := by
  obtain ⟨id, hp⟩ := Table.mem_values_iff.mp (List.mem_of_find?_eq_some h)
  rwa [hid id p hp]

theorem Grants.row (hid : t.promoCodes.Each fun id p => p.id = id) {context : PromoContext}
    {code : Option String} {p : PromoCode} (h : t.Grants context code (some p)) :
    t.promoCodes.get? p.id = some p := by
  cases h with
  | promo c p given named accepts => exact promoByCode?_get? hid accepts.found

structure ForSale (t : Tables) (event : EventId) (lines : List (ItemType × ProductId × UInt32)) :
    Prop where
  registered : (t.events.get? event).isSome
  offered : ∀ line ∈ lines, (t.offer? event line.1 line.2.1).isSome
  positive : 0 < Basket.cost (t.offer? event) lines
  range : Basket.cost (t.offer? event) lines ≤ 2 ^ 63 - 1

end Memory.Tables

namespace Memory.State

open Tables Purchase

variable {σ : Type}

def Deducts (s : State σ) (t : Tables) (context : PromoContext) (code : Option String)
    (r : Except TicketingError (Discount × State σ)) : Prop :=
  (∃ promo sources t' l,
    r = .ok (⟨promo.map (·.id), context.discount promo⟩, s.opened sources ⟨t', l⟩) ∧
    t.Grants context code promo ∧ t.PromoTaken (promo.map (·.id)) t') ∨
  ∃ why, r = .error (.promoInvalid why) ∧ t.Refuses context code why

/-- How the placing of an intent ends: it is written, its code is refused, it is not for sale, or
there is an order with its identifier. -/
inductive Places (s : State σ) (t : Tables) (sources : Sources) (policy : OrderPolicy)
    (intent : Intent) (code : Option String) (cents : Int) :
    Except TicketingError (OrderDetail × State σ) → Prop
  | written (detail : OrderDetail) (promo : Option PromoCode) (t₁ : Tables) (w : Placement)
    (quote : Quote) (after : Sources) (l : LockLedger)
    (sale : t.ForSale intent.eventId intent.lines)
    (grants : t.Grants (.ofOrder sources intent.eventId cents) code promo)
    (taken : t.PromoTaken (promo.map (·.id)) t₁)
    (shown : (t₁.placed w).detail? w.order.id false = some detail)
    (quoted : quote.subtotalCents.toInt = cents)
    (order : w.order = intent.newOrder policy ⟨sources.newId.1⟩ sources.now.1 quote
      ⟨promo.map (·.id), (PromoContext.ofOrder sources intent.eventId cents).discount promo⟩)
    (absent : t.orders.get? ⟨sources.newId.1⟩ = none) :
    Places s t sources policy intent code cents (.ok (detail, s.opened after ⟨t₁.placed w, l⟩))
  | refused (why : PromoFailure) (sale : t.ForSale intent.eventId intent.lines)
    (refuses : t.Refuses (.ofOrder sources intent.eventId cents) code why) :
    Places s t sources policy intent code cents (.error (.promoInvalid why))
  | unsold (message : String) (sale : ¬ t.ForSale intent.eventId intent.lines) :
    Places s t sources policy intent code cents (.error (.invalidProduct message))
  | duplicate (promo : Option PromoCode) (sale : t.ForSale intent.eventId intent.lines)
    (grants : t.Grants (.ofOrder sources intent.eventId cents) code promo)
    (present : (t.orders.get? ⟨sources.newId.1⟩).isSome = true) :
    Places s t sources policy intent code cents
      (.error (.store (.database ("duplicate order id " ++ sources.newId.1.text))))

variable (channel : Channel σ) (s : State σ) (sources : Sources) (t : Tables) {l : LockLedger}

theorem deducts_applyPromo (hid : t.promoCodes.Each fun id p => p.id = id) (hl : l.Admits .promo)
    {c : String} (hnamed : c.toList.all Text.isBlank = false) (event : EventId) (subtotal : Int64) :
    Deducts s t ⟨sources.now.1, event, subtotal⟩ (some c)
      (attempt channel (applyPromo (Text.normalizeToken c) event subtotal)
        (s.opened sources ⟨t, l⟩)) := by
  simp only [Deducts, grants_named_iff hnamed]
  rw [applyPromo, attempt_bind, attempt_lockPromoByCode channel s sources t hl]
  dsimp only
  rw [attempt_bind, attempt_demand]
  rcases hfound : t.promoByCode? (Text.normalizeToken c) with _ | p
  · exact .inr ⟨_, rfl, .unknown c rfl hnamed hfound⟩
  have hp := promoByCode?_get? hid hfound
  dsimp only
  rw [attempt_bind, attempt_now]
  dsimp only
  rw [attempt_bind, attempt_liftExcept]
  rcases p.rule.validate_result ⟨sources.now.1, event, subtotal⟩ with
    ⟨hvalid, hrule, e⟩ | ⟨hinvalid, why, e⟩ <;> rw [e]
  · dsimp only [Except.mapError]
    rw [attempt_bind, attempt_consumePromo]
    dsimp only
    rw [attempt_bind, attempt_require]
    rcases huse : t.consumePromo? p.id with _ | t'
    · have hfull : ¬ p.usedCount.toNat < 2 ^ 32 - 1 := by
        rw [← consumePromo?_isSome_iff hp hrule, huse]
        exact Bool.false_ne_true
      refine .inr ⟨_, rfl, .rejected c p .usageLimitReached rfl hnamed hfound ?_⟩
      rw [PromoCode.answer, e]
      exact if_neg hfull
    · have hrange := (consumePromo?_isSome_iff hp hrule).mp (by rw [huse]; rfl)
      exact .inl ⟨some p, _, t', _, rfl, ⟨p, rfl, hfound, hvalid, hrange⟩, .inr ⟨p.id, rfl, huse⟩⟩
  · refine .inr ⟨_, rfl, .rejected c p why rfl hnamed hfound ?_⟩
    rw [PromoCode.answer, e]
    rfl

theorem deducts_applyPromoGiven (hid : t.promoCodes.Each fun id p => p.id = id)
    (hl : l.Admits .promo) (code : Option String) (event : EventId) (subtotal : Int64) :
    Deducts s t ⟨sources.now.1, event, subtotal⟩ code
      (attempt channel (applyPromoGiven
        ((code.map Text.normalizeToken).filter (!·.isEmpty)) event subtotal)
        (s.opened sources ⟨t, l⟩)) := by
  rcases code with _ | c
  · exact .inl ⟨none, sources, t, l, rfl, .nothing nofun, .inl ⟨rfl, rfl⟩⟩
  rw [Option.map_some, Option.filter_some, Text.normalizeToken_isEmpty]
  rcases hblank : c.toList.all Text.isBlank with _ | _
  · exact deducts_applyPromo channel s sources t hid hl hblank event subtotal
  · refine .inl ⟨none, sources, t, l, rfl, .nothing ?_, .inl ⟨rfl, rfl⟩⟩
    rintro _ ⟨⟩
    exact hblank

theorem attempt_insertAll (w : Placement) (habsent : t.orders.get? w.order.id = none) :
    ∃ detail, (t.placed w).detail? w.order.id false = some detail ∧
      attempt channel (do
        Service.within (.insertOrder w.order)
        insertItems w.items
        insertTickets w.tickets
        Service.demand (.orderNotFound w.order.id)
          (← Service.within (.orderDetail w.order.id false))) (s.opened sources ⟨t, l⟩) =
          .ok (detail, s.opened sources ⟨t.placed w, l⟩) := by
  have hplaced : ({ t with orders := t.orders.insert w.order.id w.order.order }.insertAllItems
      w.items).insertAllTickets w.tickets = t.placed w := by
    simp [insertAllItems_eq, insertAllTickets_eq, placed]
  have hrow : (t.placed w).orders.get? w.order.id = some w.order.order := by simp [placed]
  obtain ⟨detail, hdetail⟩ : ∃ detail, (t.placed w).detail? w.order.id false = some detail :=
    ⟨_, by rw [detail?, hrow]; rfl⟩
  refine ⟨detail, hdetail, ?_⟩
  simp only [attempt_bind, attempt_insertOrder, habsent, attempt_insertItems,
    attempt_insertTickets, hplaced, attempt_orderDetail, attempt_demand, hdetail]

section

variable (hid : t.promoCodes.Each fun id p => p.id = id) (policy : OrderPolicy) {intent : Intent}
  {code : Option String}
  (hcode : intent.promoCode = (code.map Text.normalizeToken).filter (!·.isEmpty))

include hid hcode

theorem places_priced (hl : l.Admits .promo) (hsale : t.ForSale intent.eventId intent.lines)
    (quote : Quote) {priced : Sources}
    (hclock : priced.clock = ⟨sources.clock.item, sources.clock.taken + 2⟩) :
    Places s t sources policy intent code quote.subtotalCents.toInt
      (attempt channel (do
        let discount ← applyPromoGiven intent.promoCode intent.eventId quote.subtotalCents
        Service.within
          (.insertOrder (intent.newOrder policy ⟨sources.newId.1⟩ sources.now.1 quote discount))
        insertItems quote.items
        insertTickets quote.tickets
        Service.demand (.orderNotFound ⟨sources.newId.1⟩)
          (← Service.within (.orderDetail ⟨sources.newId.1⟩ false)))
        (s.opened priced ⟨t, l⟩)) := by
  -- The promo code is asked at the third reading of the clock, about the exact sum.
  have hcontext : PromoContext.mk priced.now.1 intent.eventId quote.subtotalCents =
      .ofOrder sources intent.eventId quote.subtotalCents.toInt := by
    rw [PromoContext.ofOrder, Int64.ofInt_toInt]
    change PromoContext.mk (priced.clock.item priced.clock.taken) _ _ = _
    rw [hclock]
  have hdeducts := deducts_applyPromoGiven channel s priced t hid hl code
    intent.eventId quote.subtotalCents
  rw [hcontext, ← hcode] at hdeducts
  rw [attempt_bind]
  rcases hdeducts with ⟨promo, after, t₁, l₁, e, hgrants, htaken⟩ | ⟨why, e,
    hrefuses⟩ <;> rw [e] <;>
    dsimp only
  · have horders : t₁.orders = t.orders := by rw [htaken.eq]
    rcases hexists : t.orders.get? ⟨sources.newId.1⟩ with _ | order
    · obtain ⟨detail, hdetail, hs⟩ := attempt_insertAll channel s after t₁ (l := l₁)
        ⟨intent.newOrder policy ⟨sources.newId.1⟩ sources.now.1 quote _, quote.items, quote.tickets⟩
        (horders ▸ hexists)
      exact (congrArg (Places s t sources policy intent code _) hs).mpr
        (.written detail promo t₁ _ quote after l₁ hsale hgrants htaken hdetail rfl rfl hexists)
    · rw [attempt_bind, attempt_insertOrder]
      have hduplicate : t₁.orders.get? (intent.newOrder policy ⟨sources.newId.1⟩ sources.now.1 quote
          ⟨promo.map (·.id), (PromoContext.ofOrder sources intent.eventId
            quote.subtotalCents.toInt).discount promo⟩).id = some order := horders ▸ hexists
      rw [hduplicate]
      exact .duplicate promo hsale hgrants (Option.isSome_of_eq_some hexists)
  · exact .refused why hsale hrefuses

theorem places_place (hp : t.Priced) :
    Places s t sources policy intent code (Basket.cost (t.offer? intent.eventId) intent.lines)
      (attempt channel (place policy intent) (s.opened sources ⟨t, .empty⟩)) := by
  rw [place, attempt_bind, attempt_now]
  dsimp only
  rw [attempt_bind, attempt_eventTitle]
  dsimp only
  rw [attempt_bind, attempt_require]
  rcases htitle : t.events.get? intent.eventId with _ | title
  · refine .unsold _ fun hsale => ?_
    have hregistered := hsale.registered
    rw [htitle] at hregistered
    cases hregistered
  rw [Option.isSome_some, if_pos rfl]
  dsimp only
  rw [attempt_bind, attempt_newId]
  dsimp only
  rw [attempt_bind, attempt_now]
  dsimp only
  rw [attempt_bind]
  -- The lines say whether they are all on sale and whether the sum fits; that it is not nothing is
  -- checked next.
  rcases tallies_ofBasket (s := s) (l := .empty) hp (by simp) intent.tickets intent.transfers with
    ⟨quote, priced, l₁, e, hl₁, hclock, hoffered, hsum⟩ | ⟨message, e, hwhy⟩ <;>
    rw [e] <;> dsimp only
  · have hcents : quote.subtotalCents.toInt =
        Basket.cost (t.offer? intent.eventId) intent.lines := by
      rw [hsum, Int.zero_add, Intent.lines]
    rw [attempt_bind, attempt_require]
    by_cases hcosts : 0 < quote.subtotalCents
    · rw [if_pos (decide_eq_true hcosts)]
      have hrange := Int64.toInt_lt quote.subtotalCents
      have hsale : t.ForSale intent.eventId intent.lines :=
        ⟨by rw [htitle]; rfl, hoffered, hcents ▸ Int64.lt_iff_toInt_lt.mp hcosts, by omega⟩
      rw [← hcents]
      exact places_priced channel s sources t hid policy hcode
        (hl₁.mono (by decide)) hsale quote hclock
    · rw [if_neg (by simpa using hcosts)]
      refine .unsold _ fun hsale => hcosts (Int64.lt_iff_toInt_lt.mpr ?_)
      rw [hcents]
      exact hsale.positive
  · refine .unsold _ fun hsale => ?_
    rcases hwhy with ⟨line, hmem, hnone⟩ | hmuch
    · have hoffered := hsale.offered line hmem
      rw [hnone] at hoffered
      cases hoffered
    · have hrange := hsale.range
      rw [Int.zero_add] at hmuch
      exact absurd hrange (Int.not_le.mpr hmuch)

end

end Memory.State

end EventTickets
