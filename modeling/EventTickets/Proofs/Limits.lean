import EventTickets.Proofs.Service.CatalogCalls
import EventTickets.Proofs.Runs

/-!
# Counters and their limits

Products count what is sold and promo codes their uses, each against a limit that there may be. A
limit is in force where the counter grows and nowhere else: a patch sets it whatever the counter
stands at. So counters stay within their limits until a patch puts a limit below its counter.
-/

namespace EventTickets

theorem Limit.ofInput_ne_zero (raw : Option Int64) : Limit.ofInput raw ≠ some 0 := by
  cases raw with
  | none => exact nofun
  | some n =>
    simp only [ofInput]
    split
    · exact nofun
    · split
      · decide
      · next hpositive hrange =>
        intro h
        have hzero := congrArg UInt32.toNat (Option.some.inj h)
        have hlargest : largest.toNat = 2147483647 := rfl
        rw [UInt32.toNat_ofNat'] at hzero
        simp only [UInt32.toNat_zero] at hzero
        omega

theorem LimitUpdate.ne_zero_of_ofInput {raw : Option Int64} {limit : UInt32}
    (h : ofInput raw = .set limit) : limit ≠ 0 := by
  rintro rfl
  cases raw with
  | none => cases h
  | some n =>
    simp only [ofInput] at h
    split at h
    · next l hl =>
      cases h
      exact Limit.ofInput_ne_zero _ hl
    · cases h

theorem TicketProductInput.limit_intoDraft {input : TicketProductInput} {createdBy : Option UserId}
    {draft : TicketProductDraft} (h : input.intoDraft createdBy = .ok draft) :
    draft.inventoryLimit ≠ some 0 := by
  rw [intoDraft] at h
  split at h
  · obtain ⟨-, rfl⟩ := Catalog.price_of_checked h
    exact Limit.ofInput_ne_zero _
  · cases h

theorem TransferProductInput.limit_intoDraft {input : TransferProductInput}
    {createdBy : Option UserId} {draft : TransferProductDraft}
    (h : input.intoDraft createdBy = .ok draft) : draft.inventoryLimit ≠ some 0 := by
  rw [intoDraft] at h
  split at h
  · obtain ⟨-, rfl⟩ := Catalog.price_of_checked h
    exact Limit.ofInput_ne_zero _
  · cases h

theorem PromoCodeInput.limit_intoDraft {input : PromoCodeInput} {createdBy : Option UserId}
    {draft : PromoCodeDraft} (h : input.intoDraft createdBy = .ok draft) :
    draft.usageLimit ≠ some 0 := by
  simp only [intoDraft] at h
  split at h
  · cases h
  · obtain ⟨kind, -, -, rfl⟩ := Catalog.draft_of_checked h
    exact Limit.ofInput_ne_zero _

inductive Counter where
  | product (kind : ItemType) (id : ProductId)
  | promo (id : PromoCodeId)

namespace Memory

def Stock.Within (stock : Stock) : Prop := ∀ limit, stock.limit = some limit → stock.sold ≤ limit

namespace Tables

def counter? (t : Tables) : Counter → Option Stock
  | .product kind id => t.stock? kind id
  | .promo id => (t.promoCodes.get? id).map fun p => ⟨p.usedCount, p.usageLimit⟩

def WithinLimits (t : Tables) : Prop := ∀ row stock, t.counter? row = some stock → stock.Within

def LimitsPositive (t : Tables) : Prop := ∀ row stock, t.counter? row = some stock →
    stock.limit ≠ some 0

end Tables

end Memory

open Memory Memory.Tables

namespace ServiceCall

def limitUpdate? : ServiceCall → Option (Counter × LimitUpdate)
  | .updateTicketProduct id patch => some (.product .ticket id, patch.inventoryLimit)
  | .updateTransferProduct id patch => some (.product .transfer id, patch.inventoryLimit)
  | .updatePromoCode id patch => some (.promo id, patch.usageLimit)
  | _ => none

def LimitFromInput (c : ServiceCall) : Prop :=
  ∀ row update, c.limitUpdate? = some (row, update) → ∃ raw, update = .ofInput raw

/-- Whether a call sets a limit below what its row has counted. -/
def Undercuts (c : ServiceCall) (row : Counter) (stock : Stock) : Prop :=
  ∃ limit, c.limitUpdate? = some (row, .set limit) ∧ limit < stock.sold

end ServiceCall

/-- What a call may do to a counter that is there before and after. -/
inductive CounterStep (c : ServiceCall) (row : Counter) (stock : Stock) : Stock → Prop
  | same : CounterStep c row stock stock
  | patched (update : LimitUpdate) (call : c.limitUpdate? = some (row, update)) :
    CounterStep c row stock ⟨stock.sold, update.apply stock.limit⟩
  | raised (sold : UInt32) (within : (Stock.mk sold stock.limit).Within) :
      CounterStep c row stock ⟨sold, stock.limit⟩
  | lowered (sold : UInt32) (less : sold ≤ stock.sold) : CounterStep c row stock ⟨sold, stock.limit⟩

namespace CounterStep

variable {c : ServiceCall} {row : Counter} {stock stock' : Stock}

theorem within_of_lt (h : CounterStep c row stock stock') (hlt : stock.sold < stock'.sold) :
    stock'.Within := by
  cases h with
  | same => exact absurd hlt (UInt32.lt_irrefl _)
  | patched update call => exact absurd hlt (UInt32.lt_irrefl _)
  | raised sold within => exact within
  | lowered sold less => exact absurd hlt (UInt32.not_lt.mpr less)

theorem within (h : CounterStep c row stock stock') (hwithin : stock.Within) :
    stock'.Within ∨ c.Undercuts row stock := by
  cases h with
  | same => exact .inl hwithin
  | raised sold within => exact .inl within
  | lowered sold less => exact .inl fun limit hlimit => UInt32.le_trans less (hwithin limit hlimit)
  | patched update call =>
    cases update with
    | keep => exact .inl hwithin
    | clear => exact .inl nofun
    | set limit =>
      rcases UInt32.lt_or_le limit stock.sold with hlt | hle
      · exact .inr ⟨limit, call, hlt⟩
      · refine .inl fun limit' hlimit => ?_
        cases hlimit
        exact hle

theorem limit_ne_zero (h : CounterStep c row stock stock') (hc : c.LimitFromInput)
    (hpositive : stock.limit ≠ some 0) : stock'.limit ≠ some 0 := by
  cases h with
  | same => exact hpositive
  | raised sold within => exact hpositive
  | lowered sold less => exact hpositive
  | patched update call =>
    obtain ⟨raw, rfl⟩ := hc row update call
    rcases hupdate : LimitUpdate.ofInput raw with _ | _ | limit
    · exact hpositive
    · exact nofun
    · exact fun h => LimitUpdate.ne_zero_of_ofInput hupdate (Option.some.inj h)

end CounterStep

namespace Memory.Tables

variable {t t' t₁ : Tables} {c : ServiceCall} {row : Counter} {stock' : Stock}

def Comes (c : ServiceCall) (t : Tables) (row : Counter) (stock' : Stock) : Prop :=
  (∃ stock, t.counter? row = some stock ∧ CounterStep c row stock stock') ∨
    stock'.sold = 0 ∧ stock'.limit ≠ some 0

theorem Comes.same (h : t.counter? row = some stock') : t.Comes c row stock' :=
  .inl ⟨stock', h, .same⟩

theorem counter_modify {κ ν : Type} [Ranked κ] [DecidableEq κ] {rows : Table κ ν} {k k' : κ}
    {f : ν → Stock} {g : ν → ν} {update : LimitUpdate}
    (hg : ∀ v, f (g v) = ⟨(f v).sold, update.apply (f v).limit⟩)
    (h : ((rows.modify k g).get? k').map f = some stock') :
    ∃ stock, (rows.get? k').map f = some stock ∧
      (stock' = stock ∨ k' = k ∧ stock' = ⟨stock.sold, update.apply stock.limit⟩) := by
  rw [Table.get?_modify] at h
  split at h
  · next e =>
    rw [Option.map_map, Option.map_eq_some_iff] at h
    obtain ⟨v, hv, rfl⟩ := h
    exact ⟨f v, by rw [hv]; rfl, .inr ⟨e, hg v⟩⟩
  · exact ⟨stock', h, .inl rfl⟩

theorem comes_of_catalogWrite {a b : Supply Uuid} {now : Time.Instant}
    (h : CatalogWrite a b now t c t') (h' : t'.counter? row = some stock') :
    t.Comes c row stock' := by
  -- One table is written, so that only its rows make a step.
  cases h with
  | createTicketProduct drafted id next =>
    rcases row with ⟨_ | _, id'⟩ | id'
    · rcases stock_insert h' with ⟨-, rfl⟩ | hold
      · exact .inr ⟨rfl, TicketProductInput.limit_intoDraft drafted⟩
      · exact .same hold
    · exact .same h'
    · exact .same h'
  | createTransferProduct drafted id next =>
    rcases row with ⟨_ | _, id'⟩ | id'
    · exact .same h'
    · rcases stock_insert h' with ⟨-, rfl⟩ | hold
      · exact .inr ⟨rfl, TransferProductInput.limit_intoDraft drafted⟩
      · exact .same hold
    · exact .same h'
  | createPromoCode drafted id next =>
    rcases row with ⟨_ | _, id'⟩ | id'
    · exact .same h'
    · exact .same h'
    · rcases stock_insert h' with ⟨-, rfl⟩ | hold
      · exact .inr ⟨rfl, PromoCodeInput.limit_intoDraft drafted⟩
      · exact .same hold
  | @updateTicketProduct id patch found =>
    rcases row with ⟨_ | _, id'⟩ | id'
    · obtain ⟨stock, hs, rfl | ⟨rfl, rfl⟩⟩ :=
        counter_modify (g := patch.apply now) (fun _ => rfl) h'
      · exact .same hs
      · exact .inl ⟨stock, hs, .patched patch.inventoryLimit rfl⟩
    · exact .same h'
    · exact .same h'
  | @updateTransferProduct id patch found =>
    rcases row with ⟨_ | _, id'⟩ | id'
    · exact .same h'
    · obtain ⟨stock, hs, rfl | ⟨rfl, rfl⟩⟩ :=
        counter_modify (g := patch.apply now) (fun _ => rfl) h'
      · exact .same hs
      · exact .inl ⟨stock, hs, .patched patch.inventoryLimit rfl⟩
    · exact .same h'
  | @updatePromoCode id patch found =>
    rcases row with ⟨_ | _, id'⟩ | id'
    · exact .same h'
    · exact .same h'
    · obtain ⟨stock, hs, rfl | ⟨rfl, rfl⟩⟩ :=
        counter_modify (g := patch.apply now) (fun _ => rfl) h'
      · exact .same hs
      · exact .inl ⟨stock, hs, .patched patch.usageLimit rfl⟩
  | deleteTicketProduct found =>
    rcases row with ⟨_ | _, id'⟩ | id'
    · exact .same (stock_erase h')
    · exact .same h'
    · exact .same h'
  | deleteTransferProduct found =>
    rcases row with ⟨_ | _, id'⟩ | id'
    · exact .same h'
    · exact .same (stock_erase h')
    · exact .same h'
  | deletePromoCode found =>
    rcases row with ⟨_ | _, id'⟩ | id'
    · exact .same h'
    · exact .same h'
    · exact .same (stock_erase h')

theorem comes_of_sells {kind : ItemType} {product : ProductId} {stock : Stock} {n : Nat}
    (hs : t.stock? kind product = some stock) (hsells : stock.Sells n stock') :
    t.Comes c (.product kind product) stock' := by
  obtain ⟨sold, limit⟩ := stock'
  have hlimit : limit = stock.limit := hsells.limit
  subst hlimit
  rcases Nat.eq_zero_or_pos n with rfl | hpos
  · exact .inl ⟨stock, hs, .lowered sold (UInt32.le_iff_toNat_le.mpr (Nat.le_of_eq hsells.sold))⟩
  · exact .inl ⟨stock, hs, .raised sold fun limit hlimit =>
      UInt32.le_iff_toNat_le.mpr (hsells.within hpos limit hlimit)⟩

theorem released_le (count quantity : UInt32) : released count quantity ≤ count := by
  rw [UInt32.le_iff_toNat_le, toNat_released]
  omega

theorem comes_of_promoTaken (hpositive : t.LimitsPositive) {promo : Option PromoCodeId}
    (h : t.PromoTaken promo t₁) {id : PromoCodeId} (h' : t₁.counter? (.promo id) = some stock') :
    t.Comes c (.promo id) stock' := by
  obtain ⟨p', hp', rfl⟩ := Option.map_eq_some_iff.mp h'
  obtain ⟨p, hp, ⟨-, rfl⟩ | ⟨-, huse, rfl⟩⟩ := h.row hp'
  · exact .same (by rw [counter?, hp]; rfl)
  · have hs : t.counter? (.promo id) = some ⟨p.usedCount, p.usageLimit⟩ := by rw [counter?, hp]; rfl
    refine .inl ⟨_, hs, .raised _ fun limit hlimit => ?_⟩
    have hzero : limit ≠ 0 := fun e => hpositive _ _ hs (e ▸ hlimit)
    have hlt := huse.limit limit hlimit (UInt32.pos_iff_ne_zero.mpr hzero)
    rw [UInt32.le_iff_toNat_le, huse.toNat_used]
    exact UInt32.lt_iff_toNat_lt.mp hlt

theorem comes_of_canceled {id : OrderId} {order : Order} {operator : OperatorId}
    {now : Time.Instant} {reason : Option String}
    (h' : (t.canceled id order operator now reason).counter? row = some stock') :
    t.Comes c row stock' := by
  cases row with
  | product kind product =>
    rw [counter?, stock?_canceled, stockReturned] at h'
    split at h'
    · obtain ⟨hnone, hsome⟩ := stock?_releaseAll t
        (OrderItem.reservationOrder (t.itemsOf id)) kind product
      rcases hs : t.stock? kind product with _ | stock
      · rw [hnone hs] at h'
        cases h'
      · obtain ⟨⟨sold, limit⟩, hs', rfl, hsold⟩ := hsome stock hs
        cases hs'.symm.trans h'
        have hle := Nat.le_trans (Nat.le_of_eq hsold) (Nat.sub_le _ _)
        exact .inl ⟨stock, hs, .lowered sold (UInt32.le_iff_toNat_le.mpr hle)⟩
    · exact .same h'
  | promo promo =>
    rw [counter?, get?_promoCodes_canceled] at h'
    split at h'
    · rw [Option.map_map] at h'
      obtain ⟨p, hp, rfl⟩ := Option.map_eq_some_iff.mp h'
      have hs : t.counter? (.promo promo) = some ⟨p.usedCount, p.usageLimit⟩ := by
        rw [counter?, hp]; rfl
      exact .inl ⟨_, hs, .lowered _ (released_le _ _)⟩
    · exact .same h'

theorem comes_of_effect {a b : Supply Uuid} {env : Environment} {now : Time.Instant}
    (hpositive : t.LimitsPositive) (hcatalog : ¬ c.ChangesCatalog) (he : Effect env a b now t c t')
    (h' : t'.counter? row = some stock') : t.Comes c row stock' := by
  cases he with
  | catalog change call =>
    rw [call.resolve_left hcatalog] at h'
    exact .same h'
  | place request w t₁ promo sound named =>
    cases row with
    | product kind product =>
      rw [counter?, stock?_placed promo] at h'
      exact .same h'
    | promo id => exact comes_of_promoTaken hpositive promo h'
  | @confirm _ id operator call t₁ nonces reserved =>
    obtain ⟨order, -, -, hall⟩ := reservedFor_eq_ok reserved
    cases row with
    | product kind product =>
      obtain ⟨hnone, hsome⟩ := stock?_reserveAll hall kind product
      rw [counter?, stock?_confirmed] at h'
      rcases hs : t.stock? kind product with _ | stock
      · rw [hnone hs] at h'
        cases h'
      · obtain ⟨stock₁, hs₁, hsells⟩ := hsome stock hs
        cases hs₁.symm.trans h'
        exact comes_of_sells hs hsells
    | promo promo =>
      rw [counter?, promoCodes_confirmed reserved] at h'
      exact .same h'
  | cancel id operator reason order found open_ => exact comes_of_canceled h'
  | redeem id operator token ticket order admitted =>
    cases row with
    | product kind product =>
      rw [counter?, stock?_redeemed] at h'
      exact .same h'
    | promo promo =>
      rw [counter?, promoCodes_redeemed] at h'
      exact .same h'

end Memory.Tables

namespace Memory.State

variable {σ : Type} {channel : Channel σ} {allowed : State σ → Environment → ServiceCall → Prop}
  {s : State σ}

theorem counter_call (env : Environment) (c : ServiceCall) (hpositive : s.committed.LimitsPositive)
    {row : Counter} {stock' : Stock}
    (h' : (serve channel (c.service env) s).2.committed.counter? row = some stock') :
    s.committed.counter? row = some stock' ∨
      (serve channel (c.service env) s).1.isOk = true ∧ s.committed.Comes c row stock' := by
  rcases call_ends channel env s c with
    ⟨e, s', hs, hbecomes⟩ | ⟨a, s', t', hs, hbecomes, heffect⟩ <;> rw [hs] at h' ⊢
  · rw [hbecomes.committed] at h'
    exact .inl h'
  · refine .inr ⟨rfl, ?_⟩
    by_cases hcatalog : c.ChangesCatalog
    · exact comes_of_catalogWrite
        (catalogWrite_of_attempt channel hcatalog ((attempt_eq_ok_iff channel).mpr hs)) h'
    · rw [hbecomes.committed] at h'
      exact comes_of_effect hpositive hcatalog heffect h'

theorem limitsPositive_call {env : Environment} {c : ServiceCall} (hc : c.LimitFromInput)
    (hpositive : s.committed.LimitsPositive) :
    (serve channel (c.service env) s).2.committed.LimitsPositive := by
  intro row stock' h'
  rcases counter_call env c hpositive h' with hsame | ⟨-, ⟨stock, hs, hstep⟩ | ⟨-, hlimit⟩⟩
  · exact hpositive row stock' hsame
  · exact hstep.limit_ne_zero hc (hpositive row stock hs)
  · exact hlimit

theorem counter?_empty (row : Counter) : Tables.empty.counter? row = none := by
  rcases row with ⟨_ | _, id⟩ | id <;> rfl

theorem Reachable.limitsPositive (hallowed : ∀ s env c, allowed s env c → c.LimitFromInput)
    (h : Reachable channel allowed s) : s.committed.LimitsPositive := by
  induction h with
  | start sources inner =>
    intro row stock hs
    cases (counter?_empty row).symm.trans hs
  | addEvent h event title ih => exact ih
  | addUser h user ih => exact ih
  | call h env c ha ih => exact limitsPositive_call (hallowed _ _ _ ha) ih

theorem counter_within (env : Environment) (c : ServiceCall)
    (hpositive : s.committed.LimitsPositive) {row : Counter} {stock stock' : Stock}
    (hs : s.committed.counter? row = some stock)
    (h' : (serve channel (c.service env) s).2.committed.counter? row = some stock') :
    (stock.sold < stock'.sold → stock'.Within) ∧
      (stock.Within → stock'.Within ∨
        (serve channel (c.service env) s).1.isOk = true ∧ c.Undercuts row stock) := by
  rcases counter_call env c hpositive h' with hsame | ⟨hok, ⟨stock₁, hs₁, hstep⟩ | ⟨hzero, -⟩⟩
  · cases hs.symm.trans hsame
    exact ⟨fun hlt => absurd hlt (UInt32.lt_irrefl _), .inl⟩
  · cases hs.symm.trans hs₁
    exact ⟨hstep.within_of_lt, fun hwithin => (hstep.within hwithin).imp_right fun hundercut =>
      ⟨hok, hundercut⟩⟩
  · have hwithin : stock'.Within := fun limit _ => hzero ▸ UInt32.zero_le
    exact ⟨fun _ => hwithin, fun _ => .inl hwithin⟩

theorem withinLimits_call {env : Environment} {c : ServiceCall}
    (hpositive : s.committed.LimitsPositive)
    (hspared : (serve channel (c.service env) s).1.isOk = true →
      ∀ row stock, s.committed.counter? row = some stock → ¬ c.Undercuts row stock)
    (hwithin : s.committed.WithinLimits) :
    (serve channel (c.service env) s).2.committed.WithinLimits := by
  intro row stock' h'
  rcases hs : s.committed.counter? row with _ | stock
  · rcases counter_call env c hpositive h' with hsame | ⟨-, ⟨stock₁, hs₁, -⟩ | ⟨hzero, -⟩⟩
    · cases hs.symm.trans hsame
    · cases hs.symm.trans hs₁
    · exact fun limit _ => hzero ▸ UInt32.zero_le
  · refine ((counter_within env c hpositive hs h').2 (hwithin row stock hs)).resolve_right ?_
    exact fun ⟨hok, hundercut⟩ => hspared hok row stock hs hundercut

def sparing (channel : Channel σ) (s : State σ) (env : Environment) (c : ServiceCall) : Prop :=
  c.LimitFromInput ∧ ((serve channel (c.service env) s).1.isOk = true →
    ∀ row stock, s.committed.counter? row = some stock → ¬ c.Undercuts row stock)

theorem Reachable.withinLimits (h : Reachable channel (sparing channel) s) :
    s.committed.WithinLimits := by
  induction h with
  | start sources inner =>
    intro row stock hs
    cases (counter?_empty row).symm.trans hs
  | addEvent h event title ih => exact ih
  | addUser h user ih => exact ih
  | call h env c ha ih => exact withinLimits_call (h.limitsPositive fun _ _ _ ha => ha.1) ha.2 ih

/-- As long as no patch sets a limit below the counter of its row, all counters stay within their
limits. Whatever the patches, a counter grows within the limit in force only, and is left over its
limit by no other call. -/
theorem counters_within_limits (channel : Channel σ) :
    (∀ s, Reachable channel (sparing channel) s → s.committed.WithinLimits) ∧
      ∀ (s : State σ) (env : Environment) (c : ServiceCall),
        Reachable channel (fun _ _ c => c.LimitFromInput) s → ∀ row stock stock',
        s.committed.counter? row = some stock →
        (serve channel (c.service env) s).2.committed.counter? row = some stock' →
        (stock.sold < stock'.sold → stock'.Within) ∧
          (stock.Within → stock'.Within ∨
            (serve channel (c.service env) s).1.isOk = true ∧ c.Undercuts row stock) := by
  refine ⟨fun s h => h.withinLimits, fun s env c h row stock stock' hs h' => ?_⟩
  exact counter_within env c (h.limitsPositive fun _ _ _ ha => ha) hs h'

end Memory.State

namespace Sample

def limitTo (n : Int64) : ServiceCall := .updateTicketProduct product {
  name := none,
  priceCents := none,
  inventoryLimit := .ofInput (some n),
  isActive := none }

def counter : Counter := .product .ticket product

theorem limitTo_fromInput (n : Int64) : (limitTo n).LimitFromInput := by
  rintro row update h
  cases h
  exact ⟨some n, rfl⟩

theorem fromInput_of_none {c : ServiceCall} (h : c.limitUpdate? = none) : c.LimitFromInput := by
  intro row update hcall
  rw [h] at hcall
  cases hcall

theorem untilPaid_limitUpdate? : ∀ c ∈ untilPaid, c.limitUpdate? = none := by
  decide +kernel

theorem untilPaid_reachable {allowed : State Unit → Environment → ServiceCall → Prop}
    (h : ∀ c, c.limitUpdate? = none → ∀ s, allowed s environment c) :
    State.Reachable .log allowed (store untilPaid) :=
  .calls_of_allowed (.addUser (.addEvent (.start _ _) _ _) _) environment fun c hc =>
    h c (untilPaid_limitUpdate? c hc)

end Sample

namespace Memory.State

theorem counters_within_limits_two_of_two :
    (Sample.store (Sample.untilPaid ++ [Sample.limitTo 2])).committed.WithinLimits ∧
      (Stock.mk 2 (some 10)).Within := by
  have hsold : (Sample.store Sample.untilPaid).committed.counter? Sample.counter =
      some ⟨2, some 10⟩ := by
    decide +kernel
  have hpaid : Reachable .log (sparing .log) (Sample.store Sample.untilPaid) := by
    refine Sample.untilPaid_reachable fun c hc s => ⟨Sample.fromInput_of_none hc, ?_⟩
    rintro - row stock - ⟨limit, hcall, -⟩
    rw [hc] at hcall
    cases hcall
  have hlimited : sparing .log (Sample.store Sample.untilPaid) Sample.environment
      (Sample.limitTo 2) := by
    refine ⟨Sample.limitTo_fromInput 2, ?_⟩
    rintro - row stock hs ⟨limit, hcall, hlt⟩
    cases hcall
    cases hsold.symm.trans hs
    exact absurd hlt (by decide)
  refine ⟨(counters_within_limits .log).1 _ ?_, ?_⟩
  · rw [Sample.store_snoc]
    exact hpaid.call _ _ hlimited
  · have hpending : Reachable .log (fun _ _ c => c.LimitFromInput)
        (Sample.store [Sample.createProduct, Sample.createOrder]) :=
      .calls_of_allowed (.addUser (.addEvent (.start _ _) _ _) _) Sample.environment fun c hc _ =>
        Sample.fromInput_of_none (Sample.untilPaid_limitUpdate? c
          (List.mem_of_mem_take (i := 2) hc))
    have hzero : (Sample.store [Sample.createProduct, Sample.createOrder]).committed.counter?
        Sample.counter =
        some ⟨0, some 10⟩ := by
      decide +kernel
    rw [show Sample.store Sample.untilPaid = _ from
      Sample.store_snoc [Sample.createProduct, Sample.createOrder] Sample.confirmOrder] at hsold
    exact ((counters_within_limits .log).2 _ _ _ hpending _ _ _ hzero hsold).1 (by decide)

/-- With two tickets sold, the limit is set to one. -/
theorem limit_under_counter :
    Reachable .log (fun _ _ c => c.LimitFromInput)
        (Sample.store (Sample.untilPaid ++ [Sample.limitTo 1])) ∧
      (Sample.store (Sample.untilPaid ++ [Sample.limitTo 1])).committed.counter? Sample.counter =
        some ⟨2, some 1⟩ ∧
      ¬ (Sample.store (Sample.untilPaid ++ [Sample.limitTo 1])).committed.WithinLimits := by
  have hcounter :
      (Sample.store (Sample.untilPaid ++ [Sample.limitTo 1])).committed.counter? Sample.counter =
        some ⟨2, some 1⟩ := by
    decide +kernel
  have hpaid : Reachable .log (fun _ _ c => c.LimitFromInput) (Sample.store Sample.untilPaid) :=
    Sample.untilPaid_reachable fun c hc _ => Sample.fromInput_of_none hc
  refine ⟨?_, hcounter, fun hwithin => absurd (hwithin _ _ hcounter 1 rfl) (by decide)⟩
  rw [Sample.store_snoc]
  exact hpaid.call _ _ (Sample.limitTo_fromInput 1)

end Memory.State

end EventTickets
