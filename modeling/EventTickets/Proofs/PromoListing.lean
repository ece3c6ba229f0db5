import EventTickets.Proofs.PromoRows
import EventTickets.Proofs.PromoVerdict

/-!
# Promo codes listed for an event

The scope of a code is read in two places. The listing for an event shows the codes that have no
scope and those whose scope is the event; the engine rejects an order of any event but the scope,
and lets a scope that is no event restrict nothing. A new code has no scope or an event as its
scope, and there the two agree. A patch sets any scope: one that is no event makes the code serve
every event and show in the listing of none.
-/

namespace EventTickets

open Memory Memory.Tables

namespace PromoRule

variable {rule : PromoRule} {context : PromoContext}

def beforeEvent : List PromoRejection :=
  [.subtotalTooLow, .inactive, .outOfWindow, .usageLimitReached]

theorem firstUnmet?_eq_eventNotAllowed :
    rule.firstUnmet? context = some .eventNotAllowed ↔
      (∀ reason ∈ beforeEvent, rule.Meets context reason) ∧
        rule.admits context.eventId = false := by
  have hsplit : PromoRejection.all = beforeEvent ++ [.eventNotAllowed, .unsupportedDiscountType] :=
    rfl
  have hbefore : beforeEvent.find? (fun reason => !decide (rule.Meets context reason)) = none ↔
      ∀ reason ∈ beforeEvent, rule.Meets context reason := by
    simp only [List.find?_eq_none, Bool.not_eq_true', decide_eq_false_iff_not, not_not]
  have hother : beforeEvent.find? (fun reason => !decide (rule.Meets context reason)) ≠
      some .eventNotAllowed :=
    fun h => absurd (List.mem_of_find?_eq_some h) (by decide)
  rw [firstUnmet?, hsplit, List.find?_append, ← hbefore, ← Bool.not_eq_true, admits_iff]
  rcases hfirst : beforeEvent.find? (fun reason => !decide (rule.Meets context reason)) with
    _ | reason
  · by_cases h : rule.Meets context .eventNotAllowed <;> simp [h]
  · rw [hfirst] at hother
    simpa using hother

end PromoRule

namespace PromoCode

variable {p : PromoCode} {event : EventId}

def ScopeNormal (p : PromoCode) : Prop := ∀ scope ∈ p.eventId, scope.isValid = true

/-- Whether a code is for an event: no rule with its scope rejects an order because it is of that
event. -/
def Serves (p : PromoCode) (event : EventId) : Prop :=
  ∀ rule : PromoRule, rule.eventId = p.eventId →
    ∀ now subtotal, (rule.validate ⟨now, event, subtotal⟩).reason ≠ some .eventNotAllowed

theorem serves_iff : p.Serves event ↔ p.rule.admits event = true := by
  constructor
  · intro h
    -- A rule with this scope that nothing else rejects an order for.
    have hunmet := h ⟨.fixed, 0, none, 0, none, none, p.eventId, true⟩ rfl ⟨0, 0⟩ 1
    rw [PromoRule.reason_validate, Ne, PromoRule.firstUnmet?_eq_eventNotAllowed] at hunmet
    rw [← Bool.not_eq_false]
    refine fun hrejects => hunmet ⟨?_, hrejects⟩
    simp [PromoRule.beforeEvent, PromoRule.Meets]
  · rintro h rule hscope now subtotal hreason
    rw [PromoRule.reason_validate, PromoRule.firstUnmet?_eq_eventNotAllowed] at hreason
    have hadmits : rule.admits event = p.rule.admits event := by
      rw [PromoRule.admits, hscope]
      rfl
    rw [hadmits, h] at hreason
    cases hreason.2

theorem serves_cases :
    p.Serves event ↔
      p.eventId = none ∨ p.eventId = some event ∨
        ∃ scope, p.eventId = some scope ∧ scope.isValid = false := by
  rw [serves_iff, PromoRule.admits, rule]
  cases hscope : p.eventId with
  | none => simp
  | some scope => cases hvalid : scope.isValid <;> simp [hvalid]

end PromoCode

/-- A call that sets a scope that is no event. -/
def ServiceCall.UnscopesPromo (c : ServiceCall) : Prop :=
  ∃ id patch scope, c = .updatePromoCode id patch ∧ patch.eventId = some scope ∧
    scope.isValid = false

theorem PromoCodePatch.scope_apply (patch : PromoCodePatch) (now : Time.Instant) (p : PromoCode) :
    (patch.eventId = none ∧ (patch.apply now p).eventId = p.eventId) ∨
      ∃ scope, patch.eventId = some scope ∧ (patch.apply now p).eventId = some scope := by
  rw [apply]
  cases patch.eventId with
  | none => exact .inl ⟨rfl, rfl⟩
  | some scope => exact .inr ⟨scope, rfl, rfl⟩

namespace Memory.State

variable {σ : Type} {channel : Channel σ} {s : State σ} {event : EventId} {p : PromoCode}

def Lists (channel : Channel σ) (s : State σ) (event : EventId) (p : PromoCode) : Prop :=
  ∃ codes, serve channel (EventTickets.listPromoCodes ⟨some event, none⟩) s =
    (.ok codes, s) ∧ p ∈ codes

theorem lists_iff :
    s.Lists channel event p ↔
      (∃ id, s.committed.promoCodes.get? id = some p) ∧
        (p.eventId = none ∨ p.eventId = some event) := by
  have hserve : serve channel (EventTickets.listPromoCodes ⟨some event, none⟩) s =
      (.ok (newestFirst (·.createdAt) (s.committed.promoCodes.values.filter
        (ProductFilter.admitsPromo ⟨some event, none⟩))), s) := rfl
  have hadmits : ProductFilter.admitsPromo ⟨some event, none⟩ p = true ↔ p.eventId = none ∨
      p.eventId = some event := by
    simp [ProductFilter.admitsPromo, ProductFilter.admitsScope, ProductFilter.admitsActive]
  rw [← hadmits, ← Table.mem_values_iff, ← List.mem_filter]
  constructor
  · rintro ⟨codes, hcodes, hp⟩
    rw [hserve] at hcodes
    cases hcodes
    exact List.mem_mergeSort.mp hp
  · exact fun hp => ⟨_, hserve, List.mem_mergeSort.mpr hp⟩

theorem listing_of_row {id : PromoCodeId} (hp : s.committed.promoCodes.get? id = some p)
    (hevent : event.isValid = true) :
    (s.Lists channel event p → p.Serves event) ∧
      (p.Serves event ∧ ¬ s.Lists channel event p ↔ ∃ scope, p.eventId = some scope ∧
        scope.isValid = false) := by
  rw [lists_iff, PromoCode.serves_cases]
  refine ⟨fun hlisted => ?_, ?_, ?_⟩
  · rcases hlisted.2 with h | h
    · exact .inl h
    · exact .inr (.inl h)
  · rintro ⟨h | h | h, hunlisted⟩
    · exact absurd ⟨⟨id, hp⟩, .inl h⟩ hunlisted
    · exact absurd ⟨⟨id, hp⟩, .inr h⟩ hunlisted
    · exact h
  · rintro ⟨scope, hscope, hinvalid⟩
    refine ⟨.inr (.inr ⟨scope, hscope, hinvalid⟩), ?_⟩
    rintro ⟨-, h | h⟩ <;> rw [hscope] at h <;> cases h
    rw [hevent] at hinvalid
    cases hinvalid

theorem lists_iff_serves {id : PromoCodeId} (hp : s.committed.promoCodes.get? id = some p)
    (hnormal : p.ScopeNormal) (hevent : event.isValid = true) :
    s.Lists channel event p ↔ p.Serves event := by
  obtain ⟨hserves, hdiffer⟩ : (s.Lists channel event p → p.Serves event) ∧ _ :=
    listing_of_row hp hevent
  refine ⟨hserves, fun h => ?_⟩
  by_contra hunlisted
  obtain ⟨scope, hscope, hinvalid⟩ := hdiffer.mp ⟨h, hunlisted⟩
  rw [hnormal scope hscope] at hinvalid
  cases hinvalid

def keepsScopes (_ : State σ) (_ : Environment) (c : ServiceCall) : Prop := ¬ c.UnscopesPromo

theorem Reachable.scopesNormal (h : Reachable channel keepsScopes s) :
    s.committed.promoCodes.Each fun _ p => p.ScopeNormal := by
  refine h.eachPromo ?_ ?_ ?_
  · exact fun hdraft id now => hdraft.scope
  · -- A patch that is allowed keeps the scope there is or sets an event.
    intro s env id patch p hkeeps hchecked hp hnormal now scope hscope
    rcases patch.scope_apply now p with ⟨-, hkept⟩ | ⟨scope', hset, hpatched⟩
    · rw [hkept] at hscope
      exact hnormal scope hscope
    · cases hpatched.symm.trans hscope
      by_contra hinvalid
      exact hkeeps ⟨id, patch, scope, rfl, hset, Bool.not_eq_true _ ▸ hinvalid⟩
  · rintro p _ ⟨n, rfl⟩ hnormal
    exact hnormal

theorem scope_call (env : Environment) (c : ServiceCall) {id : PromoCodeId} {p' : PromoCode}
    (h' : (serve channel (c.service env) s).2.committed.promoCodes.get? id = some p') :
    p'.ScopeNormal ∨ (∃ p, s.committed.promoCodes.get? id = some p ∧ p'.eventId = p.eventId) ∨
      ∃ patch scope, c = .updatePromoCode id patch ∧ patch.eventId = some scope ∧
        scope.isValid = false ∧ p'.eventId = some scope := by
  cases promoOrigin_call env c h' with
  | kept found reused =>
    obtain ⟨n, rfl⟩ := reused
    exact .inr (.inl ⟨_, found, rfl⟩)
  | @patched p found patch call checked =>
    rcases patch.scope_apply s.sources.now.1 p with ⟨-, hkept⟩ | ⟨scope, hset, hpatched⟩
    · exact .inr (.inl ⟨p, found, hkept⟩)
    · cases hvalid : scope.isValid with
      | false => exact .inr (.inr ⟨patch, scope, call, hset, hvalid, hpatched⟩)
      | true =>
        left
        intro scope' hscope'
        cases hpatched.symm.trans hscope'
        exact hvalid
  | created createdBy input draft call drafted =>
    exact .inl (PromoCodeInput.checked_intoDraft drafted).scope

/-- As long as no patch sets a scope that is no event, a code is listed for an event if and only if
it serves the event. Whatever is called, a listed code serves the event, a code that serves it
unlisted has a scope that is no event, and nothing gives a code such a scope but a patch that sets
it. The rule of a code rejects an order because of its event when the code does not serve the event
and the order meets all that is asked before. -/
theorem promo_listing_agrees_but_for_patched_scopes (channel : Channel σ) (s : State σ) :
    (Reachable channel keepsScopes s → ∀ id p, s.committed.promoCodes.get? id = some p →
      ∀ event : EventId, event.isValid = true → (s.Lists channel event p ↔ p.Serves event)) ∧
    (∀ id p, s.committed.promoCodes.get? id = some p → ∀ event : EventId, event.isValid = true →
      (s.Lists channel event p → p.Serves event) ∧
        (p.Serves event ∧ ¬ s.Lists channel event p ↔ ∃ scope, p.eventId = some scope ∧
          scope.isValid = false)) ∧
    (∀ env (c : ServiceCall) id p',
      (serve channel (c.service env) s).2.committed.promoCodes.get? id = some p' →
      p'.ScopeNormal ∨ (∃ p, s.committed.promoCodes.get? id = some p ∧ p'.eventId = p.eventId) ∨
      ∃ patch scope, c = .updatePromoCode id patch ∧ patch.eventId = some scope ∧
        scope.isValid = false ∧ p'.eventId = some scope) ∧
    ∀ (p : PromoCode) (context : PromoContext), (p.rule.validate context).reason =
      some .eventNotAllowed ↔
      (∀ reason ∈ PromoRule.beforeEvent, p.rule.Meets context reason) ∧
        ¬ p.Serves context.eventId := by
  refine ⟨fun h id p hp event hevent => lists_iff_serves hp (h.scopesNormal id p hp) hevent,
    fun id p hp event hevent => listing_of_row hp hevent, fun env c id p' => scope_call env c,
    fun p context => ?_⟩
  rw [PromoRule.reason_validate, PromoRule.firstUnmet?_eq_eventNotAllowed,
    PromoCode.serves_iff, Bool.not_eq_true]

end Memory.State

namespace Sample

def otherEvent : EventId := ⟨2⟩

def noEvent : EventId := ⟨0⟩

def autumn : PromoCodeId := ⟨Sources.countedId 1 0⟩

def createAutumn (scope : Option EventId) : ServiceCall := .createPromoCode operator {
  code := "AUTUMN",
  discountType := "FIXED",
  value := 500,
  usageLimit := none,
  activeFrom := none,
  activeTo := none,
  eventId := scope,
  isActive := none }

def scopeAutumn (scope : EventId) : ServiceCall := .updatePromoCode autumn {
  discountType := none,
  value := none,
  usageLimit := .keep,
  activeFrom := none,
  activeTo := none,
  eventId := some scope,
  isActive := none }

def movedAutumn : List ServiceCall := [createAutumn (some event), scopeAutumn otherEvent]

def unscopedAutumn : List ServiceCall := [createAutumn (some event), scopeAutumn noEvent]

theorem movedAutumn_reachable :
    Memory.State.Reachable .log Memory.State.keepsScopes (store movedAutumn) := by
  have hcreated : Memory.State.Reachable .log Memory.State.keepsScopes
      (store [createAutumn (some event)]) := by
    refine .call (.addUser (.addEvent (.start _ _) _ _) _) environment _ ?_
    rintro ⟨id, patch, scope, e, -⟩
    cases e
  refine hcreated.call environment (scopeAutumn otherEvent) ?_
  rintro ⟨id, patch, scope, e, hscope, hinvalid⟩
  cases e
  cases hscope
  exact absurd hinvalid (by decide)

end Sample

namespace Memory.State

theorem promo_listing_agrees_but_for_patched_scopes_moved :
    ∃ p, (Sample.store Sample.movedAutumn).committed.promoCodes.get? Sample.autumn = some p ∧
      p.eventId = some Sample.otherEvent ∧
      (Sample.store Sample.movedAutumn).Lists .log Sample.otherEvent p ∧
        p.Serves Sample.otherEvent ∧
      ¬ (Sample.store Sample.movedAutumn).Lists .log Sample.event p ∧ ¬ p.Serves Sample.event := by
  have hstored : ((Sample.store Sample.movedAutumn).committed.promoCodes.get? Sample.autumn).map
      (·.eventId) =
      some (some Sample.otherEvent) := by decide +kernel
  obtain ⟨p, hp, hscope⟩ := Option.map_eq_some_iff.mp hstored
  have hagrees :=
    (promo_listing_agrees_but_for_patched_scopes .log (Sample.store Sample.movedAutumn)).1
    Sample.movedAutumn_reachable _ p hp
  have hlisted : (Sample.store Sample.movedAutumn).Lists .log Sample.otherEvent p :=
    lists_iff.mpr ⟨⟨_, hp⟩, .inr hscope⟩
  have hunlisted : ¬ (Sample.store Sample.movedAutumn).Lists .log Sample.event p := by
    rw [lists_iff, hscope]
    exact fun h => absurd h.2 (by decide)
  exact ⟨p, hp, hscope, hlisted, (hagrees _ (by decide)).mp hlisted, hunlisted,
    fun h => hunlisted ((hagrees _ (by decide)).mpr h)⟩

/-- Its scope is no event: the code serves an event that it is not listed for. -/
theorem promo_serves_event_unlisted :
    Reachable .log anyCall (Sample.store Sample.unscopedAutumn) ∧
      ∃ p, (Sample.store Sample.unscopedAutumn).committed.promoCodes.get? Sample.autumn = some p ∧
        p.Serves Sample.event ∧ ¬ (Sample.store Sample.unscopedAutumn).Lists .log
          Sample.event p := by
  have hstored : ((Sample.store Sample.unscopedAutumn).committed.promoCodes.get? Sample.autumn).map
      (·.eventId) =
      some (some Sample.noEvent) := by decide +kernel
  obtain ⟨p, hp, hscope⟩ := Option.map_eq_some_iff.mp hstored
  exact ⟨Sample.store_reachable _, p, hp,
    (listing_of_row hp (by decide)).2.mpr ⟨_, hscope, by decide⟩⟩

end Memory.State

end EventTickets
