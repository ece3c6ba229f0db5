import EventTickets.Proofs.PromoRows

/-!
# Activity windows of promo codes

The check of a window is made on what a call brings with it: both bounds of a new code, and both
bounds of a patch. A patch that sets one bound puts it beside the other bound that the row has,
which nobody compares it with. So windows end after they start as long as no patch of one bound
takes that from them.
-/

namespace EventTickets

open Memory Memory.Tables
open Time (Instant)

def Catalog.WindowOrdered (start stop : Option Instant) : Prop :=
  ∀ first last, start = some first → stop = some last → first ≤ last

theorem Catalog.checkWindow_cases (start stop : Option Instant) :
    WindowOrdered start stop ∧ checkWindow start stop = .ok () ∨
      ¬ WindowOrdered start stop ∧ checkWindow start stop =
        .error (.promoInvalid .invalidInput) := by
  rcases start with _ | first
  · exact .inl ⟨nofun, rfl⟩
  rcases stop with _ | last
  · exact .inl ⟨nofun, rfl⟩
  rw [checkWindow]
  by_cases h : last < first
  · exact .inr ⟨fun hordered => Instant.not_lt.mpr (hordered first last rfl rfl) h, if_pos h⟩
  · refine .inl ⟨fun first' last' e e' => ?_, if_neg h⟩
    cases e
    cases e'
    exact Instant.not_lt.mp h

theorem Catalog.windowOrdered_of_check {start stop : Option Instant}
    (h : checkWindow start stop = .ok ()) : WindowOrdered start stop := by
  rcases checkWindow_cases start stop with ⟨hordered, -⟩ | ⟨-, e⟩
  · exact hordered
  · rw [e] at h
    cases h

theorem Catalog.checkWindow_eq_error {start stop : Option Instant}
    (h : ¬ WindowOrdered start stop) :
    checkWindow start stop = .error (.promoInvalid .invalidInput) :=
  ((checkWindow_cases start stop).resolve_left fun hordered => h hordered.1).2

namespace PromoCode

def WindowOrdered (p : PromoCode) : Prop := Catalog.WindowOrdered p.activeFrom p.activeTo

end PromoCode

namespace PromoCodePatch

variable {patch : PromoCodePatch} {p : PromoCode}

def SetsOneBound (patch : PromoCodePatch) : Prop := patch.activeFrom.isSome ≠ patch.activeTo.isSome

theorem window_apply (hchecked : patch.Checked) (now : Instant) (p : PromoCode) :
    ((patch.apply now p).activeFrom = p.activeFrom ∧ (patch.apply now p).activeTo = p.activeTo) ∨
      (patch.apply now p).WindowOrdered ∨ patch.SetsOneBound := by
  have hwindow := Catalog.windowOrdered_of_check hchecked.window
  rcases hfrom : patch.activeFrom with _ | first <;> rcases hto : patch.activeTo with _ | last
  · left
    rw [apply, hfrom, hto]
    exact ⟨rfl, rfl⟩
  · right; right
    simp [SetsOneBound, hfrom, hto]
  · right; right
    simp [SetsOneBound, hfrom, hto]
  · right; left
    rw [hfrom, hto] at hwindow
    rw [PromoCode.WindowOrdered, apply, hfrom, hto]
    exact hwindow

end PromoCodePatch

/-- A call that sets one bound of a window and so makes it end before it starts. -/
def ServiceCall.InvertsWindow (c : ServiceCall) (t : Tables) : Prop :=
  ∃ id patch p now, c = .updatePromoCode id patch ∧ patch.SetsOneBound ∧
    t.promoCodes.get? id = some p ∧ ¬ (patch.apply now p).WindowOrdered

namespace Memory.State

variable {σ : Type} {channel : Channel σ}

def keepsWindows (s : State σ) (_ : Environment) (c : ServiceCall) : Prop :=
  ¬ c.InvertsWindow s.committed

variable {s : State σ}

theorem Reachable.windowsOrdered (h : Reachable channel keepsWindows s) :
    s.committed.promoCodes.Each fun _ p => p.WindowOrdered := by
  refine h.eachPromo ?_ ?_ ?_
  · exact fun hdraft id now => Catalog.windowOrdered_of_check hdraft.window
  · intro s env id patch p hkeeps hchecked hp hordered now
    rcases patch.window_apply hchecked now p with ⟨hfrom, hto⟩ | hordered' | hone
    · rw [PromoCode.WindowOrdered, hfrom, hto]
      exact hordered
    · exact hordered'
    · by_contra hinverted
      exact hkeeps ⟨id, patch, p, now, rfl, hone, hp, hinverted⟩
  · rintro p _ ⟨n, rfl⟩ hordered
    exact hordered

theorem window_call (env : Environment) (c : ServiceCall) {id : PromoCodeId} {p' : PromoCode}
    (h' : (serve channel (c.service env) s).2.committed.promoCodes.get? id = some p') :
    p'.WindowOrdered ∨
      (∃ p, s.committed.promoCodes.get? id = some p ∧ p'.activeFrom = p.activeFrom ∧
        p'.activeTo = p.activeTo) ∨
      ∃ patch p, c = .updatePromoCode id patch ∧ patch.SetsOneBound ∧
        s.committed.promoCodes.get? id = some p ∧ p' = patch.apply s.sources.now.1 p := by
  cases promoOrigin_call env c h' with
  | kept found reused =>
    obtain ⟨n, rfl⟩ := reused
    exact .inr (.inl ⟨_, found, rfl, rfl⟩)
  | patched found patch call checked =>
    rcases patch.window_apply checked s.sources.now.1 _ with hsame | hordered | hone
    · exact .inr (.inl ⟨_, found, hsame⟩)
    · exact .inl hordered
    · exact .inr (.inr ⟨patch, _, call, hone, found, rfl⟩)
  | created createdBy input draft call drafted =>
    exact .inl (Catalog.windowOrdered_of_check (PromoCodeInput.checked_intoDraft drafted).window)

theorem serve_updatePromoCode_inverted (id : PromoCodeId) {patch : PromoCodePatch}
    (h : ¬ Catalog.WindowOrdered patch.activeFrom patch.activeTo) :
    ∃ why, serve channel (EventTickets.updatePromoCode id patch) s =
      (.error (.promoInvalid why), s) := by
  have hwindow := Catalog.checkWindow_eq_error h
  rw [EventTickets.updatePromoCode]
  split
  · next kind _ =>
    cases kind with
    | other name => exact ⟨.rejected .unsupportedDiscountType, rfl⟩
    | _ =>
      refine ⟨.invalidInput, ?_⟩
      simp only [Catalog.supportedDiscount, serve_bind, serve_liftExcept, hwindow]
  · refine ⟨.invalidInput, ?_⟩
    rw [serve_bind, serve_liftExcept, hwindow]

theorem serve_createPromoCode_inverted (createdBy : UserId) {input : PromoCodeInput}
    (h : ¬ Catalog.WindowOrdered input.activeFrom input.activeTo) :
    ∃ why, serve channel (EventTickets.createPromoCode createdBy input) s =
      (.error (.promoInvalid why), s) := by
  have hdraft : ∃ why, input.intoDraft (some createdBy) = .error (.promoInvalid why) := by
    simp only [PromoCodeInput.intoDraft, Catalog.checkWindow_eq_error h]
    split
    · exact ⟨.invalidInput, rfl⟩
    · rcases DiscountType.parse input.discountType with _ | _ | name
      · exact ⟨.invalidInput, rfl⟩
      · exact ⟨.invalidInput, rfl⟩
      · exact ⟨.rejected .unsupportedDiscountType, rfl⟩
  obtain ⟨why, hdraft⟩ := hdraft
  refine ⟨why, ?_⟩
  rw [EventTickets.createPromoCode, serve_bind, serve_liftExcept, hdraft]

/-- Windows end after they start as long as no patch of one bound is accepted that takes that from
them, whatever else is called. Any call leaves a row with such a window or with the window that it
had, unless it sets one bound; and what brings both bounds in the wrong order is refused as an
invalid code and changes nothing. -/
theorem windows_ordered_but_for_single_bounds (channel : Channel σ) (s : State σ) :
    (Reachable channel keepsWindows s → s.committed.promoCodes.Each fun _ p => p.WindowOrdered) ∧
    (∀ env (c : ServiceCall) id p',
      (serve channel (c.service env) s).2.committed.promoCodes.get? id = some p' →
      p'.WindowOrdered ∨
      (∃ p, s.committed.promoCodes.get? id = some p ∧ p'.activeFrom = p.activeFrom ∧
        p'.activeTo = p.activeTo) ∨
      ∃ patch p, c = .updatePromoCode id patch ∧ patch.SetsOneBound ∧
        s.committed.promoCodes.get? id = some p ∧ p' = patch.apply s.sources.now.1 p) ∧
    (∀ id (patch : PromoCodePatch), ¬ Catalog.WindowOrdered patch.activeFrom patch.activeTo →
      ∃ why, serve channel (EventTickets.updatePromoCode id patch) s =
        (.error (.promoInvalid why), s)) ∧
    ∀ createdBy (input : PromoCodeInput), ¬ Catalog.WindowOrdered input.activeFrom input.activeTo →
      ∃ why, serve channel (EventTickets.createPromoCode createdBy input) s =
        (.error (.promoInvalid why), s) :=
  ⟨Reachable.windowsOrdered, fun env c _ _ => window_call env c,
    fun id _ => serve_updatePromoCode_inverted id,
    fun createdBy _ => serve_createPromoCode_inverted createdBy⟩

end Memory.State

namespace Sample

def february : Time.Instant := ⟨1738368000, 0⟩

def march : Time.Instant := ⟨1740787200, 0⟩

def spring : PromoCodeId := ⟨Sources.countedId 1 0⟩

def createSpring (start stop : Option Time.Instant) : ServiceCall := .createPromoCode operator {
  code := "SPRING",
  discountType := "FIXED",
  value := 500,
  usageLimit := none,
  activeFrom := start,
  activeTo := stop,
  eventId := none,
  isActive := none }

def endSpring (stop : Time.Instant) : ServiceCall := .updatePromoCode spring {
  discountType := none,
  value := none,
  usageLimit := .keep,
  activeFrom := none,
  activeTo := some stop,
  eventId := none,
  isActive := none }

def extendedSpring : List ServiceCall := [createSpring (some time) (some february), endSpring march]

def invertedSpring : List ServiceCall := [createSpring (some february) none, endSpring time]

theorem extendedSpring_reachable :
    Memory.State.Reachable .log Memory.State.keepsWindows (store extendedSpring) := by
  have hcreated : Memory.State.Reachable .log Memory.State.keepsWindows
      (store [createSpring (some time) (some february)]) := by
    refine .call (.addUser (.addEvent (.start _ _) _ _) _) environment _ ?_
    rintro ⟨id, patch, p, now, e, -⟩
    cases e
  refine hcreated.call environment (endSpring march) ?_
  rintro ⟨id, patch, p, now, e, -, hp, hinverted⟩
  cases e
  have hstart : ((store [createSpring (some time) (some february)]).committed.promoCodes.get?
      spring).map
      (·.activeFrom) = some (some time) := by decide +kernel
  rw [hp, Option.map_some, Option.some.injEq] at hstart
  refine hinverted (Catalog.windowOrdered_of_check ?_)
  change Catalog.checkWindow (none <|> p.activeFrom) (some march) = .ok ()
  rw [hstart]
  rfl

end Sample

namespace Memory.State

theorem windows_ordered_but_for_single_bounds_extended :
    (∃ p, (Sample.store Sample.extendedSpring).committed.promoCodes.get? Sample.spring = some p ∧
      p.activeFrom = some Sample.time ∧ p.activeTo = some Sample.march ∧ p.WindowOrdered) ∧
    ∀ patch : PromoCodePatch, patch.activeFrom = some Sample.february →
      patch.activeTo = some Sample.time →
        ∃ why, serve .log (EventTickets.updatePromoCode Sample.spring patch)
          (Sample.store Sample.extendedSpring) =
        (.error (.promoInvalid why), Sample.store Sample.extendedSpring) := by
  obtain ⟨hordered, -, hrefused, -⟩ :=
    windows_ordered_but_for_single_bounds .log (Sample.store Sample.extendedSpring)
  have hstored : ((Sample.store Sample.extendedSpring).committed.promoCodes.get? Sample.spring).map
      (fun p => (p.activeFrom, p.activeTo)) = some (some Sample.time, some Sample.march) := by
      decide +kernel
  obtain ⟨p, hp, e⟩ := Option.map_eq_some_iff.mp hstored
  obtain ⟨hfrom, hto⟩ := Prod.mk.inj e
  refine ⟨⟨p, hp, hfrom, hto, hordered Sample.extendedSpring_reachable _ p hp⟩,
    fun patch hstart hstop => ?_⟩
  refine hrefused Sample.spring patch fun hwindow => ?_
  exact absurd (hwindow _ _ hstart hstop) (by decide)

/-- A patch of one bound is accepted, and the window ends before it starts. -/
theorem window_inverted_by_single_bound :
    Reachable .log anyCall (Sample.store Sample.invertedSpring) ∧
      ∃ p, (Sample.store Sample.invertedSpring).committed.promoCodes.get? Sample.spring = some p ∧
        p.activeFrom = some Sample.february ∧ p.activeTo = some Sample.time ∧
          ¬ p.WindowOrdered := by
  have hstored : ((Sample.store Sample.invertedSpring).committed.promoCodes.get? Sample.spring).map
      (fun p => (p.activeFrom, p.activeTo)) = some (some Sample.february, some Sample.time) := by
      decide +kernel
  obtain ⟨p, hp, e⟩ := Option.map_eq_some_iff.mp hstored
  obtain ⟨hfrom, hto⟩ := Prod.mk.inj e
  refine ⟨Sample.store_reachable _, p, hp, hfrom, hto, fun hwindow => ?_⟩
  exact absurd (hwindow _ _ hfrom hto) (by decide)

end Memory.State

end EventTickets
