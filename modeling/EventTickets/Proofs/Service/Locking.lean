import EventTickets.Proofs.Service.Leading
import EventTickets.Proofs.Stages
import EventTickets.Service.Cancellation
import EventTickets.Service.Purchase
import EventTickets.Service.Redemption

/-!
# The locks of the transactions

The body of a transaction takes its locks in the order of their stages: products and then the promo
code if an order is placed, and otherwise the order, its items and its tickets. So a store that
keeps the ledger refuses none of them.
-/

namespace EventTickets

/-- Whether a request was answered that a lock had to be taken earlier. -/
def Request.MeetsLate : Signature.Entry Request.signature → Prop
  | ⟨.store _, reply⟩ => Late reply
  | _ => False

/-- How the ledger of the open transaction goes along with the requests of a service. -/
def Request.Keeps : (r : Request) → LockLedger → r.Reply → LockLedger → Prop
  | .store .begin, _, reply, l' => ¬ Late reply ∧ l' = .empty
  | .store (.within c), l, reply, l' => ∃ locked, c.Serves l reply locked l'
  | .store .commit, _, reply, _ => ¬ Late reply
  | .store .rollback, _, reply, _ => ¬ Late reply
  | .store _, _, _, _ => True
  | _, l, _, l' => l' = l

def lockAccount : Account (LockLedger × List (Signature.Entry Request.signature)) where
  step r g reply g' := r.Keeps g.1 reply g'.1 ∧ g'.2 = g.2 ++ [⟨r, reply⟩]
  fails e g := (∀ held requested, e ≠ .store (.lockOrder held requested)) ∧
    ∀ x ∈ g.2, ¬ Request.MeetsLate x

/-- At most this rank is held, and no lock came late so far. -/
structure UpTo (n : Nat) (g : LockLedger × List (Signature.Entry Request.signature)) : Prop where
  held : ∀ stage, g.1.held = some stage → stage.rank ≤ n
  seen : ∀ x ∈ g.2, ¬ Request.MeetsLate x

theorem UpTo.mono {n m : Nat} {g : LockLedger × List (Signature.Entry Request.signature)}
    (h : UpTo n g) (hnm : n ≤ m) :
    UpTo m g := ⟨fun stage hstage => Nat.le_trans (h.held stage hstage) hnm, h.seen⟩

theorem seen_snoc {seen : List (Signature.Entry Request.signature)}
    {x : Signature.Entry Request.signature} (h : ∀ y ∈ seen, ¬ Request.MeetsLate y)
    (hx : ¬ Request.MeetsLate x) : ∀ y ∈ seen ++ [x], ¬ Request.MeetsLate y := by
  intro y hy
  rcases List.mem_append.mp hy with hy | hy
  · exact h y hy
  · rwa [List.mem_singleton.mp hy]

namespace Service

variable {α : Type} {n m : Nat} {e : TicketingError}

theorem fails_upTo (he : e.isBusiness = true) :
    ∀ g, UpTo n g → lockAccount.fails e g := by
  refine fun g hg => ⟨fun held requested hlate => ?_, hg.seen⟩
  rw [hlate] at he
  cases he

theorem ends_of_reply {reply : Except StoreError α}
    {post : α → LockLedger × List (Signature.Entry Request.signature) → Prop}
    {g : LockLedger × List (Signature.Entry Request.signature)} (hreply : ¬ Late reply)
    (hseen : ∀ x ∈ g.2, ¬ Request.MeetsLate x) (hpost : ∀ a, reply = .ok a → post a g) :
    lockAccount.ends post (reply.mapError .store) g := by
  cases reply with
  | ok a => exact hpost a rfl
  | error e =>
    refine ⟨fun held requested he => ?_, hseen⟩
    cases he
    exact hreply ⟨held, requested, rfl⟩

theorem upTo_within {c : TransactionCall} (hc : ∀ stage ∈ c.stages, n ≤ stage.rank ∧ stage.rank ≤ m)
    (hnm : n ≤ m) : Leads lockAccount (UpTo n) (within c) fun _ => UpTo m := by
  refine leads_store fun g reply g' hg hstep => ?_
  obtain ⟨⟨locked, hserves⟩, hseen⟩ := hstep
  have hadmits : ∀ stage ∈ c.stages, g.1.Admits stage := fun stage hstage held hheld =>
    Nat.le_trans (hg.held held hheld) (hc stage hstage).1
  have hreply : ¬ Late reply := by
    rw [hserves.late_iff]
    rintro ⟨stage, hstage, hrefused⟩
    exact hrefused (hadmits stage hstage)
  have hclean : ∀ x ∈ g'.2, ¬ Request.MeetsLate x := by
    rw [hseen]
    exact seen_snoc hg.seen hreply
  refine ends_of_reply hreply hclean fun a _ => ⟨fun stage hstage => ?_, hclean⟩
  rw [(LockLedger.foldlM_acquire hserves.acquired).2.2] at hstage
  rcases Option.or_eq_some_iff.mp hstage with hlast | ⟨-, hheld⟩
  · exact (hc stage (hserves.among stage (List.mem_of_getLast? hlast))).2
  · exact Nat.le_trans (hg.held stage hheld) hnm

theorem upTo_free {c : TransactionCall} (hc : c.stages = []) :
    Leads lockAccount (UpTo n) (within c) fun _ => UpTo n :=
  upTo_within (by simp [hc]) (Nat.le_refl n)

theorem upTo_lock {c : TransactionCall} {stage : LockStage} (hc : c.stages = [stage])
    (hn : n ≤ stage.rank) : Leads lockAccount (UpTo n) (within c) fun _ => UpTo stage.rank :=
  upTo_within (by simp [hc, hn]) hn

theorem upTo_ask {r : Request} (hr : ∀ l reply l', r.Keeps l reply l' → l' = l)
    (hseen : ∀ reply, ¬ Request.MeetsLate ⟨r, reply⟩) :
    Leads lockAccount (UpTo n) (ask r) fun _ => UpTo n := by
  refine leads_ask fun g reply g' hg hstep => ?_
  obtain ⟨hkeeps, hlog⟩ := hstep
  refine ⟨?_, ?_⟩
  · rw [hr _ _ _ hkeeps]
    exact hg.held
  · rw [hlog]
    exact seen_snoc hg.seen (hseen reply)

theorem upTo_now : Leads lockAccount (UpTo n) now fun _ => UpTo n :=
  upTo_ask (fun _ _ _ => id) fun _ => not_false

theorem upTo_newId : Leads lockAccount (UpTo n) (ask .newId) fun _ => UpTo n :=
  upTo_ask (fun _ _ _ => id) fun _ => not_false

theorem upTo_newNonce (size : Nat) :
    Leads lockAccount (UpTo n) (ask (.newNonce size)) fun _ => UpTo n :=
  upTo_ask (fun _ _ _ => id) fun _ => not_false

theorem upTo_pure (a : α) : Leads lockAccount (UpTo n) (pure a) fun _ => UpTo n :=
  leads_pure fun _ hg => hg

theorem upTo_demand (he : e.isBusiness = true) (a : Option α) :
    Leads lockAccount (UpTo n) (demand e a) fun _ => UpTo n :=
  (leads_demand (fails_upTo he)).mono (fun _ hg => hg) fun _ _ h => h.2

theorem upTo_require (he : e.isBusiness = true) (b : Bool) :
    Leads lockAccount (UpTo n) (require e b) fun _ => UpTo n :=
  (leads_require (fails_upTo he)).mono (fun _ hg => hg) fun _ _ h => h.2

theorem upTo_liftExcept {x : Except TicketingError α}
    (hx : ∀ e, x = .error e → e.isBusiness = true) :
    Leads lockAccount (UpTo n) (liftExcept x) fun _ => UpTo n :=
  leads_liftExcept fun e g he hg => fails_upTo (hx e he) g hg

end Service

open Service

namespace Quote

theorem upTo_addTickets (who : QuoteFor) (tier : TicketType) (tickets : List NewTicket) (n : Nat) :
    Leads lockAccount (UpTo 0) (addTickets who tier tickets n) fun _ => UpTo 0 := by
  induction n generalizing tickets with
  | zero => exact upTo_pure _
  | succ n ih => exact leads_bind upTo_newId fun id => ih _

theorem upTo_addTicketLine (who : QuoteFor) (quote : Quote) (product : ProductId)
    (quantity : UInt32) :
    Leads lockAccount (UpTo 0) (addTicketLine who quote product quantity) fun _ => UpTo 0 := by
  refine leads_bind (upTo_lock rfl (Nat.le_refl 0)) fun found => ?_
  refine leads_bind (upTo_demand rfl _) fun p => ?_
  refine leads_bind (upTo_demand rfl _) fun total => ?_
  refine leads_bind (upTo_demand rfl _) fun subtotal => ?_
  exact leads_bind (upTo_addTickets _ _ _ _) fun tickets => upTo_pure _

theorem upTo_addTransferLine (who : QuoteFor) (quote : Quote) (product : ProductId)
    (quantity : UInt32) :
    Leads lockAccount (UpTo 0) (addTransferLine who quote product quantity) fun _ => UpTo 0 := by
  refine leads_bind (upTo_lock rfl (Nat.le_refl 0)) fun found => ?_
  refine leads_bind (upTo_demand rfl _) fun p => ?_
  refine leads_bind (upTo_demand rfl _) fun total => ?_
  exact leads_bind (upTo_demand rfl _) fun subtotal => upTo_pure _

theorem upTo_addTicketLines (who : QuoteFor) (quote : Quote) (lines : List (ProductId × UInt32)) :
    Leads lockAccount (UpTo 0) (addTicketLines who quote lines) fun _ => UpTo 0 := by
  induction lines generalizing quote with
  | nil => exact upTo_pure _
  | cons line rest ih => exact leads_bind (upTo_addTicketLine _ _ _ _) fun _ => ih _

theorem upTo_addTransferLines (who : QuoteFor) (quote : Quote) (lines : List (ProductId × UInt32)) :
    Leads lockAccount (UpTo 0) (addTransferLines who quote lines) fun _ => UpTo 0 := by
  induction lines generalizing quote with
  | nil => exact upTo_pure _
  | cons line rest ih => exact leads_bind (upTo_addTransferLine _ _ _ _) fun _ => ih _

end Quote

namespace Purchase

theorem upTo_applyPromoGiven (code : Option String) (event : EventId) (subtotalCents : Int64) :
    Leads lockAccount (UpTo 0) (applyPromoGiven code event subtotalCents) fun _ => UpTo 1 := by
  cases code with
  | none => exact leads_pure fun _ hg => hg.mono (Nat.zero_le 1)
  | some code =>
    refine leads_bind (upTo_lock rfl (Nat.zero_le 1)) fun found => ?_
    refine leads_bind (upTo_demand rfl _) fun promo => ?_
    refine leads_bind upTo_now fun now => ?_
    refine leads_bind (upTo_liftExcept ?_) fun cents => ?_
    · intro e he
      cases hverdict : (promo.rule.validate ⟨now, event, subtotalCents⟩).result <;>
        rw [hverdict] at he <;> cases he
      rfl
    · refine leads_bind (upTo_free rfl) fun applied => ?_
      exact leads_bind (upTo_require rfl _) fun _ => upTo_pure _

theorem upTo_insertItems (items : List NewOrderItem) :
    Leads lockAccount (UpTo 1) (insertItems items) fun _ => UpTo 1 := by
  induction items with
  | nil => exact upTo_pure _
  | cons item rest ih => exact leads_bind (upTo_free rfl) fun _ => ih

theorem upTo_insertTickets (tickets : List NewTicket) :
    Leads lockAccount (UpTo 1) (insertTickets tickets) fun _ => UpTo 1 := by
  induction tickets with
  | nil => exact upTo_pure _
  | cons ticket rest ih => exact leads_bind (upTo_free rfl) fun _ => ih

theorem upTo_place (policy : OrderPolicy) (order : Intent) :
    Leads lockAccount (UpTo 0) (place policy order) fun _ => UpTo 1 := by
  refine leads_bind upTo_now fun start => ?_
  refine leads_bind (upTo_free rfl) fun title => ?_
  refine leads_bind (upTo_require rfl _) fun _ => ?_
  refine leads_bind upTo_newId fun id => ?_
  refine leads_bind upTo_now fun time => ?_
  refine leads_bind (leads_bind (Quote.upTo_addTicketLines _ _ _) fun quote =>
    Quote.upTo_addTransferLines _ _ _) fun quote => ?_
  refine leads_bind (upTo_require rfl _) fun _ => ?_
  refine leads_bind (upTo_applyPromoGiven _ _ _) fun discount => ?_
  refine leads_bind (upTo_free rfl) fun _ => ?_
  refine leads_bind (upTo_insertItems _) fun _ => ?_
  refine leads_bind (upTo_insertTickets _) fun _ => ?_
  exact leads_bind (upTo_free rfl) fun detail => upTo_demand rfl _

end Purchase

namespace Confirmation

variable {n : Nat}

theorem upTo_reserveItems (items : List OrderItem) :
    Leads lockAccount (UpTo n) (reserveItems items) fun _ => UpTo n := by
  induction items with
  | nil => exact upTo_pure _
  | cons item rest ih =>
    refine leads_bind (upTo_free rfl) fun reserved => ?_
    exact leads_bind (upTo_require rfl _) fun _ => ih

theorem upTo_issueTokens (env : Environment) (now : Time.Instant) (tickets : List Ticket) :
    Leads lockAccount (UpTo n) (issueTokens env now tickets) fun _ => UpTo n := by
  induction tickets with
  | nil => exact upTo_pure _
  | cons ticket rest ih =>
    refine leads_bind (leads_bind (upTo_newNonce _) fun nonce => upTo_pure _) fun issued => ?_
    exact leads_bind (upTo_free rfl) fun _ => ih

theorem upTo_confirm (env : Environment) (id : OrderId) (operator : OperatorId) :
    Leads lockAccount (UpTo 0) (confirm env id operator) fun _ => UpTo 4 := by
  refine leads_bind upTo_now fun now => ?_
  refine leads_bind (upTo_lock rfl (Nat.zero_le 2)) fun found => ?_
  refine leads_bind (upTo_demand rfl _) fun order => ?_
  refine leads_bind (upTo_require rfl _) fun _ => ?_
  refine leads_bind (upTo_lock rfl (by decide)) fun items => ?_
  refine leads_bind (upTo_reserveItems _) fun _ => ?_
  refine leads_bind (upTo_free rfl) fun applied => ?_
  refine leads_bind (upTo_require rfl _) fun _ => ?_
  refine leads_bind (upTo_lock rfl (by decide)) fun tickets => ?_
  refine leads_bind (upTo_issueTokens _ _ _) fun _ => ?_
  refine leads_bind (upTo_free rfl) fun purchaser => ?_
  refine leads_bind (upTo_free rfl) fun detail => ?_
  exact leads_bind (upTo_demand rfl _) fun _ => upTo_pure _

end Confirmation

namespace Cancellation

theorem upTo_releaseItems (items : List OrderItem) :
    Leads lockAccount (UpTo 3) (releaseItems items) fun _ => UpTo 3 := by
  induction items with
  | nil => exact upTo_pure _
  | cons item rest ih => exact leads_bind (upTo_free rfl) fun _ => ih

theorem upTo_releaseStock (id : OrderId) (status : OrderStatus) :
    Leads lockAccount (UpTo 2) (releaseStock id status) fun _ => UpTo 3 := by
  unfold releaseStock
  split
  · exact leads_bind (upTo_lock rfl (by decide)) fun items => upTo_releaseItems _
  · exact leads_pure fun _ hg => hg.mono (by decide)

theorem upTo_releasePromoGiven (promo : Option PromoCodeId) :
    Leads lockAccount (UpTo 3) (releasePromoGiven promo) fun _ => UpTo 3 := by
  cases promo with
  | none => exact upTo_pure _
  | some id => exact upTo_free rfl

theorem upTo_cancel (id : OrderId) (operator : OperatorId) (reason : Option String) :
    Leads lockAccount (UpTo 0) (cancel id operator reason) fun _ => UpTo 3 := by
  refine leads_bind (upTo_lock rfl (Nat.zero_le 2)) fun found => ?_
  refine leads_bind (upTo_demand rfl _) fun order => ?_
  refine leads_bind (upTo_require rfl _) fun _ => ?_
  refine leads_bind (upTo_releaseStock _ _) fun _ => ?_
  refine leads_bind (upTo_releasePromoGiven _) fun _ => ?_
  refine leads_bind upTo_now fun now => ?_
  refine leads_bind (upTo_free rfl) fun applied => ?_
  refine leads_bind (upTo_require rfl _) fun _ => ?_
  exact leads_bind (upTo_free rfl) fun detail => upTo_demand rfl _

end Cancellation

namespace Redemption

theorem upTo_redeemOrder (order : OrderId) (status : OrderStatus) (now : Time.Instant) :
    Leads lockAccount (UpTo 4) (redeemOrder order status now) fun _ => UpTo 4 := by
  refine leads_bind (upTo_free rfl) fun left => ?_
  split
  · exact upTo_pure _
  · refine leads_bind (upTo_free rfl) fun applied => ?_
    split
    · exact upTo_pure _
    · refine leads_bind (upTo_free rfl) fun found => ?_
      exact leads_bind (upTo_demand rfl _) fun detail => leads_throw (fails_upTo rfl)

theorem isBusiness_of_authenticateGiven {secret : SigningSecret} {ticket : Ticket}
    {token : Option String} {e : TicketingError}
    (h : authenticateGiven secret ticket token = .error e) : e.isBusiness = true := by
  cases token with
  | none => cases h
  | some token =>
    simp only [authenticateGiven, authenticate] at h
    cases hverify : Token.verify secret token with
    | error refusal =>
      rw [hverify] at h
      cases h
      rfl
    | ok claims =>
      simp only [hverify, Except.mapError, bind, Except.bind, throw, throwThe,
        MonadExceptOf.throw] at h
      cases hfield : claims.mismatch? ticket with
      | some field =>
        rw [hfield] at h
        cases h
        rfl
      | none =>
        rw [hfield] at h
        cases hdigest : ticket.qrPayloadHash with
        | none =>
          rw [hdigest] at h
          cases h
        | some digest =>
          simp only [hdigest] at h
          split at h
          · cases h
            rfl
          · cases h

theorem upTo_redeem (env : Environment) (id : TicketId) (operator : OperatorId)
    (token : Option String) :
    Leads lockAccount (UpTo 0) (redeem env id operator token) fun _ => UpTo 4 := by
  refine leads_bind upTo_now fun now => ?_
  refine leads_bind (upTo_within (by simp [TransactionCall.stages, LockStage.rank]) (Nat.zero_le 4))
    fun found => ?_
  refine leads_bind (upTo_demand rfl _) fun locked => ?_
  refine leads_bind (upTo_require rfl _) fun _ => ?_
  refine leads_bind (upTo_require rfl _) fun _ => ?_
  refine leads_bind (upTo_liftExcept ?_) fun _ => ?_
  · exact fun e he => isBusiness_of_authenticateGiven he
  · refine leads_bind (upTo_free rfl) fun marked => ?_
    refine leads_bind (upTo_require rfl _) fun _ => ?_
    exact leads_bind (upTo_redeemOrder _ _ _) fun status => upTo_pure _

end Redemption

end EventTickets
