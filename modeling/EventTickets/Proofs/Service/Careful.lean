import EventTickets.Proofs.Program
import EventTickets.Service.Cancellation
import EventTickets.Service.Purchase
import EventTickets.Service.Redemption

/-!
# The bodies of the transactions

The body of a transaction asks its open transaction, the clock and the sources of chance. It neither
opens nor closes a transaction, reads no committed table and delivers nothing. When the store fails
or refuses a guarded write, the body writes nothing more and fails, with the store's own error if
there is one. All this holds whatever the body is answered.
-/

namespace EventTickets

def TransactionCall.Refused : (c : TransactionCall) → c.Reply → Prop
  | .consumePromo _, applied => applied = false
  | .reserveInventory _ _ _, applied => applied = false
  | .transitionOrder _ _, applied => applied = false
  | .markTicketRedeemed _ _ _, applied => applied = false
  | _, _ => False

def TransactionCall.Reads : TransactionCall → Prop
  | .eventTitle _ => True
  | .lockTicketProduct _ => True
  | .lockTransferProduct _ => True
  | .lockPromoByCode _ => True
  | .lockOrder _ => True
  | .lockOrderItems _ => True
  | .lockOrderTickets _ => True
  | .lockTicket _ => True
  | .countUnredeemedTickets _ => True
  | .orderDetail _ _ => True
  | .purchaser _ => True
  | _ => False

namespace Request

def IsInner : Request → Prop
  | .store (.within _) => True
  | .now => True
  | .newId => True
  | .newNonce _ => True
  | _ => False

def IsQuiet : Request → Prop
  | .store (.within c) => c.Reads
  | _ => False

def storeError? : (r : Request) → r.Reply → Option StoreError
  | .store _, .error e => some e
  | _, _ => none

/-- Replies after which a transaction may not go on. -/
inductive Failed : Signature.Entry Request.signature → Prop
  | error (c : StoreCall) (e : StoreError) : Failed ⟨.store c, .error e⟩
  | refused (c : TransactionCall) (reply : c.Reply) (h : c.Refused reply) :
      Failed ⟨.store (.within c), .ok reply⟩

/-- How a service ends that met a failure: with the error of the store, if there is one. -/
def Reported {α : Type} (x : Signature.Entry Request.signature)
    (outcome : Except TicketingError α) : Prop :=
  ∃ err, outcome = .error err ∧ ∀ e, x.1.storeError? x.2 = some e → err = .store e

end Request

namespace Service

variable {α β : Type}

def Inner (p : Service α) : Prop := Program.Only (S := Request.signature) Request.IsInner p.run

structure Careful (p : Service α) : Prop where
  inner : Inner p
  heeds : Program.Heeds (S := Request.signature) Request.Failed Request.IsQuiet
    Request.Reported p.run

/-- Whether a service reads at most, and fails. -/
def Fails (p : Service α) : Prop :=
  Program.Subsides (S := Request.signature) Request.IsQuiet (fun outcome => ∃ e,
    outcome = .error e) p.run

theorem careful_pure (a : α) : Careful (pure a) := ⟨trivial, trivial⟩

theorem careful_throw (e : TicketingError) : Careful (throw e : Service α) := ⟨trivial, trivial⟩

theorem careful_bind {p : Service α} {f : α → Service β} (hp : Careful p)
    (hf : ∀ a, Careful (f a)) : Careful (p >>= f) := by
  constructor
  · refine Program.only_bind (S := Request.signature) hp.inner fun outcome => ?_
    cases outcome with
    | ok a => exact (hf a).inner
    | error e => exact trivial
  · refine Program.heeds_bind (S := Request.signature) hp.heeds ?_ fun outcome => ?_
    · rintro x _ ⟨e, rfl, he⟩
      exact ⟨e, rfl, he⟩
    · cases outcome with
      | ok a => exact (hf a).heeds
      | error e => exact trivial

theorem careful_ask {r : Request} (hr : r.IsInner) (h : ∀ reply, ¬ Request.Failed ⟨r, reply⟩) :
    Careful (ask r) :=
  ⟨⟨hr, fun _ => trivial⟩, fun reply => ⟨fun hfail => (h reply hfail).elim, trivial⟩⟩

theorem careful_now : Careful now := careful_ask trivial fun _ h => by cases h

theorem careful_newId : Careful (ask .newId) := careful_ask trivial fun _ h => by cases h

theorem careful_newNonce (size : Nat) : Careful (ask (.newNonce size)) :=
  careful_ask trivial fun _ h => by cases h

theorem careful_guard {c : TransactionCall} {f : c.Reply → Service α}
    (href : ∀ a, c.Refused a → Fails (f a)) (hf : ∀ a, Careful (f a)) :
    Careful (within c >>= f) := by
  constructor
  · refine ⟨trivial, fun reply => ?_⟩
    cases reply with
    | ok a => exact (hf a).inner
    | error e => exact trivial
  · intro reply
    cases reply with
    | ok a =>
      refine ⟨fun hfail => ?_, (hf a).heeds⟩
      cases hfail with
      | refused _ _ hrefused =>
        refine Program.Subsides.mono (S := Request.signature) (href a hrefused) ?_
        rintro _ ⟨e, rfl⟩
        exact ⟨e, rfl, by simp [Request.storeError?]⟩
    | error e => exact ⟨fun _ => ⟨_, rfl, by rintro _ ⟨⟩; rfl⟩, trivial⟩

theorem careful_within {c : TransactionCall} (h : ∀ a, ¬ c.Refused a) : Careful (within c) := by
  have hguard := careful_guard (c := c) (f := pure) (fun a ha => (h a ha).elim) careful_pure
  rwa [bind_pure] at hguard

theorem careful_demand (e : TicketingError) (a : Option α) : Careful (demand e a) := by
  cases a with
  | none => exact careful_throw e
  | some a => exact careful_pure a

theorem careful_require (e : TicketingError) (b : Bool) : Careful (require e b) := by
  cases b with
  | false => exact careful_throw e
  | true => exact careful_pure ()

theorem careful_liftExcept (x : Except TicketingError α) : Careful (liftExcept x) := by
  cases x with
  | error e => exact careful_throw e
  | ok a => exact careful_pure a

theorem fails_throw (e : TicketingError) : Fails (throw e : Service α) := ⟨e, rfl⟩

theorem fails_require (e : TicketingError) (f : Unit → Service α) :
    Fails (require e false >>= f) := ⟨e, rfl⟩

theorem fails_demand {β : Type} (e : TicketingError) (b : Option β) {f : β → Service α}
    (hf : ∀ b, Fails (f b)) : Fails (demand e b >>= f) := by
  cases b with
  | none => exact fails_throw e
  | some b => exact hf b

theorem fails_within {c : TransactionCall} (hc : c.Reads) {f : c.Reply → Service α}
    (hf : ∀ a, Fails (f a)) : Fails (within c >>= f) := by
  refine ⟨hc, fun reply => ?_⟩
  cases reply with
  | ok a => exact hf a
  | error e => exact ⟨.store e, rfl⟩

end Service

open Service

namespace Redemption

theorem careful_redeemOrder (order : OrderId) (status : OrderStatus) (now : Time.Instant) :
    Careful (redeemOrder order status now) := by
  refine careful_bind (careful_within fun _ => not_false) fun left => ?_
  split
  · exact careful_pure _
  · refine careful_guard ?_ fun applied => ?_
    · rintro _ rfl
      refine fails_within (c := .orderDetail order false) trivial fun found => ?_
      exact fails_demand _ _ fun detail => fails_throw _
    · split
      · exact careful_pure _
      · refine careful_bind (careful_within fun _ => not_false) fun found => ?_
        exact careful_bind (careful_demand _ _) fun detail => careful_throw _

theorem careful_redeem (env : Environment) (id : TicketId) (operator : OperatorId)
    (token : Option String) : Careful (redeem env id operator token) := by
  refine careful_bind careful_now fun now => ?_
  refine careful_bind (careful_within fun _ => not_false) fun found => ?_
  refine careful_bind (careful_demand _ _) fun locked => ?_
  refine careful_bind (careful_require _ _) fun _ => ?_
  refine careful_bind (careful_require _ _) fun _ => ?_
  refine careful_bind (careful_liftExcept _) fun _ => ?_
  refine careful_guard (by rintro _ rfl; exact fails_require _ _) fun marked => ?_
  refine careful_bind (careful_require _ _) fun _ => ?_
  exact careful_bind (careful_redeemOrder _ _ _) fun status => careful_pure _

end Redemption

namespace Confirmation

theorem careful_reserveItems (items : List OrderItem) : Careful (reserveItems items) := by
  induction items with
  | nil => exact careful_pure _
  | cons item rest ih =>
    refine careful_guard (by rintro _ rfl; exact fails_require _ _) fun reserved => ?_
    exact careful_bind (careful_require _ _) fun _ => ih

theorem careful_issueTokens (env : Environment) (now : Time.Instant) (tickets : List Ticket) :
    Careful (issueTokens env now tickets) := by
  induction tickets with
  | nil => exact careful_pure _
  | cons ticket rest ih =>
    refine careful_bind (careful_bind (careful_newNonce _) fun nonce =>
      careful_pure _) fun issued => ?_
    exact careful_bind (careful_within fun _ => not_false) fun _ => ih

theorem careful_confirm (env : Environment) (id : OrderId) (operator : OperatorId) :
    Careful (confirm env id operator) := by
  refine careful_bind careful_now fun now => ?_
  refine careful_bind (careful_within fun _ => not_false) fun found => ?_
  refine careful_bind (careful_demand _ _) fun order => ?_
  refine careful_bind (careful_require _ _) fun _ => ?_
  refine careful_bind (careful_within fun _ => not_false) fun items => ?_
  refine careful_bind (careful_reserveItems _) fun _ => ?_
  refine careful_guard (by rintro _ rfl; exact fails_require _ _) fun applied => ?_
  refine careful_bind (careful_require _ _) fun _ => ?_
  refine careful_bind (careful_within fun _ => not_false) fun tickets => ?_
  refine careful_bind (careful_issueTokens _ _ _) fun _ => ?_
  refine careful_bind (careful_within fun _ => not_false) fun purchaser => ?_
  refine careful_bind (careful_within fun _ => not_false) fun detail => ?_
  exact careful_bind (careful_demand _ _) fun _ => careful_pure _

end Confirmation

namespace Cancellation

theorem careful_releaseItems (items : List OrderItem) : Careful (releaseItems items) := by
  induction items with
  | nil => exact careful_pure _
  | cons item rest ih => exact careful_bind (careful_within fun _ => not_false) fun _ => ih

theorem careful_releaseStock (id : OrderId) (status : OrderStatus) :
    Careful (releaseStock id status) := by
  unfold releaseStock
  split
  · exact careful_bind (careful_within fun _ => not_false) fun items => careful_releaseItems _
  · exact careful_pure _

theorem careful_releasePromoGiven (promo : Option PromoCodeId) :
    Careful (releasePromoGiven promo) := by
  cases promo with
  | none => exact careful_pure _
  | some id => exact careful_within fun _ => not_false

theorem careful_cancel (id : OrderId) (operator : OperatorId) (reason : Option String) :
    Careful (cancel id operator reason) := by
  refine careful_bind (careful_within fun _ => not_false) fun found => ?_
  refine careful_bind (careful_demand _ _) fun order => ?_
  refine careful_bind (careful_require _ _) fun _ => ?_
  refine careful_bind (careful_releaseStock _ _) fun _ => ?_
  refine careful_bind (careful_releasePromoGiven _) fun _ => ?_
  refine careful_bind careful_now fun now => ?_
  refine careful_guard (by rintro _ rfl; exact fails_require _ _) fun applied => ?_
  refine careful_bind (careful_require _ _) fun _ => ?_
  exact careful_bind (careful_within fun _ => not_false) fun detail => careful_demand _ _

end Cancellation

namespace Quote

theorem careful_addTickets (who : QuoteFor) (tier : TicketType)
    (tickets : List NewTicket) (n : Nat) : Careful (addTickets who tier tickets n) := by
  induction n generalizing tickets with
  | zero => exact careful_pure _
  | succ n ih => exact careful_bind careful_newId fun id => ih _

theorem careful_addTicketLine (who : QuoteFor) (quote : Quote) (product : ProductId)
    (quantity : UInt32) : Careful (addTicketLine who quote product quantity) := by
  refine careful_bind (careful_within fun _ => not_false) fun found => ?_
  refine careful_bind (careful_demand _ _) fun p => ?_
  refine careful_bind (careful_demand _ _) fun total => ?_
  refine careful_bind (careful_demand _ _) fun subtotal => ?_
  exact careful_bind (careful_addTickets _ _ _ _) fun tickets => careful_pure _

theorem careful_addTransferLine (who : QuoteFor) (quote : Quote) (product : ProductId)
    (quantity : UInt32) : Careful (addTransferLine who quote product quantity) := by
  refine careful_bind (careful_within fun _ => not_false) fun found => ?_
  refine careful_bind (careful_demand _ _) fun p => ?_
  refine careful_bind (careful_demand _ _) fun total => ?_
  exact careful_bind (careful_demand _ _) fun subtotal => careful_pure _

theorem careful_addTicketLines (who : QuoteFor) (quote : Quote)
    (lines : List (ProductId × UInt32)) : Careful (addTicketLines who quote lines) := by
  induction lines generalizing quote with
  | nil => exact careful_pure _
  | cons line rest ih => exact careful_bind (careful_addTicketLine _ _ _ _) fun _ => ih _

theorem careful_addTransferLines (who : QuoteFor) (quote : Quote)
    (lines : List (ProductId × UInt32)) : Careful (addTransferLines who quote lines) := by
  induction lines generalizing quote with
  | nil => exact careful_pure _
  | cons line rest ih => exact careful_bind (careful_addTransferLine _ _ _ _) fun _ => ih _

end Quote

namespace Purchase

theorem careful_applyPromoGiven (code : Option String) (event : EventId) (subtotalCents : Int64) :
    Careful (applyPromoGiven code event subtotalCents) := by
  cases code with
  | none => exact careful_pure _
  | some code =>
    refine careful_bind (careful_within fun _ => not_false) fun found => ?_
    refine careful_bind (careful_demand _ _) fun promo => ?_
    refine careful_bind careful_now fun now => ?_
    refine careful_bind (careful_liftExcept _) fun cents => ?_
    refine careful_guard (by rintro _ rfl; exact fails_require _ _) fun applied => ?_
    exact careful_bind (careful_require _ _) fun _ => careful_pure _

theorem careful_insertItems (items : List NewOrderItem) : Careful (insertItems items) := by
  induction items with
  | nil => exact careful_pure _
  | cons item rest ih => exact careful_bind (careful_within fun _ => not_false) fun _ => ih

theorem careful_insertTickets (tickets : List NewTicket) : Careful (insertTickets tickets) := by
  induction tickets with
  | nil => exact careful_pure _
  | cons ticket rest ih => exact careful_bind (careful_within fun _ => not_false) fun _ => ih

theorem careful_place (policy : OrderPolicy) (order : Intent) : Careful (place policy order) := by
  refine careful_bind careful_now fun start => ?_
  refine careful_bind (careful_within fun _ => not_false) fun title => ?_
  refine careful_bind (careful_require _ _) fun _ => ?_
  refine careful_bind careful_newId fun id => ?_
  refine careful_bind careful_now fun time => ?_
  refine careful_bind (careful_bind (Quote.careful_addTicketLines _ _ _) fun quote =>
    Quote.careful_addTransferLines _ _ _) fun quote => ?_
  refine careful_bind (careful_require _ _) fun _ => ?_
  refine careful_bind (careful_applyPromoGiven _ _ _) fun discount => ?_
  refine careful_bind (careful_within fun _ => not_false) fun _ => ?_
  refine careful_bind (careful_insertItems _) fun _ => ?_
  refine careful_bind (careful_insertTickets _) fun _ => ?_
  exact careful_bind (careful_within fun _ => not_false) fun detail => careful_demand _ _

end Purchase

end EventTickets
