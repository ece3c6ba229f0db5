import EventTickets.Proofs.Orders
import EventTickets.Proofs.Ticket.Issue

/-!
# Issued tokens open their own tickets

Confirmation writes tokens and check-in reads them, each in its own way. In every store whose orders
were confirmed with one secret, they agree.
-/

namespace EventTickets

/-- What is known of the tickets of an order: they have tokens once it is confirmed, and none
before. -/
structure Order.Tokens (secret : SigningSecret) (order : Order) (tickets : List Ticket) : Prop where
  proper : ∀ k ∈ tickets, k.Proper
  issued : order.confirmedAt.isSome → ∀ k ∈ tickets, k.IsIssued secret
  unissued : order.confirmedAt = none → ∀ k ∈ tickets, k.qrPayload = none

theorem Purchase.Placement.Sound.tokens {t : Memory.Tables} {a b : Supply Uuid}
    {w : Purchase.Placement} (h : w.Sound t a b) (secret : SigningSecret) :
    w.order.order.Tokens secret (w.tickets.map (·.ticket)) := by
  refine ⟨List.forall_mem_map.mpr fun n hn => ?_, fun e => ?_,
    fun _ => List.forall_mem_map.mpr fun n _ => rfl⟩
  · obtain ⟨tier, id, time, rfl⟩ := h.ticket n hn
    exact ⟨h.user, h.event, rfl⟩
  · cases e

theorem OrderStep.tokens {secret : SigningSecret} {env : Environment}
    {now : Time.Instant} {c : ServiceCall} {order order' : Order} {tickets tickets' : List Ticket}
    (h : OrderStep env now c order tickets order' tickets') (hsecret : env.secret = secret)
    (hnow : ∀ id operator, c.Confirms id operator → now.Stamps) (ht : order.Tokens secret tickets) :
    order'.Tokens secret tickets' := by
  subst hsecret
  cases h with
  | same => exact ht
  | confirm id operator call nonces pending =>
    refine ⟨List.forall_mem_map.mpr fun k hk => (ht.proper k hk).issue _ _ _,
      fun _ => ?_, fun e => ?_⟩
    · exact List.forall_mem_map.mpr fun k _ => k.isIssued_issue env.secret (hnow id operator call) _
    · cases e
  | cancel operator reason open_ => exact ⟨ht.proper, ht.issued, ht.unissued⟩
  | redeem k operator mem unredeemed purchased marked mark =>
    subst mark
    -- Checking in changes neither what a token says nor when the order was confirmed.
    have hconfirmedAt : ∀ last : Bool,
        (if last then (OrderTransition.redeem now).apply order else order).confirmedAt =
        order.confirmedAt :=
      fun last => by cases last <;> rfl
    refine ⟨List.forall_mem_map.mpr fun k' hk' => ?_,
      fun e => List.forall_mem_map.mpr fun k' hk' => ?_,
      fun e => List.forall_mem_map.mpr fun k' hk' => ?_⟩
    · split
      · exact (ht.proper k' hk').redeem operator now
      · exact ht.proper k' hk'
    · rw [hconfirmedAt] at e
      split
      · exact (ht.issued e k' hk').redeem operator now
      · exact ht.issued e k' hk'
    · rw [hconfirmedAt] at e
      split
      · exact ht.unissued e k' hk'
      · exact ht.unissued e k' hk'

namespace Memory.State

variable {σ : Type} {channel : Channel σ} {s : State σ} {secret : SigningSecret}

/-- All services have the same secret, and the clock is past the first second of the epoch whenever
an order is confirmed. -/
def Stamped (secret : SigningSecret) (s : State σ) (env : Environment) (c : ServiceCall) : Prop :=
  env.secret = secret ∧ ∀ id operator, c.Confirms id operator → s.sources.now.1.Stamps

theorem Reachable.tokens (h : Reachable channel (Stamped secret) s)
    (hfresh : s.sources.ids.Fresh) {id : OrderId} {order : Order}
    (ho : s.committed.orders.get? id = some order) :
    order.Tokens secret (s.committed.ticketsOf id) :=
  h.everyOrder (fun hw => hw.tokens secret) (fun ha hstep ht => hstep.tokens ha.1 ha.2 ht) hfresh ho

theorem Reachable.issued (h : Reachable channel (Stamped secret) s)
    (hfresh : s.sources.ids.Fresh) {k : Ticket} (hk : k ∈ s.committed.tickets) {token : String}
    (htoken : k.qrPayload = some token) : k.Proper ∧ k.IsIssued secret := by
  obtain ⟨order, ho⟩ := Option.isSome_iff_exists.mp
    ((h.wellFormed hfresh).consistent.attached.ticket k hk)
  have ht := h.tokens hfresh ho
  have hmem := Tables.mem_ticketsOf.mpr ⟨hk, rfl⟩
  refine ⟨ht.proper k hmem, ?_⟩
  rcases hc : order.confirmedAt with _ | time
  · rw [ht.unissued hc k hmem] at htoken
    cases htoken
  · exact ht.issued (by rw [hc]; rfl) k hmem

variable (channel)

def Opens (env : Environment) (s : State σ) (id : TicketId) (operator : OperatorId)
    (presented : String) : Prop :=
  (serve channel (redeemTicket env id operator (some presented)) s).1.isOk = true

variable {channel} {env : Environment} {id : TicketId} {operator : OperatorId} {presented : String}

theorem opens_iff : Opens channel env s id operator presented ↔
    ∃ k order, s.committed.admission env.secret id (Text.nonBlank? presented) = .ok (k, order) := by
  obtain ⟨after, -, hserve⟩ := serve_redeemTicket channel s env id operator (some presented)
  rw [Option.bind_some] at hserve
  rw [Opens, hserve]
  rcases s.committed.admission env.secret id (Text.nonBlank? presented) with e | ⟨k, order⟩
  · refine ⟨fun h => ?_, fun ⟨_, _, h⟩ => ?_⟩ <;> cases h
  · exact ⟨fun _ => ⟨k, order, rfl⟩, fun _ => rfl⟩

theorem serve_refused {e : TicketingError} (hidle : s.transaction = none)
    (h : s.committed.admission env.secret id (Text.nonBlank? presented) = .error e) :
    ∃ after, serve channel (redeemTicket env id operator (some presented)) s =
      (.error e, { s with sources := after }) := by
  obtain ⟨after, -, hserve⟩ := serve_redeemTicket channel s env id operator (some presented)
  rw [Option.bind_some, h] at hserve
  refine ⟨after, hserve.trans ?_⟩
  rw [settled, ← hidle]

theorem admission_other {k : Ticket} {order : Order} {token : String}
    (hk : s.committed.ticket? id = some k) (ho : s.committed.orders.get? k.orderId = some order)
    (hother :
      Redemption.authenticate secret k token = .error (.tokenMismatch (.field "ticketId"))) :
    ∃ e, s.committed.admission secret id (some token) = .error e ∧
      (order.status.isPurchased = true → k.isRedeemed = false →
        e = .tokenMismatch (.field "ticketId")) := by
  rcases ha : s.committed.admission secret id (some token) with e | ⟨k', order'⟩
  · refine ⟨e, rfl, fun hpurchased hunredeemed => ?_⟩
    simp only [Tables.admission, hk, ho, hunredeemed, hpurchased,
      Redemption.authenticateGiven, hother] at ha
    exact (Except.error.inj ha).symm
  · obtain ⟨hk', -, -, -, hauthentic⟩ := Tables.admission_eq_ok_iff.mp ha
    cases hk.symm.trans hk'
    rw [Redemption.authenticateGiven, hother] at hauthentic
    cases hauthentic

/-- Every ticket of a confirmed order has a token that is verified and agrees with it. While the
order is sold and the ticket unredeemed, the token opens it with any blanks around; a token that
opens it is the same up to its hash; and the tokens of other tickets never do. -/
theorem token_opens_own_ticket (h : Reachable channel (Stamped secret) s)
    (hfresh : s.sources.ids.Fresh) {k : Ticket} (hk : k ∈ s.committed.tickets) {order : Order}
    (ho : s.committed.orders.get? k.orderId = some order) (hconfirmed : order.confirmedAt.isSome)
    (env : Environment) (henv : env.secret = secret) (operator : OperatorId) :
    ∃ token, k.qrPayload = some token ∧ k.qrPayloadHash = some (Token.digest token) ∧
      (∃ claims, Token.verify secret token = .ok claims ∧ claims.mismatch? k = none) ∧
      (order.status.isPurchased = true → k.isRedeemed = false →
        ∀ presented, Text.IsPadded token presented → Opens channel env s k.id operator presented) ∧
      (∀ presented, (Text.nonBlank? presented).isSome →
        Opens channel env s k.id operator presented →
          Digest.sha256 (Text.trim presented).toUTF8.toList = Digest.sha256 token.toUTF8.toList) ∧
      ∀ k' ∈ s.committed.tickets, k' ≠ k → ∀ token', k'.qrPayload = some token' →
        ∃ e after,
          serve channel (redeemTicket env k.id operator (some token')) s = (.error e,
            { s with sources := after }) ∧
          (order.status.isPurchased = true → k.isRedeemed = false →
            e = .tokenMismatch (.field "ticketId")) := by
  subst henv
  have hwell := h.wellFormed hfresh
  have ht := h.tokens hfresh ho
  have hmem := Tables.mem_ticketsOf.mpr ⟨hk, rfl⟩
  have hproper := ht.proper k hmem
  have hissued := ht.issued hconfirmed k hmem
  have hdistinct := hwell.consistent.distinct
  have hfound : s.committed.ticket? k.id = some k :=
    (Tables.ticket?_eq_some_iff hdistinct).mpr ⟨hk, rfl⟩
  obtain ⟨token, htoken⟩ : ∃ token, k.qrPayload = some token := by
    obtain ⟨nonce, time, -, hpayload, -⟩ := hissued
    exact ⟨_, hpayload⟩
  refine ⟨token, htoken, hissued.digest htoken, ?_,
    fun hpurchased hunredeemed presented hpadded => ?_, fun presented hpresented hopens => ?_,
    fun k' hk' hne token' htoken' => ?_⟩
  · obtain ⟨nonce, time, hverify⟩ := hissued.verify hproper htoken (.refl token)
    exact ⟨_, hverify, Claims.mismatch?_ofTicket nonce time k⟩
  · refine opens_iff.mpr ⟨k, order, ?_⟩
    rw [hissued.nonBlank? htoken hpadded]
    refine Tables.admission_eq_ok_iff.mpr ⟨hfound, ho, hunredeemed, hpurchased, ?_⟩
    rw [Redemption.authenticateGiven, hissued.authenticate_own hproper htoken]
  · obtain ⟨trimmed, htrimmed⟩ := Option.isSome_iff_exists.mp hpresented
    obtain ⟨k₁, order₁, hadmitted⟩ := opens_iff.mp hopens
    rw [htrimmed] at hadmitted
    obtain ⟨hfound₁, -, -, -, hauthentic⟩ := Tables.admission_eq_ok_iff.mp hadmitted
    cases hfound.symm.trans hfound₁
    rw [Redemption.authenticateGiven] at hauthentic
    rw [← Text.nonBlank?_eq_some htrimmed]
    exact hissued.sha256_of_authenticate htoken hauthentic
  · obtain ⟨hproper', hissued'⟩ := h.issued hfresh hk' htoken'
    have hids : k'.id ≠ k.id := fun e => hne (List.inj_on_of_nodup_map hdistinct hk' hk e)
    have hother := hissued'.authenticate_other hproper' htoken' hids
    obtain ⟨e, hrefused, hwhy⟩ := admission_other hfound ho hother
    rw [← hissued'.nonBlank? htoken' (.refl token')] at hrefused
    obtain ⟨after, hserve⟩ := serve_refused hwell.idle hrefused
    exact ⟨e, after, hserve, hwhy⟩

theorem token_opens_own_ticket_of_two :
    ∃ k k' token token', (Sample.store Sample.untilPaid).committed.ticket?
      (Sample.ticket 0) = some k ∧
      (Sample.store Sample.untilPaid).committed.ticket? (Sample.ticket 1) = some k' ∧
      k.qrPayload = some token ∧ k'.qrPayload = some token' ∧
      Opens .log Sample.environment (Sample.store Sample.untilPaid) k.id Sample.operator
        (" " ++ token ++ "\n") ∧
      (serve .log (redeemTicket Sample.environment k.id Sample.operator (some token'))
        (Sample.store Sample.untilPaid)).1 = .error (.tokenMismatch (.field "ticketId")) := by
  have hopened : Reachable .log (Stamped Sample.environment.secret) (Sample.store []) :=
    .addUser (.addEvent (.start _ _) _ _) _
  have hproduct : Reachable .log (Stamped Sample.environment.secret)
      (Sample.store [Sample.createProduct]) :=
    hopened.call _ _ ⟨rfl, fun _ _ hc => by rcases hc with hc | hc <;> cases hc⟩
  have horder : Reachable .log (Stamped Sample.environment.secret)
      (Sample.store [Sample.createProduct, Sample.createOrder]) :=
    hproduct.call _ _ ⟨rfl, fun _ _ hc => by rcases hc with hc | hc <;> cases hc⟩
  have hpaid : Reachable .log (Stamped Sample.environment.secret) (Sample.store Sample.untilPaid) :=
    horder.call _ _ ⟨rfl, fun _ _ _ => by decide +kernel⟩
  have hfresh := Sample.store_fresh Sample.untilPaid (by decide +kernel)
  have htickets : ∀ n < 2, ((Sample.store Sample.untilPaid).committed.ticket? (Sample.ticket n)).map
      (fun k => (k.orderId, k.isRedeemed)) = some (Sample.order, false) := by decide +kernel
  have hstatus : ((Sample.store Sample.untilPaid).committed.orders.get? Sample.order).map
      (fun order => (order.confirmedAt.isSome, order.status.isPurchased)) = some (true, true) := by
      decide +kernel
  obtain ⟨k, hk, hkey⟩ := Option.map_eq_some_iff.mp (htickets 0 (by decide))
  obtain ⟨k', hk', hkey'⟩ := Option.map_eq_some_iff.mp (htickets 1 (by decide))
  obtain ⟨order, ho, hsold⟩ := Option.map_eq_some_iff.mp hstatus
  obtain ⟨horderId, hunredeemed⟩ := Prod.mk.inj hkey
  obtain ⟨horderId', -⟩ := Prod.mk.inj hkey'
  obtain ⟨hconfirmed, hpurchased⟩ := Prod.mk.inj hsold
  obtain ⟨hmem, hid⟩ := Tables.mem_of_ticket? hk
  obtain ⟨hmem', hid'⟩ := Tables.mem_of_ticket? hk'
  obtain ⟨token', htoken', -⟩ :=
    token_opens_own_ticket hpaid hfresh hmem' (by rw [horderId']; exact ho) hconfirmed
    Sample.environment rfl Sample.operator
  obtain ⟨token, htoken, -, -, hown, -, hother⟩ := token_opens_own_ticket hpaid hfresh hmem
    (by rw [horderId]; exact ho) hconfirmed Sample.environment rfl Sample.operator
  have hne : k' ≠ k := fun e => absurd (hid'.symm.trans ((congrArg (·.id) e).trans hid)) (by decide)
  obtain ⟨e, after, hserve, hwhy⟩ := hother k' hmem' hne token' htoken'
  refine ⟨k, k', token, token', hk, hk', htoken, htoken', ?_, ?_⟩
  · refine hown hpurchased hunredeemed _ ⟨" ", "\n", ?_, ?_, rfl⟩
    · exact List.all_eq_true.mp (by decide)
    · exact List.all_eq_true.mp (by decide)
  · rw [hserve, hwhy hpurchased hunredeemed]

end Memory.State

end EventTickets
