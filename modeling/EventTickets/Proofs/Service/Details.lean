import EventTickets.Proofs.Service.Cancellation
import EventTickets.Proofs.Service.Purchase

/-!
# What is replied of an order

Placing, confirming and canceling an order end with reading it in the open transaction. So what they
reply is what the committed tables tell of the order.
-/

namespace EventTickets.Memory.State

open Tables

variable {σ α β : Type} (channel : Channel σ)

/-- Whether a service that succeeds leaves a store that agrees with its result, wherever it
starts. -/
def Ensures (P : α → State σ → Prop) (p : Service α) : Prop :=
  ∀ s a s', attempt channel p s = .ok (a, s') → P a s'

def Tells (s : State σ) (id : OrderId) (detail : OrderDetail) : Prop :=
  ∃ tx, s.transaction = some tx ∧ tx.tables.detail? id false = some detail

section

variable {channel} {P : α → State σ → Prop}

theorem ensures_bind {p : Service β} {f : β → Service α} (h : ∀ b, Ensures channel P (f b)) :
    Ensures channel P (p >>= f) := by
  intro s a s' hrun
  obtain ⟨b, s₁, -, hrun⟩ := (attempt_bind_eq_ok_iff channel).mp hrun
  exact h b s₁ a s' hrun

theorem ensures_of_tells (id : OrderId) {e : TicketingError} {f : OrderDetail → α}
    (h : ∀ detail s, Tells s id detail → P (f detail) s) :
    Ensures channel P (Service.within (.orderDetail id false) >>= fun found =>
      Service.demand e found >>= fun detail => pure (f detail)) := by
  intro s a s' hrun
  obtain ⟨found, s₁, hread, hmade⟩ := (attempt_bind_eq_ok_iff channel).mp hrun
  obtain ⟨detail, s₂, hfound, hresult⟩ := (attempt_bind_eq_ok_iff channel).mp hmade
  obtain ⟨hdetail, hsame⟩ := (attempt_demand_eq_ok_iff channel).mp hfound
  cases hresult
  obtain rfl : s' = s₁ := hsame
  rcases s with ⟨sources, committed, _ | tx, inner⟩
  · cases hread
  · cases hread
    exact h detail _ ⟨tx, rfl, hdetail⟩

theorem ensures_tells (id : OrderId) (e : TicketingError) :
    Ensures channel (fun detail s => Tells s id detail)
      (Service.within (.orderDetail id false) >>= fun found => Service.demand e found) := by
  have h : Ensures channel (fun detail s => Tells s id detail) _ :=
    ensures_of_tells (e := e) (f := fun detail => detail) id fun _ _ hs => hs
  simpa only [bind_pure] using h

end

theorem ensures_place (policy : OrderPolicy) (order : Purchase.Intent) :
    Ensures channel (fun detail s => ∃ id, Tells s id detail) (Purchase.place policy order) := by
  refine ensures_bind fun start => ensures_bind fun title => ensures_bind fun _ =>
    ensures_bind fun id => ?_
  refine ensures_bind fun time => ensures_bind fun quote => ensures_bind fun _ =>
    ensures_bind fun discount => ?_
  refine ensures_bind fun _ => ensures_bind fun _ => ensures_bind fun _ => ?_
  exact fun s detail s' hrun => ⟨⟨id⟩, ensures_tells _ _ s detail s' hrun⟩

theorem ensures_confirm (env : Environment) (id : OrderId) (operator : OperatorId) :
    Ensures channel (fun confirmed s => Tells s id confirmed.detail)
      (Confirmation.confirm env id operator) := by
  refine ensures_bind fun now => ensures_bind fun found => ensures_bind fun order =>
    ensures_bind fun _ => ?_
  refine ensures_bind fun items => ensures_bind fun _ => ensures_bind fun applied =>
    ensures_bind fun _ => ?_
  refine ensures_bind fun tickets => ensures_bind fun _ => ensures_bind fun purchaser => ?_
  exact ensures_of_tells id fun _ _ hs => hs

theorem ensures_cancel (id : OrderId) (operator : OperatorId) (reason : Option String) :
    Ensures channel (fun detail s => Tells s id detail)
      (Cancellation.cancel id operator reason) := by
  refine ensures_bind fun found => ensures_bind fun order => ensures_bind fun _ =>
    ensures_bind fun _ => ?_
  refine ensures_bind fun _ => ensures_bind fun now => ensures_bind fun applied =>
    ensures_bind fun _ => ?_
  exact ensures_tells id _

variable {channel} {s s' : State σ}

theorem committed_of_ensures {body : Service α} {R : α → Tables → Prop} (hinner : body.Inner)
    (h : Ensures channel (fun a s => ∃ tx, s.transaction = some tx ∧ R a tx.tables) body) {a : α}
    (hserve : serve channel (Service.transaction body) s = (.ok a, s')) : R a s'.committed := by
  rcases serve_transaction channel hinner s with ⟨e, after, -, -, hs⟩ | ⟨b, after, tx, hbody, -, hs⟩
  · cases hs.symm.trans hserve
  · cases hs.symm.trans hserve
    obtain ⟨tx', htx, hR⟩ := h _ _ _ hbody
    cases htx
    exact hR

theorem createOrder_eq_ok {env : Environment} {request : CreateOrderRequest} {detail : OrderDetail}
    (hserve : serve channel (createOrder env request) s = (.ok detail, s')) :
    ∃ id, s'.committed.detail? id false = some detail := by
  rw [createOrder, serve_bind, serve_liftExcept] at hserve
  rcases hcheck : Purchase.check env.policy request with e | order <;> rw [hcheck] at hserve
  · cases hserve
  · refine committed_of_ensures (R := fun detail t => ∃ id, t.detail? id false = some detail)
      (Purchase.careful_place env.policy order).inner ?_ hserve
    intro s₁ detail s₂ hrun
    obtain ⟨id, tx, htx, hdetail⟩ := ensures_place channel env.policy order s₁ detail s₂ hrun
    exact ⟨tx, htx, id, hdetail⟩

/-- The purchaser of a confirmed order is looked up before the commit, but there all users are the
same. -/
theorem confirmOrder_eq_ok {env : Environment} {id : OrderId} {operator : OperatorId}
    {confirmed : ConfirmedOrder}
    (hserve : serve channel (confirmOrder env id operator) s = (.ok confirmed, s')) :
    s'.committed.detail? id false = some confirmed.detail ∧
      confirmed.purchaser = s'.committed.users.get? confirmed.detail.order.userId := by
  have hinner := (Confirmation.careful_confirm env id operator).inner
  have hdetail := committed_of_ensures
    (R := fun confirmed t => t.detail? id false = some confirmed.detail) hinner
    (ensures_confirm channel env id operator) hserve
  refine ⟨hdetail, ?_⟩
  rcases attempt_confirm channel s s.sources s.committed env id operator with
    ⟨e, -, hbody⟩ | ⟨order, t₁, nonces, after, detail, ho, hr, hbody⟩
  · obtain ⟨after, -, hs⟩ := serve_transaction_of_error channel hinner hbody
    cases hs.symm.trans hserve
  · obtain ⟨-, hs⟩ := serve_transaction_of_ok channel hinner hbody
    cases hs.symm.trans hserve
    obtain ⟨paid, hpaid, rfl⟩ := Option.map_eq_some_iff.mp hdetail
    simp only [settled, orders_confirmed hr, Table.get?_modify, if_true, ho, Option.map_some,
      Option.some.injEq] at hpaid
    have husers : (t₁.confirmed id operator s.sources.now.1 env.secret nonces).users =
        s.committed.users := by
      rw [confirmed_eq, ← (sameButProducts_reservedFor hr).users]
      rfl
    rw [← hpaid]
    exact congrArg (·.get? order.userId) husers.symm

theorem cancelOrder_eq_ok {id : OrderId} {operator : OperatorId} {reason : Option String}
    {detail : OrderDetail}
    (hserve : serve channel (cancelOrder id operator reason) s = (.ok detail, s')) :
    s'.committed.detail? id false = some detail :=
  committed_of_ensures (R := fun detail t => t.detail? id false = some detail)
    (Cancellation.careful_cancel id operator _).inner (ensures_cancel channel id operator _) hserve

end EventTickets.Memory.State
