import EventTickets.Proofs.Runs
import EventTickets.Proofs.Service.Details

/-!
# Delivery has no say

A confirmation asks nothing of the channel, so it goes the same way over every channel. The channel
is asked once, right behind the commit, and whatever it does stays with it.
-/

namespace EventTickets

namespace Request

def Delivers : Request → Prop
  | .deliver _ _ => True
  | _ => False

theorem IsInner.not_delivers {r : Request} (h : r.IsInner) : ¬ r.Delivers := by
  cases r with
  | deliver recipient detail => exact h.elim
  | _ => exact not_false

end Request

namespace Service

variable {α β : Type}

abbrev Logs (p : Service α) : List Request.signature.Entry → Except TicketingError α → Prop :=
  Program.Logs (S := Request.signature) p.run

/-- Whether a service asks nothing of the channel. -/
def Undelivering (p : Service α) : Prop :=
  Program.Only (S := Request.signature) (fun r => ¬ r.Delivers) p.run

theorem Inner.undelivering {p : Service α} (h : Inner p) : Undelivering p :=
  Program.Only.mono (S := Request.signature) h fun _ => Request.IsInner.not_delivers

theorem undelivering_bind {p : Service α} {f : α → Service β} (hp : Undelivering p)
    (hf : ∀ a, Undelivering (f a)) : Undelivering (p >>= f) :=
  Program.only_bind (S := Request.signature) hp fun outcome => by
    cases outcome with
    | ok a => exact hf a
    | error e => exact trivial

theorem undelivering_ask {r : Request} (h : ¬ r.Delivers) : Undelivering (ask r) :=
  ⟨h, fun _ => trivial⟩

theorem undelivering_store (c : StoreCall) : Undelivering (store c) := by
  refine undelivering_bind (undelivering_ask not_false) fun reply => ?_
  cases reply <;> exact trivial

theorem undelivering_settle (outcome : Except TicketingError α) :
    Undelivering (settle outcome) := by
  cases outcome with
  | ok a => exact undelivering_bind (undelivering_store .commit) fun _ => trivial
  | error e => exact undelivering_bind (undelivering_ask not_false) fun _ => trivial

theorem undelivering_transaction {body : Service α} (h : Inner body) :
    Undelivering (transaction body) := by
  refine undelivering_bind (undelivering_store .begin) fun _ => ?_
  refine undelivering_bind ?_ undelivering_settle
  exact Program.only_bind (S := Request.signature) h.undelivering fun _ => trivial

theorem logs_bind_ok {p : Service α} {f : α → Service β}
    {log : List Request.signature.Entry} {b : β} (h : (p >>= f).Logs log (.ok b)) :
    ∃ first a rest, p.Logs first (.ok a) ∧ (f a).Logs rest (.ok b) ∧ log = first ++ rest := by
  obtain ⟨first, outcome, rest, hfirst, hrest, rfl⟩ := Program.logs_bind (S := Request.signature) h
  cases outcome with
  | ok a => exact ⟨first, a, rest, hfirst, hrest, rfl⟩
  | error e => cases hrest

theorem logs_transaction_ok {body : Service α} {log : List Request.signature.Entry} {a : α}
    (h : (transaction body).Logs log (.ok a)) :
    ∃ before, log = before ++ [⟨.store .commit, .ok ()⟩] := by
  obtain ⟨opening, _, rest, -, hrest, rfl⟩ := logs_bind_ok h
  obtain ⟨data, outcome, ending, -, hending, rfl⟩ := logs_bind_ok hrest
  refine ⟨opening ++ data, ?_⟩
  rw [← List.append_assoc]
  congr 1
  cases outcome with
  | error e =>
    cases hending with
    | call _ reply hthrow => cases hthrow
  | ok b =>
    obtain ⟨_, _, _, hcommit, hreturn, rfl⟩ := logs_bind_ok hending
    cases hreturn
    cases hcommit with
    | call _ reply hreply =>
      cases reply with
      | ok _ =>
        cases hreply
        rfl
      | error e => cases hreply

end Service

structure Delivery (σ : Type) where
  outcome : DeliveryOutcome
  inner : σ
  asked : List Request.signature.Entry

def DeliveryOutcome.ofReply : Except String Unit → DeliveryOutcome
  | .ok () => .delivered
  | .error reason => .failed reason

def ConfirmedOrder.delivery {σ : Type} (confirmed : ConfirmedOrder) (channel : Channel σ)
    (inner : σ) : Delivery σ :=
  match confirmed.purchaser with
  | none => ⟨.noRecipient, inner, []⟩
  | some purchaser =>
    let (reply, inner) := channel purchaser confirmed.detail inner
    ⟨.ofReply reply, inner, [⟨.deliver purchaser confirmed.detail, reply⟩]⟩

namespace Memory.State

variable {σ τ α β : Type}

def beside (s : State σ) (inner : τ) : State τ := ⟨s.sources, s.committed, s.transaction, inner⟩

section

variable (channel : Channel σ) (other : Channel τ)

theorem answer_beside {r : Request} (h : ¬ r.Delivers) (s : State σ) (inner : τ) :
    answer other r (s.beside inner) =
      ((answer channel r s).1, (answer channel r s).2.beside inner) := by
  cases r with
  | deliver recipient detail => exact (h trivial).elim
  | store c =>
    cases c with
    | within c => rcases s with ⟨sources, committed, _ | tx, own⟩ <;> rfl
    | commit => rcases s with ⟨sources, committed, _ | tx, own⟩ <;> rfl
    | createPromoCode draft =>
      simp only [answer, answerStore, createPromoCode_eq, beside]
      split <;> rfl
    | _ => rfl
  | _ => rfl

theorem serve_beside {p : Service α} (h : p.Undelivering) (s : State σ) (inner : τ) :
    serve other p (s.beside inner) =
      ((serve channel p s).1, (serve channel p s).2.beside inner) := by
  have hrun : ∀ (p : Program Request.signature (Except TicketingError α)) (s : State σ),
      Program.Only (S := Request.signature) (fun r => ¬ r.Delivers) p →
      Program.run (S := Request.signature) (m := StateM (State τ))
          (answer other) p (s.beside inner) =
        ((Program.run (S := Request.signature) (m := StateM (State σ)) (answer channel) p s).1,
          (Program.run (S := Request.signature) (m := StateM (State σ)) (answer channel) p
            s).2.beside inner) := by
    intro p
    induction p with
    | done a => exact fun s _ => rfl
    | call r next ih =>
      intro s hp
      have hanswer := answer_beside channel other hp.1 s inner
      have hnext := ih (answer channel r s).1 (answer channel r s).2 (hp.2 _)
      simp only [Program.run, bind, StateT.bind, hanswer]
      exact hnext
  exact hrun p.run s h

def serveLogging (p : Service α) (kept : State σ × List Request.signature.Entry) :
    Except TicketingError α × State σ × List Request.signature.Entry :=
  Program.run (S := Request.signature) (Program.logging (S := Request.signature) (answer channel))
    p.run kept

theorem serveLogging_eq (p : Service α) (s : State σ) :
    ∃ log, serveLogging channel p (s, []) = ((serve channel p s).1, (serve channel p s).2, log) ∧
      p.Logs log (serve channel p s).1 := by
  obtain ⟨log, hlog, hlogs⟩ := Program.logs_of_run (S := Request.signature)
    (answer channel) p.run s []
  obtain ⟨hresult, hstate⟩ := Program.run_logging (S := Request.signature)
    (answer channel) p.run s []
  rw [hresult] at hlogs
  exact ⟨log, Prod.ext hresult (Prod.ext hstate hlog), hlogs⟩

theorem serveLogging_bind (p : Service α) (f : α → Service β)
    (kept : State σ × List Request.signature.Entry) : serveLogging channel (p >>= f) kept =
      match serveLogging channel p kept with
      | (.ok a, kept) => serveLogging channel (f a) kept
      | (.error e, kept) => (.error e, kept) := by
  refine (congrFun (Service.run_bind (Program.logging (S := Request.signature) (answer channel)) p
    f) kept).trans ?_
  rw [serveLogging]
  simp only [bind, StateT.bind]
  rcases Program.run (S := Request.signature)
    (Program.logging (S := Request.signature) (answer channel)) p.run kept
    with ⟨_ | _, kept⟩ <;> rfl

theorem serveLogging_ask (r : Request) (s : State σ) (log : List Request.signature.Entry) :
    serveLogging channel (Service.ask r) (s, log) =
      (.ok (answer channel r s).1, (answer channel r s).2, log ++ [⟨r, (answer channel r s).1⟩]) :=
    rfl

theorem serveLogging_deliverOrder (confirmed : ConfirmedOrder) (s : State σ)
    (log : List Request.signature.Entry) : serveLogging channel (deliverOrder confirmed) (s, log) =
      (.ok (confirmed.delivery channel s.channel).outcome,
        s.beside (confirmed.delivery channel s.channel).inner,
          log ++ (confirmed.delivery channel s.channel).asked) := by
  rw [deliverOrder, ConfirmedOrder.delivery]
  rcases confirmed.purchaser with _ | purchaser
  · exact Prod.ext rfl (Prod.ext rfl (List.append_nil log).symm)
  · rcases hreply : channel purchaser confirmed.detail s.channel with ⟨reply, inner⟩
    have hanswer : answer channel (.deliver purchaser confirmed.detail) s =
        (reply, s.beside inner) := by
      simp only [answer, hreply]
      rfl
    rw [serveLogging_bind, serveLogging_ask, hanswer]
    cases reply <;> simp only [hreply] <;> rfl

end

/-- How a confirmation with delivery goes over a channel, where the confirmation alone ends so: if
it is refused, nothing is asked of the channel, and otherwise the confirmed order is handed over
right behind the commit. -/
def HandsOver (outcome : Except TicketingError ConfirmedOrder) (after : State σ)
    (channel : Channel τ) (inner : τ)
    (served : Except TicketingError DeliveredOrder × State τ × List Request.signature.Entry) :
    Prop :=
  ∃ log, (∀ x ∈ log, ¬ Request.Delivers x.1) ∧ served =
    match outcome with
    | .error e => (.error e, after.beside inner, log)
    | .ok confirmed =>
      (.ok ⟨confirmed, (confirmed.delivery channel inner).outcome⟩,
        after.beside (confirmed.delivery channel inner).inner,
        log ++ ⟨.store .commit, .ok ()⟩ :: (confirmed.delivery channel inner).asked)

theorem undelivering_confirmOrder (env : Environment) (id : OrderId) (operator : OperatorId) :
    (confirmOrder env id operator).Undelivering :=
  Service.undelivering_transaction (Confirmation.careful_confirm env id operator).inner

theorem handsOver (channel : Channel σ) (env : Environment) (id : OrderId)
    (operator : OperatorId) (s : State σ) :
    HandsOver (serve channel (confirmOrder env id operator) s).1
      (serve channel (confirmOrder env id operator) s).2
      channel (serve channel (confirmOrder env id operator) s).2.channel
      (serveLogging channel (confirmAndDeliver env id operator) (s, [])) := by
  obtain ⟨log, hserved, hlogs⟩ := serveLogging_eq channel (confirmOrder env id operator) s
  have hquiet := Program.Only.logs (S := Request.signature)
    (undelivering_confirmOrder env id operator) hlogs
  rw [confirmAndDeliver, serveLogging_bind, hserved]
  rcases hconfirm : serve channel (confirmOrder env id operator) s with ⟨e | confirmed, after⟩ <;>
    rw [hconfirm] at hlogs
  · exact ⟨log, hquiet, rfl⟩
  · obtain ⟨before, rfl⟩ := Service.logs_transaction_ok hlogs
    refine ⟨before, fun x hx => hquiet x (List.mem_append_left _ hx), ?_⟩
    simp only [serveLogging_bind, serveLogging_deliverOrder, List.append_assoc]
    rfl

/-- An order is confirmed alike over every channel, in whatever state: it ends alike and leaves the
same store, whether or not it is delivered, and however that goes. Only a confirmed order with a
known purchaser is delivered, once, right behind the commit and as it is committed. -/
theorem delivery_has_no_say (env : Environment) (id : OrderId)
    (operator : OperatorId) (s : State σ) :
    ∃ (outcome : Except TicketingError ConfirmedOrder) (after : State σ),
      (∀ {τ : Type} (channel : Channel τ) (inner : τ),
        serve channel (confirmOrder env id operator) (s.beside inner) =
          (outcome, after.beside inner) ∧
          HandsOver outcome after channel inner
            (serveLogging channel (confirmAndDeliver env id operator) (s.beside inner, []))) ∧
      ∀ confirmed, outcome = .ok confirmed →
        after.committed.detail? id false = some confirmed.detail ∧
          confirmed.purchaser = after.committed.users.get? confirmed.detail.order.userId := by
  refine ⟨(serve .log (confirmOrder env id operator) s).1,
    (serve .log (confirmOrder env id operator) s).2, fun channel inner => ?_,
    fun confirmed hconfirmed => ?_⟩
  · have hconfirm := serve_beside .log channel (undelivering_confirmOrder env id operator) s inner
    have hdeliver := handsOver channel env id operator (s.beside inner)
    rw [hconfirm] at hdeliver
    exact ⟨hconfirm, hdeliver⟩
  · exact confirmOrder_eq_ok (Prod.ext hconfirmed rfl)

theorem delivery_has_no_say_refused :
    ∃ confirmed after log log',
      serveLogging (.failing "mailbox full")
        (confirmAndDeliver Sample.environment Sample.order Sample.operator)
          (Sample.store [Sample.createProduct, Sample.createOrder], []) =
        (.ok ⟨confirmed, .failed "mailbox full"⟩, after, log) ∧
      serveLogging .record (confirmAndDeliver Sample.environment Sample.order Sample.operator)
          ((Sample.store [Sample.createProduct, Sample.createOrder]).beside [], []) =
        (.ok ⟨confirmed, .delivered⟩,
          after.beside [⟨Sample.buyer.userId, confirmed.detail.order.id,
            confirmed.detail.tickets.length⟩], log') := by
  obtain ⟨outcome, after, hgoes, -⟩ :=
    delivery_has_no_say Sample.environment Sample.order Sample.operator
      (Sample.store [Sample.createProduct, Sample.createOrder])
  obtain ⟨hserve, log, -, hfailing⟩ := hgoes (.failing "mailbox full") ()
  obtain ⟨-, log', -, hrecord⟩ := hgoes .record []
  have hpurchaser :
      ((serve (.failing "mailbox full")
        (confirmOrder Sample.environment Sample.order Sample.operator)
      ((Sample.store [Sample.createProduct, Sample.createOrder]).beside ())).1.toOption.bind
      (·.purchaser)) =
        some Sample.buyer := by
    decide +kernel
  rw [hserve] at hpurchaser
  generalize Sample.store [Sample.createProduct, Sample.createOrder] = s at hfailing hrecord ⊢
  cases outcome with
  | error e => cases hpurchaser
  | ok confirmed =>
    have hpurchaser : confirmed.purchaser = some Sample.buyer := hpurchaser
    simp only [ConfirmedOrder.delivery, hpurchaser] at hfailing hrecord
    exact ⟨confirmed, _, _, _, hfailing, hrecord⟩

end Memory.State

end EventTickets
