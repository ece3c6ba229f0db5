import EventTickets.Proofs.Runs
import EventTickets.Proofs.Sql.Transaction
import EventTickets.Sql.Script

/-!
# Units of work are all or nothing

A call that fails leaves the tables in memory as they were. Over a connection the calls that make a
transaction end it as their body ended, whatever the database answers: from the first failing answer
on nothing is written or committed, the transaction is rolled back, and the failure is the result.
-/

namespace EventTickets

namespace Memory.State

variable {σ : Type} {channel : Channel σ} {s s' : State σ} {e : TicketingError}

theorem committed_of_error {env : Environment} {c : ServiceCall}
    (hs : serve channel (c.service env) s = (.error e, s')) : s'.committed = s.committed := by
  rcases call_ends channel env s c with ⟨e₁, s₁, hserve, hbecomes⟩ | ⟨a, s₁, t₁, hserve, -, -⟩ <;>
    cases hs.symm.trans hserve
  exact hbecomes.committed

end Memory.State

/-- The calls that make one transaction. -/
inductive UnitOfWork where
  | createOrder (request : CreateOrderRequest)
  | confirmOrder (id : OrderId) (operator : OperatorId)
  | cancelOrder (id : OrderId) (operator : OperatorId) (reason : Option String)
  | redeemTicket (id : TicketId) (operator : OperatorId) (token : Option String)

namespace UnitOfWork

def call : UnitOfWork → ServiceCall
  | .createOrder request => .createOrder request
  | .confirmOrder id operator => .confirmOrder id operator
  | .cancelOrder id operator reason => .cancelOrder id operator reason
  | .redeemTicket id operator token => .redeemTicket id operator token

def body (env : Environment) : (u : UnitOfWork) → Except TicketingError (Service u.call.Reply)
  | .createOrder request => (Purchase.check env.policy request).map (Purchase.place env.policy)
  | .confirmOrder id operator => .ok (Confirmation.confirm env id operator)
  | .cancelOrder id operator reason =>
    .ok (Cancellation.cancel id operator (reason.bind Text.nonBlank?))
  | .redeemTicket id operator token =>
    .ok (Redemption.redeem env id operator (token.bind Text.nonBlank?))

variable {env : Environment} {u : UnitOfWork}

theorem service_eq (env : Environment) (u : UnitOfWork) :
    u.call.service env = (liftExcept (u.body env) : Service _) >>= Service.transaction := by
  cases u with
  | createOrder request =>
    change EventTickets.createOrder env request =
      (liftExcept ((Purchase.check env.policy request).map (Purchase.place env.policy)) :
        Service _) >>= _
    rw [EventTickets.createOrder]
    cases Purchase.check env.policy request <;> rfl
  | _ => rfl

theorem body_cases (P : {α : Type} → Service α → Prop)
    (hcreate : ∀ request order, Purchase.check env.policy request = .ok order →
      P (Purchase.place env.policy order))
    (hconfirm : ∀ id operator, P (Confirmation.confirm env id operator))
    (hcancel : ∀ id operator reason, P (Cancellation.cancel id operator reason))
    (hredeem : ∀ id operator token, P (Redemption.redeem env id operator token))
    {p : Service u.call.Reply} (h : u.body env = .ok p) : P p := by
  cases u with
  | createOrder request =>
    have hmap : (Purchase.check env.policy request).map (Purchase.place env.policy) = .ok p := h
    cases hc : Purchase.check env.policy request with
    | error e =>
      rw [hc] at hmap
      cases hmap
    | ok order =>
      rw [hc] at hmap
      cases hmap
      exact hcreate request order hc
  | confirmOrder id operator =>
    cases h
    exact hconfirm id operator
  | cancelOrder id operator reason =>
    cases h
    exact hcancel id operator _
  | redeemTicket id operator token =>
    cases h
    exact hredeem id operator _

theorem careful_body {p : Service u.call.Reply} (h : u.body env = .ok p) : p.Careful :=
  body_cases (fun p => p.Careful) (fun _ order _ => Purchase.careful_place env.policy order)
    (Confirmation.careful_confirm env) Cancellation.careful_cancel (Redemption.careful_redeem env) h

end UnitOfWork

namespace Sql

variable {σ τ α : Type}

/-- How a unit of work goes over a connection: it is refused before it sends anything, or its
transaction is not opened, or its body runs in the transaction and the transaction is settled. -/
inductive Course (channel : Channel σ) (env : Environment) (u : UnitOfWork) (s : State σ) :
    List Entry → Except TicketingError u.call.Reply → Prop
  | refused (e : TicketingError) (h : u.body env = .error e) : Course channel env u s [] (.error e)
  | unopened (body : Service u.call.Reply) (h : u.body env = .ok body)
      (log : List Entry) (e : StoreError)
    (unopened : Opening log (.error e)) : Course channel env u s log (.error (.store e))
  | settled (body : Service u.call.Reply) (h : u.body env = .ok body)
      (opening data ending : List Entry)
    (link : Link) (outcome r : Except TicketingError u.call.Reply) (s' : State σ)
    (opened : Opening opening (.ok ()))
    (ran : Program.Logs (S := signature) (State.serve channel body
      { s with link := link, ledger := .empty }) data
      (outcome, s'))
    (asked : ∀ x ∈ data, x.1.control? = none)
    (settled : Settled outcome ending r) : Course channel env u s (opening ++ data ++ ending) r

theorem course (channel : Channel σ) (env : Environment) (u : UnitOfWork)
    (s s' : State σ) {log : List Entry} {r : Except TicketingError u.call.Reply}
    (h : Program.Logs (S := signature) (State.serve channel (u.call.service env) s) log (r, s')) :
    Course channel env u s log r := by
  rw [UnitOfWork.service_eq, State.serve_bind] at h
  rcases hbody : u.body env with e | body <;> rw [hbody] at h
  · cases h
    exact .refused e hbody
  · rcases State.logs_transaction channel h with ⟨e, hopening, rfl⟩ |
      ⟨opening, data, ending, link, outcome, s₁, rfl, hopening, hran, hsettled⟩
    · exact .unopened body hbody log e hopening
    · have hasked := (State.only_serve channel (UnitOfWork.careful_body hbody) _).logs hran
      exact .settled body hbody opening data ending link outcome r s₁ hopening hran hasked hsettled

theorem split_second {first second before after : List Entry} {x : Entry}
    (h : first ++ second = before ++ x :: after) (hx : x ∉ first) :
    ∃ early, second = early ++ x :: after := by
  rcases List.append_eq_append_iff.mp h with ⟨early, -, hsecond⟩ | ⟨rest, hfirst, hsecond⟩
  · exact ⟨early, hsecond⟩
  · cases rest with
    | nil => exact ⟨[], hsecond.symm⟩
    | cons y rest =>
      obtain ⟨rfl, -⟩ := List.cons.inj hsecond
      exact absurd (by simp [hfirst]) hx

theorem split_first {first second before after : List Entry} {x : Entry}
    (h : first ++ second = before ++ x :: after) (hx : x ∉ second) :
    ∃ late, first = before ++ x :: late ∧ after = late ++ second := by
  rcases List.append_eq_append_iff.mp h with ⟨rest, -, hsecond⟩ | ⟨late, hfirst, hsecond⟩
  · exact absurd (by simp [hsecond]) hx
  · cases late with
    | nil =>
      have hmem : x ∈ second := by
        rw [← List.nil_append second, ← hsecond]
        exact List.mem_cons_self
      exact absurd hmem hx
    | cons y late =>
      obtain ⟨rfl, hafter⟩ := List.cons.inj hsecond
      exact ⟨late, hfirst, hafter⟩

/-- After a failing answer to a data statement nothing is written or committed, the transaction is
rolled back, and the failure is the result. -/
theorem Course.stops {channel : Channel σ} {env : Environment} {u : UnitOfWork}
    {s : State σ} {log : List Entry} {r : Except TicketingError u.call.Reply}
    (h : Course channel env u s log r) {before after : List Entry} {x : Entry}
    (hlog : log = before ++ x :: after) (hdata : x.1.control? = none) (hx : x.Failed) :
    x.Ends r ∧ (∃ y ∈ after, y.1 = .rollback) ∧ ∀ y ∈ after, ¬ y.1.Writes ∧ y.1 ≠ .commit := by
  cases h with
  | refused e hbody => simp at hlog
  | unopened body hbody _ e hopening => exact absurd hdata (hopening.control (by simp [hlog]))
  | settled body hbody opening data ending link outcome _ s' hopening hran _ hsettled =>
    have hcareful := UnitOfWork.careful_body hbody
    rw [List.append_assoc] at hlog
    obtain ⟨early, hrest⟩ := split_second hlog fun hmem => hopening.control hmem hdata
    obtain ⟨late, hmiddle, rfl⟩ := split_first hrest fun hmem => hsettled.control hmem hdata
    obtain ⟨⟨err, rfl, herr⟩, hquiet⟩ := (State.heeds_serve channel hcareful _).logs hran hmiddle hx
    obtain ⟨rfl, ⟨y, hmem, hrollback⟩, hcommit⟩ := hsettled.error err rfl
    refine ⟨⟨err, rfl, herr⟩, ⟨y, List.mem_append_right late hmem, hrollback⟩, fun z hz => ?_⟩
    rcases List.mem_append.mp hz with hz | hz
    · have hselects := hquiet z hz
      refine ⟨hselects.not_writes, fun hcommit => ?_⟩
      rw [hcommit] at hselects
      exact hselects
    · refine ⟨?_, hcommit z hz⟩
      rw [(hsettled.ends z hz).resolve_left (hcommit z hz)]
      exact Statement.rollback_not_writes

end Sql

namespace Sample

def lowerLimit : ServiceCall := .updateTicketProduct product {
  name := none,
  priceCents := none,
  inventoryLimit := .set 1,
  isActive := none }

def untilScarce : List ServiceCall := [createProduct, createOrder, lowerLimit]

def ticketRow : Sql.Row := [
  ("id", .uuid (ticket 0).uuid),
  ("order_id", .uuid order.uuid),
  ("order_status", .text "PAID"),
  ("user_id", .int8 7),
  ("event_id", .int8 1),
  ("ticket_type", .text "SINGLE"),
  ("quantity", .int4 1),
  ("qr_payload", .null),
  ("qr_payload_hash", .null),
  ("qr_issued_at", .null),
  ("redeemed_at", .null),
  ("redeemed_by", .null),
  ("created_at", .timestamp time)]

def script : Sql.Script :=
  .start [.ok ⟨[[("id", .uuid order.uuid)]], 1⟩, .ok ⟨[ticketRow], 1⟩, .ok ⟨[], 0⟩]
    [("ROLLBACK", "connection lost")]

def scan : UnitOfWork := .redeemTicket (ticket 0) operator none

def scanned :
    (Except TicketingError scan.call.Reply × Sql.State Unit) × Sql.Script × List Sql.Entry :=
  Program.run (S := Sql.signature) (Program.logging Sql.Script.answer)
    (Sql.State.serve .log (scan.call.service environment) (.start 0 1 sources ())) (script, [])

end Sample

/-- A call that fails leaves every table in memory as it was. Over a connection, whatever the
database answers, a unit of work succeeds exactly if its body does and the commit is accepted; and
once an answer within its transaction is a failure, nothing more is written or committed, a rollback
is sent, and that failure is the result. -/
theorem all_or_nothing (env : Environment) :
    (∀ {σ : Type} (channel : Channel σ) (s s' : Memory.State σ) (c : ServiceCall)
      (e : TicketingError),
      Memory.State.serve channel (c.service env) s = (.error e, s') → s'.committed = s.committed) ∧
    ∀ {σ τ : Type} (channel : Channel σ) (database : Sql.Statement → StateM τ Sql.Answer)
      (start : τ) (s : Sql.State σ) (u : UnitOfWork) (r : Except TicketingError u.call.Reply)
      (s' : Sql.State σ) (stop : τ) (log : List Sql.Entry),
      Program.run (S := Sql.signature) (Program.logging database)
          (Sql.State.serve channel (u.call.service env) s) (start, []) =
        ((r, s'), (stop, log)) →
      Sql.Course channel env u s log r ∧
        ∀ before x after, log = before ++ x :: after → x.1.control? = none → x.Failed →
          x.Ends r ∧ (∃ y ∈ after, y.1 = .rollback) ∧
          ∀ y ∈ after, ¬ y.1.Writes ∧ y.1 ≠ .commit := by
  refine ⟨fun channel s s' c e hs => Memory.State.committed_of_error hs, ?_⟩
  intro σ τ channel database start s u r s' stop log hrun
  obtain ⟨made, hmade, hlogs⟩ := Program.logs_of_run (S := Sql.signature) database
    (Sql.State.serve channel (u.call.service env) s) start []
  rw [hrun] at hmade hlogs
  obtain rfl : log = made := hmade
  have hcourse := Sql.course channel env u s s' hlogs
  exact ⟨hcourse, fun before x after => hcourse.stops⟩

theorem all_or_nothing_refused :
    (∃ e s',
      Memory.State.serve .log (Sample.confirmOrder.service Sample.environment)
          (Sample.store Sample.untilScarce) =
        (.error e, s') ∧
      s'.committed = (Sample.store Sample.untilScarce).committed) ∧
    Sample.scanned.1.1 = .error (.ticketAlreadyRedeemed (Sample.ticket 0)) ∧
    ∃ y ∈ Sample.scanned.2.2.drop 4, y.1 = .rollback := by
  obtain ⟨hmemory, hdatabase⟩ := all_or_nothing Sample.environment
  have hfails : (Memory.State.serve .log (Sample.confirmOrder.service Sample.environment)
      (Sample.store Sample.untilScarce)).1.toOption.isSome = false := by decide +kernel
  refine ⟨?_, rfl, ?_⟩
  · rcases hserve : Memory.State.serve .log (Sample.confirmOrder.service Sample.environment)
      (Sample.store Sample.untilScarce) with ⟨e | reply, s'⟩
    · exact ⟨e, s', rfl, hmemory .log _ s' Sample.confirmOrder e hserve⟩
    · rw [hserve] at hfails
      cases hfails
  · have hsplit : Sample.scanned.2.2 = Sample.scanned.2.2.take 3 ++
        ⟨.markRedeemed (Sample.ticket 0) Sample.operator Sample.time, .ok ⟨[], 0⟩⟩ ::
        Sample.scanned.2.2.drop 4 := rfl
    rcases hscanned : Sample.scanned with ⟨⟨r, s'⟩, stop, log⟩
    rw [hscanned] at hsplit
    obtain ⟨-, hstops⟩ := hdatabase .log Sql.Script.answer Sample.script
      (.start 0 1 Sample.sources ()) Sample.scan
      r s' stop log hscanned
    have hrefused : Sql.Entry.Failed ⟨.markRedeemed (Sample.ticket 0) Sample.operator Sample.time,
        .ok ⟨[], 0⟩⟩ :=
      .inr ⟨_, rfl, Nat.zero_ne_one⟩
    exact (hstops _ _ _ hsplit rfl hrefused).2.1

end EventTickets
