import EventTickets.Proofs.AllOrNothing
import EventTickets.Proofs.OrderAcceptance
import EventTickets.Proofs.Service.Locking

/-!
# Locks are taken in order

A lock is refused exactly if a later stage is held, and nothing comes of it. The calls that make a
transaction are never refused a lock, whatever is stored and whatever the database answers.
-/

namespace EventTickets

open Service

namespace UnitOfWork

variable {env : Environment} {u : UnitOfWork}

theorem isBusiness_of_body {e : TicketingError} (h : u.body env = .error e) :
    e.isBusiness = true := by
  cases u with
  | createOrder request =>
    change (Purchase.check env.policy request).map (Purchase.place env.policy) = .error e at h
    rcases Purchase.check_cases env.policy request with ⟨intent, hcheck, -⟩ | ⟨⟨message, hcheck⟩, -⟩
    · rw [hcheck] at h
      cases h
    · rw [hcheck] at h
      cases h
      rfl
  | confirmOrder id operator => cases h
  | cancelOrder id operator reason => cases h
  | redeemTicket id operator token => cases h

theorem upTo_body {p : Service u.call.Reply} (h : u.body env = .ok p) :
    ∃ n, Leads lockAccount (UpTo 0) p fun _ => UpTo n :=
  body_cases (fun p => ∃ n, Leads lockAccount (UpTo 0) p fun _ => UpTo n)
    (fun _ order _ => ⟨1, Purchase.upTo_place env.policy order⟩)
    (fun id operator => ⟨4, Confirmation.upTo_confirm env id operator⟩)
    (fun id operator reason => ⟨3, Cancellation.upTo_cancel id operator reason⟩)
    (fun id operator token => ⟨4, Redemption.upTo_redeem env id operator token⟩) h

theorem leads_service (env : Environment) (u : UnitOfWork) :
    Leads lockAccount (fun g => ∀ x ∈ g.2, ¬ Request.MeetsLate x) (u.call.service env) fun _ g =>
      ∀ x ∈ g.2, ¬ Request.MeetsLate x := by
  rw [service_eq]
  cases hbody : u.body env with
  | error e =>
    refine leads_throw fun g hg => ⟨fun held requested hlate => ?_, hg⟩
    have hbusiness := isBusiness_of_body hbody
    rw [hlate] at hbusiness
    cases hbusiness
  | ok body =>
    obtain ⟨n, hleads⟩ := upTo_body hbody
    change Leads lockAccount _ (Service.transaction body) _
    refine leads_transaction (leads_store fun g reply g' hg hstep => ?_) hleads
      (fun a => leads_store fun g reply g' hg hstep => ?_) fun e =>
      leads_ask fun g reply g' hg hstep => ?_
    · obtain ⟨⟨hreply, hledger⟩, hseen⟩ := hstep
      have hclean : ∀ x ∈ g'.2, ¬ Request.MeetsLate x := by
        rw [hseen]
        exact seen_snoc hg hreply
      refine ends_of_reply hreply hclean fun a _ => ⟨fun stage hstage => ?_, hclean⟩
      rw [hledger] at hstage
      cases hstage
    · obtain ⟨hreply, hseen⟩ := hstep
      have hclean : ∀ x ∈ g'.2, ¬ Request.MeetsLate x := by
        rw [hseen]
        exact seen_snoc hg.seen hreply
      exact ends_of_reply hreply hclean fun a _ => hclean
    · obtain ⟨hreply, hseen⟩ := hstep
      refine ⟨hg.1, ?_⟩
      rw [hseen]
      exact seen_snoc hg.2 hreply

end UnitOfWork

namespace Service

variable {τ : Type} (answer : (r : Request) → StateM τ r.Reply)

/-- Whether a service neither ends with a lock that had to be taken earlier nor meets one on its
way. -/
def NeverLate {α : Type} (p : Service α) (t : τ) : Prop :=
  (∀ held requested,
      (Program.run (S := Request.signature) answer p.run t).1 ≠
      .error (.store (.lockOrder held requested))) ∧
    ∀ x ∈ (Program.run (S := Request.signature) (Program.logging answer) p.run (t, [])).2.2,
    ¬ Request.MeetsLate x

theorem neverLate_service {ledger : τ → LockLedger}
    (hanswer : ∀ (r : Request) t, r.Keeps (ledger t) (answer r t).1 (ledger (answer r t).2))
    (env : Environment) (u : UnitOfWork) (t : τ) : NeverLate answer (u.call.service env) t := by
  have hleads := UnitOfWork.leads_service env u (ledger t, []) (by simp)
  have hends := Program.Leads.run (S := Request.signature) (Program.logging answer)
    (fun s => (ledger s.1, s.2))
    (fun r s => ⟨hanswer r s.1, rfl⟩) (t, []) hleads
  have hsame :=
    (Program.run_logging (S := Request.signature) answer (u.call.service env).run t []).1
  unfold NeverLate
  rw [← hsame]
  generalize (Program.run (S := Request.signature) (Program.logging answer)
    (u.call.service env).run (t, [])) = r
    at hends ⊢
  obtain ⟨outcome, seen⟩ := r
  cases outcome with
  | ok a => exact ⟨by simp, hends⟩
  | error e =>
    exact ⟨fun held requested he => hends.1 held requested (Except.error.inj he), hends.2⟩

end Service

namespace Memory.State

variable {σ : Type}

def ledger (s : State σ) : LockLedger := s.transaction.elim .empty (·.ledger)

theorem keeps_answer (channel : Channel σ) (r : Request) (s : State σ) :
    r.Keeps s.ledger (answer channel r s).1 (answer channel r s).2.ledger := by
  cases r with
  | store c =>
    cases c with
    | begin => exact ⟨Late.not_ok _, rfl⟩
    | within c =>
      rcases s with ⟨sources, committed, _ | t, inner⟩
      · refine ⟨[], ?_, by simp, rfl⟩
        simp only [ledger, Option.elim, LockLedger.empty_admits, not_true, and_false,
          exists_false, iff_false]
        exact Late.not_database _
      · exact ⟨_, (Transaction.serves_answer c t).serves⟩
    | commit =>
      rcases s with ⟨sources, committed, _ | t, inner⟩
      · exact Late.not_ok _
      · exact Late.not_ok _
    | rollback => exact Late.not_ok _
    | _ => trivial
  | _ => rfl

end Memory.State

namespace Sql

variable {σ τ : Type}

namespace Link

theorem connect_not_late (statementTimeout : UInt64) (n : Nat) :
    Program.Subsides (S := signature) (fun _ => True) (fun r => ¬ Late r)
      (connect statementTimeout n).run := by
  induction n with
  | zero => exact Late.not_database _
  | succ n ih =>
    have hgreet : Program.Subsides (S := signature) (fun _ => True) (fun r => ¬ Late r)
        (greet statementTimeout).run := by
      unfold greet
      split
      · refine ⟨trivial, fun answer => ?_⟩
        cases answer
        · exact Late.not_database _
        · exact Late.not_ok _
      · exact Late.not_ok _
    refine Program.subsides_bind (S := signature) hgreet fun r hr => ?_
    cases r with
    | ok a => exact hr
    | error e => exact ih

theorem ensureOpen_not_late (link : Link) :
    Program.Subsides (S := signature) (fun _ => True) (fun r => ¬ Late r.1) (ensureOpen link) := by
  unfold ensureOpen
  split
  · exact Late.not_ok ()
  · refine Program.subsides_bind (S := signature) (connect_not_late _ _) fun r hr => ?_
    cases r <;> exact hr

theorem begin_not_late {link : Link} {log : List Entry} {r : Except StoreError Unit × Link}
    (h : Program.Logs (S := signature) (ask (Asking.execute .begin) link) log r) : ¬ Late r.1 := by
  have hask : Program.Subsides (S := signature) (fun _ => True) (fun r => ¬ Late r.1)
      (ask (Asking.execute .begin) link) := by
    refine Program.subsides_bind (S := signature) (ensureOpen_not_late link) fun r hr => ?_
    rcases r with ⟨e | a, link⟩
    · exact hr
    · refine ⟨trivial, fun answer => ?_⟩
      cases answer with
      | error e => exact Late.not_database _
      | ok o => exact Late.not_ok _
  exact (hask.logs h).1

theorem finish_not_late {s : Statement} {link : Link} {log : List Entry}
    {r : Except StoreError Unit × Link} (h : Program.Logs (S := signature) (finish s link) log r) :
    ¬ Late r.1 := by
  obtain ⟨reply, link'⟩ := r
  rcases logs_finish h with ⟨o, rfl, -⟩ | ⟨e, answer, rfl, -⟩
  · exact Late.not_ok ()
  · exact Late.not_database _

end Link

namespace State

theorem keeps_answer (channel : Channel σ) (r : Request) {s s' : State σ}
    {reply : r.Reply} {log : List Entry}
    (h : Program.Logs (S := signature) (answer channel r s) log (reply, s')) :
    r.Keeps s.ledger reply s'.ledger := by
  cases r with
  | store c =>
    cases c with
    | begin =>
      obtain ⟨⟨reply, link⟩, hlogs, heq⟩ := Program.logs_map (S := signature) h
      cases heq
      exact ⟨Link.begin_not_late hlogs, rfl⟩
    | within c =>
      obtain ⟨⟨reply, l⟩, hlogs, heq⟩ := Program.logs_map (S := signature) h
      cases heq
      exact ⟨_, (Locking.serves_answer c hlogs).serves⟩
    | commit =>
      obtain ⟨⟨reply, link⟩, hlogs, heq⟩ := Program.logs_map (S := signature) h
      cases heq
      exact Link.finish_not_late hlogs
    | rollback =>
      obtain ⟨⟨reply, link⟩, hlogs, heq⟩ := Program.logs_map (S := signature) h
      cases heq
      exact Link.finish_not_late hlogs
    | _ => trivial
  | now =>
    cases h
    rfl
  | newId =>
    cases h
    rfl
  | newNonce size =>
    cases h
    rfl
  | deliver recipient detail =>
    cases h
    rfl

def answerFrom (channel : Channel σ) (database : Statement → StateM τ Answer) (r : Request) :
    StateM (State σ × τ) r.Reply :=
  Program.relay (S := Request.signature) (T := signature) (answer channel) database r

theorem keeps_answerFrom (channel : Channel σ) (database : Statement → StateM τ Answer)
    (r : Request) (s : State σ × τ) :
    r.Keeps s.1.ledger (answerFrom channel database r s).1
      (answerFrom channel database r s).2.1.ledger := by
  obtain ⟨log, hlogs⟩ := Program.exists_logs (S := signature) database (answer channel r s.1) s.2
  exact keeps_answer channel r hlogs

theorem run_serve {α : Type} (channel : Channel σ) (database : Statement → StateM τ Answer)
    (p : Service α) (s : State σ) (t : τ) :
    (Program.run (S := signature) database (serve channel p s) t).1.1 =
      (Program.run (S := Request.signature) (answerFrom channel database) p.run (s, t)).1 := by
  have h := Program.run_relay (S := Request.signature) (T := signature)
    (answer channel) database p.run s t
  exact congrArg (·.1.1) h

end State

end Sql

/-- A call after some stages were locked: these come in order, the last of them is held, and the
call is refused if it takes a stage that comes before it. -/
structure TransactionCall.LocksForward (c : TransactionCall)
    (locked : List LockStage) (l : LockLedger) (reply : Except StoreError c.Reply) : Prop where
  ascending : locked.Pairwise fun a b => a.rank ≤ b.rank
  held : l.held = locked.getLast?
  late_iff : Late reply ↔ ∃ stage ∈ c.stages, ∃ latest, locked.getLast? = some latest ∧
    stage.rank < latest.rank

theorem TransactionCall.Serves.locksForward {c : TransactionCall} {l l' : LockLedger}
    {reply : Except StoreError c.Reply} {before locked : List LockStage}
    (h : c.Serves l reply locked l') (hbefore : before.foldlM LockLedger.acquire .empty = .ok l) :
    c.LocksForward before l reply := by
  obtain ⟨-, hascending, hheld⟩ := LockLedger.foldlM_acquire hbefore
  have hlast : l.held = before.getLast? := by
    rw [hheld]
    cases before.getLast? <;> rfl
  refine ⟨hascending, hlast, ?_⟩
  simp only [h.late_iff, LockLedger.not_admits_iff, hlast]

namespace Memory.Transaction

def sequence : List TransactionCall → Transaction → List LockStage × Transaction
  | [], t => ([], t)
  | c :: rest, t =>
    let (reply, t) := answer c t
    let (locked, t) := sequence rest t
    (stagesOf c reply ++ locked, t)

theorem acquired_sequence (calls : List TransactionCall) (t : Transaction) :
    (sequence calls t).1.foldlM LockLedger.acquire t.ledger = .ok (sequence calls t).2.ledger := by
  induction calls generalizing t with
  | nil => rfl
  | cons c rest ih =>
    change (stagesOf c (answer c t).1 ++ (sequence rest (answer c t).2).1).foldlM
      LockLedger.acquire t.ledger = _
    rw [List.foldlM_append, (serves_answer c t).serves.acquired]
    exact ih (answer c t).2

end Memory.Transaction

namespace Sql.Locking

def sequence : List TransactionCall → StateT LockLedger (Program signature) Unit
  | [] => pure ()
  | c :: rest => do
    let _ ← answer c
    sequence rest

theorem acquired_sequence {calls : List TransactionCall} {l : LockLedger} {log : List Entry}
    {r : Unit × LockLedger} (h : Program.Logs (S := signature) (sequence calls l) log r) :
    (stagesOf log).foldlM LockLedger.acquire l = .ok r.2 := by
  induction calls generalizing l log with
  | nil =>
    cases h
    rfl
  | cons c rest ih =>
    obtain ⟨first, ⟨reply, l₁⟩, second, hfirst, hsecond, rfl⟩ :=
      Program.logs_bind (S := signature) h
    have hacquired := (serves_answer c hfirst).serves.acquired
    rw [stagesOf, List.filterMap_append, List.foldlM_append]
    change (stagesOf first).foldlM LockLedger.acquire l >>= _ = _
    rw [hacquired]
    exact ih hsecond

theorem locksForward_answer {τ : Type} (database : Statement → StateM τ Answer)
    (c : TransactionCall) {l : LockLedger} {log : List Entry}
    (hlog : (stagesOf log).foldlM LockLedger.acquire .empty = .ok l) (stop : τ) :
    let ((reply, l'), (stop', log')) :=
      Program.run (S := signature) (Program.logging database) (answer c l) (stop, log)
    c.LocksForward (stagesOf log) l reply ∧ (Late reply → l' = l ∧ stop' = stop ∧ log' = log) := by
  obtain ⟨made, hmade, hlogs⟩ := Program.logs_of_run (S := signature) database (answer c l) stop log
  have hserves := serves_answer c hlogs
  refine ⟨hserves.serves.locksForward hlog, fun hlate => ?_⟩
  obtain rfl : made = [] := hserves.late hlate
  rw [List.append_nil] at hmade
  exact ⟨(Except.ok.inj hserves.serves.acquired).symm, Program.run_eq_of_log_eq hmade, hmade⟩

end Sql.Locking

/-- After any calls on one transaction, in memory or over a connection, a call is refused for its
lock exactly if one of its stages comes before the last that was locked, and then it changes and
sends nothing; the stages that were locked come in order, and the last of them is held. No order is
placed, confirmed or canceled and no ticket redeemed with a lock that came late, on whatever store
and whatever the database answers. -/
theorem locks_in_order (env : Environment) :
    (∀ (tables : Memory.Tables) (calls : List TransactionCall) (c : TransactionCall),
      let (locked, t) := Memory.Transaction.sequence calls ⟨tables, .empty⟩
      let (reply, t') := Memory.Transaction.answer c t
      c.LocksForward locked t.ledger reply ∧ (Late reply → t' = t)) ∧
    (∀ {τ : Type} (database : Sql.Statement → StateM τ Sql.Answer) (start : τ)
      (calls : List TransactionCall) (c : TransactionCall),
      let (((), l), (stop, log)) := Program.run (S := Sql.signature) (Program.logging database)
        (Sql.Locking.sequence calls .empty) (start, [])
      let ((reply, l'), (stop', log')) :=
        Program.run (S := Sql.signature) (Program.logging database)
          (Sql.Locking.answer c l) (stop, log)
      c.LocksForward (Sql.stagesOf log) l reply ∧
        (Late reply → l' = l ∧ stop' = stop ∧ log' = log)) ∧
    (∀ {σ : Type} (channel : Channel σ) (s : Memory.State σ) (u : UnitOfWork),
      Service.NeverLate (Memory.State.answer channel) (u.call.service env) s) ∧
    ∀ {σ τ : Type} (channel : Channel σ) (database : Sql.Statement → StateM τ Sql.Answer)
      (s : Sql.State σ) (start : τ) (u : UnitOfWork),
      Service.NeverLate (Sql.State.answerFrom channel database) (u.call.service env) (s, start) ∧
        ∀ held requested,
          (Program.run (S := Sql.signature) database
            (Sql.State.serve channel (u.call.service env) s) start).1.1 ≠
            .error (.store (.lockOrder held requested)) := by
  refine ⟨fun tables calls c => ?_, fun database start calls c => ?_, fun channel s u => ?_,
    fun channel database s start u => ?_⟩
  · have hserves := Memory.Transaction.serves_answer c
      (Memory.Transaction.sequence calls ⟨tables, .empty⟩).2
    have hacquired := Memory.Transaction.acquired_sequence calls ⟨tables, .empty⟩
    exact ⟨hserves.serves.locksForward hacquired, hserves.late⟩
  · obtain ⟨log, hlog, hlogs⟩ := Program.logs_of_run (S := Sql.signature) database
      (Sql.Locking.sequence calls .empty) start []
    have hacquired := Sql.Locking.acquired_sequence hlogs
    rw [← List.nil_append log, ← hlog] at hacquired
    exact Sql.Locking.locksForward_answer database c hacquired _
  · exact Service.neverLate_service _ (Memory.State.keeps_answer channel) env u s
  · have hnever := Service.neverLate_service (Sql.State.answerFrom channel database)
      (Sql.State.keeps_answerFrom channel database) env u (s, start)
    refine ⟨hnever, fun held requested => ?_⟩
    rw [Sql.State.run_serve]
    exact hnever.1 held requested

theorem locks_in_order_backward :
    (let (_, t) := Memory.Transaction.sequence [.lockTicket (Sample.ticket 0)] ⟨.empty, .empty⟩
      let (reply, t') := Memory.Transaction.answer (.lockOrder Sample.order) t
      Late reply ∧ t' = t) ∧
    let ((_, l), (stop, log)) :=
      Program.run (S := Sql.signature) (Program.logging Sql.Script.answer)
        (Sql.Locking.sequence [.lockTicket (Sample.ticket 0)] .empty) (Sample.script, [])
    let ((reply, _), (_, log')) :=
      Program.run (S := Sql.signature) (Program.logging Sql.Script.answer)
        (Sql.Locking.answer (.lockOrder Sample.order) l) (stop, log)
    Late reply ∧ log' = log := by
  obtain ⟨hmemory, hdatabase, -⟩ := locks_in_order Sample.environment
  have hlate := Late.lockOrder .ticket .order (α := Option Order)
  refine ⟨⟨hlate, (hmemory .empty [.lockTicket (Sample.ticket 0)] (.lockOrder Sample.order)).2
    hlate⟩, ?_⟩
  have hcall := hdatabase Sql.Script.answer Sample.script [.lockTicket (Sample.ticket 0)]
    (.lockOrder Sample.order)
  exact ⟨hlate, (hcall.2 hlate).2.2⟩

end EventTickets
