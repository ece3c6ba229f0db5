import EventTickets.Proofs.Sql.Asking
import EventTickets.Sql.Store

/-!
# Transactions over a connection

The log of a transaction has three parts: what opens it, what its body asks, and what ends it. The
end is a commit if the body succeeded and a rollback if it failed; whatever cannot be ended is
rolled back.
-/

namespace EventTickets.Sql

def Entry.Ends {α : Type} (x : Entry) (outcome : Except TicketingError α) : Prop :=
  ∃ err, outcome = .error err ∧ ∀ e, x.failure? = some e → err = .store e

/-- What is sent to open a transaction, on a new connection or an old one, and whether it is open
then. -/
inductive Opening : List Entry → Except StoreError Unit → Prop
  | unreached (greeting : List Entry) (e : StoreError) (h : ∀ x ∈ greeting, ∃ n,
      x.1 = .setTimeout n) :
    Opening greeting (.error e)
  | refused (greeting : List Entry) (e : ServerError) (h : ∀ x ∈ greeting, ∃ n,
      x.1 = .setTimeout n) :
    Opening (greeting ++ [⟨.begin, .error e⟩]) (.error e.storeError)
  | opened (greeting : List Entry) (o : Outcome) (h : ∀ x ∈ greeting, ∃ n, x.1 = .setTimeout n) :
    Opening (greeting ++ [⟨.begin, .ok o⟩]) (.ok ())

/-- How a transaction ends whose body had an outcome: its log and its result. -/
structure Settled {α : Type} (outcome : Except TicketingError α) (ending : List Entry)
    (r : Except TicketingError α) : Prop where
  ends : ∀ x ∈ ending, x.1 = .commit ∨ x.1 = .rollback
  ok_iff : ∀ a, r = .ok a ↔ outcome = .ok a ∧ ∃ o, ending = [⟨.commit, .ok o⟩]
  error : ∀ e, outcome = .error e → r = .error e ∧ (∃ x ∈ ending, x.1 = .rollback) ∧
    ∀ x ∈ ending, x.1 ≠ .commit

theorem Opening.control {log : List Entry} {reply : Except StoreError Unit}
    (h : Opening log reply) {x : Entry} (hx : x ∈ log) : x.1.control? ≠ none := by
  have hset : ∀ {greeting : List Entry}, (∀ x ∈ greeting, ∃ n, x.1 = .setTimeout n) →
      x ∈ greeting → x.1.control? ≠ none := by
    intro greeting hgreeting hmem
    obtain ⟨n, hn⟩ := hgreeting x hmem
    rw [hn]
    simp [Statement.control?]
  cases h with
  | unreached _ e hgreeting => exact hset hgreeting hx
  | refused greeting e hgreeting =>
    rcases List.mem_append.mp hx with hmem | hmem
    · exact hset hgreeting hmem
    · rw [List.mem_singleton.mp hmem]
      simp [Statement.control?]
  | opened greeting o hgreeting =>
    rcases List.mem_append.mp hx with hmem | hmem
    · exact hset hgreeting hmem
    · rw [List.mem_singleton.mp hmem]
      simp [Statement.control?]

theorem Settled.control {α : Type} {outcome r : Except TicketingError α} {ending : List Entry}
    (h : Settled outcome ending r) {x : Entry} (hx : x ∈ ending) : x.1.control? ≠ none := by
  rcases h.ends x hx with hx | hx <;> rw [hx] <;> simp [Statement.control?]

namespace Link

theorem only_connect (statementTimeout : UInt64) (n : Nat) :
    Program.Only (S := signature) (fun s => ∃ n, s = .setTimeout n)
      (connect statementTimeout n).run := by
  induction n with
  | zero => exact trivial
  | succ n ih =>
    have hgreet : Program.Only (S := signature) (fun s => ∃ n, s = .setTimeout n)
        (greet statementTimeout).run := by
      unfold greet
      split
      · refine ⟨⟨_, rfl⟩, fun answer => ?_⟩
        cases answer <;> exact trivial
      · exact trivial
    refine Program.only_bind (S := signature) hgreet fun r => ?_
    cases r with
    | ok a => exact trivial
    | error e => exact ih

theorem only_ensureOpen (link : Link) :
    Program.Only (S := signature) (fun s => ∃ n, s = .setTimeout n) (ensureOpen link) := by
  unfold ensureOpen
  split
  · exact trivial
  · refine Program.only_bind (S := signature) (only_connect _ _) fun r => ?_
    cases r <;> exact trivial

theorem opening_begin {link link' : Link} {r : Except StoreError Unit} {log : List Entry}
    (h : Program.Logs (S := signature) (ask (Asking.execute .begin) link) log (r, link')) :
    Opening log r := by
  obtain ⟨greeting, ⟨reached, link₁⟩, rest, hgreeting, hrest, rfl⟩ :=
    Program.logs_bind (S := signature) h
  have hset := (only_ensureOpen link).logs hgreeting
  cases reached with
  | error e =>
    cases hrest
    rw [List.append_nil]
    exact .unreached greeting e hset
  | ok a =>
    cases hrest with
    | call _ answer hrest =>
      cases answer with
      | ok o =>
        cases hrest
        exact .opened greeting o hset
      | error e =>
        cases hrest
        exact .refused greeting e hset

theorem logs_finish {s : Statement} {link link' : Link}
    {r : Except StoreError Unit} {log : List Entry}
    (h : Program.Logs (S := signature) (finish s link) log (r, link')) :
    (∃ o, r = .ok () ∧ log = [⟨s, .ok o⟩]) ∨
      ∃ e answer, r = .error e.storeError ∧ log = [⟨s, .error e⟩, ⟨.rollback, answer⟩] := by
  cases h with
  | call _ answer hrest =>
    cases answer with
    | ok o =>
      cases hrest
      exact .inl ⟨o, rfl, rfl⟩
    | error e =>
      cases hrest with
      | call _ answer hrest =>
        cases answer <;> cases hrest <;> exact .inr ⟨e, _, rfl, rfl⟩

end Link

namespace State

variable {σ α β : Type} (channel : Channel σ)

def serve (p : Service α) : Run σ (Except TicketingError α) :=
  Program.run (S := Request.signature) (answer channel) p.run

theorem serve_bind (p : Service α) (f : α → Service β) (s : State σ) :
    serve channel (p >>= f) s = serve channel p s >>= fun r =>
      match r with
      | (.ok a, s') => serve channel (f a) s'
      | (.error e, s') => pure (.error e, s') := by
  refine (congrFun (Service.run_bind (answer channel) p f) s).trans ?_
  refine (StateT.run_bind _ _ s).trans (bind_congr fun r => ?_)
  rcases r with ⟨_ | _, s'⟩ <;> rfl

theorem serve_lift (p : Service α) (s : State σ) :
    serve channel (ExceptT.lift p.run : Service _) s = serve channel p s >>= fun r =>
      pure (.ok r.1, r.2) :=
  congrFun (Program.run_bind (S := Request.signature) (answer channel) p.run fun r =>
    (pure (Except.ok r) : Program Request.signature (Except TicketingError _))) s

-- Requests of a body are answered by data statements, and by selections if they are quiet. An
-- answer that is a failure is reported to the body.
theorem only_answer {r : Request} (h : r.IsInner) (s : State σ) :
    Program.Only (S := signature) (fun stmt => stmt.control? = none) (answer channel r s) := by
  cases r with
  | store c =>
    cases c with
    | within c =>
      refine Program.only_bind (S := signature) ?_ fun _ => trivial
      exact ((Locking.careful_answer c).only s.ledger).mono fun _ h => h.1
    | _ => exact h.elim
  | now => exact trivial
  | newId => exact trivial
  | newNonce size => exact trivial
  | deliver recipient detail => exact h.elim

theorem selects_answer {r : Request} (h : r.IsQuiet) (s : State σ) :
    Program.Only (S := signature) Statement.Selects (answer channel r s) := by
  cases r with
  | store c =>
    cases c with
    | within c =>
      refine Program.only_bind (S := signature) ?_ fun _ => trivial
      exact ((Locking.careful_answer c).only s.ledger).mono fun _ hdata => hdata.2 h
    | _ => exact h.elim
  | _ => exact h.elim

theorem heeds_answer {r : Request} (h : r.IsInner) (s : State σ) :
    Program.Heeds (S := signature) Entry.Failed Statement.Selects
      (fun (x : Entry) reply =>
        Request.Failed ⟨r, reply.1⟩ ∧ ∀ e, x.failure? = some e → r.storeError? reply.1 = some e)
      (answer channel r s) := by
  cases r with
  | store c =>
    cases c with
    | within c =>
      refine Program.heeds_bind (S := signature)
        ((Locking.careful_answer c).heeds s.ledger) ?_ fun _ => trivial
      rintro x ⟨reply, ledger⟩ hreplies
      refine ⟨hreplies.failed, fun e he => ?_⟩
      rw [hreplies.error e he]
      rfl
    | _ => exact h.elim
  | now => exact trivial
  | newId => exact trivial
  | newNonce size => exact trivial
  | deliver recipient detail => exact h.elim

theorem only_serve {body : Service α} (h : body.Careful) (s : State σ) :
    Program.Only (S := signature) (fun stmt => stmt.control? = none) (serve channel body s) :=
  Program.only_run (S := Request.signature) (T := signature) h.inner
    (fun _ => only_answer channel) s

theorem heeds_serve {body : Service α} (h : body.Careful) (s : State σ) :
    Program.Heeds (S := signature) Entry.Failed Statement.Selects (fun (x : Entry) r => x.Ends r.1)
      (serve channel body s) := by
  refine Program.heeds_run (S := Request.signature) (T := signature)
    (fun (x : Entry) y => ∀ e, x.failure? = some e → y.1.storeError? y.2 = some e) h.inner h.heeds
    (fun _ => heeds_answer channel) (fun _ => selects_answer channel) ?_ s
  rintro x y outcome hcauses ⟨err, rfl, herr⟩
  exact ⟨err, rfl, fun e he => herr e (hcauses e he)⟩

theorem logs_store {c : StoreCall} {r : Except TicketingError c.Reply}
    {s s' : State σ} {log : List Entry}
    (h : Program.Logs (S := signature) (serve channel (Service.store c) s) log (r, s')) :
    ∃ reply, Program.Logs (S := signature) (answerStore c s) log (reply, s') ∧
      r = reply.mapError .store := by
  rw [Service.store, serve_bind] at h
  obtain ⟨first, ⟨asked, s₁⟩, rest, hask, hrest, rfl⟩ := Program.logs_bind (S := signature) h
  obtain ⟨⟨reply, s₂⟩, hlog, heq⟩ := Program.logs_map (S := signature) hask
  cases heq
  cases reply with
  | ok a =>
    cases hrest
    exact ⟨.ok a, by rwa [List.append_nil], rfl⟩
  | error e =>
    cases hrest
    exact ⟨.error e, by rwa [List.append_nil], rfl⟩

theorem settled_settle {outcome r : Except TicketingError α} {s s' : State σ} {log : List Entry}
    (h : Program.Logs (S := signature) (serve channel (Service.settle outcome) s) log (r, s')) :
    Settled outcome log r := by
  cases outcome with
  | ok a =>
    rw [Service.settle, serve_bind] at h
    obtain ⟨first, ⟨committed, s₁⟩, rest, hcommit, hrest, rfl⟩ :=
      Program.logs_bind (S := signature) h
    obtain ⟨reply, hlog, rfl⟩ := logs_store channel hcommit
    obtain ⟨⟨reply, link⟩, hfinish, heq⟩ := Program.logs_map (S := signature) hlog
    cases heq
    rcases Link.logs_finish hfinish with ⟨o, rfl, rfl⟩ | ⟨e, answer, rfl, rfl⟩
    · cases hrest
      exact ⟨by simp, by simp, by simp⟩
    · cases hrest
      exact ⟨by simp, by simp, by simp⟩
  | error e =>
    rw [Service.settle, serve_bind] at h
    obtain ⟨first, ⟨rolledBack, s₁⟩, rest, hrollback, hrest, rfl⟩ :=
      Program.logs_bind (S := signature) h
    obtain ⟨⟨reply, s₂⟩, hlog, heq⟩ := Program.logs_map (S := signature) hrollback
    cases heq
    obtain ⟨⟨reply, link⟩, hfinish, heq⟩ := Program.logs_map (S := signature) hlog
    cases heq
    cases hrest
    rcases Link.logs_finish hfinish with ⟨o, rfl, rfl⟩ | ⟨refusal, answer, rfl, rfl⟩
    · exact ⟨by simp, by simp, by simp⟩
    · exact ⟨by simp, by simp, by simp⟩

/-- The log of a transaction: it is not opened, or its body runs and the transaction is ended. -/
theorem logs_transaction {body : Service α} {r : Except TicketingError α}
    {s s' : State σ} {log : List Entry}
    (h : Program.Logs (S := signature) (serve channel (Service.transaction body) s) log (r, s')) :
    (∃ e, Opening log (.error e) ∧ r = .error (.store e)) ∨
      ∃ opening data ending link outcome s₁, log = opening ++ data ++ ending ∧
      Opening opening (.ok ()) ∧
        Program.Logs (S := signature) (serve channel body
          { s with link := link, ledger := .empty }) data
          (outcome, s₁) ∧
        Settled outcome ending r := by
  rw [Service.transaction, serve_bind] at h
  obtain ⟨opening, ⟨begun, s₁⟩, rest, hbegin, hrest, rfl⟩ := Program.logs_bind (S := signature) h
  obtain ⟨reply, hlog, rfl⟩ := logs_store channel hbegin
  obtain ⟨⟨reply, link⟩, hask, heq⟩ := Program.logs_map (S := signature) hlog
  cases heq
  have hopening := Link.opening_begin hask
  cases reply with
  | error e =>
    cases hrest
    rw [List.append_nil]
    exact .inl ⟨e, hopening, rfl⟩
  | ok a =>
    right
    simp only [Except.mapError, serve_bind] at hrest
    obtain ⟨data, ⟨lifted, s₂⟩, ending, hlift, hend, rfl⟩ :=
      Program.logs_bind (S := signature) hrest
    rw [serve_lift] at hlift
    obtain ⟨⟨outcome, s₃⟩, hbody, heq⟩ := Program.logs_map (S := signature) hlift
    cases heq
    exact ⟨opening, data, ending, link, outcome, _, (List.append_assoc ..).symm, hopening, hbody,
      settled_settle channel hend⟩

end State

end EventTickets.Sql
