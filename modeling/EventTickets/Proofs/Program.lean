import EventTickets.Program

/-!
# What programs do with their replies

A program is run by somebody who answers its calls. The log of a run is the calls it made with the
replies it got, so a program has one log for each way of answering. Three properties are stated on
the program itself and read off its logs: that it makes some calls only, that it makes some calls
only and then ends in some way, and that it heeds a failure, from which it subsides.
-/

namespace EventTickets

abbrev Signature.Entry (S : Signature) := (c : S.Call) × S.Reply c

namespace Program

variable {S T : Signature} {α β ς τ : Type}

theorem map_id (p : Program S α) : id <$> p = p := by
  induction p with
  | done a => rfl
  | call c next ih => exact congrArg (Program.call c) (funext ih)

theorem assoc {γ : Type} (p : Program S α) (f : α → Program S β) (g : β → Program S γ) :
    p >>= f >>= g = p >>= fun a => f a >>= g := by
  induction p with
  | done a => rfl
  | call c next ih => exact congrArg (Program.call c) (funext ih)

instance : LawfulMonad (Program S) := LawfulMonad.mk' (Program S) map_id (fun _ _ => rfl) assoc

/-- The runs of a program: the entries of its log in order, and its result. -/
inductive Logs : Program S α → List S.Entry → α → Prop
  | done (a : α) : Logs (.done a) [] a
  | call (c : S.Call) {next : S.Reply c → Program S α} (reply : S.Reply c)
      {log : List S.Entry} {a : α}
    (rest : Logs (next reply) log a) : Logs (.call c next) (⟨c, reply⟩ :: log) a

theorem logs_bind {p : Program S α} {f : α → Program S β} {log : List S.Entry} {b : β}
    (h : (p >>= f).Logs log b) :
    ∃ first a rest, p.Logs first a ∧ (f a).Logs rest b ∧ log = first ++ rest := by
  induction p generalizing log with
  | done a => exact ⟨[], a, log, .done a, h, rfl⟩
  | call c next ih =>
    cases h with
    | call _ reply hrest =>
      obtain ⟨first, a, rest, hfirst, hf, rfl⟩ := ih reply hrest
      exact ⟨⟨c, reply⟩ :: first, a, rest, .call c reply hfirst, hf, rfl⟩

theorem logs_map {p : Program S α} {f : α → β} {log : List S.Entry} {b : β}
    (h : (p >>= fun a => pure (f a)).Logs log b) : ∃ a, p.Logs log a ∧ b = f a := by
  obtain ⟨first, a, rest, hfirst, hrest, rfl⟩ := logs_bind h
  cases hrest
  exact ⟨a, by rwa [List.append_nil], rfl⟩

def logging (answer : (c : S.Call) → StateM τ (S.Reply c)) (c : S.Call) :
    StateM (τ × List S.Entry) (S.Reply c) := fun (t, log) =>
  let (reply, t) := answer c t
  (reply, (t, log ++ [⟨c, reply⟩]))

theorem logs_of_run (answer : (c : S.Call) → StateM τ (S.Reply c)) (p : Program S α) (t : τ)
    (before : List S.Entry) :
    ∃ log, ((p.run (logging answer)) (t, before)).2.2 = before ++ log ∧
      p.Logs log ((p.run (logging answer)) (t, before)).1 := by
  induction p generalizing t before with
  | done a => exact ⟨[], (List.append_nil before).symm, .done a⟩
  | call c next ih =>
    obtain ⟨log, hlog, hrest⟩ := ih (answer c t).1 (answer c t).2 (before ++ [⟨c, (answer c t).1⟩])
    refine ⟨⟨c, (answer c t).1⟩ :: log, ?_, .call c _ hrest⟩
    rw [List.append_assoc] at hlog
    exact hlog

theorem run_logging (answer : (c : S.Call) → StateM τ (S.Reply c)) (p : Program S α) (t : τ)
    (before : List S.Entry) :
    ((p.run (logging answer)) (t, before)).1 = (p.run answer t).1 ∧
      ((p.run (logging answer)) (t, before)).2.1 = (p.run answer t).2 := by
  induction p generalizing t before with
  | done a => exact ⟨rfl, rfl⟩
  | call c next ih => exact ih (answer c t).1 (answer c t).2 (before ++ [⟨c, (answer c t).1⟩])

theorem exists_logs (answer : (c : S.Call) → StateM τ (S.Reply c)) (p : Program S α) (t : τ) :
    ∃ log, p.Logs log (p.run answer t).1 := by
  obtain ⟨log, -, hlogs⟩ := logs_of_run answer p t []
  rw [(run_logging answer p t []).1] at hlogs
  exact ⟨log, hlogs⟩

theorem run_eq_of_log_eq {answer : (c : S.Call) → StateM τ (S.Reply c)} {p : Program S α} {t : τ}
    {before : List S.Entry} (h : ((p.run (logging answer)) (t, before)).2.2 = before) :
    ((p.run (logging answer)) (t, before)).2.1 = t := by
  cases p with
  | done a => rfl
  | call c next =>
    obtain ⟨log, hlog, -⟩ := logs_of_run answer (next (answer c t).1) (answer c t).2
      (before ++ [⟨c, (answer c t).1⟩])
    have hlength := congrArg List.length (hlog.symm.trans h)
    simp at hlength

def relay (answer : (c : S.Call) → StateT ς (Program T) (S.Reply c))
    (reply : (c : T.Call) → StateM τ (T.Reply c)) (c : S.Call) :
    StateM (ς × τ) (S.Reply c) := fun (s, t) =>
  let ((r, s), t) := ((answer c).run s).run reply t
  (r, (s, t))

theorem run_relay (answer : (c : S.Call) → StateT ς (Program T) (S.Reply c))
    (reply : (c : T.Call) → StateM τ (T.Reply c)) (p : Program S α) (s : ς) (t : τ) :
    ((p.run answer).run s).run reply t =
      (((p.run (relay answer reply) (s, t)).1, (p.run (relay answer reply) (s, t)).2.1),
        (p.run (relay answer reply) (s, t)).2.2) := by
  induction p generalizing s t with
  | done a => rfl
  | call c next ih =>
    have h := congrFun (run_bind reply ((answer c).run s) fun r =>
      ((next r.1).run answer).run r.2) t
    exact h.trans (ih _ _ _)

/-- Whether every call of a program is one of some calls, whatever the answers. -/
def Only (calls : S.Call → Prop) : Program S α → Prop
  | .done _ => True
  | .call c next => calls c ∧ ∀ reply, (next reply).Only calls

def Subsides (quiet : S.Call → Prop) (ends : α → Prop) : Program S α → Prop
  | .done a => ends a
  | .call c next => quiet c ∧ ∀ reply, (next reply).Subsides quiet ends

/-- Whether a program subsides from every reply that is a failure, with an end that the failure
has. -/
def Heeds (failed : S.Entry → Prop) (quiet : S.Call → Prop) (ends : S.Entry → α → Prop) :
    Program S α → Prop
  | .done _ => True
  | .call c next => ∀ reply,
    (failed ⟨c, reply⟩ → (next reply).Subsides quiet (ends ⟨c, reply⟩)) ∧
    (next reply).Heeds failed quiet ends

section Logs

variable {p : Program S α} {log : List S.Entry} {a : α} {calls quiet : S.Call → Prop}

theorem Only.logs (hp : p.Only calls) (h : p.Logs log a) : ∀ x ∈ log, calls x.1 := by
  induction h with
  | done a => simp
  | call c reply _ ih =>
    intro x hx
    rcases List.mem_cons.mp hx with rfl | hx
    · exact hp.1
    · exact ih (hp.2 reply) x hx

theorem Subsides.logs {ends : α → Prop} (hp : p.Subsides quiet ends) (h : p.Logs log a) :
    ends a ∧ ∀ x ∈ log, quiet x.1 := by
  induction h with
  | done a => exact ⟨hp, by simp⟩
  | call c reply _ ih =>
    obtain ⟨ha, hrest⟩ := ih (hp.2 reply)
    refine ⟨ha, fun x hx => ?_⟩
    rcases List.mem_cons.mp hx with rfl | hx
    · exact hp.1
    · exact hrest x hx

theorem Heeds.logs {failed : S.Entry → Prop} {ends : S.Entry → α → Prop}
    (hp : p.Heeds failed quiet ends) (h : p.Logs log a) {before after : List S.Entry} {x : S.Entry}
    (hlog : log = before ++ x :: after) (hx : failed x) : ends x a ∧ ∀ y ∈ after, quiet y.1 := by
  induction h generalizing before with
  | done a => simp at hlog
  | call c reply hrest ih =>
    obtain ⟨hfail, hnext⟩ := hp reply
    cases before with
    | nil =>
      obtain ⟨rfl, rfl⟩ := List.cons.inj hlog
      exact (hfail hx).logs hrest
    | cons y before => exact ih hnext (List.cons.inj hlog).2

end Logs

section Sequencing

variable {p : Program S α} {f : α → Program S β} {calls quiet : S.Call → Prop}
  {failed : S.Entry → Prop}

theorem only_bind (hp : p.Only calls) (hf : ∀ a, (f a).Only calls) : (p >>= f).Only calls := by
  induction p with
  | done a => exact hf a
  | call c next ih => exact ⟨hp.1, fun reply => ih reply (hp.2 reply)⟩

theorem Only.mono {calls' : S.Call → Prop} (hp : p.Only calls) (h : ∀ c, calls c → calls' c) :
    p.Only calls' := by
  induction p with
  | done a => trivial
  | call c next ih => exact ⟨h c hp.1, fun reply => ih reply (hp.2 reply)⟩

theorem subsides_bind {ends : α → Prop} {ends' : β → Prop} (hp : p.Subsides quiet ends)
    (hf : ∀ a, ends a → (f a).Subsides quiet ends') : (p >>= f).Subsides quiet ends' := by
  induction p with
  | done a => exact hf a hp
  | call c next ih => exact ⟨hp.1, fun reply => ih reply (hp.2 reply)⟩

theorem Subsides.mono {ends ends' : α → Prop} (hp : p.Subsides quiet ends)
    (h : ∀ a, ends a → ends' a) : p.Subsides quiet ends' := by
  induction p with
  | done a => exact h a hp
  | call c next ih => exact ⟨hp.1, fun reply => ih reply (hp.2 reply)⟩

theorem Only.subsides (hp : p.Only quiet) : p.Subsides quiet fun _ => True := by
  induction p with
  | done a => trivial
  | call c next ih => exact ⟨hp.1, fun reply => ih reply (hp.2 reply)⟩

theorem heeds_bind {ends : S.Entry → α → Prop} {ends' : S.Entry → β → Prop}
    (hp : p.Heeds failed quiet ends) (hends : ∀ x a, ends x a → (f a).Subsides quiet (ends' x))
    (hf : ∀ a, (f a).Heeds failed quiet ends') : (p >>= f).Heeds failed quiet ends' := by
  induction p with
  | done a => exact hf a
  | call c next ih =>
    intro reply
    obtain ⟨hfail, hnext⟩ := hp reply
    exact ⟨fun h => subsides_bind (hfail h) (hends _), ih reply hnext⟩

theorem Heeds.mono {ends ends' : S.Entry → α → Prop} (hp : p.Heeds failed quiet ends)
    (h : ∀ x a, ends x a → ends' x a) : p.Heeds failed quiet ends' := by
  induction p with
  | done a => trivial
  | call c next ih => exact fun reply =>
    ⟨fun hx => ((hp reply).1 hx).mono (h _), ih reply (hp reply).2⟩

end Sequencing

-- A program whose calls are answered by programs heeds failures of theirs if both heed their own,
-- and if a call that meets a failure is answered with one.
section Answering

variable {answer : (c : S.Call) → StateT ς (Program T) (S.Reply c)} {p : Program S α}
  {calls quiet : S.Call → Prop} {calls' quiet' : T.Call → Prop}

theorem only_run (hp : p.Only calls) (hanswer : ∀ c, calls c → ∀ s, ((answer c).run s).Only calls')
    (s : ς) : ((p.run answer).run s).Only calls' := by
  induction p generalizing s with
  | done a => trivial
  | call c next ih => exact only_bind (hanswer c hp.1 s) fun r => ih r.1 (hp.2 r.1) r.2

theorem subsides_run {ends : α → Prop} (hp : p.Subsides quiet ends)
    (hanswer : ∀ c, quiet c → ∀ s, ((answer c).run s).Only quiet') (s : ς) :
    ((p.run answer).run s).Subsides quiet' fun r => ends r.1 := by
  induction p generalizing s with
  | done a => exact hp
  | call c next ih =>
    exact subsides_bind (hanswer c hp.1 s).subsides fun r _ => ih r.1 (hp.2 r.1) r.2

theorem heeds_run {failed : S.Entry → Prop} {failed' : T.Entry → Prop} {ends : S.Entry → α → Prop}
    {ends' : T.Entry → α → Prop} (causes : T.Entry → S.Entry → Prop) (hcalls : p.Only calls)
    (hp : p.Heeds failed quiet ends)
    (hanswer : ∀ c, calls c → ∀ s, ((answer c).run s).Heeds failed' quiet' fun y r =>
      failed ⟨c, r.1⟩ ∧ causes y ⟨c, r.1⟩)
    (hquiet : ∀ c, quiet c → ∀ s, ((answer c).run s).Only quiet')
    (hends : ∀ y x a, causes y x → ends x a → ends' y a) (s : ς) :
    ((p.run answer).run s).Heeds failed' quiet' fun y r => ends' y r.1 := by
  induction p generalizing s with
  | done a => trivial
  | call c next ih =>
    refine heeds_bind (hanswer c hcalls.1 s) ?_ fun r => ih r.1 (hcalls.2 r.1) (hp r.1).2 r.2
    intro y r hr
    have hnext : (next r.1).Subsides quiet (ends' y) :=
      ((hp r.1).1 hr.1).mono fun a => hends y _ a hr.2
    exact subsides_run hnext hquiet r.2

end Answering

section Leading

variable {γ : Type} {step step' : (c : S.Call) → γ → S.Reply c → γ → Prop}

/-- Whether a program ends as it should, from some state of what goes along with its calls. -/
def Leads (step : (c : S.Call) → γ → S.Reply c → γ → Prop) (ends : α → γ → Prop) :
    Program S α → γ → Prop
  | .done a, g => ends a g
  | .call c next, g => ∀ reply g', step c g reply g' → (next reply).Leads step ends g'

variable {p : Program S α} {ends : α → γ → Prop} {g : γ}

theorem leads_bind {f : α → Program S β} {ends' : β → γ → Prop} (hp : p.Leads step ends g)
    (hf : ∀ a g, ends a g → (f a).Leads step ends' g) : (p >>= f).Leads step ends' g := by
  induction p generalizing g with
  | done a => exact hf a g hp
  | call c next ih => exact fun reply g' h => ih reply (hp reply g' h)

theorem Leads.mono {ends' : α → γ → Prop} (hp : p.Leads step ends g)
    (h : ∀ a g, ends a g → ends' a g) : p.Leads step ends' g := by
  induction p generalizing g with
  | done a => exact h a g hp
  | call c next ih => exact fun reply g' hstep => ih reply (hp reply g' hstep)

theorem Leads.run (answer : (c : S.Call) → StateM τ (S.Reply c)) (view : τ → γ)
    (hanswer : ∀ c t, step c (view t) (answer c t).1 (view (answer c t).2)) (t : τ)
    (hp : p.Leads step ends (view t)) : ends (p.run answer t).1 (view (p.run answer t).2) := by
  induction p generalizing t with
  | done a => exact hp
  | call c next ih => exact ih (answer c t).1 (answer c t).2 (hp _ _ (hanswer c t))

/-- How calls that are answered by programs go along with a log that is kept of these. -/
def Recorded (answer : (c : S.Call) → StateT ς (Program T) (S.Reply c))
    (fair : T.Entry → Prop) (c : S.Call) (before : List T.Entry) (reply : S.Reply c)
    (after : List T.Entry) : Prop :=
  ∃ s s' log, ((answer c).run s).Logs log (reply, s') ∧ (∀ x ∈ log, fair x) ∧ after = before ++ log

theorem Leads.logs {answer : (c : S.Call) → StateT ς (Program T) (S.Reply c)}
    {fair : T.Entry → Prop} {ends : α → List T.Entry → Prop}
    {before log : List T.Entry} {a : α} {s s' : ς} (hp : p.Leads (Recorded answer fair) ends before)
    (h : ((p.run answer).run s).Logs log (a, s')) (hfair : ∀ x ∈ log, fair x) :
    ends a (before ++ log) := by
  induction p generalizing before log s with
  | done b =>
    cases h
    rwa [List.append_nil]
  | call c next ih =>
    obtain ⟨first, ⟨reply, s₁⟩, rest, hfirst, hrest, rfl⟩ := logs_bind h
    have hnext := hp reply (before ++ first)
      ⟨s, s₁, first, hfirst, fun x hx => hfair x (List.mem_append_left rest hx), rfl⟩
    rw [← List.append_assoc]
    exact ih reply hnext hrest fun x hx => hfair x (List.mem_append_right first hx)

end Leading

end Program

end EventTickets
