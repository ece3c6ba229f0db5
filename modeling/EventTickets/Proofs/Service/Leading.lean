import EventTickets.Proofs.Program
import EventTickets.Service.Request

/-!
# Where services lead to

An account follows what goes along with the requests of a service, and says what is to be true of it
when the service fails. What a service leads to then comes from its steps, whatever it is answered:
from one condition on the account to another, by the rules below.
-/

namespace EventTickets

structure Account (γ : Type) where
  step : (r : Request) → γ → r.Reply → γ → Prop
  fails : TicketingError → γ → Prop

namespace Account

variable {γ α : Type} (A : Account γ)

def ends (post : α → γ → Prop) : Except TicketingError α → γ → Prop
  | .ok a, g => post a g
  | .error e, g => A.fails e g

end Account

namespace Service

variable {γ α β : Type} {A : Account γ} {pre pre' : γ → Prop}

/-- Whether a service leads from one condition to another, unless it fails. -/
def Leads (A : Account γ) (pre : γ → Prop) (p : Service α) (post : α → γ → Prop) : Prop :=
  ∀ g, pre g → Program.Leads (S := Request.signature) A.step (A.ends post) p.run g

theorem leads_pure {a : α} {post : α → γ → Prop} (h : ∀ g, pre g → post a g) :
    Leads A pre (pure a) post := h

theorem leads_throw {e : TicketingError} {post : α → γ → Prop} (h : ∀ g, pre g → A.fails e g) :
    Leads A pre (throw e) post := h

theorem leads_bind {p : Service α} {f : α → Service β} {mid : α → γ → Prop} {post : β → γ → Prop}
    (hp : Leads A pre p mid) (hf : ∀ a, Leads A (mid a) (f a) post) :
    Leads A pre (p >>= f) post := by
  intro g hg
  refine Program.leads_bind (S := Request.signature) (hp g hg) fun r g' hends => ?_
  cases r with
  | ok a => exact hf a g' hends
  | error e => exact hends

theorem Leads.mono {p : Service α} {post post' : α → γ → Prop} (h : Leads A pre p post)
    (hpre : ∀ g, pre' g → pre g) (hpost : ∀ a g, post a g → post' a g) : Leads A pre' p post' := by
  intro g hg
  refine (h g (hpre g hg)).mono fun r g' hends => ?_
  cases r with
  | ok a => exact hpost a g' hends
  | error e => exact hends

theorem leads_ask {r : Request} {post : r.Reply → γ → Prop}
    (h : ∀ g reply g', pre g → A.step r g reply g' → post reply g') : Leads A pre (ask r) post :=
  fun g hg reply g' hstep => h g reply g' hg hstep

theorem leads_store {c : StoreCall} {post : c.Reply → γ → Prop}
    (h : ∀ g (reply : Except StoreError c.Reply) g', pre g → A.step (.store c) g reply g' →
      A.ends post (reply.mapError .store) g') : Leads A pre (store c) post := by
  intro g hg reply g' hstep
  have hends := h g reply g' hg hstep
  cases reply with
  | ok a => exact hends
  | error e => exact hends

theorem leads_demand {e : TicketingError} {a : Option α} (h : ∀ g, pre g → A.fails e g) :
    Leads A pre (demand e a) fun b g => a = some b ∧ pre g := by
  cases a with
  | none => exact leads_throw h
  | some a => exact leads_pure fun g hg => ⟨rfl, hg⟩

theorem leads_require {e : TicketingError} {b : Bool} (h : ∀ g, pre g → A.fails e g) :
    Leads A pre (require e b) fun _ g => b = true ∧ pre g := by
  cases b with
  | false => exact leads_throw h
  | true => exact leads_pure fun g hg => ⟨rfl, hg⟩

theorem leads_given {P : Prop} {p : Service α} {post : α → γ → Prop} (h : P → Leads A pre p post) :
    Leads A (fun g => P ∧ pre g) p post := fun g hg => h hg.1 g hg.2

theorem leads_liftExcept {x : Except TicketingError α}
    (h : ∀ e g, x = .error e → pre g → A.fails e g) : Leads A pre (liftExcept x) fun _ => pre := by
  cases x with
  | error e => exact leads_throw fun g hg => h e g rfl hg
  | ok a => exact leads_pure fun g hg => hg

theorem leads_transaction {body : Service α} {mid : γ → Prop} {post post' : α → γ → Prop}
    (hbegin : Leads A pre (store .begin) fun _ => mid) (hbody : Leads A mid body post)
    (hcommit : ∀ a, Leads A (post a) (store .commit) fun _ => post' a)
    (hrollback : ∀ e, Leads A (A.fails e) (ask (.store .rollback)) fun _ => A.fails e) :
    Leads A pre (transaction body) post' := by
  have hlift : Leads A mid (ExceptT.lift body.run) (A.ends post) := fun g hg =>
    Program.leads_bind (S := Request.signature) (hbody g hg) fun _ _ hends => hends
  refine leads_bind hbegin fun _ => leads_bind hlift fun outcome => ?_
  cases outcome with
  | ok a => exact leads_bind (hcommit a) fun _ => leads_pure fun g hg => hg
  | error e => exact leads_bind (hrollback e) fun _ => leads_throw fun g hg => hg

end Service

end EventTickets
