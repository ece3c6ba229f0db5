import EventTickets.Proofs.Memory.Serving
import EventTickets.Proofs.Service.Careful

/-!
# Transactions in memory are all or nothing

Whatever the body of a transaction does, it does it to the open transaction. So a transaction leaves
the committed tables alone if its body fails, and puts the tables of its body in their place if it
succeeds.
-/

namespace EventTickets

structure Supply.Next {α : Type} (before : Supply α) (a : α) (after : Supply α) : Prop where
  item : a = before.item before.taken
  drawn : after = ⟨before.item, before.taken + 1⟩

/-- Sources after some drawing: what they give is the same, and no less is taken. -/
structure Sources.Precedes (a b : Sources) : Prop where
  ids : b.ids.item = a.ids.item
  taken : a.ids.taken ≤ b.ids.taken

namespace Sources.Precedes

theorem refl (a : Sources) : a.Precedes a := ⟨rfl, Nat.le_refl _⟩

theorem trans {a b c : Sources} (hab : a.Precedes b) (hbc : b.Precedes c) : a.Precedes c :=
  ⟨hbc.ids.trans hab.ids, Nat.le_trans hab.taken hbc.taken⟩

theorem now (a : Sources) : a.Precedes a.now.2 := ⟨rfl, Nat.le_refl _⟩

theorem newId (a : Sources) : a.Precedes a.newId.2 := ⟨rfl, Nat.le_succ _⟩

theorem newNonce (size : Nat) (a : Sources) : a.Precedes (Sources.newNonce size a).2 :=
  ⟨rfl, Nat.le_refl _⟩

end Sources.Precedes

namespace Memory.State

variable {σ α : Type} (channel : Channel σ)

theorem answer_precedes (r : Request) (s : State σ) :
    s.sources.Precedes (answer channel r s).2.sources := by
  cases r with
  | store c =>
    cases c with
    | within c =>
      simp only [answer, answerStore, State.within]
      split <;> exact .refl _
    | commit =>
      simp only [answer, answerStore, commit]
      split <;> exact .refl _
    | createTicketProduct draft => exact .trans (.now _) (.newId _)
    | createTransferProduct draft => exact .trans (.now _) (.newId _)
    | createPromoCode draft =>
      simp only [answer, answerStore, createPromoCode_eq]
      split
      · exact .now _
      · exact .trans (.now _) (.newId _)
    | updateTicketProduct id patch => exact .now _
    | updateTransferProduct id patch => exact .now _
    | updatePromoCode id patch => exact .now _
    | _ => exact .refl _
  | now => exact .now _
  | newId => exact .newId _
  | newNonce size => exact .newNonce size _
  | deliver recipient detail => exact .refl _

theorem serve_precedes (p : Service α) (s : State σ) :
    s.sources.Precedes (serve channel p s).2.sources := by
  have h : ∀ (p : Program Request.signature (Except TicketingError α)) (s : State σ),
      s.sources.Precedes (Program.run (S := Request.signature) (answer channel) p s).2.sources := by
    intro p
    induction p with
    | done a => exact fun s => .refl _
    | call r next ih => exact fun s => (answer_precedes channel r s).trans (ih _ _)
  exact h p.run s

theorem answer_inner {r : Request} (h : r.IsInner) (s : State σ) (sources : Sources)
    (tx : Transaction) : ∃ sources' tx', sources.Precedes sources' ∧
      (answer channel r (s.opened sources tx)).2 = s.opened sources' tx' := by
  cases r with
  | store c =>
    cases c with
    | within c => exact ⟨sources, (Transaction.answer c tx).2, .refl _, rfl⟩
    | _ => exact h.elim
  | now => exact ⟨sources.now.2, tx, .now _, rfl⟩
  | newId => exact ⟨sources.newId.2, tx, .newId _, rfl⟩
  | newNonce size => exact ⟨(Sources.newNonce size sources).2, tx, .newNonce _ _, rfl⟩
  | deliver recipient detail => exact h.elim

theorem run_inner {p : Program Request.signature α} (h : p.Only Request.IsInner) (s : State σ)
    (sources : Sources) (tx : Transaction) :
    ∃ sources' tx', sources.Precedes sources' ∧
      (Program.run (S := Request.signature) (answer channel) p (s.opened sources tx)).2 =
        s.opened sources' tx' := by
  induction p generalizing sources tx with
  | done a => exact ⟨sources, tx, .refl _, rfl⟩
  | call r next ih =>
    obtain ⟨sources₁, tx₁, h₁, e₁⟩ := answer_inner channel h.1 s sources tx
    obtain ⟨sources₂, tx₂, h₂, e₂⟩ :=
      ih (answer channel r (s.opened sources tx)).1 (h.2 _) sources₁ tx₁
    refine ⟨sources₂, tx₂, h₁.trans h₂, ?_⟩
    rw [← e₁] at e₂
    exact e₂

theorem serve_inner {body : Service α} (h : body.Inner) (s : State σ) (sources : Sources)
    (tx : Transaction) : ∃ sources' tx', sources.Precedes sources' ∧
      (serve channel body (s.opened sources tx)).2 = s.opened sources' tx' :=
  run_inner channel h s sources tx

/-- A store after a call: with these tables, nothing newly open, and sources that were only drawn
from. -/
structure Becomes (s : State σ) (t : Tables) (s' : State σ) : Prop where
  committed : s'.committed = t
  idle : s.transaction = none → s'.transaction = none
  sources : s.sources.Precedes s'.sources

theorem Becomes.refl {s : State σ} : s.Becomes s.committed s := ⟨rfl, fun hidle => hidle, .refl _⟩

theorem settled_becomes {s : State σ} {after : Sources}
    (h : s.sources.Precedes after) (t : Tables) :
    s.Becomes t (s.settled after t) := ⟨rfl, fun _ => rfl, h⟩

def begun (s : State σ) : State σ := s.opened s.sources ⟨s.committed, .empty⟩

theorem serve_transaction {body : Service α} (h : body.Inner) (s : State σ) :
    (∃ e sources, attempt channel body s.begun = .error e ∧ s.sources.Precedes sources ∧
      serve channel (Service.transaction body) s = (.error e, s.settled sources s.committed)) ∨
    (∃ a sources tx, attempt channel body s.begun = .ok (a, s.opened sources tx) ∧
      s.sources.Precedes sources ∧
      serve channel (Service.transaction body) s = (.ok a, s.settled sources tx.tables)) := by
  obtain ⟨sources, tx, hs, hframe⟩ := serve_inner channel h s s.sources ⟨s.committed, .empty⟩
  have hbegin : serve channel (Service.store .begin) s = (.ok (), s.begun) := rfl
  have hbody : serve channel (ExceptT.lift body.run : Service _) s.begun =
      (.ok (serve channel body s.begun).1, (serve channel body s.begun).2) :=
      serve_lift channel body.run s.begun
  rw [Service.transaction, serve_bind, hbegin]
  simp only [serve_bind, hbody]
  rw [attempt]
  rw [← begun] at hframe
  rcases hb : serve channel body s.begun with ⟨_ | a, s'⟩ <;> rw [hb] at hframe <;> cases hframe
  · exact .inl ⟨_, sources, rfl, hs, rfl⟩
  · exact .inr ⟨_, sources, tx, rfl, hs, rfl⟩

theorem serve_transaction_of_error {body : Service α} (h : body.Inner) {s : State σ}
    {e : TicketingError} (hbody : attempt channel body s.begun = .error e) :
    ∃ after, s.sources.Precedes after ∧
      serve channel (Service.transaction body) s = (.error e, s.settled after s.committed) := by
  rcases serve_transaction channel h s with ⟨e', after, he, hafter, hs⟩ | ⟨a, after, tx, ha, -, -⟩
  · rw [hbody] at he
    cases he
    exact ⟨after, hafter, hs⟩
  · rw [hbody] at ha
    cases ha

theorem serve_transaction_of_ok {body : Service α} (h : body.Inner) {s : State σ}
    {a : α} {after : Sources} {tx : Transaction}
    (hbody : attempt channel body s.begun = .ok (a, s.opened after tx)) : s.sources.Precedes after ∧
      serve channel (Service.transaction body) s = (.ok a, s.settled after tx.tables) := by
  rcases serve_transaction channel h s with
    ⟨e', after', he, -, -⟩ | ⟨a', after', tx', ha, hafter, hs⟩
  · rw [hbody] at he
    cases he
  · rw [hbody] at ha
    simp only [Except.ok.injEq, Prod.mk.injEq, opened, mk.injEq, Option.some.injEq,
      true_and, and_true] at ha
    obtain ⟨rfl, rfl, rfl⟩ := ha
    exact ⟨hafter, hs⟩

end Memory.State

end EventTickets
