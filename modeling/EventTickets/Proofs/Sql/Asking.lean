import EventTickets.Proofs.Program
import EventTickets.Proofs.Service.Careful
import EventTickets.Proofs.Sql.Statement
import EventTickets.Sql.Transaction

/-!
# How the calls of a transaction ask the database

A call sends data statements only, and a call that reads sends no others than selections. After an
answer that is a failure it selects at most, and its reply is a failure too: the error that the
answer stands for, or a guarded write that did not apply.
-/

namespace EventTickets.Sql

abbrev Entry := signature.Entry

def Entry.Failed (x : Entry) : Prop := x.1.Failed x.2

def Entry.failure? (x : Entry) : Option StoreError := x.1.failure? x.2

def Entry.Stops {α : Type} (x : Entry) (r : Except StoreError α) : Prop :=
  ∃ e, x.failure? = some e ∧ r = .error e

namespace Asking

variable {α β : Type} {allowed : Statement → Prop}

structure Careful (allowed : Statement → Prop) (asking : Asking α) : Prop where
  only : Program.Only (S := signature) allowed asking.run
  heeds : Program.Heeds (S := signature) Entry.Failed Statement.Selects Entry.Stops asking.run

theorem careful_pure (a : α) : Careful allowed (pure a) := ⟨trivial, trivial⟩

theorem careful_throw (e : StoreError) : Careful allowed (throw e : Asking α) := ⟨trivial, trivial⟩

theorem careful_bind {p : Asking α} {f : α → Asking β} (hp : Careful allowed p)
    (hf : ∀ a, Careful allowed (f a)) : Careful allowed (p >>= f) := by
  constructor
  · refine Program.only_bind (S := signature) hp.only fun r => ?_
    cases r with
    | ok a => exact (hf a).only
    | error e => exact trivial
  · refine Program.heeds_bind (S := signature) hp.heeds ?_ fun r => ?_
    · rintro x _ ⟨e, he, rfl⟩
      exact ⟨e, he, rfl⟩
    · cases r with
      | ok a => exact (hf a).heeds
      | error e => exact trivial

theorem careful_liftExcept (allowed : Statement → Prop) (x : Except StoreError α) :
    Careful allowed (liftExcept x : Asking α) := by
  cases x with
  | error e => exact careful_throw e
  | ok a => exact careful_pure a

theorem careful_send {s : Statement} (hs : allowed s) {read : Outcome → Reading α}
    (hread : ∀ o, s.unfit? o = (read o).failure?) (hfree : ∀ o, ¬ s.Refuses o) :
    Careful allowed (send s >>= fun o => liftExcept (read o)) := by
  constructor
  · refine ⟨hs, fun answer => ?_⟩
    cases answer with
    | error e => exact trivial
    | ok o => exact (careful_liftExcept allowed (read o)).only
  · intro answer
    cases answer with
    | error e => exact ⟨fun _ => ⟨_, rfl, rfl⟩, trivial⟩
    | ok o =>
      refine ⟨fun hfailed => ?_, (careful_liftExcept allowed (read o)).heeds⟩
      have hsome : (s.unfit? o).isSome := by
        rcases hfailed with hsome | ⟨_, ⟨⟩, hrefuses⟩
        · exact hsome
        · exact (hfree _ hrefuses).elim
      rcases hr : read o with e | a
      · have hstops : s.unfit? o = some e := by rw [hread, hr]; rfl
        have hrun : Program.Subsides (S := signature) Statement.Selects (Entry.Stops ⟨s, .ok o⟩)
            (liftExcept (read o) : Asking α).run := by
          rw [hr]
          exact ⟨e, hstops, rfl⟩
        exact hrun
      · rw [hread, hr] at hsome
        simp [Reading.failure?] at hsome

theorem row?_eq (s : Statement) (read : Row → Reading α) :
    row? s read = send s >>= fun o => liftExcept (o.first? read) := by
  refine bind_congr fun o => ?_
  unfold Outcome.first?
  cases o.rows with
  | nil => rfl
  | cons row rest => cases h : read row <;> simp only [h] <;> rfl

theorem row_eq (s : Statement) (read : Row → Reading α) :
    row s read = send s >>= fun o => liftExcept (o.one read) := by
  refine bind_congr fun o => ?_
  unfold firstRow Outcome.one
  cases o.rows <;> rfl

theorem countUnredeemed_eq (order : OrderId) :
    countUnredeemed order = send (.countUnredeemed order) >>= fun o =>
      liftExcept (o.one Row.unredeemed) := by
  rw [countUnredeemed, row_eq, bind_assoc]
  refine bind_congr fun o => ?_
  unfold Outcome.one
  cases o.rows with
  | nil => rfl
  | cons row rest =>
    simp only [Row.unredeemed]
    cases (Row.first row : Reading Int64) with
    | error e => rfl
    | ok count =>
      change (ite (count < 0) _ _ : Asking Nat) = liftExcept (ite (count < 0) _ _)
      split <;> rfl

theorem lockedTicket_eq (id : TicketId) :
    lockedTicket id = row? (.lockTicket id) Row.lockedTicket := by
  rw [lockedTicket, row?_eq, row?_eq, bind_assoc]
  refine bind_congr fun o => ?_
  unfold Outcome.first?
  cases o.rows with
  | nil => rfl
  | cons row rest =>
    simp only [Row.lockedTicket]
    rcases row.ticket with e | ⟨id, order, _ | status⟩ <;> rfl

theorem issueToken_eq (id : TicketId) (issued : IssuedToken) :
    issueToken id issued = send (.issueToken id issued) >>= fun o => liftExcept
      (o.anyRow (.database ("ticket " ++ id.text ++ " vanished"))) := by
  rw [issueToken, affected, bind_assoc]
  refine bind_congr fun o => ?_
  unfold Outcome.anyRow
  by_cases h : o.affected = 0
  · simp [h]; rfl
  · simp [h]; rfl

theorem careful_row? {s : Statement} {read : Row → Reading α} (hs : allowed s)
    (hread : ∀ o, s.unfit? o = (o.first? read).failure?) (hfree : ∀ o, ¬ s.Refuses o) :
    Careful allowed (row? s read) := by
  rw [row?_eq]
  exact careful_send hs hread hfree

theorem careful_rows {s : Statement} {read : Row → Reading α} (hs : allowed s)
    (hread : ∀ o, s.unfit? o = (o.all read).failure?) (hfree : ∀ o, ¬ s.Refuses o) :
    Careful allowed (rows s read) := careful_send hs hread hfree

theorem careful_sent {s : Statement} (hs : allowed s) (hread : ∀ o, s.unfit? o = none)
    (hfree : ∀ o, ¬ s.Refuses o) : Careful allowed (send s) := by
  have hsend : send s = send s >>= fun o => liftExcept (Except.ok o : Reading Outcome) :=
    (bind_pure (send s)).symm
  rw [hsend]
  exact careful_send hs hread hfree

theorem careful_execute {s : Statement} (hs : allowed s) (hread : ∀ o, s.unfit? o = none)
    (hfree : ∀ o, ¬ s.Refuses o) : Careful allowed (execute s) :=
  careful_bind (careful_sent hs hread hfree) fun _ => careful_pure ()

theorem careful_quantity (n : UInt32) : Careful allowed (quantity n) := by
  unfold quantity
  cases quantity? n with
  | none => exact careful_throw _
  | some q => exact careful_pure q

theorem careful_purchaser {user : UserId} (hs : allowed (.purchaser user)) :
    Careful allowed (purchaser user) :=
  careful_bind (careful_row? hs (fun _ => rfl) fun _ => not_false) fun _ => careful_pure _

theorem careful_orderDetail {id : OrderId} (horder : allowed (.order id))
    (hitems : allowed (.orderItems id)) (htickets : allowed (.orderTickets id))
    (hpurchaser : ∀ user, allowed (.purchaser user)) (withPurchaser : Bool) :
    Careful allowed (orderDetail id withPurchaser) := by
  refine careful_bind (careful_row? horder (fun _ => rfl) fun _ => not_false) fun found => ?_
  cases found with
  | none => exact careful_pure none
  | some order =>
    refine careful_bind (careful_rows hitems (fun _ => rfl) fun _ => not_false) fun items => ?_
    refine careful_bind (careful_rows htickets (fun _ => rfl) fun _ => not_false) fun tickets => ?_
    cases withPurchaser with
    | false => exact careful_bind (careful_pure none) fun _ => careful_pure _
    | true => exact careful_bind (careful_purchaser (hpurchaser _)) fun _ => careful_pure _

end Asking

namespace Locking

variable {α : Type} {allowed : Statement → Prop}

/-- How a call replies that met a failing answer. -/
structure Replies (c : TransactionCall) (x : Entry) (reply : Except StoreError c.Reply) : Prop where
  failed : Request.Failed ⟨.store (.within c), reply⟩
  error : ∀ e, x.failure? = some e → reply = .error e

structure Careful (allowed : Statement → Prop) (ends : Entry → Except StoreError α → Prop)
    (m : Locking α) : Prop where
  only : ∀ ledger, Program.Only (S := signature) allowed (m ledger)
  heeds : ∀ ledger, Program.Heeds (S := signature) Entry.Failed Statement.Selects
    (fun x r => ends x r.1) (m ledger)

theorem careful_free {asking : Asking α} (h : asking.Careful allowed) :
    Careful allowed Entry.Stops (free asking) := by
  constructor
  · exact fun ledger => Program.only_bind (S := signature) h.only fun _ => trivial
  · exact fun ledger => Program.heeds_bind (S := signature) h.heeds (fun _ _ => id) fun _ => trivial

theorem careful_locked {ends : Entry → Except StoreError α → Prop}
    {stage : LockStage} {m : Locking α} (h : Careful allowed ends m) :
    Careful allowed ends (locked stage m) := by
  constructor
  · intro ledger
    unfold locked
    cases ledger.acquire stage with
    | error e => exact trivial
    | ok ledger => exact h.only ledger
  · intro ledger
    unfold locked
    cases ledger.acquire stage with
    | error e => exact trivial
    | ok ledger => exact h.heeds ledger

theorem Careful.mono {ends ends' : Entry → Except StoreError α → Prop} {m : Locking α}
    (hm : Careful allowed ends m) (h : ∀ x r, ends x r → ends' x r) : Careful allowed ends' m :=
  ⟨hm.only, fun ledger => (hm.heeds ledger).mono fun x r => h x r.1⟩

theorem careful_lockTicket {id : TicketId} (horder : allowed (.lockOrderOfTicket id))
    (hticket : allowed (.lockTicket id)) : Careful allowed Entry.Stops (lockTicket id) := by
  have hsend : Asking.Careful allowed (Asking.send (.lockOrderOfTicket id)) :=
    Asking.careful_sent horder (fun _ => rfl) fun _ => not_false
  have hlock : Careful allowed Entry.Stops (locked .ticket (free (Asking.lockedTicket id))) := by
    refine careful_locked (careful_free ?_)
    rw [Asking.lockedTicket_eq]
    exact Asking.careful_row? hticket (fun _ => rfl) fun _ => not_false
  refine careful_locked ⟨fun ledger => ?_, fun ledger => ?_⟩
  · refine Program.only_bind (S := signature) hsend.only fun r => ?_
    cases r with
    | error e => exact trivial
    | ok o =>
      by_cases hrows : o.rows.isEmpty
      · simp only [hrows]
        exact trivial
      · simp only [hrows]
        exact hlock.only ledger
  · refine Program.heeds_bind (S := signature) hsend.heeds ?_ fun r => ?_
    · rintro x _ ⟨e, he, rfl⟩
      exact ⟨e, he, rfl⟩
    · cases r with
      | error e => exact trivial
      | ok o =>
        by_cases hrows : o.rows.isEmpty
        · simp only [hrows]
          exact trivial
        · simp only [hrows]
          exact hlock.heeds ledger

theorem Replies.of_stops {c : TransactionCall} {x : Entry} {reply : Except StoreError c.Reply}
    (h : x.Stops reply) : Replies c x reply := by
  obtain ⟨e, he, rfl⟩ := h
  refine ⟨.error _ e, fun e' he' => ?_⟩
  rw [he] at he'
  cases he'
  rfl

theorem careful_guarded {c : TransactionCall} {s : Statement} (reply : Bool → c.Reply)
    (hrefused : c.Refused (reply false)) (hs : allowed s) (hread : ∀ o, s.unfit? o = none)
    (hguard : ∀ o, s.Refuses o → o.affected ≠ 1) :
    Careful allowed (Replies c) (free do return reply ((← Asking.affected s) == 1)) := by
  refine ⟨fun ledger => ⟨hs, fun answer => ?_⟩, fun ledger answer => ?_⟩
  · cases answer <;> exact trivial
  · cases answer with
    | error e => exact ⟨fun _ => Replies.of_stops ⟨_, rfl, rfl⟩, trivial⟩
    | ok o =>
      refine ⟨fun hfailed => ?_, trivial⟩
      have hnone : s.failure? (.ok o) = none := hread o
      have hrefuses : s.Refuses o := by
        rcases hfailed with hsome | ⟨_, ⟨⟩, hrefuses⟩
        · have : (s.failure? (.ok o)).isSome := hsome
          rw [hnone] at this
          cases this
        · exact hrefuses
      have hreply : (o.affected == 1) = false := by simpa using hguard o hrefuses
      change Replies c _ (.ok (reply (o.affected == 1)))
      rw [hreply]
      refine ⟨.refused c _ hrefused, fun e he => ?_⟩
      have hsome : s.failure? (.ok o) = some e := he
      rw [hnone] at hsome
      cases hsome

def Data (c : TransactionCall) (s : Statement) : Prop := s.control? = none ∧ (c.Reads → s.Selects)

theorem careful_stops {c : TransactionCall} {m : Locking c.Reply}
    (h : Careful (Data c) Entry.Stops m) :
    Careful (Data c) (Replies c) m := h.mono fun _ _ => Replies.of_stops

theorem careful_answer (c : TransactionCall) : Careful (Data c) (Replies c) (answer c) := by
  cases c with
  | eventTitle event =>
    refine careful_stops (careful_free ?_)
    exact Asking.careful_row? ⟨rfl, fun _ => trivial⟩ (fun _ => rfl) fun _ => not_false
  | lockTicketProduct id =>
    refine careful_stops (careful_locked (careful_free ?_))
    exact Asking.careful_row? ⟨rfl, fun _ => trivial⟩ (fun _ => rfl) fun _ => not_false
  | lockTransferProduct id =>
    refine careful_stops (careful_locked (careful_free ?_))
    exact Asking.careful_row? ⟨rfl, fun _ => trivial⟩ (fun _ => rfl) fun _ => not_false
  | lockPromoByCode code =>
    refine careful_stops (careful_locked (careful_free ?_))
    exact Asking.careful_row? ⟨rfl, fun _ => trivial⟩ (fun _ => rfl) fun _ => not_false
  | consumePromo promo =>
    exact careful_guarded (c := .consumePromo promo) (fun b => b) rfl ⟨rfl, fun h => h.elim⟩
      (fun _ => rfl) fun _ => id
  | releasePromo promo =>
    refine careful_stops (careful_free ?_)
    exact Asking.careful_execute ⟨rfl, fun h => h.elim⟩ (fun _ => rfl) fun _ => not_false
  | insertOrder order =>
    refine careful_stops (careful_free ?_)
    exact Asking.careful_execute ⟨rfl, fun h => h.elim⟩ (fun _ => rfl) fun _ => not_false
  | insertOrderItem item =>
    refine careful_stops (careful_free
      (Asking.careful_bind (Asking.careful_quantity _) fun q => ?_))
    exact Asking.careful_execute ⟨rfl, fun h => h.elim⟩ (fun _ => rfl) fun _ => not_false
  | insertTicket ticket =>
    refine careful_stops (careful_free
      (Asking.careful_bind (Asking.careful_quantity _) fun q => ?_))
    exact Asking.careful_execute ⟨rfl, fun h => h.elim⟩ (fun _ => rfl) fun _ => not_false
  | lockOrder id =>
    refine careful_stops (careful_locked (careful_free ?_))
    exact Asking.careful_row? ⟨rfl, fun _ => trivial⟩ (fun _ => rfl) fun _ => not_false
  | lockOrderItems order =>
    refine careful_stops (careful_locked (careful_free ?_))
    exact Asking.careful_rows ⟨rfl, fun _ => trivial⟩ (fun _ => rfl) fun _ => not_false
  | reserveInventory itemType product quantity =>
    change Careful _ _ (free (Asking.reserve itemType product quantity))
    unfold Asking.reserve
    cases Asking.quantity? quantity with
    | none => exact careful_stops (careful_free (Asking.careful_pure false))
    | some q =>
      exact careful_guarded (c := .reserveInventory itemType product quantity) (fun b => b) rfl
        ⟨rfl, fun h => h.elim⟩ (fun _ => rfl) fun _ => id
  | releaseInventory itemType product quantity =>
    refine careful_stops (careful_free
      (Asking.careful_bind (Asking.careful_quantity _) fun q => ?_))
    exact Asking.careful_execute ⟨rfl, fun h => h.elim⟩ (fun _ => rfl) fun _ => not_false
  | transitionOrder order t =>
    exact careful_guarded (c := .transitionOrder order t) (fun b => b) rfl ⟨rfl, fun h => h.elim⟩
      (fun _ => rfl) fun _ => id
  | lockOrderTickets order =>
    refine careful_stops (careful_locked (careful_free ?_))
    exact Asking.careful_rows ⟨rfl, fun _ => trivial⟩ (fun _ => rfl) fun _ => not_false
  | issueTicketToken ticket issued =>
    refine careful_stops (careful_free ?_)
    rw [Asking.issueToken_eq]
    exact Asking.careful_send ⟨rfl, fun h => h.elim⟩ (fun _ => rfl) fun _ => not_false
  | lockTicket id =>
    exact careful_stops (careful_lockTicket ⟨rfl, fun _ => trivial⟩ ⟨rfl, fun _ => trivial⟩)
  | markTicketRedeemed ticket operator time =>
    exact careful_guarded (c := .markTicketRedeemed ticket operator time) (fun b => b) rfl
      ⟨rfl, fun h => h.elim⟩ (fun _ => rfl) fun _ => id
  | countUnredeemedTickets order =>
    refine careful_stops (careful_free ?_)
    rw [Asking.countUnredeemed_eq]
    exact Asking.careful_send ⟨rfl, fun _ => trivial⟩ (fun _ => rfl) fun _ => not_false
  | orderDetail order withPurchaser =>
    refine careful_stops (careful_free ?_)
    exact Asking.careful_orderDetail ⟨rfl, fun _ => trivial⟩ ⟨rfl, fun _ => trivial⟩
      ⟨rfl, fun _ => trivial⟩
      (fun _ => ⟨rfl, fun _ => trivial⟩) _
  | purchaser user =>
    exact careful_stops (careful_free (Asking.careful_purchaser ⟨rfl, fun _ => trivial⟩))

end Locking

end EventTickets.Sql
