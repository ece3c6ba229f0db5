import EventTickets.Proofs.Memory.Transactions
import EventTickets.Proofs.Sql.Asking

/-!
# The stages that calls lock

A call of a transaction locks the rows of its stages, and a store serves it in one way: it is
refused if the ledger does not admit one of its stages, and then nothing is locked; otherwise the
stages that are locked are some of its own, one after the other. The store in memory locks all of
them, and the database those whose rows it is asked for.
-/

namespace EventTickets

def Late {α : Type} (reply : Except StoreError α) : Prop :=
  ∃ held requested, reply = .error (.lockOrder held requested)

namespace Late

variable {α β : Type}

@[simp] theorem not_ok (a : α) : ¬ Late (.ok a : Except StoreError α) := by
  simp [Late]

@[simp] theorem not_pure (a : α) : ¬ Late (pure a : Except StoreError α) := not_ok a

@[simp] theorem not_database (detail : String) :
    ¬ Late (.error (.database detail) : Except StoreError α) := by
  simp [Late]

@[simp] theorem not_decode (entity detail : String) :
    ¬ Late (.error (.decode entity detail) : Except StoreError α) := by
  simp [Late]

@[simp] theorem not_throw_decode (entity detail : String) :
    ¬ Late (throw (.decode entity detail) : Except StoreError α) := not_decode entity detail

theorem lockOrder (held requested : LockStage) :
    Late (.error (.lockOrder held requested) : Except StoreError α) :=
  ⟨held, requested, rfl⟩

@[simp] theorem not_bind {x : Except StoreError α} {f : α → Except StoreError β} (hx : ¬ Late x)
    (hf : ∀ a, ¬ Late (f a)) : ¬ Late (x >>= f) := by
  cases x with
  | ok a => exact hf a
  | error e =>
    rintro ⟨held, requested, he⟩
    exact hx ⟨held, requested, congrArg Except.error (Except.error.inj he)⟩

@[simp] theorem not_map {x : Except StoreError α} (f : α → β) (hx : ¬ Late x) :
    ¬ Late (f <$> x) := by
  cases x with
  | ok a => exact not_ok (f a)
  | error e =>
    rintro ⟨held, requested, he⟩
    exact hx ⟨held, requested, congrArg Except.error (Except.error.inj he)⟩

end Late

namespace LockLedger

theorem not_admits_iff {ledger : LockLedger} {stage : LockStage} :
    ¬ ledger.Admits stage ↔ ∃ held, ledger.held = some held ∧ stage.rank < held.rank := by
  simp [Admits]

theorem acquire_of_not_admits {ledger : LockLedger} {stage : LockStage}
    (h : ¬ ledger.Admits stage) :
    ∃ held, ledger.acquire stage = .error (.lockOrder held stage) := by
  obtain ⟨held, hheld, hrank⟩ := not_admits_iff.mp h
  exact ⟨held, by simp [acquire, hheld, hrank]⟩

theorem foldlM_acquire {stages : List LockStage} {l l' : LockLedger}
    (h : stages.foldlM acquire l = .ok l') :
    (∀ stage ∈ stages, l.Admits stage) ∧ stages.Pairwise (fun a b => a.rank ≤ b.rank) ∧
      l'.held = stages.getLast?.or l.held := by
  induction stages generalizing l with
  | nil =>
    cases h
    simp
  | cons stage rest ih =>
    by_cases hadmits : l.Admits stage
    · rw [List.foldlM_cons, acquire_of_admits hadmits] at h
      obtain ⟨hrest, hpairwise, hheld⟩ := ih h
      have hranks : ∀ s ∈ rest, stage.rank ≤ s.rank :=
        fun s hs => (some_admits stage s).mp (hrest s hs)
      refine ⟨?_, List.pairwise_cons.mpr ⟨hranks, hpairwise⟩, ?_⟩
      · intro s hs
        rcases List.mem_cons.mp hs with rfl | hs
        · exact hadmits
        · exact hadmits.mono (hranks s hs)
      · rw [hheld, List.getLast?_cons]
        cases rest.getLast? <;> rfl
    · obtain ⟨held, hrefused⟩ := acquire_of_not_admits hadmits
      rw [List.foldlM_cons, hrefused] at h
      cases h

end LockLedger

namespace TransactionCall

/-- The stages that a call takes. A ticket is locked after its order. -/
def stages : TransactionCall → List LockStage
  | .lockTicketProduct _ => [.product]
  | .lockTransferProduct _ => [.product]
  | .lockPromoByCode _ => [.promo]
  | .lockOrder _ => [.order]
  | .lockOrderItems _ => [.orderItem]
  | .lockOrderTickets _ => [.ticket]
  | .lockTicket _ => [.order, .ticket]
  | _ => []

/-- How a call goes with the ledger: it locks these stages, unless it is refused. -/
structure Serves (c : TransactionCall) (l : LockLedger) (reply : Except StoreError c.Reply)
    (locked : List LockStage) (l' : LockLedger) : Prop where
  late_iff : Late reply ↔ ∃ stage ∈ c.stages, ¬ l.Admits stage
  among : ∀ stage ∈ locked, stage ∈ c.stages
  acquired : locked.foldlM LockLedger.acquire l = .ok l'

namespace Serves

variable {c : TransactionCall} {l l' : LockLedger}
  {reply : Except StoreError c.Reply} {stage : LockStage}

theorem free (hc : c.stages = []) (hreply : ¬ Late reply) : Serves c l reply [] l :=
  ⟨by simp [hc, hreply], by simp, rfl⟩

theorem locked (hc : c.stages = [stage]) (h : l.Admits stage) (hreply : ¬ Late reply) :
    Serves c l reply [stage] ⟨some stage⟩ :=
  ⟨by simp [hc, h, hreply], by simp [hc], by simp [LockLedger.acquire_of_admits h]⟩

theorem refused {held : LockStage} (hc : stage ∈ c.stages) (h : ¬ l.Admits stage) :
    Serves c l (.error (.lockOrder held stage)) [] l :=
  ⟨by simpa only [Late.lockOrder, true_iff] using ⟨stage, hc, h⟩, by simp, rfl⟩

theorem orderOfTicket {id : TicketId} {reply : Except StoreError (Option LockedTicket)}
    (h : l.Admits .order) (hreply : ¬ Late reply) :
    Serves (.lockTicket id) l reply [.order] ⟨some .order⟩ := by
  have hticket : l.Admits .ticket := h.mono (by decide)
  exact ⟨by simp [stages, h, hticket, hreply], by simp [stages], by
    simp [LockLedger.acquire_of_admits h]⟩

theorem ticket {id : TicketId} {reply : Except StoreError (Option LockedTicket)}
    (h : l.Admits .order) (hreply : ¬ Late reply) :
    Serves (.lockTicket id) l reply [.order, .ticket] ⟨some .ticket⟩ := by
  have hticket : l.Admits .ticket := h.mono (by decide)
  refine ⟨by simp [stages, h, hticket, hreply], by simp [stages], ?_⟩
  rw [List.foldlM_cons, LockLedger.acquire_of_admits h]
  rfl

end Serves

end TransactionCall

namespace Memory.Transaction

variable {α : Type}

def stagesOf (c : TransactionCall) : Except StoreError c.Reply → List LockStage
  | .error (.lockOrder _ _) => []
  | _ => c.stages

theorem stagesOf_not_late {c : TransactionCall} {reply : Except StoreError c.Reply}
    (h : ¬ Late reply) : stagesOf c reply = c.stages := by
  rcases reply with (_ | _ | ⟨held, requested⟩) | a
  · rfl
  · rfl
  · exact absurd (Late.lockOrder held requested) h
  · rfl

/-- How a call goes in memory: a refused one leaves the transaction as it was. -/
structure Serves (c : TransactionCall) (t : Transaction)
    (r : Except StoreError c.Reply × Transaction) : Prop where
  serves : c.Serves t.ledger r.1 (stagesOf c r.1) r.2.ledger
  late : Late r.1 → r.2 = t

theorem serves_locking (c : TransactionCall) {stage : LockStage} (hc : c.stages = [stage])
    (f : Tables → c.Reply) (t : Transaction) : Serves c t (locking stage f t) := by
  by_cases h : t.ledger.Admits stage
  · rw [locking, LockLedger.acquire_of_admits h]
    refine ⟨?_, fun hlate => absurd hlate (Late.not_ok _)⟩
    rw [stagesOf_not_late (Late.not_ok _), hc]
    exact .locked hc h (Late.not_ok _)
  · obtain ⟨held, hrefused⟩ := LockLedger.acquire_of_not_admits h
    rw [locking, hrefused]
    refine ⟨?_, fun _ => rfl⟩
    exact .refused (by simp [hc]) h

theorem serves_free {c : TransactionCall} (hc : c.stages = []) {t : Transaction}
    {r : Except StoreError c.Reply × Transaction} (hreply : ¬ Late r.1)
    (hledger : r.2.ledger = t.ledger) : Serves c t r := by
  refine ⟨?_, fun hlate => absurd hlate hreply⟩
  rw [stagesOf_not_late hreply, hc, hledger]
  exact .free hc hreply

theorem free_writeIf (f : Tables → Option Tables) (t : Transaction) :
    ¬ Late (writeIf f t).1 ∧ (writeIf f t).2.ledger = t.ledger := by
  unfold writeIf
  cases f t.tables <;> simp

theorem free_insertOrder (order : NewOrder) (t : Transaction) :
    ¬ Late (insertOrder order t).1 ∧ (insertOrder order t).2.ledger = t.ledger := by
  unfold insertOrder
  cases t.tables.orders.get? order.id <;> simp

theorem free_issueToken (id : TicketId) (issued : IssuedToken) (t : Transaction) :
    ¬ Late (issueToken id issued t).1 ∧ (issueToken id issued t).2.ledger = t.ledger := by
  unfold issueToken
  cases t.tables.ticket? id <;> simp

theorem serves_lockTicket (id : TicketId) (t : Transaction) :
    Serves (.lockTicket id) t (lockTicket id t) := by
  by_cases h : t.ledger.Admits .order
  · have hticket : LockLedger.acquire ⟨some .order⟩ .ticket = .ok ⟨some .ticket⟩ := rfl
    have hreply : ¬ Late (lockTicket id t).1 ∧ (lockTicket id t).2.ledger = ⟨some .ticket⟩ := by
      simp only [lockTicket, LockLedger.acquire_of_admits h, hticket]
      cases t.tables.ticket? id with
      | none => simp
      | some ticket =>
        dsimp only
        cases t.tables.orders.get? ticket.orderId <;> simp
    refine ⟨?_, fun hlate => absurd hlate hreply.1⟩
    rw [stagesOf_not_late hreply.1, hreply.2]
    exact .ticket h hreply.1
  · obtain ⟨held, hrefused⟩ := LockLedger.acquire_of_not_admits h
    rw [lockTicket, hrefused]
    exact ⟨.refused (by simp [TransactionCall.stages]) h, fun _ => rfl⟩

theorem serves_answer (c : TransactionCall) (t : Transaction) : Serves c t (answer c t) := by
  cases c with
  | lockTicketProduct id =>
    exact serves_locking (.lockTicketProduct id) rfl (·.ticketProducts.get? id) t
  | lockTransferProduct id =>
    exact serves_locking (.lockTransferProduct id) rfl (·.transferProducts.get? id) t
  | lockPromoByCode code => exact serves_locking (.lockPromoByCode code) rfl (·.promoByCode? code) t
  | lockOrder id =>
    exact serves_locking (.lockOrder id) rfl (fun u => (u.orders.get? id).map u.titled) t
  | lockOrderItems order => exact serves_locking (.lockOrderItems order) rfl (·.itemsOf order) t
  | lockOrderTickets order =>
    exact serves_locking (.lockOrderTickets order) rfl (·.ticketsOf order) t
  | lockTicket id => exact serves_lockTicket id t
  | consumePromo id => exact serves_free rfl (free_writeIf _ t).1 (free_writeIf _ t).2
  | reserveInventory itemType product quantity =>
    exact serves_free rfl (free_writeIf _ t).1 (free_writeIf _ t).2
  | transitionOrder id transition => exact serves_free rfl (free_writeIf _ t).1 (free_writeIf _ t).2
  | markTicketRedeemed id operator time =>
    exact serves_free rfl (free_writeIf _ t).1 (free_writeIf _ t).2
  | insertOrder order =>
    exact serves_free rfl (free_insertOrder order t).1 (free_insertOrder order t).2
  | issueTicketToken ticket issued =>
    exact serves_free rfl (free_issueToken _ _ t).1 (free_issueToken _ _ t).2
  | _ => exact serves_free rfl (Late.not_ok _) rfl

end Memory.Transaction

namespace Sql

namespace Statement

def stage? : Statement → Option LockStage
  | .lockTicketProduct _ => some .product
  | .lockTransferProduct _ => some .product
  | .lockPromoByCode _ => some .promo
  | .lockOrder _ => some .order
  | .lockOrderOfTicket _ => some .order
  | .lockOrderItems _ => some .orderItem
  | .lockOrderTickets _ => some .ticket
  | .lockTicket _ => some .ticket
  | _ => none

end Statement

def stagesOf (log : List Entry) : List LockStage := log.filterMap (·.1.stage?)

namespace Row

@[simp] theorem column_not_late {α : Type} [OfCell α] (row : Row) (entity name : String) :
    ¬ Late (row.column entity name : Reading α) := by
  unfold column
  split <;> simp

@[simp] theorem count_not_late (row : Row) (entity name : String) :
    ¬ Late (row.count entity name) := by
  refine Late.not_bind (column_not_late row entity name) fun raw => ?_
  split <;> simp

@[simp] theorem limit_not_late (row : Row) (entity name : String) :
    ¬ Late (row.limit entity name) := by
  simp [limit]

@[simp] theorem user_not_late (row : Row) (entity name : String) :
    ¬ Late (row.user entity name) := by
  simp [user]

@[simp] theorem kind_not_late {α : Type} (row : Row) (entity name : String)
    (parse? : String → Option α) : ¬ Late (row.kind entity name parse?) := by
  refine Late.not_bind (column_not_late row entity name) fun raw => ?_
  split <;> simp

@[simp] theorem details_not_late (row : Row) (entity name : String) :
    ¬ Late (row.details entity name) := by
  refine Late.not_bind (column_not_late row entity name) fun raw => ?_
  split <;> simp

@[simp] theorem first_not_late {α : Type} [OfCell α] (row : Row) :
    ¬ Late (row.first : Reading α) := by
  unfold first
  split <;> simp

@[simp] theorem orderStatus_not_late (row : Row) (entity name : String) :
    ¬ Late (row.orderStatus entity name) := by
  refine Late.not_bind (column_not_late row entity name) fun raw => ?_
  cases raw <;> simp

theorem ticketProduct_not_late (row : Row) : ¬ Late row.ticketProduct := by
  unfold ticketProduct
  repeat refine Late.not_bind (by simp) fun _ => ?_
  exact Late.not_pure _

theorem transferProduct_not_late (row : Row) : ¬ Late row.transferProduct := by
  unfold transferProduct
  repeat refine Late.not_bind (by simp) fun _ => ?_
  exact Late.not_pure _

theorem promoCode_not_late (row : Row) : ¬ Late row.promoCode := by
  unfold promoCode
  repeat refine Late.not_bind (by simp) fun _ => ?_
  exact Late.not_pure _

theorem order_not_late (row : Row) : ¬ Late row.order := by
  unfold order
  repeat refine Late.not_bind (by simp) fun _ => ?_
  exact Late.not_pure _

theorem orderItem_not_late (row : Row) : ¬ Late row.orderItem := by
  unfold orderItem
  repeat refine Late.not_bind (by simp) fun _ => ?_
  exact Late.not_pure _

theorem ticket_not_late (row : Row) : ¬ Late row.ticket := by
  unfold ticket
  repeat refine Late.not_bind (by simp) fun _ => ?_
  exact Late.not_pure _

theorem lockedTicket_not_late (row : Row) : ¬ Late row.lockedTicket := by
  refine Late.not_bind (ticket_not_late row) fun ticket => ?_
  split <;> simp

theorem purchaser_not_late (row : Row) : ¬ Late row.purchaser := by
  refine Late.not_bind (user_not_late row _ _) fun user => ?_
  cases user with
  | none => exact Late.not_pure none
  | some id =>
    repeat refine Late.not_bind (by simp) fun _ => ?_
    exact Late.not_pure _

theorem unredeemed_not_late (row : Row) : ¬ Late row.unredeemed := by
  refine Late.not_bind (first_not_late row) fun count => ?_
  split <;> simp

end Row

namespace Outcome

variable {α : Type} {o : Outcome} {read : Row → Reading α}

theorem first?_not_late (hread : ∀ row, ¬ Late (read row)) : ¬ Late (o.first? read) := by
  unfold first?
  cases o.rows with
  | nil => exact Late.not_ok none
  | cons row rest => exact Late.not_map some (hread row)

theorem one_not_late (hread : ∀ row, ¬ Late (read row)) : ¬ Late (o.one read) := by
  unfold one
  cases o.rows with
  | nil => exact Late.not_database _
  | cons row rest => exact hread row

theorem all_not_late (hread : ∀ row, ¬ Late (read row)) : ¬ Late (o.all read) := by
  unfold all
  induction o.rows with
  | nil => exact Late.not_pure []
  | cons row rest ih =>
    rw [List.mapM_cons]
    exact Late.not_bind (hread row) fun a => Late.not_bind ih fun as => Late.not_pure _

theorem anyRow_not_late (o : Outcome) (detail : String) : ¬ Late (o.anyRow (.database detail)) := by
  unfold anyRow
  split <;> simp

end Outcome

namespace Asking

variable {α β : Type} {allowed : Statement → Prop}

theorem logs_read {s : Statement} {read : Outcome → Reading α} {log : List Entry}
    {r : Except StoreError α}
    (h : Program.Logs (S := signature) (send s >>= fun o => liftExcept (read o)).run log r) :
    ∃ answer, log = [⟨s, answer⟩] ∧ r = (answer.mapError ServerError.storeError).bind read := by
  cases h with
  | call _ answer hrest =>
    cases answer with
    | error e =>
      cases hrest
      exact ⟨.error e, rfl, rfl⟩
    | ok o =>
      refine ⟨.ok o, ?_⟩
      change Program.Logs (S := signature) (liftExcept (read o) : Asking α).run _ r at hrest
      cases hread : read o <;> rw [hread] at hrest <;> cases hrest
      · exact ⟨rfl, hread.symm⟩
      · exact ⟨rfl, hread.symm⟩

theorem read_not_late {read : Outcome → Reading α}
    (hread : ∀ o, ¬ Late (read o)) (answer : Answer) :
    ¬ Late ((answer.mapError ServerError.storeError).bind read) := by
  cases answer with
  | error e => exact Late.not_database _
  | ok o => exact hread o

def Confined (allowed : Statement → Prop) (asking : Asking α) : Prop :=
  Program.Subsides (S := signature) allowed (fun r => ¬ Late r) asking.run

theorem confined_pure (a : α) : Confined allowed (pure a : Asking α) := Late.not_ok a

theorem confined_bind {p : Asking α} {f : α → Asking β} (hp : Confined allowed p)
    (hf : ∀ a, Confined allowed (f a)) : Confined allowed (p >>= f) := by
  refine Program.subsides_bind (S := signature) hp fun r hr => ?_
  cases r with
  | ok a => exact hf a
  | error e =>
    rintro ⟨held, requested, he⟩
    exact hr ⟨held, requested, congrArg Except.error (Except.error.inj he)⟩

theorem confined_liftExcept {x : Except StoreError α} (hx : ¬ Late x) :
    Confined allowed (liftExcept x : Asking α) := by
  cases x <;> exact hx

theorem confined_send {s : Statement} (hs : allowed s) : Confined allowed (send s) := by
  refine ⟨hs, fun answer => ?_⟩
  cases answer with
  | error e => exact Late.not_database _
  | ok o => exact Late.not_ok o

theorem confined_read {s : Statement} (hs : allowed s) {read : Outcome → Reading α}
    (hread : ∀ o, ¬ Late (read o)) : Confined allowed (send s >>= fun o => liftExcept (read o)) :=
  confined_bind (confined_send hs) fun o => confined_liftExcept (hread o)

theorem confined_row? {s : Statement} (hs : allowed s) {read : Row → Reading α}
    (hread : ∀ row, ¬ Late (read row)) : Confined allowed (row? s read) := by
  rw [row?_eq]
  exact confined_read hs fun o => Outcome.first?_not_late hread

theorem confined_rows {s : Statement} (hs : allowed s) {read : Row → Reading α}
    (hread : ∀ row, ¬ Late (read row)) : Confined allowed (rows s read) :=
  confined_read hs fun _ => Outcome.all_not_late hread

theorem confined_execute {s : Statement} (hs : allowed s) : Confined allowed (execute s) :=
  confined_bind (confined_send hs) fun _ => confined_pure ()

theorem confined_affected {s : Statement} (hs : allowed s) : Confined allowed (affected s) :=
  confined_bind (confined_send hs) fun o => confined_pure o.affected

theorem confined_guarded {s : Statement} (hs : allowed s) :
    Confined allowed (do return (← affected s) == 1) :=
  confined_bind (confined_affected hs) fun n => confined_pure (n == 1)

theorem confined_quantity (n : UInt32) : Confined allowed (quantity n) := by
  unfold quantity
  cases quantity? n with
  | none => exact Late.not_database _
  | some q => exact confined_pure q

theorem confined_purchaser {user : UserId} (hs : allowed (.purchaser user)) :
    Confined allowed (purchaser user) :=
  confined_bind (confined_row? hs Row.purchaser_not_late) fun found => confined_pure found.join

theorem confined_orderDetail {id : OrderId} (horder : allowed (.order id))
    (hitems : allowed (.orderItems id)) (htickets : allowed (.orderTickets id))
    (hpurchaser : ∀ user, allowed (.purchaser user)) (withPurchaser : Bool) :
    Confined allowed (orderDetail id withPurchaser) := by
  refine confined_bind (confined_row? horder Row.order_not_late) fun found => ?_
  cases found with
  | none => exact confined_pure none
  | some order =>
    refine confined_bind (confined_rows hitems Row.orderItem_not_late) fun items => ?_
    refine confined_bind (confined_rows htickets Row.ticket_not_late) fun tickets => ?_
    cases withPurchaser with
    | false => exact confined_bind (confined_pure none) fun _ => confined_pure _
    | true => exact confined_bind (confined_purchaser (hpurchaser _)) fun _ => confined_pure _

end Asking

namespace Locking

variable {α : Type} {c : TransactionCall} {l : LockLedger} {log : List Entry}
  {r : Except StoreError c.Reply × LockLedger}

/-- How a call goes over a connection: a refused one sends nothing. -/
structure Serves (c : TransactionCall) (l : LockLedger) (log : List Entry)
    (r : Except StoreError c.Reply × LockLedger) : Prop where
  serves : c.Serves l r.1 (stagesOf log) r.2
  late : Late r.1 → log = []

theorem stagesOf_eq_nil (h : ∀ x ∈ log, x.1.stage? = none) : stagesOf log = [] :=
  List.filterMap_eq_nil_iff.mpr h

theorem serves_free (hc : c.stages = []) {asking : Asking c.Reply}
    (hasking : asking.Confined fun s => s.stage? = none)
    (h : Program.Logs (S := signature) (free asking l) log r) : Serves c l log r := by
  obtain ⟨reply, hlogs, rfl⟩ := Program.logs_map (S := signature) h
  obtain ⟨hreply, hstages⟩ := hasking.logs hlogs
  refine ⟨?_, fun hlate => absurd hlate hreply⟩
  rw [stagesOf_eq_nil hstages]
  exact .free hc hreply

theorem logs_locked {stage : LockStage} {s : Statement} {read : Outcome → Reading α}
    {r : Except StoreError α × LockLedger}
    (h : Program.Logs (S := signature)
      (locked stage (free (Asking.send s >>= fun o => liftExcept (read o))) l) log r) :
    (∃ held, ¬ l.Admits stage ∧ log = [] ∧ r = (.error (.lockOrder held stage), l)) ∨
      ∃ answer, l.Admits stage ∧ log = [⟨s, answer⟩] ∧
        r = ((answer.mapError ServerError.storeError).bind read, ⟨some stage⟩) := by
  by_cases hadmits : l.Admits stage
  · rw [locked, LockLedger.acquire_of_admits hadmits] at h
    obtain ⟨reply, hlogs, rfl⟩ := Program.logs_map (S := signature) h
    obtain ⟨answer, rfl, rfl⟩ := Asking.logs_read hlogs
    exact .inr ⟨answer, hadmits, rfl, rfl⟩
  · obtain ⟨held, hrefused⟩ := LockLedger.acquire_of_not_admits hadmits
    rw [locked, hrefused] at h
    cases h
    exact .inl ⟨held, hadmits, rfl, rfl⟩

theorem serves_locked {stage : LockStage} (hc : c.stages = [stage]) {s : Statement}
    (hs : s.stage? = some stage) {read : Outcome → Reading c.Reply} (hread : ∀ o, ¬ Late (read o))
    (h : Program.Logs (S := signature)
      (locked stage (free (Asking.send s >>= fun o => liftExcept (read o))) l) log r) :
      Serves c l log r := by
  rcases logs_locked h with ⟨held, hadmits, rfl, rfl⟩ | ⟨answer, hadmits, rfl, rfl⟩
  · exact ⟨.refused (by simp [hc]) hadmits, fun _ => rfl⟩
  · have hreply := Asking.read_not_late hread answer
    refine ⟨?_, fun hlate => absurd hlate hreply⟩
    simpa [stagesOf, hs] using TransactionCall.Serves.locked hc hadmits hreply

theorem logs_lockTicket {id : TicketId} {r : Except StoreError (Option LockedTicket) × LockLedger}
    (hadmits : l.Admits .order) (h : Program.Logs (S := signature) (lockTicket id l) log r) :
    (∃ answer, log = [⟨.lockOrderOfTicket id, answer⟩] ∧
      r = ((answer.mapError ServerError.storeError).map fun _ => none, ⟨some .order⟩)) ∨
    ∃ o answer, o.rows ≠ [] ∧ log = [⟨.lockOrderOfTicket id, .ok o⟩, ⟨.lockTicket id, answer⟩] ∧
      r = ((answer.mapError ServerError.storeError).bind (·.first? Row.lockedTicket),
        ⟨some .ticket⟩) := by
  rw [lockTicket, locked, LockLedger.acquire_of_admits hadmits] at h
  cases h with
  | call _ answer hrest =>
    cases answer with
    | error e =>
      cases hrest
      exact .inl ⟨.error e, rfl, rfl⟩
    | ok o =>
      change Program.Logs (S := signature) (if o.rows.isEmpty then pure (.ok none, ⟨some .order⟩)
        else locked .ticket (free (Asking.lockedTicket id)) ⟨some .order⟩) _ r at hrest
      by_cases hrows : o.rows.isEmpty
      · rw [if_pos hrows] at hrest
        cases hrest
        exact .inl ⟨.ok o, rfl, rfl⟩
      · have hticket : LockLedger.acquire ⟨some .order⟩ .ticket = .ok ⟨some .ticket⟩ := rfl
        rw [if_neg hrows, locked, hticket, Asking.lockedTicket_eq, Asking.row?_eq] at hrest
        obtain ⟨reply, hlogs, rfl⟩ := Program.logs_map (S := signature) hrest
        obtain ⟨answer, rfl, rfl⟩ := Asking.logs_read hlogs
        exact .inr ⟨o, answer, fun e => hrows (by rw [e]; rfl), rfl, rfl⟩

theorem serves_lockTicket {id : TicketId} {r : Except StoreError (Option LockedTicket) × LockLedger}
    (h : Program.Logs (S := signature) (lockTicket id l) log r) :
    Serves (.lockTicket id) l log r := by
  by_cases hadmits : l.Admits .order
  · rcases logs_lockTicket hadmits h with ⟨answer, rfl, rfl⟩ | ⟨o, answer, -, rfl, rfl⟩
    · have hreply : ¬ Late ((answer.mapError ServerError.storeError).map fun _ =>
          (none : Option LockedTicket)) := by
        cases answer with
        | error e => exact Late.not_database _
        | ok o => exact Late.not_ok _
      exact ⟨.orderOfTicket hadmits hreply, fun hlate => absurd hlate hreply⟩
    · have hreply : ¬ Late ((answer.mapError ServerError.storeError).bind
          (·.first? Row.lockedTicket)) :=
        Asking.read_not_late (fun _ => Outcome.first?_not_late Row.lockedTicket_not_late) answer
      exact ⟨.ticket hadmits hreply, fun hlate => absurd hlate hreply⟩
  · obtain ⟨held, hrefused⟩ := LockLedger.acquire_of_not_admits hadmits
    rw [lockTicket, locked, hrefused] at h
    cases h
    exact ⟨.refused (by simp [TransactionCall.stages]) hadmits, fun _ => rfl⟩

theorem serves_answer (c : TransactionCall) {r : Except StoreError c.Reply × LockLedger}
    (h : Program.Logs (S := signature) (answer c l) log r) : Serves c l log r := by
  cases c with
  | lockTicketProduct id =>
    change Program.Logs (S := signature)
      (locked .product (free (Asking.row? _ Row.ticketProduct)) l) log r at h
    rw [Asking.row?_eq] at h
    exact serves_locked rfl rfl (fun _ => Outcome.first?_not_late Row.ticketProduct_not_late) h
  | lockTransferProduct id =>
    change Program.Logs (S := signature)
      (locked .product (free (Asking.row? _ Row.transferProduct)) l) log r at h
    rw [Asking.row?_eq] at h
    exact serves_locked rfl rfl (fun _ => Outcome.first?_not_late Row.transferProduct_not_late) h
  | lockPromoByCode code =>
    change Program.Logs (S := signature)
      (locked .promo (free (Asking.row? _ Row.promoCode)) l) log r at h
    rw [Asking.row?_eq] at h
    exact serves_locked rfl rfl (fun _ => Outcome.first?_not_late Row.promoCode_not_late) h
  | lockOrder id =>
    change Program.Logs (S := signature)
      (locked .order (free (Asking.row? _ Row.order)) l) log r at h
    rw [Asking.row?_eq] at h
    exact serves_locked rfl rfl (fun _ => Outcome.first?_not_late Row.order_not_late) h
  | lockOrderItems order =>
    exact serves_locked rfl rfl (fun _ => Outcome.all_not_late Row.orderItem_not_late) h
  | lockOrderTickets order =>
    exact serves_locked rfl rfl (fun _ => Outcome.all_not_late Row.ticket_not_late) h
  | lockTicket id => exact serves_lockTicket h
  | eventTitle event => exact serves_free rfl (Asking.confined_row? (by rfl) Row.first_not_late) h
  | consumePromo id => exact serves_free rfl (Asking.confined_guarded rfl) h
  | releasePromo id => exact serves_free rfl (Asking.confined_execute rfl) h
  | insertOrder order => exact serves_free rfl (Asking.confined_execute rfl) h
  | insertOrderItem item =>
    exact serves_free rfl (Asking.confined_bind (Asking.confined_quantity _) fun q =>
      Asking.confined_execute rfl) h
  | insertTicket ticket =>
    exact serves_free rfl (Asking.confined_bind (Asking.confined_quantity _) fun q =>
      Asking.confined_execute rfl) h
  | reserveInventory itemType product quantity =>
    refine serves_free rfl ?_ h
    unfold Asking.reserve
    cases Asking.quantity? quantity with
    | none => exact Asking.confined_pure false
    | some q => exact Asking.confined_guarded rfl
  | releaseInventory itemType product quantity =>
    exact serves_free rfl (Asking.confined_bind (Asking.confined_quantity _) fun q =>
      Asking.confined_execute rfl) h
  | transitionOrder id transition => exact serves_free rfl (Asking.confined_guarded rfl) h
  | issueTicketToken ticket issued =>
    refine serves_free rfl ?_ h
    rw [Asking.issueToken_eq]
    exact Asking.confined_read (by rfl) fun o => Outcome.anyRow_not_late o _
  | markTicketRedeemed id operator time => exact serves_free rfl (Asking.confined_guarded rfl) h
  | countUnredeemedTickets order =>
    refine serves_free rfl ?_ h
    rw [Asking.countUnredeemed_eq]
    exact Asking.confined_read (by rfl) fun o => Outcome.one_not_late Row.unredeemed_not_late
  | orderDetail order withPurchaser =>
    exact serves_free rfl (Asking.confined_orderDetail (by rfl) (by rfl) (by rfl)
      (fun _ => by rfl) _) h
  | purchaser user => exact serves_free rfl (Asking.confined_purchaser (by rfl)) h

end Locking

end Sql

end EventTickets
