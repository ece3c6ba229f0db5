import EventTickets.Proofs.Lifecycle

/-!
# Check-ins in any order

Tickets are scanned at many doors at once, so nobody knows which scan of a ticket comes first.
Whether a scan is acceptable can be told before any of them is made: redeeming one ticket may redeem
its order, but an order counts as sold before and after.
-/

namespace EventTickets

def Ticket.SameIssue (k k' : Ticket) : Prop := k = { k' with
    redeemedAt := k.redeemedAt, redeemedBy := k.redeemedBy }

structure Scan where
  ticket : TicketId
  operator : OperatorId
  token : Option String

/-- Whether a scan would be let in: the ticket is there and unredeemed, its order is sold, and the
token, if one is given that is not blank, is the ticket's. -/
def Scan.Acceptable (t : Memory.Tables) (secret : SigningSecret) (scan : Scan) : Prop :=
  ∃ ticket order, t.ticket? scan.ticket = some ticket ∧ ticket.isRedeemed = false ∧
    t.orders.get? ticket.orderId = some order ∧ (order.status = .paid ∨ order.status = .redeemed) ∧
    ∀ token, scan.token.bind Text.nonBlank? = some token →
    Redemption.authenticate secret ticket token = .ok ()

namespace Memory.Tables

variable {t₀ t t' : Tables} {secret : SigningSecret} {scan : Scan} {past : List Scan}

def Accepted (t₀ : Tables) (secret : SigningSecret) (past : List Scan) (id : TicketId) : Prop :=
  ∃ scan ∈ past, scan.ticket = id ∧ scan.Acceptable t₀ secret

def IsRedeemed (t : Tables) (id : TicketId) : Prop :=
  ∃ k, t.ticket? id = some k ∧ k.isRedeemed = true

def statusOf (t : Tables) (id : OrderId) : Option OrderStatus := (t.orders.get? id).map (·.status)

theorem accepted_cons {id : TicketId} :
    t₀.Accepted secret (scan :: past) id ↔
      scan.ticket = id ∧ scan.Acceptable t₀ secret ∨ t₀.Accepted secret past id := by
  simp [Accepted]

theorem accepted_perm {past' : List Scan} (h : past.Perm past') (id : TicketId) :
    t₀.Accepted secret past id ↔ t₀.Accepted secret past' id := by
  simp only [Accepted, h.mem_iff]

theorem isPurchased_iff {status : OrderStatus} :
    status.isPurchased = true ↔ status = .paid ∨ status = .redeemed := by
  cases status <;> simp [OrderStatus.isPurchased]

theorem acceptable_iff :
    scan.Acceptable t secret ↔
      ∃ k order, t.admission secret scan.ticket (scan.token.bind Text.nonBlank?) =
        .ok (k, order) := by
  have hauth : ∀ k, Redemption.authenticateGiven secret k (scan.token.bind Text.nonBlank?) =
      .ok () ↔
      ∀ token, scan.token.bind Text.nonBlank? = some token →
      Redemption.authenticate secret k token = .ok () := by
    intro k
    cases scan.token.bind Text.nonBlank? <;> simp [Redemption.authenticateGiven]
  simp only [admission_eq_ok_iff, hauth, isPurchased_iff]
  constructor
  · rintro ⟨k, order, hk, hunredeemed, ho, hsold, htoken⟩
    exact ⟨k, order, hk, ho, hunredeemed, hsold, htoken⟩
  · rintro ⟨k, order, hk, ho, hunredeemed, hsold, htoken⟩
    exact ⟨k, order, hk, hunredeemed, ho, hsold, htoken⟩

instance : Decidable (scan.Acceptable t secret) :=
  decidable_of_iff ((t.admission secret scan.ticket (scan.token.bind Text.nonBlank?)).isOk =
    true) <| by
    rw [acceptable_iff]
    rcases t.admission secret scan.ticket (scan.token.bind Text.nonBlank?) with e | ⟨k, order⟩ <;>
      simp [Except.isOk, Except.toBool]

instance {id : TicketId} : Decidable (t₀.Accepted secret past id) :=
  inferInstanceAs (Decidable (∃ scan ∈ past, scan.ticket = id ∧ scan.Acceptable t₀ secret))

/-- The tables after some scans: tickets have been redeemed that were scanned acceptably, and orders
with all their tickets. -/
structure CheckedIn (t₀ : Tables) (secret : SigningSecret) (past : List Scan) (t : Tables) :
    Prop where
  tickets : ∃ f : Ticket → Ticket, t.tickets = t₀.tickets.map f ∧ (∀ k, (f k).SameIssue k) ∧
    ∀ k ∈ t₀.tickets, (f k).isRedeemed = true ↔ k.isRedeemed = true ∨ t₀.Accepted secret past k.id
  status : ∀ id, t.statusOf id = (t₀.statusOf id).map fun status =>
    if status.isPurchased && t.usedUp id then .redeemed else status

theorem sameIssue_id {k k' : Ticket} (h : k.SameIssue k') : k.id = k'.id := by rw [h]

theorem sameIssue_orderId {k k' : Ticket} (h : k.SameIssue k') : k.orderId = k'.orderId := by rw [h]

theorem sameIssue_authenticate {k k' : Ticket} (h : k.SameIssue k') (token : Option String) :
    Redemption.authenticateGiven secret k token = Redemption.authenticateGiven secret k' token := by
  have hmismatch : ∀ claims : Claims, claims.mismatch? k = claims.mismatch? k' := fun claims => by
    rw [h]
    rfl
  have hdigest : k.qrPayloadHash = k'.qrPayloadHash := by rw [h]
  cases token with
  | none => rfl
  | some token =>
    simp only [Redemption.authenticateGiven, Redemption.authenticate, hmismatch, hdigest]

namespace CheckedIn

variable (h : CheckedIn t₀ secret past t)

include h

theorem ticket {k₀ : Ticket} {id : TicketId} (hk : t₀.ticket? id = some k₀) :
    ∃ k, t.ticket? id = some k ∧ k.SameIssue k₀ ∧
      (k.isRedeemed = true ↔ k₀.isRedeemed = true ∨ t₀.Accepted secret past id) := by
  obtain ⟨f, htickets, hsame, hredeemed⟩ := h.tickets
  obtain ⟨hmem, rfl⟩ := mem_of_ticket? hk
  exact ⟨f k₀, by rw [ticket?_map htickets (fun k => sameIssue_id (hsame k)), hk]; rfl,
    hsame k₀, hredeemed k₀ hmem⟩

theorem ticket_before {k : Ticket} {id : TicketId} (hk : t.ticket? id = some k) :
    ∃ k₀, t₀.ticket? id = some k₀ ∧ k.SameIssue k₀ ∧
      (k.isRedeemed = true ↔ k₀.isRedeemed = true ∨ t₀.Accepted secret past id) := by
  obtain ⟨f, htickets, hsame, hredeemed⟩ := h.tickets
  rw [ticket?_map htickets (fun k => sameIssue_id (hsame k))] at hk
  obtain ⟨k₀, hk₀, rfl⟩ := Option.map_eq_some_iff.mp hk
  obtain ⟨hmem, rfl⟩ := mem_of_ticket? hk₀
  exact ⟨k₀, hk₀, hsame k₀, hredeemed k₀ hmem⟩

theorem sold (id : OrderId) :
    (t.statusOf id).map (·.isPurchased) = (t₀.statusOf id).map (·.isPurchased) := by
  rw [h.status id, Option.map_map]
  refine congrArg (Option.map · (t₀.statusOf id)) (funext fun status => ?_)
  show OrderStatus.isPurchased (if _ then _ else _) = _
  split
  · next hsold => exact (Bool.and_eq_true_iff.mp hsold).1.symm
  · rfl

theorem acceptable_of_admission {k : Ticket} {order : Order}
    (hadmitted : t.admission secret scan.ticket (scan.token.bind Text.nonBlank?) = .ok (k, order)) :
    scan.Acceptable t₀ secret ∧ ¬ t₀.Accepted secret past scan.ticket := by
  obtain ⟨hk, ho, hunredeemed, hpurchased, hauth⟩ := admission_eq_ok_iff.mp hadmitted
  obtain ⟨k₀, hk₀, hsame, hredeemed⟩ := h.ticket_before hk
  rw [hunredeemed] at hredeemed
  have hold := not_or.mp fun e => Bool.false_ne_true (hredeemed.mpr e)
  -- Its order may have been redeemed meanwhile, but it was sold from the start.
  have hsold := h.sold k.orderId
  rw [statusOf, statusOf, ho, Option.map_map, Option.map_map] at hsold
  obtain ⟨order₀, ho₀, hpurchased₀⟩ := Option.map_eq_some_iff.mp hsold.symm
  rw [sameIssue_orderId hsame] at ho₀
  rw [sameIssue_authenticate hsame] at hauth
  exact ⟨acceptable_iff.mpr ⟨k₀, order₀, admission_eq_ok_iff.mpr
    ⟨hk₀, ho₀, Bool.eq_false_iff.mpr hold.1, hpurchased₀.trans hpurchased, hauth⟩⟩, hold.2⟩

theorem admission_of_acceptable (hacceptable : scan.Acceptable t₀ secret) :
    t₀.Accepted secret past scan.ticket ∧
      t.admission secret scan.ticket (scan.token.bind Text.nonBlank?) =
        .error (.ticketAlreadyRedeemed scan.ticket) ∨
      ∃ k order, t.admission secret scan.ticket (scan.token.bind Text.nonBlank?) =
        .ok (k, order) := by
  obtain ⟨k₀, order₀, hadmitted⟩ := acceptable_iff.mp hacceptable
  obtain ⟨hk₀, ho₀, hunredeemed, hpurchased, hauth⟩ := admission_eq_ok_iff.mp hadmitted
  obtain ⟨k, hk, hsame, hredeemed⟩ := h.ticket hk₀
  have hsold := h.sold k₀.orderId
  rw [statusOf, statusOf, ho₀, Option.map_map, Option.map_map] at hsold
  obtain ⟨order, ho, hpurchased'⟩ := Option.map_eq_some_iff.mp hsold
  rw [← sameIssue_orderId hsame] at ho
  rw [← sameIssue_authenticate hsame] at hauth
  -- The order is still sold and the token still good, so only the ticket can be in the way.
  cases hr : k.isRedeemed with
  | true =>
    rw [hr, hunredeemed] at hredeemed
    refine .inl ⟨(hredeemed.mp rfl).resolve_left Bool.false_ne_true, ?_⟩
    rw [admission, hk]
    simp only [ho, hr, if_true]
  | false =>
    exact .inr ⟨k, order, admission_eq_ok_iff.mpr ⟨hk, ho, hr, hpurchased'.trans hpurchased, hauth⟩⟩

theorem distinct (hd : t₀.TicketsDistinct) : t.TicketsDistinct := by
  obtain ⟨f, htickets, hsame, -⟩ := h.tickets
  rw [TicketsDistinct, htickets]
  exact hd.mapTickets fun k => sameIssue_id (hsame k)

theorem cons_of_not (hscan : scan.Acceptable t₀ secret → t₀.Accepted secret past scan.ticket) :
    CheckedIn t₀ secret (scan :: past) t := by
  have haccepted : ∀ id, t₀.Accepted secret (scan :: past) id ↔ t₀.Accepted secret past id := by
    intro id
    rw [accepted_cons]
    refine ⟨fun e => e.elim (fun ⟨e, hacceptable⟩ => e ▸ hscan hacceptable) fun e => e, .inr⟩
  refine ⟨?_, h.status⟩
  simp only [haccepted]
  exact h.tickets

theorem tickets_redeemed {k : Ticket} {order : Order} (hd : t₀.TicketsDistinct)
    (hadmitted : t.admission secret scan.ticket (scan.token.bind Text.nonBlank?) = .ok (k, order))
    (operator : OperatorId) (now : Time.Instant) :
    ∃ f : Ticket → Ticket, (t.redeemed k operator now).tickets = t₀.tickets.map f ∧
      (∀ k, (f k).SameIssue k) ∧ ∀ k ∈ t₀.tickets, (f k).isRedeemed = true ↔ k.isRedeemed = true ∨
        t₀.Accepted secret (scan :: past) k.id := by
  obtain ⟨hacceptable, -⟩ := h.acceptable_of_admission hadmitted
  obtain ⟨hk, -⟩ := admission_eq_ok_iff.mp hadmitted
  have hid : k.id = scan.ticket := (mem_of_ticket? hk).2
  obtain ⟨f, htickets, hsame, hredeemed⟩ := h.tickets
  refine ⟨fun k₀ => if (f k₀).id = k.id then (f k₀).redeem operator now else f k₀, ?_,
    fun k₀ => ?_, fun k₀ hk₀ => ?_⟩
  · rw [Tables.tickets_redeemed t k operator now (h.distinct hd), htickets, List.map_map]
    rfl
  · dsimp only
    split
    · rw [Ticket.SameIssue, hsame k₀]
      rfl
    · exact hsame k₀
  · rw [accepted_cons, or_left_comm, ← hredeemed k₀ hk₀, ← hid, ← sameIssue_id (hsame k₀)]
    dsimp only
    split
    · next e => exact ⟨fun _ => .inl ⟨e.symm, hacceptable⟩, fun _ => rfl⟩
    · next e => exact ⟨.inr, fun e' => e'.resolve_left fun e' => e e'.1.symm⟩

theorem status_redeemed {k : Ticket} {order : Order} {token : Option String} {id : TicketId}
    (hd : t₀.TicketsDistinct) (hadmitted : t.admission secret id token = .ok (k, order))
    (operator : OperatorId) (now : Time.Instant) (id' : OrderId) :
    (t.redeemed k operator now).statusOf id' = (t₀.statusOf id').map fun status =>
      if status.isPurchased && (t.redeemed k operator now).usedUp id' then
        .redeemed else status := by
  obtain ⟨hk, ho, hunredeemed, hpurchased, -⟩ := admission_eq_ok_iff.mp hadmitted
  have hmem : k ∈ t.tickets := (mem_of_ticket? hk).1
  have hstatus := h.status id'
  rw [statusOf, orders_redeemed, usedUp_redeemed]
  by_cases e : id' = k.orderId
  · subst e
    -- The ticket was not redeemed before, so the order still has the status it started with.
    have hleft : t.usedUp k.orderId = false :=
      usedUp_eq_false (mem_ticketsOf.mpr ⟨hmem, rfl⟩) hunredeemed
    simp only [hleft, Bool.and_false, Bool.false_eq_true, if_false, Option.map_id'] at hstatus
    rw [← hstatus, statusOf, ho, Option.map_some, Option.map_some, hpurchased, Bool.true_and]
    split
    · rw [Table.get?_modify, if_pos rfl, ho]
      rfl
    · rw [ho]
      rfl
  · have hused : (t.redeemed k operator now).usedUp id' = t.usedUp id' := by
      rw [usedUp, usedUp, ticketsOf_redeemed_of_ne (h.distinct hd) hmem operator now e]
    rw [hused, ← hstatus]
    split
    · rw [Table.get?_modify, if_neg e]
      rfl
    · rfl

end CheckedIn

theorem checkedIn_start
    (ha : ∀ id order, t₀.orders.get? id = some order → order.Agrees (t₀.ticketsOf id)) :
    CheckedIn t₀ secret [] t₀ := by
  refine ⟨⟨fun k => k, (List.map_id' _).symm, fun _ => rfl, fun k _ => ?_⟩, fun id => ?_⟩
  · simp [Accepted]
  · rcases ho : t₀.orders.get? id with _ | order
    · simp [statusOf, ho]
    · have hstays : (if order.status.isPurchased && t₀.usedUp id then .redeemed else order.status) =
          order.status := by
        cases hs : order.status with
        | paid =>
          obtain ⟨-, -, k, hk, hunredeemed⟩ := (ha id order ho).paid hs
          rw [usedUp_eq_false hk hunredeemed]
          rfl
        | redeemed => exact ite_self _
        | pending => rfl
        | canceled => rfl
      rw [statusOf, ho, Option.map_some, Option.map_some, hstays]

theorem statusOf_redeemed (k : Ticket) (operator : OperatorId) (now : Time.Instant) {id : OrderId}
    (h : t.statusOf id = some .redeemed) :
    (t.redeemed k operator now).statusOf id = some .redeemed := by
  rw [statusOf, orders_redeemed]
  split
  · rw [Table.get?_modify]
    split
    · obtain ⟨order, ho, -⟩ := Option.map_eq_some_iff.mp h
      rw [ho]
      rfl
    · exact h
  · exact h

theorem usedUp_of_agrees {id : OrderId} {order : Order} (ha : order.Agrees (t₀.ticketsOf id))
    (hs : order.status = .redeemed) : t₀.usedUp id = true := List.all_eq_true.mpr (ha.redeemed hs).2

theorem CheckedIn.redeemed_iff (h : CheckedIn t₀ secret past t)
    (hd : t₀.TicketsDistinct) {id : OrderId} {order : Order} (ho : t₀.orders.get? id = some order)
    (ha : order.Agrees (t₀.ticketsOf id)) :
    t.statusOf id = some .redeemed ↔ order.status = .redeemed ∨ t₀.usedUp id = false ∧
      t.usedUp id = true := by
  have hstatus := h.status id
  have ho' : t₀.statusOf id = some order.status := by rw [statusOf, ho, Option.map_some]
  rw [ho', Option.map_some] at hstatus
  rw [hstatus, Option.some.injEq]
  constructor
  · intro e
    split at e
    · next hsold =>
      obtain ⟨hpurchased, hused⟩ := Bool.and_eq_true_iff.mp hsold
      refine (isPurchased_iff.mp hpurchased).elim (fun hpaid => .inr ⟨?_, hused⟩) .inl
      obtain ⟨-, -, k, hk, hunredeemed⟩ := ha.paid hpaid
      exact usedUp_eq_false hk hunredeemed
    · exact .inl e
  · rintro (hs | ⟨hleft, hused⟩)
    · rw [hs]
      exact ite_self _
    · -- The ticket that was left has been redeemed, so one of the scans found the order sold.
      obtain ⟨k₀, hk₀, hunredeemed⟩ := List.all_eq_false.mp hleft
      obtain ⟨hmem, horder⟩ := mem_ticketsOf.mp hk₀
      obtain ⟨f, htickets, hsame, hredeemed⟩ := h.tickets
      have hnow : (f k₀).isRedeemed = true := by
        refine List.all_eq_true.mp hused _
          (mem_ticketsOf.mpr ⟨?_, (sameIssue_orderId (hsame k₀)).trans horder⟩)
        rw [htickets]
        exact List.mem_map_of_mem hmem
      obtain ⟨scan, -, hid, k, order', hk, -, hto, hsold, -⟩ :=
        ((hredeemed k₀ hmem).mp hnow).resolve_left hunredeemed
      obtain ⟨hmem', e⟩ := mem_of_ticket? hk
      cases List.inj_on_of_nodup_map hd hmem' hmem (e.trans hid)
      rw [horder, ho] at hto
      cases hto
      rw [isPurchased_iff.mpr hsold, hused]
      rfl

section

variable {past' : List Scan} (h : CheckedIn t₀ secret past t) (h' : CheckedIn t₀ secret past' t')

include h

theorem CheckedIn.isRedeemed_iff (id : TicketId) :
    t.IsRedeemed id ↔ t₀.IsRedeemed id ∨ (t₀.ticket? id).isSome ∧ t₀.Accepted secret past id := by
  constructor
  · rintro ⟨k, hk, hredeemed⟩
    obtain ⟨k₀, hk₀, -, hiff⟩ := h.ticket_before hk
    exact (hiff.mp hredeemed).imp (fun e => ⟨k₀, hk₀, e⟩) fun e => ⟨by rw [hk₀]; rfl, e⟩
  · rintro (⟨k₀, hk₀, hredeemed⟩ | ⟨hsome, haccepted⟩)
    · obtain ⟨k, hk, -, hiff⟩ := h.ticket hk₀
      exact ⟨k, hk, hiff.mpr (.inl hredeemed)⟩
    · obtain ⟨k₀, hk₀⟩ := Option.isSome_iff_exists.mp hsome
      obtain ⟨k, hk, -, hiff⟩ := h.ticket hk₀
      exact ⟨k, hk, hiff.mpr (.inr haccepted)⟩

theorem CheckedIn.usedUp_iff (id : OrderId) :
    t.usedUp id = true ↔ ∀ k ∈ t₀.ticketsOf id, k.isRedeemed = true ∨
      t₀.Accepted secret past k.id := by
  obtain ⟨f, htickets, hsame, hredeemed⟩ := h.tickets
  rw [usedUp, ticketsOf_map htickets fun k => sameIssue_orderId (hsame k),
    List.all_map, List.all_eq_true]
  exact forall₂_congr fun k hk => hredeemed k (mem_ticketsOf.mp hk).1

include h'

theorem CheckedIn.unique (hsame : ∀ id, t₀.Accepted secret past id ↔ t₀.Accepted secret past' id) :
    (∀ id, t.IsRedeemed id ↔ t'.IsRedeemed id) ∧ ∀ id, t.statusOf id = t'.statusOf id := by
  refine ⟨fun id => by rw [h.isRedeemed_iff, h'.isRedeemed_iff, hsame], fun id => ?_⟩
  have hused : t.usedUp id = t'.usedUp id := by
    rw [Bool.eq_iff_iff, h.usedUp_iff, h'.usedUp_iff]
    simp only [hsame]
  rw [h.status, h'.status, hused]

end

end Memory.Tables

namespace Memory.State

open Tables

variable {σ : Type} (channel : Channel σ) (env : Environment)

structure CheckIn (σ : Type) where
  before : State σ
  scan : Scan
  reply : Except TicketingError RedemptionOutcome
  after : State σ

def checkIn (s : State σ) (scan : Scan) : CheckIn σ :=
  let (reply, after) := serve channel (redeemTicket env scan.ticket scan.operator scan.token) s
  ⟨s, scan, reply, after⟩

def checkIns (s : State σ) : List Scan → List (CheckIn σ)
  | [] => []
  | scan :: rest => checkIn channel env s scan :: checkIns (checkIn channel env s scan).after rest

def afterCheckIns (s : State σ) (schedule : List Scan) : State σ :=
  schedule.foldl (fun s scan => (checkIn channel env s scan).after) s

def successes (made : List (CheckIn σ)) (id : TicketId) : Nat :=
  made.countP fun c => c.scan.ticket == id && c.reply.isOk

def turns (made : List (CheckIn σ)) (id : OrderId) : Nat :=
  made.countP fun c =>
    c.before.committed.statusOf id != some .redeemed &&
      c.after.committed.statusOf id == some .redeemed

variable {env} {s : State σ} {t₀ : Tables} {past : List Scan}

/-- A scan succeeds exactly if it was acceptable at first and is the first such scan of its
ticket. -/
theorem checkIn_outcome (hd : t₀.TicketsDistinct) (h : CheckedIn t₀ env.secret past s.committed)
    (scan : Scan) : ((checkIn channel env s scan).reply.isOk = true ↔
      scan.Acceptable t₀ env.secret ∧ ¬ t₀.Accepted env.secret past scan.ticket) ∧
    (scan.Acceptable t₀ env.secret → t₀.Accepted env.secret past scan.ticket →
      (checkIn channel env s scan).reply = .error (.ticketAlreadyRedeemed scan.ticket)) ∧
    CheckedIn t₀ env.secret (scan :: past) (checkIn channel env s scan).after.committed ∧
    ∀ id, s.committed.statusOf id = some .redeemed →
      (checkIn channel env s scan).after.committed.statusOf id = some .redeemed := by
  obtain ⟨after, -, hserve⟩ := serve_redeemTicket channel s env scan.ticket scan.operator scan.token
  rcases ha : s.committed.admission env.secret scan.ticket (scan.token.bind Text.nonBlank?) with
    e | ⟨k, order⟩ <;>
    rw [ha] at hserve <;> simp only [checkIn, hserve]
  · have hlate : scan.Acceptable t₀ env.secret → t₀.Accepted env.secret past scan.ticket ∧
        e = .ticketAlreadyRedeemed scan.ticket := by
      intro hacceptable
      rcases h.admission_of_acceptable hacceptable with ⟨hpast, he⟩ | ⟨k, order, hok⟩
      · exact ⟨hpast, Except.error.inj (ha.symm.trans he)⟩
      · rw [ha] at hok
        cases hok
    refine ⟨⟨fun hok => ?_, fun ⟨hacceptable, hfirst⟩ => (hfirst (hlate hacceptable).1).elim⟩,
      ?_, ?_, fun _ hs => hs⟩
    · cases hok
    · exact fun hacceptable _ => congrArg Except.error (hlate hacceptable).2
    · exact h.cons_of_not fun hacceptable => (hlate hacceptable).1
  · have hfirst := h.acceptable_of_admission ha
    refine ⟨⟨fun _ => hfirst, fun _ => rfl⟩, fun _ hpast => (hfirst.2 hpast).elim, ?_, ?_⟩
    · exact ⟨h.tickets_redeemed hd ha _ _, h.status_redeemed hd ha _ _⟩
    · exact fun id hs => statusOf_redeemed k _ _ hs

theorem successes_cons (s : State σ) (scan : Scan) (rest : List Scan) (id : TicketId) :
    successes (checkIns channel env s (scan :: rest)) id =
      successes (checkIns channel env (checkIn channel env s scan).after rest) id +
        if scan.ticket = id ∧ (checkIn channel env s scan).reply.isOk = true then 1 else 0 := by
  have hscan : (checkIn channel env s scan).scan = scan := rfl
  rw [successes, checkIns, List.countP_cons, hscan]
  simp only [Bool.and_eq_true, beq_iff_eq]
  rfl

theorem successes_eq (hd : t₀.TicketsDistinct) (h : CheckedIn t₀ env.secret past s.committed)
    (schedule : List Scan) (id : TicketId) :
    (¬ t₀.Accepted env.secret past id → t₀.Accepted env.secret schedule id →
      successes (checkIns channel env s schedule) id = 1) ∧
    (t₀.Accepted env.secret past id ∨ ¬ t₀.Accepted env.secret schedule id →
      successes (checkIns channel env s schedule) id = 0) := by
  -- By induction on the schedule, whatever was scanned before: after the first acceptable scan of
  -- the ticket the second part holds of the rest.
  induction schedule generalizing past s with
  | nil => exact ⟨fun _ ⟨_, hmem, _⟩ => (List.not_mem_nil hmem).elim, fun _ => rfl⟩
  | cons scan rest ih =>
    obtain ⟨hok, -, hnext, -⟩ := checkIn_outcome channel hd h scan
    obtain ⟨hone, hnone⟩ := ih hnext
    rw [accepted_cons] at hone hnone
    rw [accepted_cons, successes_cons]
    by_cases hscan : scan.ticket = id ∧ scan.Acceptable t₀ env.secret
    · obtain ⟨rfl, hacceptable⟩ := hscan
      rw [hnone (.inl (.inl ⟨rfl, hacceptable⟩)), Nat.zero_add]
      refine ⟨fun hfirst _ => if_pos ⟨rfl, hok.mpr ⟨hacceptable, hfirst⟩⟩,
        fun hpast => if_neg fun hsuccess => ?_⟩
      exact hpast.elim (hok.mp hsuccess.2).2 fun e => e (.inl ⟨rfl, hacceptable⟩)
    · rw [if_neg fun hsuccess => hscan ⟨hsuccess.1, (hok.mp hsuccess.2).1⟩, Nat.add_zero]
      simp only [hscan, false_or] at hone hnone ⊢
      exact ⟨hone, hnone⟩

theorem checkIns_replies (hd : t₀.TicketsDistinct) (h : CheckedIn t₀ env.secret past s.committed)
    (schedule : List Scan) :
    ∀ c ∈ checkIns channel env s schedule,
      (c.reply.isOk = true → c.scan.Acceptable t₀ env.secret) ∧
      (c.scan.Acceptable t₀ env.secret →
        c.reply.isOk = true ∨ c.reply = .error (.ticketAlreadyRedeemed c.scan.ticket)) := by
  induction schedule generalizing past s with
  | nil => exact fun _ hc => (List.not_mem_nil hc).elim
  | cons scan rest ih =>
    obtain ⟨hok, hlate, hnext, -⟩ := checkIn_outcome channel hd h scan
    refine List.forall_mem_cons.mpr ⟨⟨fun e => (hok.mp e).1, fun hacceptable => ?_⟩, ih hnext⟩
    by_cases hpast : t₀.Accepted env.secret past scan.ticket
    · exact .inr (hlate hacceptable hpast)
    · exact .inl (hok.mpr ⟨hacceptable, hpast⟩)

theorem checkedIn_after (hd : t₀.TicketsDistinct) (h : CheckedIn t₀ env.secret past s.committed)
    (schedule : List Scan) :
    CheckedIn t₀ env.secret (schedule.reverse ++ past)
      (afterCheckIns channel env s schedule).committed := by
  induction schedule generalizing past s with
  | nil => exact h
  | cons scan rest ih =>
    rw [List.reverse_cons, List.append_assoc]
    exact ih (checkIn_outcome channel hd h scan).2.2.1

theorem afterCheckIns_cons (s : State σ) (scan : Scan) (rest : List Scan) :
    afterCheckIns channel env s (scan :: rest) =
      afterCheckIns channel env (checkIn channel env s scan).after rest := rfl

theorem turns_cons (s : State σ) (scan : Scan) (rest : List Scan) (id : OrderId) :
    turns (checkIns channel env s (scan :: rest)) id =
      turns (checkIns channel env (checkIn channel env s scan).after rest) id +
        if s.committed.statusOf id ≠ some .redeemed ∧
          (checkIn channel env s scan).after.committed.statusOf id =
            some .redeemed then 1 else 0 := by
  have hbefore : (checkIn channel env s scan).before = s := rfl
  rw [turns, checkIns, List.countP_cons, hbefore]
  simp only [Bool.and_eq_true, bne_iff_ne, beq_iff_eq]
  rfl

theorem turns_add (hd : t₀.TicketsDistinct) (h : CheckedIn t₀ env.secret past s.committed)
    (schedule : List Scan) (id : OrderId) :
    turns (checkIns channel env s schedule) id +
      (if s.committed.statusOf id = some .redeemed then 1 else 0) =
      if (afterCheckIns channel env s schedule).committed.statusOf id =
        some .redeemed then 1 else 0 := by
  induction schedule generalizing past s with
  | nil => exact Nat.zero_add _
  | cons scan rest ih =>
    obtain ⟨-, -, hnext, hstays⟩ := checkIn_outcome channel hd h scan
    rw [turns_cons, afterCheckIns_cons, ← ih hnext, Nat.add_assoc]
    congr 1
    -- What is left is one scan: a redeemed order stays redeemed, any other is counted by whether it
    -- is after it.
    by_cases hs : s.committed.statusOf id = some .redeemed
    · rw [if_neg fun e => e.1 hs, if_pos hs, if_pos (hstays id hs)]
    · rw [if_neg hs, Nat.add_zero]
      simp only [ne_eq, hs, not_false_eq_true, true_and]

theorem turns_eq (hd : s.committed.TicketsDistinct)
    (h : CheckedIn s.committed env.secret [] s.committed) (schedule : List Scan) {id : OrderId}
    {order : Order} (ho : s.committed.orders.get? id = some order)
    (ha : order.Agrees (s.committed.ticketsOf id)) : turns (checkIns channel env s schedule) id =
      if s.committed.usedUp id = false ∧
        (afterCheckIns channel env s schedule).committed.usedUp id = true then 1
      else 0 := by
  have hturns := turns_add channel hd h schedule id
  have hbefore := h.redeemed_iff hd ho ha
  have hafter := (checkedIn_after channel hd h schedule).redeemed_iff hd ho ha
  simp only [hbefore, hafter] at hturns
  by_cases hs : order.status = .redeemed
  · rw [if_pos (.inl hs), if_pos (.inl hs)] at hturns
    rw [if_neg fun e => Bool.false_ne_true (e.1.symm.trans (usedUp_of_agrees ha hs))]
    exact Nat.add_right_cancel (hturns.trans (Nat.zero_add 1).symm)
  · have hused : ¬ (s.committed.usedUp id = false ∧ s.committed.usedUp id = true) :=
      fun e => Bool.false_ne_true (e.1.symm.trans e.2)
    simpa only [hs, hused, false_or, if_false, Nat.add_zero] using hturns

def withClock (s : State σ) (clock : Clock) : State σ :=
  { s with sources := { s.sources with clock := clock } }

/-- Scans of tickets may be made in any order and at any times. Of the acceptable ones of a ticket
exactly one succeeds and the others find it redeemed; which tickets are redeemed in the end and how
orders stand does not depend on the order; and an order becomes redeemed once, with its last
ticket. -/
theorem check_in_any_order (h : Reachable channel anyCall s)
    (hfresh : s.sources.ids.Fresh) (env : Environment) {scans schedule : List Scan}
    (hperm : scans.Perm schedule) (clock : Clock) :
    (∀ id, (s.committed.Accepted env.secret scans id →
        successes (checkIns channel env (s.withClock clock) schedule) id = 1) ∧
      (¬ s.committed.Accepted env.secret scans id →
        successes (checkIns channel env (s.withClock clock) schedule) id = 0)) ∧
    (∀ c ∈ checkIns channel env (s.withClock clock) schedule,
      (c.reply.isOk = true → c.scan.Acceptable s.committed env.secret) ∧
      (c.scan.Acceptable s.committed env.secret →
        c.reply.isOk = true ∨ c.reply = .error (.ticketAlreadyRedeemed c.scan.ticket))) ∧
    (∀ id order, s.committed.orders.get? id = some order →
      turns (checkIns channel env (s.withClock clock) schedule) id =
        if s.committed.usedUp id = false ∧
          (afterCheckIns channel env (s.withClock clock) schedule).committed.usedUp id =
            true then 1 else 0) ∧
    ∀ (schedule' : List Scan) (clock' : Clock), scans.Perm schedule' →
      (∀ id, (afterCheckIns channel env (s.withClock clock) schedule).committed.IsRedeemed id ↔
        (afterCheckIns channel env (s.withClock clock') schedule').committed.IsRedeemed id) ∧
      ∀ id, (afterCheckIns channel env (s.withClock clock) schedule).committed.statusOf id =
        (afterCheckIns channel env (s.withClock clock') schedule').committed.statusOf id := by
  have hd := (h.wellFormed hfresh).consistent.distinct
  have hstart : ∀ clock, CheckedIn s.committed env.secret [] (s.withClock clock).committed :=
    fun _ =>
    checkedIn_start fun id order ho => h.agrees hfresh ho
  have hnone : ∀ id, ¬ s.committed.Accepted env.secret [] id :=
    fun id ⟨_, hmem, _⟩ => List.not_mem_nil hmem
  have hafter : ∀ (schedule : List Scan) (clock : Clock),
      CheckedIn s.committed env.secret schedule.reverse
      (afterCheckIns channel env (s.withClock clock) schedule).committed := fun schedule clock => by
    simpa only [List.append_nil] using checkedIn_after channel hd (hstart clock) schedule
  refine ⟨fun id => ?_, checkIns_replies channel hd (hstart clock) schedule,
    fun id order ho => ?_, ?_⟩
  · obtain ⟨hone, hzero⟩ := successes_eq channel hd (hstart clock) schedule id
    rw [accepted_perm hperm]
    exact ⟨hone (hnone id), fun e => hzero (.inr e)⟩
  · exact turns_eq channel (s := s.withClock clock) hd (hstart clock) schedule ho
      (h.agrees hfresh ho)
  · intro schedule' clock' hperm'
    refine (hafter schedule clock).unique (hafter schedule' clock') fun id => accepted_perm ?_ id
    exact (List.reverse_perm schedule).trans
      (hperm.symm.trans (hperm'.trans (List.reverse_perm schedule').symm))

theorem check_in_any_order_two_doors :
    let doors : List Scan := [⟨Sample.ticket 0, Sample.operator, none⟩,
      ⟨Sample.ticket 1, Sample.operator, some " "⟩, ⟨Sample.ticket 0, Sample.operator, none⟩]
    let made := checkIns .log Sample.environment
      ((Sample.store Sample.untilPaid).withClock (.fixed Sample.time)) doors
    successes made (Sample.ticket 0) = 1 ∧ successes made (Sample.ticket 1) = 1 ∧
      turns made Sample.order = 1 := by
  intro doors made
  have hfresh := Sample.store_fresh Sample.untilPaid (by decide +kernel)
  obtain ⟨honce, -, hturns, -⟩ :=
    check_in_any_order .log (Sample.store_reachable Sample.untilPaid) hfresh
    Sample.environment (List.Perm.refl doors) (.fixed Sample.time)
  have hpaid : ((Sample.store Sample.untilPaid).committed.orders.get? Sample.order).isSome =
      true := by decide +kernel
  obtain ⟨order, ho⟩ := Option.isSome_iff_exists.mp hpaid
  refine ⟨(honce (Sample.ticket 0)).1 (by decide +kernel),
    (honce (Sample.ticket 1)).1 (by decide +kernel), ?_⟩
  exact (hturns Sample.order order ho).trans (if_pos (by decide +kernel))

end Memory.State

end EventTickets
