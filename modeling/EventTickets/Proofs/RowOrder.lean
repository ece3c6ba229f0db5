import EventTickets.Proofs.AllOrNothing
import EventTickets.Proofs.ConfirmationAcceptance
import EventTickets.Proofs.Sql.Taking

/-!
# Rows are taken in one order

Over a connection the calls that make a transaction take the stored rows in one order, whatever the
database answers, as long as what it finds for an order belongs to that order. So no such
transactions can wait for one another in a circle.
-/

namespace EventTickets

open Service Sql

variable {σ : Type} {channel : Channel σ} {own : Owners} {unique : Prop}
  {rows products : List TableRow}

namespace Quote

theorem holding_addTickets (who : QuoteFor) (tier : TicketType) (tickets : List NewTicket) (n : Nat)
    {among : TableRow → Prop} :
    Leads (rowAccount channel own unique) (Holding own unique among rows)
      (addTickets who tier tickets n) fun _ =>
      Holding own unique among rows := by
  induction n generalizing tickets with
  | zero => exact leads_pure fun g hg => hg
  | succ n ih => exact leads_bind leads_newId fun id => ih _

theorem holding_addTicketLine (who : QuoteFor) (quote : Quote)
    (product : ProductId) (quantity : UInt32) (h : Shelved (.product .ticket product :: products)) :
    Leads (rowAccount channel own unique)
      (Holding own unique (Ahead (.product .ticket product :: products)) rows)
      (addTicketLine who quote product quantity) fun _ =>
        Holding own unique (Ahead products) rows := by
  refine leads_bind (h.take rfl) fun found => ?_
  refine leads_bind (holding_demand _ _) fun p => ?_
  refine leads_bind (holding_demand _ _) fun total => ?_
  refine leads_bind (holding_demand _ _) fun subtotal => ?_
  exact leads_bind (holding_addTickets _ _ _ _) fun tickets => leads_pure fun g hg => hg

theorem holding_addTransferLine (who : QuoteFor) (quote : Quote)
    (product : ProductId) (quantity : UInt32)
    (h : Shelved (.product .transfer product :: products)) :
    Leads (rowAccount channel own unique)
      (Holding own unique (Ahead (.product .transfer product :: products)) rows)
      (addTransferLine who quote product quantity) fun _ =>
        Holding own unique (Ahead products) rows := by
  refine leads_bind (h.take rfl) fun found => ?_
  refine leads_bind (holding_demand _ _) fun p => ?_
  refine leads_bind (holding_demand _ _) fun total => ?_
  exact leads_bind (holding_demand _ _) fun subtotal => leads_pure fun g hg => hg

theorem holding_addTicketLines (who : QuoteFor) (quote : Quote) (lines : List (ProductId × UInt32))
    (h : Shelved (lines.map (fun line => .product .ticket line.1) ++ products)) :
    Leads (rowAccount channel own unique)
      (Holding own unique (Ahead (lines.map (fun line => .product .ticket line.1) ++ products))
        rows)
      (addTicketLines who quote lines) fun _ => Holding own unique (Ahead products) rows := by
  induction lines generalizing quote with
  | nil => exact leads_pure fun g hg => hg
  | cons line rest ih =>
    exact leads_bind (holding_addTicketLine _ _ _ _ h) fun next => ih next h.tail

theorem holding_addTransferLines (who : QuoteFor) (quote : Quote)
    (lines : List (ProductId × UInt32))
    (h : Shelved (lines.map fun line => .product .transfer line.1)) :
    Leads (rowAccount channel own unique)
      (Holding own unique (Ahead (lines.map fun line => .product .transfer line.1)) rows)
      (addTransferLines who quote lines) fun _ => Holding own unique (Ahead []) rows := by
  induction lines generalizing quote with
  | nil => exact leads_pure fun g hg => hg
  | cons line rest ih =>
    exact leads_bind (holding_addTransferLine _ _ _ _ h) fun next => ih next h.tail

end Quote

namespace Purchase

def Intent.shelf (order : Intent) : List TableRow :=
  order.tickets.map (fun line => .product .ticket line.1) ++ order.transfers.map fun line =>
    .product .transfer line.1

theorem shelf_of_inOrder {order : Intent} (htickets : Basket.InOrder order.tickets)
    (htransfers : Basket.InOrder order.transfers) : Shelved order.shelf := by
  constructor
  · intro r hr
    rcases List.mem_append.mp hr with hr | hr <;> obtain ⟨line, -, rfl⟩ :=
      List.mem_map.mp hr <;> rfl
  · refine List.pairwise_append.mpr ⟨List.pairwise_map.mpr (htickets.imp fun h => ?_),
      List.pairwise_map.mpr (htransfers.imp fun h => ?_), fun r hr s hs => ?_⟩
    · exact TableRow.rank_le_iff.mpr (.inr ⟨rfl, h.le⟩)
    · exact TableRow.rank_le_iff.mpr (.inr ⟨rfl, h.le⟩)
    · obtain ⟨line, -, rfl⟩ := List.mem_map.mp hr
      obtain ⟨line', -, rfl⟩ := List.mem_map.mp hs
      exact (TableRow.rank_lt_of_stage_lt (by simp [TableRow.stage])).le

theorem check_shelf {policy : OrderPolicy} {request : CreateOrderRequest} {order : Intent}
    (h : check policy request = .ok order) : Shelved order.shelf := by
  simp only [check] at h
  split at h
  · cases h
  · split at h
    · split at h
      · cases h
      · cases h
        exact shelf_of_inOrder (Basket.merge_inOrder _ _) (Basket.merge_inOrder _ _)
    · cases h

theorem holding_applyPromoGiven (code : Option String) (event : EventId) (subtotalCents : Int64) :
    Leads (rowAccount channel own unique) (Holding own unique (·.stage ≤ 3) [])
      (applyPromoGiven code event subtotalCents) fun _ => Holding own unique (·.stage ≤ 4) [] := by
  cases code with
  | none => exact leads_pure fun g hg => hg.mono fun s hs => Nat.le_succ_of_le hs
  | some code =>
    refine leads_bind (holding_lockPromo code) fun found => ?_
    refine leads_bind (leads_demand fun g hg => hg.orderly) fun promo =>
      leads_given fun hfound => ?_
    subst hfound
    refine leads_bind leads_now fun now => ?_
    refine leads_bind (holding_liftExcept _) fun cents => ?_
    refine leads_bind (holding_named rfl (fun g hg => .inl (hg.taken _ (by simp)))
      (fun s hs => hs) (Nat.le_refl 4))
      fun applied => ?_
    refine leads_bind (holding_require _ _) fun _ => ?_
    exact leads_pure fun g hg => hg.also (by simp)

theorem holding_insertItems (items : List NewOrderItem) {among : TableRow → Prop} :
    Leads (rowAccount channel own unique) (Holding own unique among rows)
      (insertItems items) fun _ =>
      Holding own unique among rows := by
  induction items with
  | nil => exact leads_pure fun g hg => hg
  | cons item rest ih => exact leads_bind (holding_idle trivial) fun _ => ih

theorem holding_insertTickets (tickets : List NewTicket) {among : TableRow → Prop} :
    Leads (rowAccount channel own unique) (Holding own unique among rows)
      (insertTickets tickets) fun _ =>
      Holding own unique among rows := by
  induction tickets with
  | nil => exact leads_pure fun g hg => hg
  | cons ticket rest ih => exact leads_bind (holding_idle trivial) fun _ => ih

theorem holding_place (policy : OrderPolicy) {order : Intent} (h : Shelved order.shelf) :
    Leads (rowAccount channel own unique) (Holding own unique (fun _ => False) [])
      (place policy order) fun _ =>
      Holding own unique (·.stage ≤ 4) [] := by
  have hbasket : ∀ who, Leads (rowAccount channel own unique)
      (Holding own unique (fun _ => False) [])
      (Quote.ofBasket who order.tickets order.transfers) fun _ =>
      Holding own unique (·.stage ≤ 3) [] := by
    intro who
    refine Leads.mono (leads_bind (Quote.holding_addTicketLines _ _ _ h) fun quote =>
      Quote.holding_addTransferLines _ _ _ ?_) (fun g hg => hg.mono fun _ h => h.elim)
      fun quote g hg => hg.mono fun s hs => hs.1
    exact ⟨fun r hr => h.isProduct r (List.mem_append_right _ hr),
      (List.pairwise_append.mp h.sorted).2.1⟩
  refine leads_bind leads_now fun start => ?_
  refine leads_bind (holding_idle trivial) fun title => ?_
  refine leads_bind (holding_require _ _) fun _ => ?_
  refine leads_bind leads_newId fun id => ?_
  refine leads_bind leads_now fun time => ?_
  refine leads_bind (hbasket _) fun quote => ?_
  refine leads_bind (holding_require _ _) fun _ => ?_
  refine leads_bind (holding_applyPromoGiven _ _ _) fun discount => ?_
  refine leads_bind (holding_idle trivial) fun _ => ?_
  refine leads_bind (holding_insertItems _) fun _ => ?_
  refine leads_bind (holding_insertTickets _) fun _ => ?_
  exact leads_bind (holding_idle trivial) fun detail => holding_demand _ _

end Purchase

namespace OrderItem

def shelf (items : List OrderItem) : List TableRow :=
  items.map fun i => .product i.itemType i.productId

theorem shelf_reservationOrder (items : List OrderItem) :
    Shelved (shelf (reservationOrder items)) := by
  constructor
  · intro r hr
    obtain ⟨i, -, rfl⟩ := List.mem_map.mp hr
    rfl
  · refine List.pairwise_map.mpr ((reservationOrder_pairwise items).imp fun h => ?_)
    rename_i i j
    cases hi : i.itemType <;> cases hj : j.itemType <;>
      simp_all [reservedBefore, TableRow.rank_le_iff, TableRow.stage, TableRow.place]

end OrderItem

theorem holding_found {α : Type} {e : TicketingError} {among : TableRow → Prop} (found : Option α) :
    Leads (rowAccount channel own unique)
      (Holding own unique among (if found.isSome then rows else []))
      (demand e found) fun a g => found = some a ∧ Holding own unique among rows g := by
  cases found with
  | none => exact leads_throw fun g hg => hg.orderly
  | some a => exact leads_pure fun g hg => ⟨rfl, hg⟩

theorem holding_held {c : TransactionCall} {r : TableRow} {among : TableRow → Prop}
    (hc : Locking.named? c = some r) (hr : r ∈ rows) (hamong : among r) :
    Leads (rowAccount channel own unique) (Holding own unique among rows) (within c) fun _ =>
      Holding own unique among rows :=
  holding_named hc (fun _ hg => .inl (hg.taken r hr)) (fun _ hs => hs) hamong

namespace Confirmation

theorem holding_reserveItems (items : List OrderItem) (h : Shelved (OrderItem.shelf items)) :
    Leads (rowAccount channel own unique) (Holding own unique (Ahead (OrderItem.shelf items)) rows)
      (reserveItems items)
      fun _ => Holding own unique (·.stage ≤ 3) rows := by
  induction items with
  | nil => exact leads_pure fun g hg => hg.mono fun s hs => hs.1
  | cons item rest ih =>
    refine leads_bind (h.take rfl) fun reserved => ?_
    exact leads_bind (holding_require _ _) fun _ => ih h.tail

theorem holding_issueTokens (env : Environment) (now : Time.Instant) {id : OrderId}
    (tickets : List Ticket) (h : ∀ k ∈ tickets, own.ticket k.id = id) :
    Leads (rowAccount channel own unique) (Holding own unique (·.stage ≤ 5) [.order id])
      (issueTokens env now tickets)
      fun _ => Holding own unique (·.stage ≤ 5) [.order id] := by
  induction tickets with
  | nil => exact leads_pure fun g hg => hg
  | cons k rest ih =>
    obtain ⟨hk, hrest⟩ := List.forall_mem_cons.mp h
    have hissue : Leads (rowAccount channel own unique)
        (Holding own unique (·.stage ≤ 5) [.order id])
        (issueToken env k now) fun _ => Holding own unique (·.stage ≤ 5) [.order id] :=
      leads_bind (leads_newNonce _) fun nonce => leads_pure fun g hg => hg
    refine leads_bind hissue fun issued => ?_
    refine leads_bind (holding_named rfl (fun g hg => .inr ?_) (fun s hs => hs) (Nat.le_refl 5))
      fun _ => ih hrest
    exact hg.fits_part (congrArg some hk) (List.mem_singleton_self _) fun s hs => hs

theorem holding_confirm (env : Environment) (id : OrderId) (operator : OperatorId) :
    Leads (rowAccount channel own unique) (Holding own unique (fun _ => False) [])
      (confirm env id operator) fun _ =>
      Holding own unique (·.stage ≤ 5) [.order id] := by
  refine leads_bind leads_now fun now => ?_
  refine leads_bind (holding_lockOrder id) fun found => ?_
  refine leads_bind (holding_found found) fun order => leads_given fun _ => ?_
  refine leads_bind (holding_require _ _) fun _ => ?_
  refine leads_bind (holding_lockItems id) fun items => ?_
  have hshelf := OrderItem.shelf_reservationOrder items
  refine leads_bind ((holding_reserveItems _ hshelf).mono
    (fun g hg => hg.mono fun s hs => hshelf.ahead hs)
    fun _ _ h => h) fun _ => ?_
  refine leads_bind (holding_held rfl (List.mem_singleton_self _) (Nat.zero_le 3)) fun applied => ?_
  refine leads_bind (holding_require _ _) fun _ => ?_
  refine leads_bind (holding_lockTickets id fun s hs => Nat.le_trans hs (by decide)) fun tickets =>
    ?_
  refine leads_given fun htickets => ?_
  refine leads_bind (holding_issueTokens _ _ _ htickets) fun _ => ?_
  refine leads_bind (holding_idle trivial) fun purchaser => ?_
  refine leads_bind (holding_idle trivial) fun detail => ?_
  exact leads_bind (holding_demand _ _) fun _ => leads_pure fun g hg => hg

end Confirmation

namespace Cancellation

theorem holding_releaseItems (items : List OrderItem) (h : Shelved (OrderItem.shelf items)) :
    Leads (rowAccount channel own unique) (Holding own unique (Ahead (OrderItem.shelf items)) rows)
      (releaseItems items)
      fun _ => Holding own unique (·.stage ≤ 3) rows := by
  induction items with
  | nil => exact leads_pure fun g hg => hg.mono fun s hs => hs.1
  | cons item rest ih => exact leads_bind (h.take rfl) fun _ => ih h.tail

theorem holding_releaseStock (id : OrderId) (status : OrderStatus) :
    Leads (rowAccount channel own unique) (Holding own unique (·.stage ≤ 0) [.order id])
      (releaseStock id status)
      fun _ => Holding own unique (·.stage ≤ 3) [.order id] := by
  unfold releaseStock
  split
  · refine leads_bind (holding_lockItems id) fun items => ?_
    have hshelf := OrderItem.shelf_reservationOrder items
    exact (holding_releaseItems _ hshelf).mono
      (fun g hg => hg.mono fun s hs => hshelf.ahead hs) fun _ _ h => h
  · exact leads_pure fun g hg => hg.mono fun s hs => Nat.le_trans hs (Nat.zero_le 3)

theorem holding_releasePromoGiven (promo : Option PromoCodeId) :
    Leads (rowAccount channel own unique) (Holding own unique (·.stage ≤ 3) rows)
      (releasePromoGiven promo) fun _ =>
      Holding own unique (·.stage ≤ 4) rows := by
  cases promo with
  | none => exact leads_pure fun g hg => hg.mono fun s hs => Nat.le_succ_of_le hs
  | some id =>
    refine holding_named rfl (fun g hg => .inr (hg.fits_last rfl fun s hs => ?_))
      (fun s hs => Nat.le_succ_of_le hs)
      (Nat.le_refl 4)
    exact TableRow.rank_lt_of_stage_lt (Nat.lt_succ_of_le hs)

theorem holding_cancel (id : OrderId) (operator : OperatorId) (reason : Option String) :
    Leads (rowAccount channel own unique) (Holding own unique (fun _ => False) [])
      (cancel id operator reason) fun _ =>
      Holding own unique (·.stage ≤ 4) [.order id] := by
  refine leads_bind (holding_lockOrder id) fun found => ?_
  refine leads_bind (holding_found found) fun order => leads_given fun _ => ?_
  refine leads_bind (holding_require _ _) fun _ => ?_
  refine leads_bind (holding_releaseStock _ _) fun _ => ?_
  refine leads_bind (holding_releasePromoGiven _) fun _ => ?_
  refine leads_bind leads_now fun now => ?_
  refine leads_bind (holding_held rfl (List.mem_singleton_self _) (Nat.zero_le 4)) fun applied => ?_
  refine leads_bind (holding_require _ _) fun _ => ?_
  exact leads_bind (holding_idle trivial) fun detail => holding_demand _ _

end Cancellation

namespace Redemption

theorem holding_redeemOrder (order : OrderId) (status : OrderStatus) (now : Time.Instant) :
    Leads (rowAccount channel own unique) (Holding own unique (·.stage ≤ 5) [.order order])
      (redeemOrder order status now) fun _ => Holding own unique (·.stage ≤ 5) [.order order] := by
  refine leads_bind (holding_idle trivial) fun left => ?_
  split
  · exact leads_pure fun g hg => hg
  · refine leads_bind (holding_held rfl (List.mem_singleton_self _) (Nat.zero_le 5)) fun applied =>
      ?_
    split
    · exact leads_pure fun g hg => hg
    · refine leads_bind (holding_idle trivial) fun found => ?_
      exact leads_bind (holding_demand _ _) fun detail => leads_throw fun g hg => hg.orderly

theorem holding_redeem (env : Environment) (id : TicketId) (operator : OperatorId)
    (token : Option String) :
    Leads (rowAccount channel own unique) (Holding own unique (fun _ => False) [])
      (redeem env id operator token)
      fun _ => Holding own unique (·.stage ≤ 5) [.order (own.ticket id)] := by
  refine leads_bind leads_now fun now => ?_
  refine leads_bind (holding_lockTicket id) fun found => leads_given fun horder => ?_
  refine leads_bind (holding_found found) fun locked => leads_given fun hfound => ?_
  refine leads_bind (holding_require _ _) fun _ => ?_
  refine leads_bind (holding_require _ _) fun _ => ?_
  refine leads_bind (holding_liftExcept _) fun _ => ?_
  refine leads_bind (holding_named rfl (fun g hg => .inr ?_) (fun s hs => hs) (Nat.le_refl 5))
    fun marked => ?_
  · exact hg.fits_part rfl (List.mem_singleton_self _) fun s hs => hs
  · refine leads_bind (holding_require _ _) fun _ => ?_
    -- The order to update is the one that the ticket names, and it was locked for the ticket.
    rw [horder locked hfound]
    exact leads_bind (holding_redeemOrder _ _ _) fun status => leads_pure fun g hg => hg

end Redemption

namespace UnitOfWork

variable {env : Environment} {u : UnitOfWork}

theorem orderly_body {p : Service u.call.Reply} (h : u.body env = .ok p) :
    Leads (rowAccount channel own unique) (Holding own unique (fun _ => False) []) p fun _ g =>
      Orderly own unique [] g := by
  have hends : ∀ {α : Type} {p : Service α} {among : TableRow → Prop} {rows : List TableRow},
      Leads (rowAccount channel own unique) (Holding own unique (fun _ => False) []) p
        (fun _ => Holding own unique among rows) →
      Leads (rowAccount channel own unique) (Holding own unique (fun _ => False) []) p
        fun _ g => Orderly own unique [] g :=
    fun hp => hp.mono (fun _ hg => hg) fun _ _ hg => hg.orderly
  exact body_cases (fun p => Leads (rowAccount channel own unique)
    (Holding own unique (fun _ => False) []) p
      fun _ g => Orderly own unique [] g)
    (fun _ order hcheck => hends (Purchase.holding_place env.policy (Purchase.check_shelf hcheck)))
    (fun id operator => hends (Confirmation.holding_confirm env id operator))
    (fun id operator reason => hends (Cancellation.holding_cancel id operator reason))
    (fun id operator token => hends (Redemption.holding_redeem env id operator token)) h

end UnitOfWork

theorem Sql.Course.orderly {env : Environment} {u : UnitOfWork} {s : Sql.State σ} {log : List Entry}
    {r : Except TicketingError u.call.Reply} (h : Course channel env u s log r)
    (hfair : ∀ x ∈ log, Entry.Fair own unique x) : Orderly own unique [] log := by
  have hidle : ∀ {held : List TableRow} {part : List Entry}, (∀ x ∈ part, x.1.control? ≠ none) →
      Orderly own unique held part ∧ takenRows part = [] :=
    fun hpart => orderly_of_idle fun x hx => Entry.idle_of_control (hpart x hx)
  cases h with
  | refused e hbody => trivial
  | unopened body hbody _ e hopening => exact (hidle fun x hx => hopening.control hx).1
  | settled body hbody opening data ending link outcome _ s' hopening hran _ hsettled =>
    obtain ⟨hopened, hnone⟩ : Orderly own unique [] opening ∧ takenRows opening = [] :=
      hidle fun x hx => hopening.control hx
    have hstart : Holding own unique (fun _ => False) [] [] := ⟨trivial, nofun, nofun⟩
    have hends := (UnitOfWork.orderly_body hbody [] hstart).logs hran fun x hx =>
      hfair x (by simp [hx])
    have hdata : Orderly own unique [] data := by
      cases outcome with
      | ok a => exact hends
      | error e => exact hends
    refine orderly_append.mpr ⟨orderly_append.mpr ⟨hopened, ?_⟩,
      (hidle fun x hx => hsettled.control hx).1⟩
    rwa [hnone]

namespace UnitOfWork

/-- The logs that a unit of work can have over a connection, on whatever answers. -/
def Logged (env : Environment) (u : UnitOfWork) (log : List Entry) : Prop :=
  ∃ (σ τ : Type) (channel : Channel σ) (database : Statement →
    StateM τ Answer) (s : Sql.State σ) (start : τ),
    (Program.run (S := signature) (Program.logging database)
      (Sql.State.serve channel (u.call.service env) s)
      (start, [])).2.2 = log

theorem Logged.orderly {env : Environment} {u : UnitOfWork} {log : List Entry}
    (h : Logged env u log) (hfair : ∀ x ∈ log, Entry.Fair own unique x) :
    Orderly own unique [] log := by
  obtain ⟨σ, τ, channel, database, s, start, rfl⟩ := h
  obtain ⟨made, hmade, hlogs⟩ := Program.logs_of_run (S := signature) database
    (Sql.State.serve channel (u.call.service env) s) start []
  rw [hmade, List.nil_append] at hfair ⊢
  exact (course channel env u s _ hlogs).orderly hfair

end UnitOfWork

/-- Whether somebody who holds some rows may wait for another: a unit of work has taken rows and
sends a statement that goes for this row, after others perhaps, and has not taken it so far. The
rest of its log is what would come of it. -/
inductive Waits (own : Owners) : List TableRow → TableRow → Prop
  | sent (env : Environment) (u : UnitOfWork) (before after : List Entry) (x : Entry)
      (rows rest : List TableRow)
    (wanted : TableRow) (logged : u.Logged env (before ++ x :: after))
    (belongs : ∀ y ∈ before ++ x :: after, y.Belongs own)
      (codes : ∀ y ∈ before ++ x :: after, y.OfUniqueCodes)
    (reaches : x.reaches = rows ++ wanted :: rest) (missing : wanted ∉ takenRows before ++ rows) :
    Waits own (takenRows before ++ rows) wanted

theorem Waits.inTurn {held : List TableRow} {wanted : TableRow} (h : Waits own held wanted) :
    InTurn own True [] held ∧ Fits own True held wanted ∧ wanted ∉ held := by
  obtain ⟨env, u, before, after, x, rows, rest, _, logged, belongs, codes, reaches, missing⟩ := h
  have horderly : Orderly own True [] (before ++ x :: after) :=
    logged.orderly fun y hy => ⟨belongs y hy, fun _ => codes y hy⟩
  obtain ⟨hheld, hfits⟩ := horderly.waiting reaches missing
  exact ⟨hheld, hfits, missing⟩

namespace Sample

def weekend : ProductId := ⟨Sources.countedId 1 9⟩

def ticketProductRow (id : ProductId) : Row := [
  ("id", .uuid id.uuid),
  ("event_id", .int8 1),
  ("name", .text "Pass"),
  ("type", .text "SINGLE"),
  ("price_cents", .int8 5000),
  ("inventory_limit", .int4 10),
  ("sold_count", .int4 0),
  ("is_active", .bool true),
  ("created_by", .null),
  ("created_at", .timestamp time),
  ("updated_at", .timestamp time)]

def createBoth (first second : ProductId) : UnitOfWork := .createOrder {
  userId := buyer.userId,
  eventId := event,
  paymentMethod := "phone",
  paymentReference := none,
  ticketItems := [⟨first, 1⟩, ⟨second, 1⟩],
  transferItems := [],
  promoCode := none }

def sends (u : UnitOfWork) (replies : List Answer) : List Entry :=
  (Program.run (S := signature) (Program.logging Script.answer)
    (Sql.State.serve .log (u.call.service environment) (.start 0 1 sources ()))
    (.start replies [], [])).2.2

def bothFound : List Answer :=
  [.ok ⟨[[("title", .text eventTitle)]], 1⟩, .ok ⟨[ticketProductRow product], 1⟩,
    .ok ⟨[ticketProductRow weekend], 1⟩]

def owners : Owners := ⟨fun _ => order, fun _ => order⟩

end Sample

/-- A unit of work takes rows for the first time in one order, whatever the database answers, as
long as what is found for an order belongs to it. Of any units of work that wait, none holding what
another holds, one waits for a row that none of them holds, so they are not waiting in a circle;
here codes are unique, as the schema's index on them sees to. Any two units of work take the
products that both take in the same order. -/
theorem rows_taken_in_one_order (own : Owners) :
    (∀ (env : Environment) (u : UnitOfWork) (log : List Entry), u.Logged env log →
      (∀ x ∈ log, x.Belongs own) → Ascending own (firstTouches log)) ∧
    (∀ {ι : Type} [Finite ι] [Nonempty ι] (held : ι → List TableRow) (wanted : ι → TableRow),
      (∀ i, Waits own (held i) (wanted i)) → (∀ i j, i ≠ j → (held i).Disjoint (held j)) →
      ∃ i, ∀ j, wanted i ∉ held j) ∧
    ∀ (env env' : Environment) (u u' : UnitOfWork) (log log' : List Entry), u.Logged env log →
      u'.Logged env' log' → (∀ x ∈ log, x.Belongs own) → (∀ x ∈ log', x.Belongs own) →
        ∀ r s : TableRow, r.isProduct = true →
      r ∈ firstTouches log → s ∈ firstTouches log → r ∈ firstTouches log' → s ∈ firstTouches log' →
      ((firstTouches log).idxOf r < (firstTouches log).idxOf s ↔
        (firstTouches log').idxOf r < (firstTouches log').idxOf s) := by
  have horderly : ∀ env (u : UnitOfWork) log, u.Logged env log → (∀ x ∈ log, x.Belongs own) →
      Orderly own False [] log :=
    fun env u log hlogged hbelongs => hlogged.orderly fun x hx => ⟨hbelongs x hx, nofun⟩
  refine ⟨fun env u log hlogged hbelongs => (horderly env u log hlogged hbelongs).ascending,
    fun held wanted hwaits hapart => ?_, ?_⟩
  · have hturns := fun i => (hwaits i).inTurn
    exact exists_unheld (fun i => (hturns i).1) (fun i => (hturns i).2.1)
      (fun i => (hturns i).2.2) hapart
  · intro env env' u u' log log' hlogged hlogged' hbelongs hbelongs' r s hr
      hrmem hsmem hrmem' hsmem'
    rw [(horderly env u log hlogged hbelongs).product_lt_iff hr hrmem hsmem,
      (horderly env' u' log' hlogged' hbelongs').product_lt_iff hr hrmem' hsmem']

namespace Sample

def held (ahead : Bool) : List TableRow := if ahead then [.order order] else []

def wanted (ahead : Bool) : TableRow := if ahead then .ticket (ticket 0) else .order order

theorem scan_logged : scan.Logged environment scanned.2.2 :=
  ⟨Unit, Script, .log, Script.answer, .start 0 1 sources (), script, rfl⟩

theorem sends_logged (u : UnitOfWork) (replies : List Answer) :
    u.Logged environment (sends u replies) :=
  ⟨Unit, Script, .log, Script.answer, .start 0 1 sources (), .start replies [], rfl⟩

end Sample

theorem rows_taken_in_one_order_sample :
    Ascending Sample.owners (firstTouches Sample.scanned.2.2) ∧
    (∃ i, ∀ j, Sample.wanted i ∉ Sample.held j) ∧
    let log := Sample.sends (Sample.createBoth Sample.product Sample.weekend) Sample.bothFound
    let log' := Sample.sends (Sample.createBoth Sample.weekend Sample.product) Sample.bothFound
    let r := TableRow.product .ticket Sample.product
    let s := TableRow.product .ticket Sample.weekend
    ((firstTouches log).idxOf r < (firstTouches log).idxOf s ↔
      (firstTouches log').idxOf r < (firstTouches log').idxOf s) := by
  obtain ⟨hascending, hwaits, hproducts⟩ := rows_taken_in_one_order Sample.owners
  have hbelongs : ∀ x ∈ Sample.scanned.2.2, x.Belongs Sample.owners := by decide +kernel
  have hcodes : ∀ x ∈ Sample.scanned.2.2, x.OfUniqueCodes := by decide +kernel
  refine ⟨hascending _ _ _ Sample.scan_logged hbelongs,
    hwaits Sample.held Sample.wanted (fun ahead => ?_) ?_, ?_⟩
  · cases ahead with
    | false =>
      have hsplit : Sample.scanned.2.2 = Sample.scanned.2.2.take 1 ++
          ⟨.lockOrderOfTicket (Sample.ticket 0), .ok ⟨[[("id", .uuid Sample.order.uuid)]], 1⟩⟩ ::
            Sample.scanned.2.2.drop 2 := rfl
      exact .sent Sample.environment Sample.scan _ _ _ [] [] _
        (hsplit ▸ Sample.scan_logged) (hsplit ▸ hbelongs)
        (hsplit ▸ hcodes) rfl (by decide +kernel)
    | true =>
      have hsplit : Sample.scanned.2.2 = Sample.scanned.2.2.take 2 ++
          ⟨.lockTicket (Sample.ticket 0), .ok ⟨[Sample.ticketRow], 1⟩⟩ ::
          Sample.scanned.2.2.drop 3 := rfl
      exact .sent Sample.environment Sample.scan _ _ _ [] [] _
        (hsplit ▸ Sample.scan_logged) (hsplit ▸ hbelongs)
        (hsplit ▸ hcodes) rfl (by decide +kernel)
  · intro i j hne
    cases i <;> cases j
    all_goals simp [Sample.held] at hne ⊢
  · exact hproducts _ _ _ _ _ _ (Sample.sends_logged _ _)
      (Sample.sends_logged _ _) (by decide +kernel)
      (by decide +kernel) _ _ rfl (by decide +kernel) (by decide +kernel)
      (by decide +kernel) (by decide +kernel)

end EventTickets
