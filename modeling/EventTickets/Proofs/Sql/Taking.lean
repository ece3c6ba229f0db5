import EventTickets.Proofs.Sql.Turns
import EventTickets.Proofs.Service.Leading
import EventTickets.Proofs.Stages
import EventTickets.Sql.Store

/-!
# What the calls of a transaction take

A call takes the row that it names, the rows that it finds, or none. What a service holds after a
call then comes from what it held before and from where the new rows stand.
-/

namespace EventTickets.Sql

namespace Reading

variable {α β : Type}

theorem bind_eq_ok {x : Reading α} {f : α → Reading β} {b : β} :
    x >>= f = .ok b ↔ ∃ a, x = .ok a ∧ f a = .ok b := by
  cases x with
  | error e => simp [bind, Except.bind]
  | ok a => simp [bind, Except.bind]

theorem mem_of_mapM {f : Row → Reading α} {rows : List Row} {as : List α}
    (h : rows.mapM f = .ok as) {a : α} (ha : a ∈ as) : ∃ row ∈ rows, f row = .ok a := by
  induction rows generalizing as with
  | nil =>
    cases h
    cases ha
  | cons row rest ih =>
    rw [List.mapM_cons] at h
    obtain ⟨first, hfirst, hthen⟩ := bind_eq_ok.mp h
    obtain ⟨others, hothers, hall⟩ := bind_eq_ok.mp hthen
    cases hall
    rcases List.mem_cons.mp ha with rfl | ha
    · exact ⟨row, List.mem_cons_self, hfirst⟩
    · obtain ⟨row', hmem, hrow'⟩ := ih hothers ha
      exact ⟨row', List.mem_cons_of_mem row hmem, hrow'⟩

end Reading

namespace Row

theorem promoCode_id {row : Row} {promo : PromoCode} (h : row.promoCode = .ok promo) :
    row.cell? "id" = some promo.id.uuid := by
  simp only [promoCode, Reading.bind_eq_ok] at h
  obtain ⟨_, _, _, _, id, hid, _, _, _, _, _, _, _, _, _, _, _, _, _, _, _, _, _,
      _, _, _, hpromo⟩ := h
  cases hpromo
  exact cell?_of_column hid

theorem ticket_ids {row : Row} {ticket : Ticket} (h : row.ticket = .ok ticket) :
    row.cell? "id" = some ticket.id.uuid ∧ row.cell? "order_id" = some ticket.orderId.uuid := by
  simp only [Row.ticket, Reading.bind_eq_ok] at h
  obtain ⟨_, _, id, hid, order, horder, _, _, _, _, _, _, _, _, _, _, _, _, _, _, _, _, _,
      _, _, _, hticket⟩ := h
  cases hticket
  exact ⟨cell?_of_column hid, cell?_of_column horder⟩

theorem lockedTicket_order {row : Row} {locked : LockedTicket} (h : row.lockedTicket = .ok locked) :
    row.cell? "order_id" = some locked.ticket.orderId.uuid := by
  obtain ⟨ticket, hticket, hlocked⟩ := Reading.bind_eq_ok.mp h
  split at hlocked
  · cases hlocked
    exact (ticket_ids hticket).2
  · cases hlocked

end Row

namespace Locking

variable {α : Type} {c : TransactionCall} {l l' : LockLedger} {log : List Entry} {s : Statement}

theorem logs_asked {stage : LockStage} {read : Outcome → Reading α} {reply : Except StoreError α}
    (h : Program.Logs (S := signature)
      (locked stage (free (Asking.send s >>= fun o => liftExcept (read o))) l) log (reply, l')) :
    (log = [] ∧ ∀ a, reply ≠ .ok a) ∨
      ∃ answer, log = [⟨s, answer⟩] ∧
        reply = (answer.mapError ServerError.storeError).bind read := by
  rcases logs_locked h with ⟨held, -, rfl, heq⟩ | ⟨answer, -, rfl, heq⟩
  · cases heq
    exact .inl ⟨rfl, nofun⟩
  · cases heq
    exact .inr ⟨answer, rfl, rfl⟩

theorem logs_lockedRow {stage : LockStage} {read : Row → Reading α}
    {reply : Except StoreError (Option α)}
    (h : Program.Logs (S := signature) (locked stage (free (Asking.row? s read)) l) log
      (reply, l')) :
    (log = [] ∧ ∀ a, reply ≠ .ok a) ∨
      ∃ answer, log = [⟨s, answer⟩] ∧
      reply = (answer.mapError ServerError.storeError).bind (·.first? read) := by
  rw [Asking.row?_eq] at h
  exact logs_asked h

theorem logs_affected {f : Nat → α} {r : Except StoreError α × LockLedger}
    (h : Program.Logs (S := signature) (free (do return f (← Asking.affected s)) l) log r) :
    ∃ answer, log = [⟨s, answer⟩] := by
  cases h with
  | call _ answer hrest => cases answer <;> cases hrest <;> exact ⟨_, rfl⟩

theorem logs_execute {r : Except StoreError Unit × LockLedger}
    (h : Program.Logs (S := signature) (free (Asking.execute s) l) log r) :
    ∃ answer, log = [⟨s, answer⟩] := by
  cases h with
  | call _ answer hrest => cases answer <;> cases hrest <;> exact ⟨_, rfl⟩

theorem eq_ok_of_first {read : Row → Reading α} {answer : Answer} {a : α}
    (h : (answer.mapError ServerError.storeError).bind (·.first? read) = .ok (some a)) :
    ∃ o row rest, answer = .ok o ∧ o.rows = row :: rest ∧ read row = .ok a := by
  cases answer with
  | error e => cases h
  | ok o =>
    change o.first? read = .ok (some a) at h
    unfold Outcome.first? at h
    cases hrows : o.rows with
    | nil =>
      rw [hrows] at h
      cases h
    | cons row rest =>
      rw [hrows] at h
      cases hread : read row with
      | error e =>
        simp only [hread] at h
        cases h
      | ok b =>
        simp only [hread] at h
        cases h
        exact ⟨o, row, rest, rfl, hrows, hread⟩

def named? : TransactionCall → Option TableRow
  | .lockTicketProduct id => some (.product .ticket id)
  | .lockTransferProduct id => some (.product .transfer id)
  | .consumePromo id => some (.promo id)
  | .releasePromo id => some (.promo id)
  | .lockOrder id => some (.order id)
  | .reserveInventory kind product _ => some (.product kind product)
  | .releaseInventory kind product _ => some (.product kind product)
  | .transitionOrder id _ => some (.order id)
  | .issueTicketToken ticket _ => some (.ticket ticket)
  | .markTicketRedeemed ticket _ _ => some (.ticket ticket)
  | _ => none

theorem reaches_named {r : TableRow} (answer : Answer) (hnamed : s.named = [r])
    (hfound : ∀ row, s.found? row = none) : Entry.reaches ⟨s, answer⟩ = [r] := by
  simp [Entry.reaches, hnamed, hfound]

theorem logs_named {r : TableRow} {out : Except StoreError c.Reply × LockLedger}
    (hc : named? c = some r) (h : Program.Logs (S := signature) (answer c l) log out) :
    log = [] ∨ ∃ x : Entry, log = [x] ∧ x.reaches = [r] := by
  have hone : ∀ {s : Statement}, s.named = [r] → (∀ row, s.found? row = none) →
      (∃ answer, log = [⟨s, answer⟩]) → log = [] ∨ ∃ x : Entry, log = [x] ∧ x.reaches = [r] := by
    rintro s hnamed hfound ⟨answer, rfl⟩
    exact .inr ⟨_, rfl, reaches_named answer hnamed hfound⟩
  cases c with
  | lockTicketProduct id =>
    cases hc
    rcases logs_lockedRow h with ⟨rfl, -⟩ | ⟨answer, rfl, -⟩
    · exact .inl rfl
    · exact hone rfl (fun _ => rfl) ⟨answer, rfl⟩
  | lockTransferProduct id =>
    cases hc
    rcases logs_lockedRow h with ⟨rfl, -⟩ | ⟨answer, rfl, -⟩
    · exact .inl rfl
    · exact hone rfl (fun _ => rfl) ⟨answer, rfl⟩
  | lockOrder id =>
    cases hc
    rcases logs_lockedRow h with ⟨rfl, -⟩ | ⟨answer, rfl, -⟩
    · exact .inl rfl
    · exact hone rfl (fun _ => rfl) ⟨answer, rfl⟩
  | consumePromo id =>
    cases hc
    exact hone rfl (fun _ => rfl) (logs_affected h)
  | releasePromo id =>
    cases hc
    exact hone rfl (fun _ => rfl) (logs_execute h)
  | reserveInventory kind product n =>
    cases hc
    change Program.Logs (S := signature) (free (Asking.reserve kind product n) l) log out at h
    unfold Asking.reserve at h
    cases hquantity : Asking.quantity? n with
    | none =>
      rw [hquantity] at h
      cases h
      exact .inl rfl
    | some q =>
      rw [hquantity] at h
      exact hone rfl (fun _ => rfl) (logs_affected h)
  | releaseInventory kind product n =>
    cases hc
    change Program.Logs (S := signature)
      (free (Asking.quantity n >>= fun q => Asking.execute (.release kind product q)) l)
      log out at h
    unfold Asking.quantity at h
    cases hquantity : Asking.quantity? n with
    | none =>
      rw [hquantity] at h
      cases h
      exact .inl rfl
    | some q =>
      rw [hquantity] at h
      exact hone rfl (fun _ => rfl) (logs_execute h)
  | transitionOrder id transition =>
    cases hc
    exact hone rfl (fun _ => rfl) (logs_affected h)
  | issueTicketToken ticket issued =>
    cases hc
    change Program.Logs (S := signature) (free (Asking.issueToken ticket issued) l) log out at h
    rw [Asking.issueToken_eq] at h
    obtain ⟨reply, hlogs, -⟩ := Program.logs_map (S := signature) h
    obtain ⟨answer, rfl, -⟩ := Asking.logs_read hlogs
    exact hone rfl (fun _ => rfl) ⟨answer, rfl⟩
  | markTicketRedeemed ticket operator time =>
    cases hc
    exact hone rfl (fun _ => rfl) (logs_affected h)
  | _ => cases hc

def TakesNothing : TransactionCall → Prop
  | .eventTitle _ => True
  | .insertOrder _ => True
  | .insertOrderItem _ => True
  | .insertTicket _ => True
  | .countUnredeemedTickets _ => True
  | .orderDetail _ _ => True
  | .purchaser _ => True
  | _ => False

theorem idle_free {asking : Asking α} (hasking : asking.Confined Statement.Idle)
    {r : Except StoreError α × LockLedger}
    (h : Program.Logs (S := signature) (free asking l) log r) : ∀ x ∈ log, x.1.Idle := by
  obtain ⟨reply, hlogs, -⟩ := Program.logs_map (S := signature) h
  exact (hasking.logs hlogs).2

theorem logs_idle {out : Except StoreError c.Reply × LockLedger} (hc : TakesNothing c)
    (h : Program.Logs (S := signature) (answer c l) log out) : ∀ x ∈ log, x.1.Idle := by
  have hidle : ∀ {s : Statement}, s.named = [] → (∀ row, s.found? row = none) →
      s.Idle := fun h h' => ⟨h, h'⟩
  cases c with
  | eventTitle event =>
    exact idle_free (Asking.confined_row? (hidle rfl fun _ => rfl) Row.first_not_late) h
  | insertOrder order => exact idle_free (Asking.confined_execute (hidle rfl fun _ => rfl)) h
  | insertOrderItem item =>
    exact idle_free (Asking.confined_bind (Asking.confined_quantity _) fun q =>
      Asking.confined_execute (hidle rfl fun _ => rfl)) h
  | insertTicket ticket =>
    exact idle_free (Asking.confined_bind (Asking.confined_quantity _) fun q =>
      Asking.confined_execute (hidle rfl fun _ => rfl)) h
  | countUnredeemedTickets order =>
    refine idle_free ?_ h
    rw [Asking.countUnredeemed_eq]
    exact Asking.confined_read (hidle rfl fun _ => rfl) fun o =>
      Outcome.one_not_late Row.unredeemed_not_late
  | orderDetail order withPurchaser =>
    exact idle_free (Asking.confined_orderDetail (hidle rfl fun _ => rfl) (hidle rfl fun _ => rfl)
      (hidle rfl fun _ => rfl) (fun _ => hidle rfl fun _ => rfl) _) h
  | purchaser user => exact idle_free (Asking.confined_purchaser (hidle rfl fun _ => rfl)) h
  | _ => exact hc.elim

end Locking

/-- Whether an answer is one that stored rows can give. -/
structure Entry.Fair (own : Owners) (unique : Prop) (x : Entry) : Prop where
  belongs : x.Belongs own
  code : unique → x.OfUniqueCodes

variable {σ α : Type} {channel : Channel σ} {own : Owners} {unique : Prop}
  {among among' : TableRow → Prop}
  {rows : List TableRow} {r : TableRow} {g : List Entry}

def rowAccount (channel : Channel σ) (own : Owners) (unique : Prop) : Account (List Entry) where
  step := Program.Recorded (S := Request.signature) (T := signature) (State.answer channel)
    (Entry.Fair own unique)
  fails _ g := Orderly own unique [] g

/-- An orderly log whose rows are among some, with some rows that were taken. -/
structure Holding (own : Owners) (unique : Prop) (among : TableRow → Prop)
    (rows : List TableRow) (g : List Entry) : Prop where
  orderly : Orderly own unique [] g
  among : ∀ r ∈ takenRows g, among r
  taken : ∀ r ∈ rows, r ∈ takenRows g

namespace Holding

theorem mono (h : Holding own unique among rows g) (hamong : ∀ r, among r → among' r) :
    Holding own unique among' rows g := ⟨h.orderly, fun r hr => hamong r (h.among r hr), h.taken⟩

theorem also (h : Holding own unique among rows g) {more : List TableRow}
    (hmore : ∀ r ∈ more, r ∈ takenRows g) :
    Holding own unique among more g := ⟨h.orderly, h.among, hmore⟩

theorem snoc {x : Entry} (h : Holding own unique among rows g)
    (hx : InTurn own unique (takenRows g) x.reaches) (hamong : ∀ r, among r → among' r)
    (hreaches : ∀ r ∈ x.reaches, among' r) : Holding own unique among' rows (g ++ [x]) := by
  have htaken : takenRows (g ++ [x]) = takenRows g ++ x.takes := by
    rw [takenRows_append, takenRows, takenRows, List.flatMap_singleton]
  refine ⟨orderly_append.mpr ⟨h.orderly, hx, trivial⟩, fun r hr => ?_, fun r hr => ?_⟩
  · rw [htaken] at hr
    rcases List.mem_append.mp hr with hr | hr
    · exact hamong r (h.among r hr)
    · rcases x.takes_eq with he | he <;> rw [he] at hr
      · exact hreaches r hr
      · cases hr
  · rw [htaken]
    exact List.mem_append_left _ (h.taken r hr)

theorem idle {log : List Entry} (h : Holding own unique among rows g) (hlog : ∀ x ∈ log, x.1.Idle) :
    Holding own unique among rows (g ++ log) := by
  obtain ⟨horderly, htaken⟩ : Orderly own unique ([] ++ takenRows g) log ∧ takenRows log = [] :=
    orderly_of_idle hlog
  have hsame : takenRows (g ++ log) = takenRows g := by
    rw [takenRows_append, htaken, List.append_nil]
  refine ⟨orderly_append.mpr ⟨h.orderly, horderly⟩, ?_, ?_⟩
  · rw [hsame]
    exact h.among
  · rw [hsame]
    exact h.taken

theorem fits_last (h : Holding own unique among rows g) (hr : r.owner? own = none)
    (hlast : ∀ s, among s → s.rank < r.rank) : Fits own unique (takenRows g) r := by
  refine ⟨fun s hs => (hlast s (h.among s hs)).le, fun o ho => ?_,
    fun _ _ s hs => (hlast s (h.among s hs)).ne⟩
  rw [hr] at ho
  cases ho

theorem fits_product (h : Holding own unique among rows g) (hr : r.isProduct = true)
    (hle : ∀ s, among s → s.rank ≤ r.rank) : r ∈ takenRows g ∨ Fits own unique (takenRows g) r := by
  by_cases hheld : r ∈ takenRows g
  · exact .inl hheld
  · refine .inr ⟨fun s hs => hle s (h.among s hs), fun o ho => ?_, fun _ _ s hs he => hheld ?_⟩
    · rw [TableRow.isProduct_of_owner ho] at hr
      cases hr
    · rwa [← TableRow.eq_of_rank_eq hr he]

theorem fits_part {o : OrderId} (h : Holding own unique among rows g) (hr : r.owner? own = some o)
    (ho : .order o ∈ rows) (hle : ∀ s, among s → s.stage ≤ r.stage) :
    Fits own unique (takenRows g) r := by
  refine ⟨fun s hs => ?_, fun o' ho' => ?_, fun hnone => ?_⟩
  · exact TableRow.rank_le_of_stage_le (TableRow.isProduct_of_owner hr) (hle s (h.among s hs))
  · rw [hr] at ho'
    cases ho'
    exact h.taken _ ho
  · rw [hr] at hnone
    cases hnone

end Holding

open Service

section Rules

variable {pre : List Entry → Prop} {c : TransactionCall}

theorem leads_call {post : c.Reply → List Entry → Prop}
    (h : ∀ g l log reply l', pre g →
      Program.Logs (S := signature) (Locking.answer c l) log (reply, l') →
        (∀ x ∈ log, Entry.Fair own unique x) →
      Orderly own unique [] (g ++ log) ∧ ∀ a, reply = .ok a → post a (g ++ log)) :
    Leads (rowAccount channel own unique) pre (within c) post := by
  refine leads_store fun g reply g' hg hstep => ?_
  obtain ⟨s, s', log, hlogs, hfair, rfl⟩ := hstep
  obtain ⟨⟨reply', l'⟩, hcall, heq⟩ := Program.logs_map (S := signature) hlogs
  cases heq
  obtain ⟨horderly, hpost⟩ := h g s.ledger log reply' l' hg hcall hfair
  cases reply' with
  | ok a => exact hpost a rfl
  | error e => exact horderly

theorem leads_aside {r : Request}
    (hr : ∀ (s : State σ) log out,
      Program.Logs (S := signature) (State.answer channel r s) log out → log = []) :
    Leads (rowAccount channel own unique) pre (ask r) fun _ => pre := by
  refine leads_ask fun g reply g' hg hstep => ?_
  obtain ⟨s, s', log, hlogs, -, rfl⟩ := hstep
  rw [hr s log _ hlogs, List.append_nil]
  exact hg

theorem leads_now : Leads (rowAccount channel own unique) pre now fun _ => pre :=
  leads_aside fun s log out h => by cases h; rfl

theorem leads_newId : Leads (rowAccount channel own unique) pre (ask .newId) fun _ => pre :=
  leads_aside fun s log out h => by cases h; rfl

theorem leads_newNonce (size : Nat) :
    Leads (rowAccount channel own unique) pre (ask (.newNonce size)) fun _ => pre :=
  leads_aside fun s log out h => by cases h; rfl

theorem holding_demand (e : TicketingError) (a : Option α) :
    Leads (rowAccount channel own unique) (Holding own unique among rows) (demand e a) fun _ =>
      Holding own unique among rows :=
  (leads_demand fun _ hg => hg.orderly).mono (fun _ hg => hg) fun _ _ h => h.2

theorem holding_require (e : TicketingError) (b : Bool) :
    Leads (rowAccount channel own unique) (Holding own unique among rows) (require e b) fun _ =>
      Holding own unique among rows :=
  (leads_require fun _ hg => hg.orderly).mono (fun _ hg => hg) fun _ _ h => h.2

theorem holding_liftExcept (x : Except TicketingError α) :
    Leads (rowAccount channel own unique) (Holding own unique among rows) (liftExcept x) fun _ =>
      Holding own unique among rows := leads_liftExcept fun _ _ _ hg => hg.orderly

theorem holding_idle (hc : Locking.TakesNothing c) :
    Leads (rowAccount channel own unique) (Holding own unique among rows) (within c) fun _ =>
      Holding own unique among rows := by
  refine leads_call fun g l log reply l' hg hlogs _ => ?_
  have hnext := hg.idle (Locking.logs_idle hc hlogs)
  exact ⟨hnext.orderly, fun _ _ => hnext⟩

theorem holding_named (hc : Locking.named? c = some r)
    (hr : ∀ g, Holding own unique among rows g → r ∈ takenRows g ∨ Fits own unique (takenRows g) r)
    (hamong : ∀ s, among s → among' s) (hrow : among' r) :
    Leads (rowAccount channel own unique) (Holding own unique among rows) (within c) fun _ =>
      Holding own unique among' rows := by
  refine leads_call fun g l log reply l' hg hlogs _ => ?_
  have hnext : Holding own unique among' rows (g ++ log) := by
    rcases Locking.logs_named hc hlogs with rfl | ⟨x, rfl, hreaches⟩
    · rw [List.append_nil]
      exact hg.mono hamong
    · refine hg.snoc ?_ hamong ?_
      · rw [hreaches]
        exact inTurn_singleton.mpr (hr g hg)
      · rw [hreaches]
        simpa using hrow
  exact ⟨hnext.orderly, fun _ _ => hnext⟩

theorem holding_lockOrder (id : OrderId) :
    Leads (rowAccount channel own unique) (Holding own unique (fun _ => False) [])
      (within (.lockOrder id)) fun found =>
      Holding own unique (·.stage ≤ 0) (if found.isSome then [.order id] else []) := by
  refine leads_call fun g l log reply l' hg hlogs _ => ?_
  rcases Locking.logs_lockedRow hlogs with ⟨rfl, hreply⟩ | ⟨answer, rfl, rfl⟩
  · rw [List.append_nil]
    exact ⟨hg.orderly, fun a ha => absurd ha (hreply a)⟩
  · have hreaches : Entry.reaches ⟨.lockOrder id, answer⟩ = [.order id] :=
      Locking.reaches_named _ rfl fun _ => rfl
    have hnext : Holding own unique (·.stage ≤ 0) [] (g ++ [⟨.lockOrder id, answer⟩]) := by
      refine hg.snoc ?_ (fun _ h => h.elim) ?_
      · rw [hreaches]
        exact inTurn_singleton.mpr (.inr (hg.fits_last rfl fun _ h => h.elim))
      · rw [hreaches]
        simp [TableRow.stage]
    refine ⟨hnext.orderly, fun found hfound => ?_⟩
    cases found with
    | none => exact hnext
    | some order =>
      obtain ⟨o, row, rest, rfl, hrows, -⟩ := Locking.eq_ok_of_first hfound
      refine hnext.also fun r hr => ?_
      rw [takenRows_append]
      refine List.mem_append_right _ ?_
      simpa [takenRows, Entry.takes, Entry.applies, Statement.asksForRows, hrows, hreaches] using hr

theorem holding_lockPromo (code : String) :
    Leads (rowAccount channel own unique) (Holding own unique (·.stage ≤ 3) rows)
      (within (.lockPromoByCode code))
      fun found => Holding own unique (·.stage ≤ 4)
      (found.toList.map fun promo => .promo promo.id) := by
  refine leads_call fun g l log reply l' hg hlogs hfair => ?_
  rcases Locking.logs_lockedRow hlogs with ⟨rfl, hreply⟩ | ⟨answer, rfl, rfl⟩
  · rw [List.append_nil]
    exact ⟨hg.orderly, fun a ha => absurd ha (hreply a)⟩
  · have hcode := (hfair _ (List.mem_singleton_self _)).code
    have hpromos : ∀ r ∈ Entry.reaches ⟨.lockPromoByCode (Text.trim code), answer⟩,
        r.isPromo = true := by
      intro r hr
      obtain ⟨row, -, hrow⟩ := List.mem_filterMap.mp hr
      obtain ⟨id, -, rfl⟩ := Option.map_eq_some_iff.mp hrow
      rfl
    have hnext : Holding own unique (·.stage ≤ 4) rows
        (g ++ [⟨.lockPromoByCode (Text.trim code), answer⟩]) := by
      refine hg.snoc (inTurn_of_promos hpromos (fun hu => ?_) ?_ ?_)
        (fun s hs => Nat.le_succ_of_le hs) fun r hr => ?_
      · exact Nat.le_trans (List.length_filterMap_le _ _) (hcode hu rfl)
      · exact fun s hs => Nat.le_succ_of_le (hg.among s hs)
      · exact fun _ _ s hs => Nat.lt_succ_of_le (hg.among s hs)
      · have hpromo := hpromos r hr
        cases r with
        | promo id => exact Nat.le_refl 4
        | _ => cases hpromo
    refine ⟨hnext.orderly, fun found hfound => ?_⟩
    cases found with
    | none => exact hnext.also (by simp)
    | some promo =>
      obtain ⟨o, row, rest, rfl, hrows, hread⟩ := Locking.eq_ok_of_first hfound
      refine hnext.also fun r hr => ?_
      obtain rfl : r = .promo promo.id := by simpa using hr
      rw [takenRows_append]
      refine List.mem_append_right _ ?_
      simp [takenRows, Entry.takes, Entry.applies, Entry.reaches, Entry.rows,
        Statement.asksForRows, Statement.named, Statement.found?, hrows, Row.promoCode_id hread]

theorem Holding.parts {x : Entry} {o : OrderId} {n : Nat} (h : Holding own unique among rows g)
    (ho : .order o ∈ rows) (hx : ∀ r ∈ x.reaches, r.owner? own = some o ∧ r.stage = n)
    (hle : ∀ s, among s → s.stage ≤ n) : Holding own unique (·.stage ≤ n) rows (g ++ [x]) := by
  refine h.snoc (inTurn_of_parts hx (h.taken _ ho) fun s hs => hle s (h.among s hs)) hle fun r hr =>
    ?_
  exact Nat.le_of_eq (hx r hr).2

theorem holding_lockItems (id : OrderId) :
    Leads (rowAccount channel own unique) (Holding own unique (·.stage ≤ 0) [.order id])
      (within (.lockOrderItems id))
      fun _ => Holding own unique (·.stage ≤ 1) [.order id] := by
  refine leads_call fun g l log reply l' hg hlogs hfair => ?_
  rcases Locking.logs_asked hlogs with ⟨rfl, hreply⟩ | ⟨answer, rfl, rfl⟩
  · rw [List.append_nil]
    exact ⟨hg.orderly, fun a ha => absurd ha (hreply a)⟩
  · have hbelongs := (hfair _ (List.mem_singleton_self _)).belongs
    have hnext : Holding own unique (·.stage ≤ 1) [.order id]
        (g ++ [⟨.lockOrderItems id, answer⟩]) := by
      refine hg.parts (List.mem_singleton_self _) (fun r hr => ?_) fun s hs => Nat.le_succ_of_le hs
      obtain ⟨row, hrow, hfound⟩ := List.mem_filterMap.mp hr
      obtain ⟨item, hitem, rfl⟩ := Option.map_eq_some_iff.mp hfound
      have howned : own.item item = id := by
        simpa [Statement.belongs, hitem] using hbelongs row hrow
      exact ⟨congrArg some howned, rfl⟩
    exact ⟨hnext.orderly, fun _ _ => hnext⟩

theorem holding_lockTickets (id : OrderId) (hle : ∀ s, among s → s.stage ≤ 5) :
    Leads (rowAccount channel own unique) (Holding own unique among [.order id])
      (within (.lockOrderTickets id))
      fun tickets g => (∀ k ∈ tickets, own.ticket k.id = id) ∧
        Holding own unique (·.stage ≤ 5) [.order id] g := by
  refine leads_call fun g l log reply l' hg hlogs hfair => ?_
  rcases Locking.logs_asked hlogs with ⟨rfl, hreply⟩ | ⟨answer, rfl, rfl⟩
  · rw [List.append_nil]
    exact ⟨hg.orderly, fun a ha => absurd ha (hreply a)⟩
  · have hbelongs := (hfair _ (List.mem_singleton_self _)).belongs
    have hnext : Holding own unique (·.stage ≤ 5) [.order id]
        (g ++ [⟨.lockOrderTickets id, answer⟩]) := by
      refine hg.parts (List.mem_singleton_self _) (fun r hr => ?_) hle
      obtain ⟨row, hrow, hfound⟩ := List.mem_filterMap.mp hr
      obtain ⟨ticket, hticket, rfl⟩ := Option.map_eq_some_iff.mp hfound
      have howned : own.ticket ⟨ticket⟩ = id := by
        simpa [Statement.belongs, hticket] using hbelongs row hrow
      exact ⟨congrArg some howned, rfl⟩
    refine ⟨hnext.orderly, fun tickets htickets => ⟨fun k hk => ?_, hnext⟩⟩
    cases answer with
    | error e => cases htickets
    | ok o =>
      obtain ⟨row, hrow, hread⟩ := Reading.mem_of_mapM htickets hk
      simpa [Statement.belongs, (Row.ticket_ids hread).1] using hbelongs row hrow

theorem reaches_orderOfTicket {id : TicketId} {answer : Answer}
    (hfair : Entry.Fair own unique ⟨.lockOrderOfTicket id, answer⟩) :
    ∀ r ∈ Entry.reaches ⟨.lockOrderOfTicket id, answer⟩, r = .order (own.ticket id) := by
  intro r hr
  obtain ⟨row, hrow, hfound⟩ := List.mem_filterMap.mp hr
  have hid : row.cell? "id" = some (own.ticket id).uuid :=
    of_decide_eq_true (hfair.belongs row hrow)
  simp only [Statement.found?, hid, Option.map_some, Option.some.injEq] at hfound
  exact hfound.symm

theorem takes_orderOfTicket {id : TicketId} {o : Outcome}
    (hfair : Entry.Fair own unique ⟨.lockOrderOfTicket id, .ok o⟩) (hrows : o.rows ≠ []) :
    .order (own.ticket id) ∈ takenRows [⟨.lockOrderOfTicket id, .ok o⟩] := by
  obtain ⟨row, rest, hsplit⟩ := List.exists_cons_of_ne_nil hrows
  have hid : row.cell? "id" = some (own.ticket id).uuid :=
    of_decide_eq_true (hfair.belongs row (by simp [Entry.rows, hsplit]))
  simp [takenRows, Entry.takes, Entry.applies, Entry.reaches, Entry.rows,
    Statement.asksForRows, Statement.named, Statement.found?, hsplit, hid]

theorem Holding.orderOfTicket {id : TicketId} {answer : Answer}
    (h : Holding own unique (fun _ => False) [] g)
    (hfair : Entry.Fair own unique ⟨.lockOrderOfTicket id, answer⟩) :
    Holding own unique (·.stage ≤ 0) [] (g ++ [⟨.lockOrderOfTicket id, answer⟩]) := by
  have hsame := reaches_orderOfTicket hfair
  refine h.snoc (inTurn_of_same hsame (.inr (h.fits_last rfl fun _ h => h.elim)))
    (fun _ h => h.elim) fun r hr => ?_
  rw [hsame r hr]
  exact Nat.le_refl 0

theorem Holding.ticketOfOrder {id : TicketId} {o : Outcome} {answer : Answer}
    (h : Holding own unique (fun _ => False) [] g)
    (hfair : Entry.Fair own unique ⟨.lockOrderOfTicket id, .ok o⟩) (hrows : o.rows ≠ []) :
    Holding own unique (·.stage ≤ 5) [.order (own.ticket id)]
      (g ++ [⟨.lockOrderOfTicket id, .ok o⟩, ⟨.lockTicket id, answer⟩]) := by
  have hheld : Holding own unique (·.stage ≤ 0) [.order (own.ticket id)]
      (g ++ [⟨.lockOrderOfTicket id, .ok o⟩]) := by
    refine (h.orderOfTicket hfair).also fun r hr => ?_
    rw [takenRows_append, List.mem_singleton.mp hr]
    exact List.mem_append_right _ (takes_orderOfTicket hfair hrows)
  have hreaches : Entry.reaches ⟨.lockTicket id, answer⟩ = [.ticket id] :=
    Locking.reaches_named answer rfl fun _ => rfl
  rw [List.append_cons]
  refine hheld.parts (List.mem_singleton_self _) (fun r hr => ?_) fun s hs =>
    Nat.le_trans hs (Nat.zero_le 5)
  rw [hreaches] at hr
  rw [List.mem_singleton.mp hr]
  exact ⟨rfl, rfl⟩

theorem holding_lockTicket (id : TicketId) :
    Leads (rowAccount channel own unique) (Holding own unique (fun _ => False) [])
      (within (.lockTicket id))
      fun found g => (∀ locked, found = some locked → locked.ticket.orderId = own.ticket id) ∧
        Holding own unique (·.stage ≤ 5)
          (if found.isSome then [.order (own.ticket id)] else []) g := by
  refine leads_call fun g l log reply l' hg hlogs hfair => ?_
  by_cases hadmits : l.Admits .order
  · rcases Locking.logs_lockTicket hadmits hlogs with
      ⟨answer, rfl, heq⟩ | ⟨o, answer, hrows, rfl, heq⟩
    · have hnext : Holding own unique (·.stage ≤ 5) [] (g ++ [⟨.lockOrderOfTicket id, answer⟩]) :=
        (hg.orderOfTicket (hfair _ (List.mem_singleton_self _))).mono fun s hs =>
          Nat.le_trans hs (Nat.zero_le 5)
      refine ⟨hnext.orderly, fun found hfound => ?_⟩
      obtain rfl : found = none := by
        cases heq
        cases answer with
        | error e => cases hfound
        | ok o =>
          cases hfound
          rfl
      exact ⟨by simp, hnext⟩
    · obtain ⟨hfirst, hrest⟩ := List.forall_mem_cons.mp hfair
      have hnext : Holding own unique (·.stage ≤ 5) [.order (own.ticket id)]
          (g ++ [⟨.lockOrderOfTicket id, .ok o⟩, ⟨.lockTicket id, answer⟩]) :=
          hg.ticketOfOrder hfirst hrows
      refine ⟨hnext.orderly, fun found hfound => ?_⟩
      cases found with
      | none => exact ⟨by simp, hnext.also (by simp)⟩
      | some locked =>
        refine ⟨fun locked' he => ?_, hnext⟩
        cases he
        cases heq
        obtain ⟨o', row, rest, rfl, hrows', hread⟩ := Locking.eq_ok_of_first hfound
        have hbelongs := (hrest _ (List.mem_singleton_self _)).belongs row
          (by simp [Entry.rows, hrows'])
        have howned : own.ticket id = locked.ticket.orderId := by
          simpa [Statement.belongs, Row.lockedTicket_order hread] using hbelongs
        exact howned.symm
  · -- A refused lock sends nothing, so the log stays as it was.
    obtain ⟨held, hrefused⟩ := LockLedger.acquire_of_not_admits hadmits
    have hrun : Locking.answer (.lockTicket id) l =
        Program.done (.error (.lockOrder held .order), l) := by
      change Locking.lockTicket id l = _
      rw [Locking.lockTicket, Locking.locked, hrefused]
      rfl
    rw [hrun] at hlogs
    cases hlogs
    rw [List.append_nil]
    exact ⟨hg.orderly, by simp⟩

/-- The rows that do not stand after products which are still to be taken. -/
def Ahead (products : List TableRow) (s : TableRow) : Prop :=
  s.stage ≤ 3 ∧ ∀ r ∈ products, s.rank ≤ r.rank

/-- Products in the order in which they are taken. -/
structure Shelved (products : List TableRow) : Prop where
  isProduct : ∀ r ∈ products, r.isProduct = true
  sorted : products.Pairwise fun r s => r.rank ≤ s.rank

namespace Shelved

variable {products : List TableRow}

theorem tail (h : Shelved (r :: products)) : Shelved products :=
  ⟨fun s hs => h.isProduct s (List.mem_cons_of_mem r hs), (List.pairwise_cons.mp h.sorted).2⟩

theorem ahead (h : Shelved products) {s : TableRow} (hs : s.stage ≤ 1) : Ahead products s := by
  refine ⟨Nat.le_trans hs (by decide), fun r hr => (TableRow.rank_lt_of_stage_lt ?_).le⟩
  exact Nat.lt_of_lt_of_le (Nat.lt_succ_of_le hs) (TableRow.stage_of_isProduct (h.isProduct r hr)).1

theorem take (h : Shelved (r :: products)) (hc : Locking.named? c = some r) :
    Leads (rowAccount channel own unique) (Holding own unique (Ahead (r :: products)) rows)
      (within c) fun _ =>
      Holding own unique (Ahead products) rows := by
  have hr := h.isProduct r List.mem_cons_self
  refine holding_named hc (fun g hg => hg.fits_product hr fun s hs => hs.2 r List.mem_cons_self)
    (fun s hs => ?_) ?_
  · exact ⟨hs.1, fun t ht => hs.2 t (List.mem_cons_of_mem r ht)⟩
  · exact ⟨(TableRow.stage_of_isProduct hr).2, (List.pairwise_cons.mp h.sorted).1⟩

end Shelved

end Rules

end EventTickets.Sql
