import EventTickets.Proofs.Memory.Tables
import EventTickets.Proofs.Memory.Transactions

/-!
# What confirming does

Stock is taken line by line, all or nothing. `reservedFor` says whether an order can be confirmed,
and with which error it is refused. Then the order is paid and each of its tickets gets a token of
its own.
-/

namespace EventTickets

def OrderItem.units (kind : ItemType) (product : ProductId) : List OrderItem → Nat
  | [] => 0
  | i :: rest =>
    (if kind = i.itemType ∧ product = i.productId then i.quantity.toNat else 0) +
      units kind product rest

theorem OrderItem.units_perm {kind : ItemType} {product : ProductId} {items items' : List OrderItem}
    (h : items.Perm items') : units kind product items = units kind product items' := by
  induction h with
  | nil => rfl
  | cons i _ ih => rw [units, units, ih]
  | swap i j rest => simp only [units]; omega
  | trans _ _ ih ih' => exact ih.trans ih'

def IssuedToken.ofTicket (secret : SigningSecret) (now : Time.Instant) (nonce : String)
    (k : Ticket) : IssuedToken :=
  let token := Token.sign secret (Claims.ofTicket k nonce now)
  ⟨token, Token.digest token, now⟩

def Ticket.issue (secret : SigningSecret) (now : Time.Instant) (nonce : String) (k : Ticket) :
    Ticket :=
  (IssuedToken.ofTicket secret now nonce k).attach k

namespace Memory

/-- Stock with so many more units sold, within its limit if there are any. -/
structure Stock.Sells (stock : Stock) (n : Nat) (stock' : Stock) : Prop where
  limit : stock'.limit = stock.limit
  sold : stock'.sold.toNat = stock.sold.toNat + n
  within : 0 < n → ∀ limit, stock.limit = some limit → stock'.sold.toNat ≤ limit.toNat

namespace Tables

def reserveAll : List OrderItem → Tables → Except TicketingError Tables
  | [], t => .ok t
  | i :: rest, t =>
    match t.reserve? i.itemType i.productId i.quantity with
    | some t' => t'.reserveAll rest
    | none => .error (.inventoryLimitReached i.productId)

theorem sameButProducts_reserveAll {t t' : Tables} {items : List OrderItem}
    (h : t.reserveAll items = .ok t') : SameButProducts t t' := by
  induction items generalizing t with
  | nil =>
    cases h
    exact .refl _
  | cons i rest ih =>
    rw [reserveAll] at h
    split at h
    · next t₁ h₁ => exact (reserve?_eq_some h₁).1.trans (ih h)
    · cases h

theorem stock?_reserveAll {t t' : Tables} {items : List OrderItem} (h : t.reserveAll items = .ok t')
    (kind : ItemType) (product : ProductId) :
    (t.stock? kind product = none → t'.stock? kind product = none) ∧
      ∀ stock, t.stock? kind product = some stock →
        ∃ stock', t'.stock? kind product = some stock' ∧
          stock.Sells (OrderItem.units kind product items) stock' := by
  induction items generalizing t with
  | nil =>
    cases h
    exact ⟨id, fun stock hs => ⟨stock, hs, rfl, rfl, fun hn => absurd hn (Nat.lt_irrefl 0)⟩⟩
  | cons i rest ih =>
    rw [reserveAll] at h
    split at h
    · next t₁ h₁ =>
      obtain ⟨-, stock₁, hs₁, hfits, hstock⟩ := reserve?_eq_some h₁
      obtain ⟨hnone, hsome⟩ := ih h
      rw [OrderItem.units]
      by_cases e : kind = i.itemType ∧ product = i.productId
      · -- The line is of the product.
        rw [hstock, if_pos e] at hsome
        rw [if_pos e, e.1, e.2, hs₁]
        refine ⟨nofun, fun stock hs => ?_⟩
        cases hs
        obtain ⟨stock', hs', hsells⟩ := hsome _ rfl
        rw [e.1, e.2] at hs' hsells
        have hadd := toNat_add_of_fits hfits
        refine ⟨stock', hs', hsells.limit, ?_, fun _ limit hlimit => ?_⟩
        · have := hsells.sold
          simp only [hadd] at this
          omega
        · rcases Nat.eq_zero_or_pos (OrderItem.units i.itemType i.productId rest) with hz | hpos
          · have := hsells.sold
            have := hfits.2 limit hlimit
            simp only [hadd] at *
            omega
          · exact hsells.within hpos limit hlimit
      · rw [hstock, if_neg e] at hnone hsome
        rw [if_neg e, Nat.zero_add]
        exact ⟨hnone, hsome⟩
    · cases h

def reservedFor (t : Tables) (id : OrderId) : Except TicketingError Tables :=
  match t.orders.get? id with
  | none => .error (.orderNotFound id)
  | some order =>
    if order.status = .pending then t.reserveAll (OrderItem.reservationOrder (t.itemsOf id))
    else .error (.orderStateNotAllowed order.status)

def issueAll (secret : SigningSecret) (now : Time.Instant) :
    List Ticket → (Nat → String) → Tables → Tables
  | [], _, t => t
  | k :: rest, nonces, t =>
    (t.modifyTicket k.id (IssuedToken.ofTicket secret now (nonces 0) k).attach).issueAll
      secret now rest fun n =>
      nonces (n + 1)

section

variable (secret : SigningSecret) (now : Time.Instant)

theorem issueAll_eq (tickets : List Ticket) (nonces : Nat → String) (t : Tables) :
    t.issueAll secret now tickets nonces =
      { t with tickets := (t.issueAll secret now tickets nonces).tickets } := by
  induction tickets generalizing t nonces with
  | nil => rfl
  | cons k rest ih =>
    rw [issueAll, ih]
    rfl

theorem map_issueAll {γ : Type} {g : Ticket → γ}
    (hg : ∀ (issued : IssuedToken) k, g (issued.attach k) = g k) (tickets : List Ticket)
    (nonces : Nat → String) (t : Tables) :
    (t.issueAll secret now tickets nonces).tickets.map g = t.tickets.map g := by
  induction tickets generalizing t nonces with
  | nil => rfl
  | cons k rest ih => rw [issueAll, ih, map_modifyTicket (hg _)]

theorem issueAll_eq_mapTickets {t : Tables} (ht : t.TicketsDistinct) {tickets : List Ticket}
    (hdistinct : (tickets.map (·.id)).Nodup) (hsub : ∀ k ∈ tickets, k ∈ t.tickets)
    (nonces : Nat → String) : ∃ byId : TicketId → String, t.issueAll secret now tickets nonces =
      t.mapTickets fun k => if k ∈ tickets then k.issue secret now (byId k.id) else k := by
  -- By induction on the tickets to issue. The tables change under it, but not the identifiers, so a
  -- ticket is still the one it was when its turn comes.
  induction tickets generalizing t nonces with
  | nil => exact ⟨fun _ => "", by simp [issueAll, mapTickets]⟩
  | cons x rest ih =>
    obtain ⟨hx, hrest⟩ := List.nodup_cons.mp hdistinct
    have hne : ∀ k ∈ rest, k.id ≠ x.id := fun k hk e => hx (List.mem_map.mpr ⟨k, hk, e⟩)
    have hxt := hsub x List.mem_cons_self
    let f : Ticket → Ticket := fun k => if k.id = x.id then k.issue secret now (nonces 0) else k
    have hf : ∀ k, (f k).id = k.id := fun k => by simp only [f]; split <;> rfl
    have hattach : t.modifyTicket x.id (IssuedToken.ofTicket secret now (nonces 0) x).attach =
        t.mapTickets f := by
      rw [modifyTicket_eq ht]
      refine mapTickets_congr fun k hk => ?_
      simp only [f]
      split
      · next e => rw [List.inj_on_of_nodup_map ht hk hxt e, Ticket.issue]
      · rfl
    have hsub₁ : ∀ k ∈ rest, k ∈ (t.mapTickets f).tickets := fun k hk =>
      List.mem_map.mpr ⟨k, hsub k (List.mem_cons_of_mem _ hk), if_neg (hne k hk)⟩
    obtain ⟨byId, hrun⟩ := ih (ht.mapTickets hf) hrest hsub₁ fun n => nonces (n + 1)
    refine ⟨fun id => if id = x.id then nonces 0 else byId id, ?_⟩
    rw [issueAll, hattach, hrun, mapTickets_mapTickets]
    refine mapTickets_congr fun k hk => ?_
    by_cases e : k.id = x.id
    · -- The ticket that was issued first is not issued again.
      obtain rfl : k = x := List.inj_on_of_nodup_map ht hk hxt e
      have hnot : k.issue secret now (nonces 0) ∉ rest := fun hm => hne _ hm e
      simp [f, hnot]
    · have hk : k ≠ x := fun h => e (congrArg _ h)
      simp [f, e, hk]

end

def confirmed (t : Tables) (id : OrderId) (operator : OperatorId) (now : Time.Instant)
    (secret : SigningSecret) (nonces : Nat → String) : Tables :=
  let paid := t.transitioned id (.confirm operator now)
  paid.issueAll secret now (paid.ticketsOf id) nonces

theorem confirmed_eq (t : Tables) (id : OrderId) (operator : OperatorId) (now : Time.Instant)
    (secret : SigningSecret) (nonces : Nat → String) :
    t.confirmed id operator now secret nonces =
      { t.transitioned id (.confirm operator now) with
        tickets := (t.confirmed id operator now secret nonces).tickets } :=
  issueAll_eq secret now _ nonces _

@[simp] theorem stock?_confirmed (t : Tables) (id : OrderId) (operator : OperatorId)
    (now : Time.Instant) (secret : SigningSecret) (nonces : Nat → String) :
    (t.confirmed id operator now secret nonces).stock? = t.stock? := by
  rw [confirmed_eq]
  exact stock?_congr rfl rfl

theorem reservedFor_eq_ok {t t' : Tables} {id : OrderId} (h : t.reservedFor id = .ok t') :
    ∃ order, t.orders.get? id = some order ∧ order.status = .pending ∧
      t.reserveAll (OrderItem.reservationOrder (t.itemsOf id)) = .ok t' := by
  rw [reservedFor] at h
  split at h
  · cases h
  · next order ho =>
    split at h
    · next hp => exact ⟨order, ho, hp, h⟩
    · cases h

section

variable {t t₁ : Tables} {id : OrderId} (h : t.reservedFor id = .ok t₁) (operator : OperatorId)
  (now : Time.Instant)
  (secret : SigningSecret) (nonces : Nat → String)

include h

theorem sameButProducts_reservedFor : SameButProducts t t₁ := by
  obtain ⟨order, -, -, hr⟩ := reservedFor_eq_ok h
  exact sameButProducts_reserveAll hr

theorem orders_confirmed :
    (t₁.confirmed id operator now secret nonces).orders =
      t.orders.modify id (OrderTransition.confirm operator now).apply := by
  rw [confirmed_eq, ← (sameButProducts_reservedFor h).orders]
  rfl

theorem tickets_confirmed (ht : t.TicketsDistinct) :
    ∃ byId : TicketId → String, (t₁.confirmed id operator now secret nonces).tickets =
      t.tickets.map fun k => if k.orderId = id then k.issue secret now (byId k.id) else k := by
  let paid := t₁.transitioned id (.confirm operator now)
  have htickets : paid.tickets = t.tickets := (sameButProducts_reservedFor h).tickets
  have hpaid : paid.TicketsDistinct := by
    rw [TicketsDistinct, htickets]
    exact ht
  have hdistinct : ((paid.ticketsOf id).map (·.id)).Nodup :=
    hpaid.sublist (List.filter_sublist.map _)
  obtain ⟨byId, hissued⟩ := issueAll_eq_mapTickets secret now hpaid hdistinct
    (fun k hk => (mem_ticketsOf.mp hk).1) nonces
  refine ⟨byId, ?_⟩
  rw [← htickets]
  refine (congrArg Tables.tickets hissued).trans (List.map_congr_left fun k hk => ?_)
  simp [mem_ticketsOf, hk]

theorem map_confirmed {γ : Type} {g : Ticket → γ}
    (hg : ∀ (issued : IssuedToken) k, g (issued.attach k) = g k) :
    (t₁.confirmed id operator now secret nonces).tickets.map g = t.tickets.map g := by
  rw [confirmed, map_issueAll secret now hg, ← (sameButProducts_reservedFor h).tickets]
  rfl

theorem promoCodes_confirmed :
    (t₁.confirmed id operator now secret nonces).promoCodes = t.promoCodes := by
  rw [confirmed_eq, ← (sameButProducts_reservedFor h).promoCodes]
  rfl

theorem orderItems_confirmed :
    (t₁.confirmed id operator now secret nonces).orderItems = t.orderItems := by
  rw [confirmed_eq, ← (sameButProducts_reservedFor h).orderItems]
  rfl

end

end Tables

namespace State

open Tables

variable {σ : Type} (channel : Channel σ) (s : State σ) (sources : Sources)
  (t : Tables) (l : LockLedger)

theorem attempt_reserveItems (items : List OrderItem) :
    attempt channel (Confirmation.reserveItems items) (s.opened sources ⟨t, l⟩) =
      match t.reserveAll items with
      | .ok t' => .ok ((), s.opened sources ⟨t', l⟩)
      | .error e => .error e := by
  induction items generalizing t with
  | nil => rfl
  | cons i rest ih =>
    rcases h : t.reserve? i.itemType i.productId i.quantity with _ | t' <;>
      simp [Confirmation.reserveItems, reserveAll, h, ih]

theorem attempt_issueTokens (env : Environment) (now : Time.Instant) {tickets : List Ticket}
    (hsub : ∀ k ∈ tickets, k.id ∈ t.tickets.map (·.id)) :
    ∃ (nonces : Nat → String) (after : Sources),
      attempt channel (Confirmation.issueTokens env now tickets) (s.opened sources ⟨t, l⟩) =
        .ok ((), s.opened after ⟨t.issueAll env.secret now tickets nonces, l⟩) := by
  -- By induction on the tickets. A token is written under an identifier and keeps all identifiers,
  -- so what is left to issue is still found.
  induction tickets generalizing t sources with
  | nil => exact ⟨fun _ => "", sources, rfl⟩
  | cons x rest ih =>
    obtain ⟨hx, hrest⟩ := List.forall_mem_cons.mp hsub
    obtain ⟨found, hfound⟩ := Option.isSome_iff_exists.mp (ticket?_isSome_iff.mpr hx)
    let nonce := (Sources.newNonce env.policy.nonceBytes sources).1
    let t₁ := t.modifyTicket x.id (IssuedToken.ofTicket env.secret now nonce x).attach
    have hids : t₁.tickets.map (·.id) = t.tickets.map (·.id) := by
      refine map_modifyTicket (fun k => ?_) x.id t
      rfl
    obtain ⟨nonces, after, hrun⟩ := ih (Sources.newNonce env.policy.nonceBytes sources).2 t₁
      (fun k hk => hids ▸ hrest k hk)
    refine ⟨fun n => Nat.casesOn n nonce nonces, after, ?_⟩
    rw [issueAll]
    refine Eq.trans ?_ hrun
    simp [Confirmation.issueTokens, Confirmation.issueToken, hfound]
    rfl

theorem attempt_confirm (env : Environment) (id : OrderId) (operator : OperatorId) :
    (∃ e, t.reservedFor id = .error e ∧
      attempt channel (Confirmation.confirm env id operator)
        (s.opened sources ⟨t, .empty⟩) = .error e) ∨
    ∃ (order : Order) (t₁ : Tables) (nonces : Nat →
      String) (after : Sources) (detail : OrderDetail),
      t.orders.get? id = some order ∧ t.reservedFor id = .ok t₁ ∧
      attempt channel (Confirmation.confirm env id operator) (s.opened sources ⟨t, .empty⟩) =
        .ok (⟨detail, t.users.get? order.userId⟩, s.opened after
          ⟨t₁.confirmed id operator sources.now.1 env.secret nonces, ⟨some .ticket⟩⟩) := by
  simp only [Confirmation.confirm, attempt_bind, attempt_now, attempt_lockOrder,
    LockLedger.empty_admits]
  rcases ho : t.orders.get? id with _ | order
  · exact .inl ⟨_, by rw [reservedFor, ho], by simp⟩
  by_cases hp : order.status = .pending
  · rcases hr : t.reserveAll (OrderItem.reservationOrder (t.itemsOf id)) with e | t₁
    · refine .inl ⟨e, by simp [reservedFor, ho, hp, hr], ?_⟩
      simp [titled, hp, LockStage.rank, attempt_reserveItems, hr]
    · refine .inr ?_
      have hsame := sameButProducts_reserveAll hr
      have htr : t₁.transition? id (.confirm operator sources.now.1) =
          some (t₁.transitioned id (.confirm operator sources.now.1)) := by
        rw [transition?_eq (by rw [hsame.orders, ho]), hp]
        rfl
      obtain ⟨nonces, after, hissue⟩ := attempt_issueTokens channel s sources.now.2
        (t₁.transitioned id (.confirm operator sources.now.1)) ⟨some .ticket⟩ env sources.now.1
        fun k hk => List.mem_map_of_mem (mem_ticketsOf.mp hk).1
      rw [← confirmed] at hissue
      have hdetail : ∃ detail, (t₁.confirmed id operator sources.now.1 env.secret nonces).detail?
          id false =
          some detail := by
        rw [confirmed_eq]
        simp [detail?, transitioned, hsame.orders, ho]
      obtain ⟨detail, hdetail⟩ := hdetail
      have husers : (t₁.confirmed id operator sources.now.1 env.secret nonces).users = t.users := by
        rw [confirmed_eq, ← hsame.users]
        rfl
      refine ⟨order, t₁, nonces, after, detail, rfl, by simp [reservedFor, ho, hp, hr], ?_⟩
      simp [titled, hp, LockStage.rank, attempt_reserveItems, hr, htr, hissue, hdetail, husers]
  · exact .inl ⟨.orderStateNotAllowed order.status, by simp [reservedFor, ho,
      hp], by simp [titled, hp]⟩

/-- Confirming takes the stock of the order, pays it and issues its tickets; otherwise it changes
nothing. -/
theorem serve_confirmOrder (env : Environment) (id : OrderId) (operator : OperatorId) :
    (∃ e after, s.committed.reservedFor id = .error e ∧ s.sources.Precedes after ∧
      serve channel (confirmOrder env id operator) s = (.error e, s.settled after s.committed)) ∨
    ∃ (t₁ : Tables) (nonces : Nat → String) (after : Sources) (reply : ConfirmedOrder),
      s.committed.reservedFor id = .ok t₁ ∧ s.sources.Precedes after ∧
      serve channel (confirmOrder env id operator) s =
        (.ok reply,
          s.settled after (t₁.confirmed id operator s.sources.now.1 env.secret nonces)) := by
  have hinner := (Confirmation.careful_confirm env id operator).inner
  rcases attempt_confirm channel s s.sources s.committed env id operator with
    ⟨e, he, h⟩ | ⟨order, t₁, nonces, after, detail, -, hr, h⟩
  · obtain ⟨after, hafter, hs⟩ := serve_transaction_of_error channel hinner h
    exact .inl ⟨e, after, he, hafter, hs⟩
  · obtain ⟨hafter, hs⟩ := serve_transaction_of_ok channel hinner h
    exact .inr ⟨t₁, nonces, after, _, hr, hafter, hs⟩

theorem serve_deliverOrder (confirmed : ConfirmedOrder) :
    ∃ outcome inner, serve channel (deliverOrder confirmed) s = (.ok outcome,
      { s with channel := inner }) := by
  rw [deliverOrder]
  split
  · exact ⟨_, s.channel, rfl⟩
  · next purchaser _ =>
    have hask : ∀ r, answer channel (.deliver purchaser confirmed.detail) s = r →
        serve channel (Service.ask (.deliver purchaser confirmed.detail)) s = (.ok r.1, r.2) :=
      fun r hr => hr ▸ serve_ask channel _ s
    rw [serve_bind, hask _ rfl]
    rcases h : channel purchaser confirmed.detail s.channel with ⟨_ | _, inner⟩ <;>
      exact ⟨_, inner, by simp only [answer, h]; rfl⟩

end State

end Memory

end EventTickets
