import EventTickets.Proofs.Totals

/-!
# The order in which rows were written

Lines are numbered from one, and the tickets of an order have identifiers that were drawn one right
after the other. Both stand in their tables in the order in which they were written, whatever
becomes of them afterwards.
-/

namespace EventTickets.Memory

namespace Tables

variable {t t' : Tables}

theorem itemRows_ids (n : Nat) (items : List NewOrderItem) :
    (itemRows (Int64.ofNat n) items).map (·.id) =
      (List.range' (n + 1) items.length).map Int64.ofNat := by
  induction items generalizing n with
  | nil => rfl
  | cons i rest ih =>
    have hnext : Int64.ofNat n + 1 = Int64.ofNat (n + 1) := (Int64.ofNat_add n 1).symm
    rw [itemRows, hnext, List.map_cons, ih, List.length_cons, List.range'_succ, List.map_cons]
    rfl

theorem length_itemRows (last : Int64) (items : List NewOrderItem) :
    (itemRows last items).length = items.length := by
  simpa using congrArg List.length
    (itemRows_map (f := fun _ => ()) (g := fun _ => ()) (fun _ _ => rfl) last items)

theorem foldl_succ (n : Nat) (items : List NewOrderItem) :
    items.foldl (fun last _ => last + 1) (Int64.ofNat n) = Int64.ofNat (n + items.length) := by
  induction items generalizing n with
  | nil => rfl
  | cons i rest ih =>
    have hnext : Int64.ofNat n + 1 = Int64.ofNat (n + 1) := (Int64.ofNat_add n 1).symm
    rw [List.foldl_cons, hnext, ih, List.length_cons]
    exact congrArg Int64.ofNat (by omega)

/-- Lines are numbered from one in the order in which they were written. -/
structure Numbered (t : Tables) : Prop where
  last : t.lastItemId = Int64.ofNat t.orderItems.length
  ids : t.orderItems.map (·.id) = (List.range' 1 t.orderItems.length).map Int64.ofNat

theorem Numbered.placed {w : Purchase.Placement} {t₁ : Tables} (h : t.Numbered)
    (hpromo : t.PromoTaken w.order.promoCodeId t₁) : (t₁.placed w).Numbered := by
  have hlength : (t₁.placed w).orderItems.length = t.orderItems.length + w.items.length := by
    rw [orderItems_placed hpromo, List.length_append, length_itemRows]
  constructor
  · rw [hlength, ← foldl_succ, ← h.last, hpromo.eq]
    rfl
  · rw [hlength, orderItems_placed hpromo, List.map_append, h.ids, h.last,
      itemRows_ids, ← List.map_append, Nat.add_comm t.orderItems.length 1, List.range'_append_1]

structure SameLines (t t' : Tables) : Prop where
  orderItems : t'.orderItems = t.orderItems
  lastItemId : t'.lastItemId = t.lastItemId

theorem Numbered.sameLines (h : t.Numbered) (hsame : SameLines t t') : t'.Numbered := by
  constructor
  · rw [hsame.lastItemId, hsame.orderItems]
    exact h.last
  · rw [hsame.orderItems]
    exact h.ids

theorem lines_effect {a b : Supply Uuid} {env : Environment} {now : Time.Instant} {c : ServiceCall}
    (he : Effect env a b now t c t') :
    (∃ w t₁, t.PromoTaken w.order.promoCodeId t₁ ∧ t' = t₁.placed w) ∨ SameLines t t' := by
  cases he with
  | catalog hchange => exact .inr (by cases hchange <;> exact ⟨rfl, rfl⟩)
  | place request w t₁ hpromo hw => exact .inl ⟨w, t₁, hpromo, rfl⟩
  | confirm hcall t₁ nonces hr =>
    refine .inr ⟨orderItems_confirmed hr _ _ _ nonces, ?_⟩
    rw [confirmed_eq]
    exact (sameButProducts_reservedFor hr).lastItemId
  | cancel id operator reason order ho hopen =>
    refine .inr ⟨orderItems_canceled t id order operator now _, ?_⟩
    rw [← (sameButProducts_stockReturned t id order).lastItemId, canceled]
    cases order.promoCodeId <;> rfl
  | redeem id operator token ticket order hadmitted =>
    refine .inr ⟨orderItems_redeemed t ticket operator now, ?_⟩
    simp only [redeemed]
    split <;> rfl

theorem Numbered.effect {a b : Supply Uuid} {env : Environment}
    {now : Time.Instant} {c : ServiceCall} (h : t.Numbered) (he : Effect env a b now t c t') :
    t'.Numbered := by
  rcases lines_effect he with ⟨w, t₁, hpromo, rfl⟩ | hsame
  · exact h.placed hpromo
  · exact h.sameLines hsame

theorem Numbered.itemsOf (h : t.Numbered) (hcount : t.orderItems.length < 2 ^ 63) (id : OrderId) :
    (t.itemsOf id).Pairwise (·.id < ·.id) := by
  have hrange : (List.range' 1 t.orderItems.length).Pairwise fun m n =>
      Int64.ofNat m < Int64.ofNat n := by
    refine (List.pairwise_lt_range').imp_of_mem fun {m n} hm hn hlt => ?_
    rw [List.mem_range'_1] at hm hn
    rw [Int64.lt_iff_toInt_lt, Int64.toInt_ofNat_of_lt (by omega),
      Int64.toInt_ofNat_of_lt (by omega)]
    exact Int.ofNat_lt.mpr hlt
  have hids := List.pairwise_map.mpr hrange
  rw [← h.ids] at hids
  exact (List.pairwise_map.mp hids).filter _

/-- Orders stand under their identifiers, and the tickets of each have identifiers that were drawn
one right after the other, in the order in which they stand. -/
structure InSeries (item : Nat → Uuid) (t : Tables) : Prop where
  attached : t.Attached
  order_id : ∀ id order, t.orders.get? id = some order → order.id = id
  drawn : ∀ id, ∃ n, (t.ticketsOf id).map (·.id.uuid) =
    (List.range' n (t.ticketsOf id).length).map item

theorem inSeries_empty (item : Nat → Uuid) : Tables.empty.InSeries item :=
  ⟨attached_empty, fun _ _ ho => (by cases ho), fun _ => ⟨0, rfl⟩⟩

theorem InSeries.placed {a b : Supply Uuid} {w : Purchase.Placement} {t₁ : Tables}
    (h : t.InSeries a.item) (hpromo : t.PromoTaken w.order.promoCodeId t₁) (hw : w.Sound t a b) :
    (t₁.placed w).InSeries a.item := by
  refine ⟨h.attached.placed hpromo hw, fun id order ho => ?_, fun id => ?_⟩
  · rw [orders_placed hpromo, Table.get?_insert] at ho
    split at ho
    · next e =>
      cases ho
      exact e.symm
    · exact h.order_id id order ho
  · rw [ticketsOf_placed hpromo hw]
    split
    · next e =>
      -- No ticket was there for an order that was not.
      rw [e, h.attached.ticketsOf_absent hw.absent, List.nil_append, List.map_map, List.length_map]
      exact ⟨a.taken + 1, hw.ticket_ids⟩
    · rw [List.append_nil]
      exact h.drawn id

theorem InSeries.sameSales {item : Nat → Uuid} (h : t.InSeries item) (hsame : SameSales t t') :
    t'.InSeries item := by
  refine ⟨h.attached.sameSales hsame, fun id order' ho' => ?_, fun id => ?_⟩
  · obtain ⟨order, ho, hplaced⟩ := hsame.order ho'
    exact (congrArg (·.id) hplaced).trans (h.order_id id order ho)
  · -- Selling fixes the identifiers, so the same ones stand there, and as many.
    have hids : (t'.ticketsOf id).map (·.id.uuid) = (t.ticketsOf id).map (·.id.uuid) := by
      simpa [Function.comp_def, Ticket.asSold] using congrArg (List.map (·.id.uuid))
        (hsame.ticketsOf id)
    have hlength : (t'.ticketsOf id).length = (t.ticketsOf id).length := by
      simpa using congrArg List.length hids
    rw [hids, hlength]
    exact h.drawn id

theorem InSeries.effect {a b : Supply Uuid} {env : Environment}
    {now : Time.Instant} {c : ServiceCall} (h : t.InSeries a.item)
    (he : Effect env a b now t c t') : t'.InSeries a.item := by
  rcases sales_effect he with ⟨w, t₁, hpromo, hw, rfl⟩ | hsame
  · exact h.placed hpromo hw
  · exact h.sameSales hsame

end Tables

namespace State

variable {σ : Type} {channel : Channel σ} {allowed : State σ → Environment → ServiceCall → Prop}
  {s : State σ}

theorem Reachable.numbered (h : Reachable channel allowed s) : s.committed.Numbered := by
  refine h.kept (P := fun s => s.committed.Numbered) (fun _ _ => ⟨rfl, rfl⟩) ?_ ?_
  · exact fun s events users hnumbered => ⟨hnumbered.last, hnumbered.ids⟩
  · intro s s' env c t' _ _ hbecomes heffect hnumbered
    rw [hbecomes.committed]
    exact hnumbered.effect heffect

theorem Reachable.inSeries (h : Reachable channel allowed s) :
    s.committed.InSeries s.sources.ids.item := by
  refine h.kept (P := fun s => s.committed.InSeries s.sources.ids.item)
    (fun _ _ => Tables.inSeries_empty _) ?_ ?_
  · exact fun s events users hseries =>
      ⟨⟨hseries.attached.ticket, hseries.attached.item⟩, hseries.order_id, hseries.drawn⟩
  · intro s s' env c t' _ _ hbecomes heffect hseries
    rw [hbecomes.committed, hbecomes.sources.ids]
    exact hseries.effect heffect

end State

end EventTickets.Memory
