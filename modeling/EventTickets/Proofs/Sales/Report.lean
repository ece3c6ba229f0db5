import EventTickets.Proofs.Sales.Orders

/-!
# What is reported

A report has a bucket for all events it is about and one for each of them that has orders. The
figures of a bucket are the sales of its events. There is no report if those of all its events do
not fit into 64 bits.
-/

namespace EventTickets

open Memory Memory.Tables

namespace Memory.Tables

variable {t : Tables} (h : t.Accountable) (events : EventId → Bool)

include h

theorem Accountable.total_nonneg : ∀ order ∈ t.orders.values, 0 ≤ order.totalCents.toInt :=
    fun order ho =>
  (h.addUp.order _ order (h.get?_of_mem ho)).total_nonneg

theorem Accountable.sales_nonneg (f : Figure) : 0 ≤ t.sales events f := by
  cases f with
  | purchasedAmount => exact sumOf_nonneg h.total_nonneg
  | redeemedAmount => exact sumOf_nonneg h.total_nonneg
  | tickets kind => exact sumOf_nonneg fun _ _ => Int.one_nonneg
  | transfers kind => exact sumOf_nonneg fun _ _ => Int.natCast_nonneg _
  | checkedInTickets => exact sumOf_nonneg fun _ _ => Int.one_nonneg
  | checkedInPeople => exact sumOf_nonneg fun _ _ => Int.natCast_nonneg _

theorem Accountable.sales_mono {events' : EventId → Bool}
    (himp : ∀ event, events event = true → events' event = true) (f : Figure) :
    t.sales events f ≤ t.sales events' f := by
  have hpicks : ∀ {p : Bool} {event : EventId}, (p && events event) = true →
      (p && events' event) = true := by
    intro p event hp
    rw [Bool.and_eq_true] at hp ⊢
    exact ⟨hp.1, himp event hp.2⟩
  have hsold : ∀ {p : Bool} {id : OrderId}, (t.soldFor events id && p) = true →
      (t.soldFor events' id && p) = true := by
    intro p id hp
    rw [Bool.and_eq_true, soldFor, Option.any_eq_true] at hp ⊢
    obtain ⟨⟨order, ho, hpicked⟩, hp⟩ := hp
    exact ⟨⟨order, ho, hpicks hpicked⟩, hp⟩
  cases f with
  | purchasedAmount => exact sumOf_le h.total_nonneg fun _ _ => hpicks
  | redeemedAmount => exact sumOf_le h.total_nonneg fun _ _ => hpicks
  | tickets kind => exact sumOf_le (fun _ _ => Int.one_nonneg) fun _ _ => hsold
  | transfers kind => exact sumOf_le (fun _ _ => Int.natCast_nonneg _) fun _ _ => hsold
  | checkedInTickets => exact sumOf_le (fun _ _ => Int.one_nonneg) fun _ _ => hpicks
  | checkedInPeople => exact sumOf_le (fun _ _ => Int.natCast_nonneg _) fun _ _ => hpicks

theorem Accountable.redeemed_le_purchased :
    t.sales events .redeemedAmount ≤ t.sales events .purchasedAmount := by
  refine sumOf_le h.total_nonneg fun order _ hredeemed => ?_
  rw [Bool.and_eq_true, beq_iff_eq] at hredeemed
  rw [hredeemed.1, hredeemed.2]
  rfl

theorem Accountable.sales_split {ids : List EventId} (hids : ids.Nodup)
    (hall : ∀ order ∈ t.orders.values, events order.eventId = true → order.eventId ∈ ids)
    (f : Figure) :
    (ids.map fun event => t.sales (fun e => events e && covers (some event) e) f).sum =
      t.sales events f := by
  -- Tickets are for the events of their orders, so no check-in is for an event that was left out.
  have htickets : ∀ k ∈ t.tickets, events k.eventId = true → k.eventId ∈ ids := by
    intro k hk hevent
    obtain ⟨order, ho, e⟩ := h.ticket_event hk
    rw [← e] at hevent ⊢
    exact hall order (Table.mem_values_iff.mpr ⟨_, ho⟩) hevent
  have horders : ∀ event (order : Order),
      (events order.eventId && covers (some event) order.eventId) =
      (order.eventId == event && events order.eventId) :=
    fun event order => Bool.and_comm _ _
  have hcheckIns : ∀ event (k : Ticket),
      (k.isRedeemed && (events k.eventId && covers (some event) k.eventId)) =
        (k.eventId == event && (k.isRedeemed && events k.eventId)) := by
    intro event k
    rw [← Bool.and_assoc, Bool.and_comm]
    rfl
  simp only [← h.sales_eq, horders, hcheckIns]
  rw [List.sum_map_add, sum_sumOf_key hids fun order : Order => order.eventId,
    sum_sumOf_key hids fun k : Ticket => k.eventId]
  congr 1
  · refine sumOf_congr fun order ho => ?_
    cases hevent : events order.eventId with
    | false => simp
    | true => simp [hall order ho hevent]
  · refine sumOf_congr fun k hk => ?_
    cases hevent : events k.eventId with
    | false => simp
    | true => simp [htickets k hk hevent]

end Memory.Tables

namespace SalesTally

variable {t : Tables} (h : t.Accountable) (only scope : Option EventId) {tally : SalesTally}

def ofTables? (t : Tables) (only : Option EventId) : Option SalesTally :=
  reported? (t.statsRows only) (t.checkInRows only)

include h

theorem valid_statsRows : (t.statsRows only).filter (·.eventId.isValid) = t.statsRows only := by
  refine List.filter_eq_self.mpr fun row hrow => ?_
  obtain ⟨order, ho, hrow⟩ := List.mem_flatMap.mp hrow
  rw [(t.carries_statsRowsOf order row hrow).eventId]
  exact h.event _ order (h.get?_of_mem (List.mem_filter.mp ho).1)

theorem valid_checkInRows :
    (t.checkInRows only).filter (·.eventId.isValid) = t.checkInRows only := by
  refine List.filter_eq_self.mpr fun row hrow => ?_
  obtain ⟨k, hk, rfl⟩ := List.mem_map.mp hrow
  obtain ⟨order, ho, e⟩ := h.ticket_event (List.mem_filter.mp hk).1
  rw [← e]
  exact h.event _ order ho

theorem nonneg_statsRows : ∀ row ∈ t.statsRows only, row.Nonneg := by
  intro row hrow
  obtain ⟨order, ho, hrow⟩ := List.mem_flatMap.mp hrow
  refine ⟨?_, ?_⟩
  · rw [(t.carries_statsRowsOf order row hrow).totalCents]
    exact h.total_nonneg order (List.mem_filter.mp ho).1
  · rw [statsRowsOf] at hrow
    split at hrow
    · cases List.mem_singleton.mp hrow
      exact Int.le_refl 0
    · obtain ⟨item, -, rfl⟩ := List.mem_map.mp hrow
      simp only [toInt_ofNat_toNat]
      exact Int.natCast_nonneg _

omit h in
theorem nonneg_checkInRows (t : Tables) (only : Option EventId) :
    ∀ row ∈ t.checkInRows only, 0 ≤ row.quantity.toInt := by
  intro row hrow
  obtain ⟨k, -, rfl⟩ := List.mem_map.mp hrow
  simp only [toInt_ofNat_toNat]
  exact Int.natCast_nonneg _

theorem reckoned_eq_sales (f : Figure) :
    StatsRow.reckon (covers scope) [] ((t.statsRows only).filter (·.eventId.isValid)) f +
        sumOf (fun row => covers scope row.eventId) (fun row => checkInPart row.quantity f)
          ((t.checkInRows only).filter (·.eventId.isValid)) =
      t.sales (fun event => covers only event && covers scope event) f := by
  have hrows : t.statsRows only =
      (t.orders.values.filter fun order => covers only order.eventId).flatMap t.statsRowsOf := rfl
  have hdistinct :
      ((t.orders.values.filter fun order => covers only order.eventId).map (·.id)).Nodup :=
    h.ids_nodup.sublist (List.filter_sublist.map _)
  rw [valid_statsRows h, valid_checkInRows h, hrows,
    t.reckon_orders f _ hdistinct fun _ _ _ => List.not_mem_nil, sumOf_filter, checkInRows,
    sumOf_map, sumOf_filter, ← h.sales_eq]
  simp only [← Bool.and_assoc]
  rfl

theorem has_ofTables (he : ofTables? t only = some tally) (event : EventId) :
    tally.has event = true ↔
      ∃ order ∈ t.orders.values, covers only order.eventId = true ∧ order.eventId = event := by
  rw [has_reported he, valid_statsRows h, List.any_eq_true]
  constructor
  · rintro ⟨row, hrow, hevent⟩
    obtain ⟨order, ho, hrow⟩ := List.mem_flatMap.mp hrow
    obtain ⟨ho, hcovered⟩ := List.mem_filter.mp ho
    refine ⟨order, ho, hcovered, ?_⟩
    rw [← (t.carries_statsRowsOf order row hrow).eventId, beq_iff_eq.mp hevent]
  · rintro ⟨order, ho, hcovered, rfl⟩
    obtain ⟨row, hrow⟩ := List.exists_mem_of_ne_nil _ (t.statsRowsOf_ne_nil order)
    refine ⟨row, List.mem_flatMap.mpr ⟨order, List.mem_filter.mpr ⟨ho, hcovered⟩, hrow⟩, ?_⟩
    rw [(t.carries_statsRowsOf order row hrow).eventId, BEq.rfl]

theorem figure_ofTables (he : ofTables? t only = some tally)
    (hscope : ∀ event, scope = some event → tally.has event = true) (f : Figure) :
    (tally.figure scope f).toInt =
      t.sales (fun event => covers only event && covers scope event) f := by
  rw [figure_reported he hscope, reckoned_eq_sales h]

/-- A report is made if and only if all that it is about fits together. -/
theorem isSome_ofTables? :
    (ofTables? t only).isSome = true ↔ ∀ f, t.sales (covers only) f ≤ 2 ^ 63 - 1 := by
  have hall : ∀ f, t.sales (fun event => covers only event && covers none event) f =
      t.sales (covers only) f := fun f =>
    congrArg (fun events => t.sales events f) (funext fun event => Bool.and_true _)
  constructor
  · intro hsome f
    obtain ⟨tally, he⟩ := Option.isSome_iff_exists.mp hsome
    have hlt := Int64.toInt_lt (tally.figure none f)
    rw [figure_ofTables h only none he nofun, hall] at hlt
    omega
  · intro hfits
    refine isSome_reported? (nonneg_statsRows h only) (nonneg_checkInRows t only) fun f => ?_
    rw [reckoned_eq_sales h, hall]
    exact hfits f

end SalesTally

namespace TicketStats

/-- Which buckets a report on an event or on all of them has, and what they show. -/
structure Shows (stats : TicketStats) (t : Tables) (only : Option EventId) : Prop where
  overall : stats.overall.eventId = none
  events : ∃ ids : List EventId, stats.events.map (·.eventId) = ids.map some ∧
    (ids.Pairwise fun a b => Ranked.rank a < Ranked.rank b) ∧
    ∀ event, event ∈ ids ↔
      ∃ order ∈ t.orders.values, covers only order.eventId = true ∧ order.eventId = event
  whole : ∀ b ∈ stats.overall :: stats.events, b.Whole
  figure : ∀ b ∈ stats.overall :: stats.events, ∀ f,
    (b.figure f).toInt = t.sales (fun event => covers only event && covers b.eventId event) f

end TicketStats

namespace SalesTally

variable {tally : SalesTally} {event : EventId} {b : StatsBucket}

theorem mem_ids (tally : SalesTally) (event : EventId) :
    event ∈ tally.events.entries.map (·.1) ↔ tally.has event = true := by
  rw [has, Option.isSome_iff_exists, List.mem_map]
  constructor
  · rintro ⟨⟨event', b⟩, hb, rfl⟩
    exact ⟨b, Table.get?_eq_some_iff.mpr hb⟩
  · rintro ⟨b, hb⟩
    exact ⟨(event, b), Table.get?_eq_some_iff.mp hb, rfl⟩

theorem has_of_get? (hb : tally.events.get? event = some b) : tally.has event = true := by
  rw [has, hb]
  rfl

theorem figure_of_get? (hb : tally.events.get? event = some b) (f : Figure) :
    tally.figure (some event) f = b.figure f := by
  rw [figure, hb]
  rfl

theorem shows_ofTables {t : Tables} (h : t.Accountable) (only : Option EventId)
    (he : ofTables? t only = some tally) : tally.stats.Shows t only := by
  have hsound := sound_reported he
  refine ⟨hsound.eventId, ⟨tally.events.entries.map (·.1), ?_, ?_, fun event => ?_⟩, ?_, ?_⟩
  · rw [stats, Table.values, List.map_map, List.map_map]
    exact List.map_congr_left fun e hmem =>
      (hsound.bucket e.1 e.2 (Table.get?_eq_some_iff.mpr hmem)).2
  · exact List.pairwise_map.mpr tally.events.ascending
  · rw [mem_ids, has_ofTables h only he]
  · refine List.forall_mem_cons.mpr ⟨hsound.whole, fun b hb => ?_⟩
    obtain ⟨event, hb⟩ := Table.mem_values_iff.mp hb
    exact (hsound.bucket event b hb).1
  · refine List.forall_mem_cons.mpr ⟨fun f => ?_, fun b hb f => ?_⟩
    · have hnone : tally.stats.overall.eventId = none := hsound.eventId
      rw [hnone]
      exact figure_ofTables h only none he
        (fun event e => absurd e.symm (Option.some_ne_none event)) f
    · obtain ⟨event, hb⟩ := Table.mem_values_iff.mp hb
      rw [(hsound.bucket event b hb).2, ← figure_of_get? hb]
      exact figure_ofTables h only (some event) he
        (fun event' e => Option.some.inj e ▸ has_of_get? hb) f

end SalesTally

namespace Memory.State

variable {σ : Type} {channel : Channel σ} {allowed : State σ → Environment → ServiceCall → Prop}
  {s : State σ}

theorem Reachable.labeled (h : Reachable channel allowed s) : s.committed.Labeled := by
  refine h.kept (P := fun s => s.committed.Labeled) (fun _ _ => labeled_empty)
    (fun _ _ _ hs => ⟨hs.event, hs.names⟩) ?_
  intro s s' env c t' _ _ hbecomes heffect hs
  rw [hbecomes.committed]
  rcases Tables.sales_effect heffect with ⟨w, t₁, hpromo, hw, rfl⟩ | hsame
  · exact hs.placed hpromo hw
  · exact hs.sameSales hsame

theorem Reachable.accountable (h : Reachable channel allowed s) (hfresh : s.sources.ids.Fresh) :
    s.committed.Accountable :=
  ⟨h.labeled, (h.wellFormed hfresh).consistent.order_id, h.addUp⟩

theorem serve_ticketStats (channel : Channel σ) (s : State σ) (only : Option EventId) :
    serve channel (ticketStats only) s =
      (.ok ((SalesTally.ofTables? s.committed only).map (·.stats)), s) := rfl

end Memory.State

end EventTickets
