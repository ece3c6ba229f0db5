import EventTickets.Proofs.Sales.Stock

/-!
# Sales figures

What is reported is read off the rows of orders and tickets; here it is compared with the tables,
and with the counters of products, which other calls keep. Sums are of 64 bits: while they hold what
is sold a report is right, and beyond that there is none.
-/

namespace EventTickets

open Memory Memory.Tables

namespace TicketStats

/-- A report on all events that agrees with the tables: it has a bucket for each event with an
order, in order, and every figure of every bucket is what is sold for its events. -/
structure Reconciles (stats : TicketStats) (t : Tables) : Prop where
  overall : stats.overall.eventId = none
  events : ∃ ids : List EventId, stats.events.map (·.eventId) = ids.map some ∧
    (ids.Pairwise fun a b => Ranked.rank a < Ranked.rank b) ∧
    ∀ event, event ∈ ids ↔ ∃ order ∈ t.orders.values, order.eventId = event
  whole : ∀ b ∈ stats.overall :: stats.events, b.Whole
  figure : ∀ b ∈ stats.overall :: stats.events, ∀ f, (b.figure f).toInt =
    t.sales (covers b.eventId) f
  total : ∀ f, (stats.overall.figure f).toInt = (stats.events.map fun b => (b.figure f).toInt).sum

variable {stats : TicketStats} {t : Tables}

theorem Shows.reconciles (h : stats.Shows t none) (ht : t.Accountable) : stats.Reconciles t := by
  have hfigure : ∀ b ∈ stats.overall :: stats.events, ∀ f,
      (b.figure f).toInt = t.sales (covers b.eventId) f := h.figure
  obtain ⟨ids, hids, hascending, hmem⟩ := h.events
  have hmem : ∀ event, event ∈ ids ↔ ∃ order ∈ t.orders.values, order.eventId = event := by
    intro event
    rw [hmem]
    exact exists_congr fun order => and_congr_right fun _ => and_iff_right rfl
  refine ⟨h.overall, ⟨ids, hids, hascending, hmem⟩, h.whole, hfigure, fun f => ?_⟩
  have hnodup : ids.Nodup := by
    refine hascending.imp fun hlt e => ?_
    rw [e] at hlt
    exact Int.lt_irrefl _ hlt
  have hbuckets : stats.events.map (fun b => (b.figure f).toInt) =
      ids.map fun event => t.sales (covers (some event)) f := by
    rw [List.map_congr_left fun b hb => hfigure b (List.mem_cons_of_mem _ hb) f]
    have hscopes := congrArg (List.map fun scope => t.sales (covers scope) f) hids
    rwa [List.map_map, List.map_map] at hscopes
  rw [hbuckets, hfigure _ List.mem_cons_self, h.overall]
  exact (ht.sales_split (fun _ => true) hnodup
    (fun order ho _ => (hmem _).mpr ⟨order, ho, rfl⟩) f).symm

end TicketStats

namespace Memory.State

variable {σ : Type} {channel : Channel σ} {s : State σ}

/-- While all sums fit, a report agrees with the tables in every figure. If no product was ever
taken away, the units of each kind are also what the products of that kind count as sold. -/
theorem sales_figures_reconcile (h : Reachable channel anyCall s) (hfresh : s.sources.ids.Fresh)
    (hfits : ∀ f, s.committed.sales (fun _ => true) f ≤ 2 ^ 63 - 1) :
    ∃ stats, serve channel (ticketStats none) s = (.ok (some stats), s) ∧
      stats.Reconciles s.committed ∧
      (Reachable channel keepsProducts s → ∀ b ∈ stats.overall :: stats.events,
        (∀ kind, (b.figure (.tickets kind)).toInt =
          s.committed.ticketsCounted (covers b.eventId) kind) ∧
          ∀ kind, (b.figure (.transfers kind)).toInt =
            s.committed.transfersCounted (covers b.eventId) kind) := by
  have haccountable := h.accountable hfresh
  obtain ⟨tally, htally⟩ :=
    Option.isSome_iff_exists.mp ((SalesTally.isSome_ofTables? haccountable none).mpr hfits)
  have hreconciles := (SalesTally.shows_ofTables haccountable none htally).reconciles haccountable
  have hserve := serve_ticketStats channel s none
  rw [htally] at hserve
  refine ⟨_, hserve, hreconciles, fun hkept b hb => ?_⟩
  obtain ⟨htickets, htransfers⟩ := hkept.sales_eq_counted hfresh (covers b.eventId)
  refine ⟨fun kind => ?_, fun kind => ?_⟩
  · rw [hreconciles.figure b hb, htickets]
  · rw [hreconciles.figure b hb, htransfers]

end Memory.State

namespace Sample

theorem untilUsed_reachable : State.Reachable .log State.keepsProducts (store untilUsed) := by
  refine .calls_of_allowed (.addUser (.addEvent (.start _ _) _ _) _) environment fun c hc s => ?_
  simp only [untilUsed, untilPaid, List.cons_append, List.nil_append, List.mem_cons,
    List.not_mem_nil, or_false] at hc
  rcases hc with rfl | rfl | rfl | rfl | rfl <;> trivial

end Sample

namespace Memory.State

theorem sales_figures_reconcile_used :
    ∃ stats, serve .log (ticketStats none) (Sample.store Sample.untilUsed) =
        (.ok (some stats), Sample.store Sample.untilUsed) ∧
      (stats.overall.figure .redeemedAmount).toInt = 10000 ∧
        (stats.overall.figure .checkedInPeople).toInt = 2 ∧
      (stats.overall.figure (.tickets .single)).toInt = 2 ∧
      (Sample.store Sample.untilUsed).committed.ticketsCounted (covers none) .single = 2 := by
  have hfits : ∀ f, (Sample.store Sample.untilUsed).committed.sales (fun _ => true) f ≤
      2 ^ 63 - 1 := by
    decide +kernel
  obtain ⟨stats, hserve, hreconciles, hcounted⟩ :=
    sales_figures_reconcile Sample.untilUsed_reachable.unrestricted
      (Sample.store_fresh Sample.untilUsed (by decide +kernel)) hfits
  have hfigure := hreconciles.figure _ List.mem_cons_self
  have hsold := (hcounted Sample.untilUsed_reachable _ List.mem_cons_self).1 .single
  rw [hreconciles.overall] at hfigure hsold
  have hsingle : (stats.overall.figure (.tickets .single)).toInt = 2 := by
    rw [hfigure]
    decide +kernel
  refine ⟨stats, hserve, ?_, ?_, hsingle, hsold.symm.trans hsingle⟩ <;>
    rw [hfigure] <;> decide +kernel

end Memory.State

/-- What a bucket shows of the revenue of its events. -/
structure StatsBucket.Revenue (b : StatsBucket) (purchased redeemed : Int) : Prop where
  purchased_eq : b.purchasedAmountCents.toInt = purchased
  redeemed_eq : b.redeemedAmountCents.toInt = redeemed
  ordered : 0 ≤ b.redeemedAmountCents.toInt ∧
    b.redeemedAmountCents.toInt ≤ b.purchasedAmountCents.toInt

namespace Memory.State

variable {σ : Type} {channel : Channel σ} {s : State σ}

/-- The totals of orders are never negative, and no event has redeemed more than was purchased. A
report shows exactly that in each bucket, and it is made as long as the sums of all that it is about
fit into 64 bits. -/
theorem revenue_exact_iff_fits (h : Reachable channel anyCall s) (hfresh : s.sources.ids.Fresh)
    (only : Option EventId) :
    (∀ events, 0 ≤ s.committed.sales events .redeemedAmount ∧
      s.committed.sales events .redeemedAmount ≤ s.committed.sales events .purchasedAmount) ∧
      ∃ report, serve channel (ticketStats only) s = (.ok report, s) ∧
        (report.isSome = true ↔ ∀ f, s.committed.sales (covers only) f ≤ 2 ^ 63 - 1) ∧
        ∀ stats, report = some stats → stats.overall.eventId = none ∧
          ∀ b ∈ stats.overall :: stats.events, b.Revenue
            (s.committed.sales (fun event => covers only event && covers b.eventId event)
              .purchasedAmount)
            (s.committed.sales (fun event => covers only event && covers b.eventId event)
              .redeemedAmount) := by
  have haccountable := h.accountable hfresh
  refine ⟨fun events => ⟨haccountable.sales_nonneg events _,
    haccountable.redeemed_le_purchased events⟩, _, serve_ticketStats channel s only, ?_,
    fun stats hstats => ?_⟩
  · rw [Option.isSome_map]
    exact SalesTally.isSome_ofTables? haccountable only
  · obtain ⟨tally, htally, rfl⟩ := Option.map_eq_some_iff.mp hstats
    have hshows := SalesTally.shows_ofTables haccountable only htally
    refine ⟨hshows.overall, fun b hb => ?_⟩
    have hpurchased : b.purchasedAmountCents.toInt = _ := hshows.figure b hb .purchasedAmount
    have hredeemed : b.redeemedAmountCents.toInt = _ := hshows.figure b hb .redeemedAmount
    refine ⟨hpurchased, hredeemed, ?_⟩
    rw [hpurchased, hredeemed]
    exact ⟨haccountable.sales_nonneg _ _, haccountable.redeemed_le_purchased _⟩

theorem revenue_exact_iff_fits_used :
    ∃ stats, serve .log (ticketStats (some Sample.event)) (Sample.store Sample.untilUsed) =
        (.ok (some stats), Sample.store Sample.untilUsed) ∧ stats.overall.Revenue 10000 10000 := by
  obtain ⟨-, report, hserve, hsome, hrevenue⟩ := revenue_exact_iff_fits
    (Sample.store_reachable Sample.untilUsed)
    (Sample.store_fresh Sample.untilUsed (by decide +kernel)) (some Sample.event)
  have hfits : ∀ f, (Sample.store Sample.untilUsed).committed.sales
      (covers (some Sample.event)) f ≤ 2 ^ 63 - 1 := by
    decide +kernel
  have hamounts : ∀ f, f = .purchasedAmount ∨ f = .redeemedAmount →
      (Sample.store Sample.untilUsed).committed.sales
        (fun event => covers (some Sample.event) event && covers none event) f = 10000 := by
    rintro f (rfl | rfl) <;> decide +kernel
  obtain ⟨stats, rfl⟩ := Option.isSome_iff_exists.mp (hsome.mpr hfits)
  obtain ⟨hnone, hbuckets⟩ := hrevenue stats rfl
  have hoverall := hbuckets _ List.mem_cons_self
  rw [hnone, hamounts _ (.inl rfl), hamounts _ (.inr rfl)] at hoverall
  exact ⟨stats, hserve, hoverall⟩

end Memory.State

namespace Sample

def createDearest (event : EventId) : ServiceCall := .createTicketProduct operator {
  eventId := event,
  name := "Day pass",
  ticketType := "SINGLE",
  priceCents := 0x7FFFFFFFFFFFFFFF,
  inventoryLimit := none,
  isActive := none }

def createOne (event : EventId) (product : ProductId) : ServiceCall := .createOrder {
  userId := buyer.userId,
  eventId := event,
  paymentMethod := "phone",
  paymentReference := none,
  ticketItems := [⟨product, 1⟩],
  transferItems := [],
  promoCode := none }

def secondOrder : OrderId := ⟨Sources.countedId 1 3⟩

def untilTwoPaid : List ServiceCall :=
  [createDearest event, createOne event product, createOne event product, confirmOrder,
    .confirmOrder secondOrder operator]

end Sample

namespace Memory.State

/-- Two orders at the highest price leave no report. -/
theorem revenue_overflows :
    Reachable .log anyCall (Sample.store Sample.untilTwoPaid) ∧
      (Sample.store Sample.untilTwoPaid).committed.sales (fun _ => true) .purchasedAmount =
        18446744073709551614 ∧
      serve .log (ticketStats none) (Sample.store Sample.untilTwoPaid) =
        (.ok none, Sample.store Sample.untilTwoPaid) := by
  refine ⟨Sample.store_reachable _, by decide +kernel, ?_⟩
  have hnone : SalesTally.ofTables? (Sample.store Sample.untilTwoPaid).committed none = none :=
    Option.isNone_iff_eq_none.mp (by decide +kernel)
  rw [serve_ticketStats, hnone]
  rfl

end Memory.State

end EventTickets
