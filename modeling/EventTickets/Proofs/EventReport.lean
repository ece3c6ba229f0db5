import EventTickets.Proofs.SalesFigures

/-!
# Reports on one event

A report can be asked for one event or for all. The rows of an event are picked before they are
counted, those of orders and those of tickets separately; here it is shown that picking the bucket
afterwards comes to the same, where there is a report on all events to pick it from.
-/

namespace EventTickets

open Memory Memory.Tables

namespace Counts

variable {κ : Type} [DecidableEq κ]

theorem lookup_eq_none {counts : Counts κ} {kind : κ} (h : kind ∉ counts.map (·.1)) :
    counts.lookup kind = none := by
  refine List.lookup_eq_none_iff.mpr fun e he => bne_iff_ne.mpr ?_
  rintro rfl
  exact h (List.mem_map_of_mem he)

theorem eq_of_lookup {counts counts' : Counts κ} (hkeys : counts.map (·.1) = counts'.map (·.1))
    (hnodup : (counts.map (·.1)).Nodup)
    (h : ∀ kind, (counts.lookup kind).getD 0 = (counts'.lookup kind).getD 0) :
    counts = counts' := by
  induction counts generalizing counts' with
  | nil => exact (List.map_eq_nil_iff.mp hkeys.symm).symm
  | cons e rest ih =>
    obtain ⟨e', rest', rfl⟩ := List.exists_cons_of_ne_nil fun hnil : counts' = [] => by
      simp [hnil] at hkeys
    obtain ⟨hkey, hrestKeys⟩ := List.cons.inj hkeys
    obtain ⟨hfirst, hdistinct⟩ := List.nodup_cons.mp hnodup
    obtain ⟨k, n⟩ := e
    obtain ⟨k', n'⟩ := e'
    cases hkey
    simp only [Table.lookup_cons_eq] at h
    have hn : n = n' := by simpa using h k
    have hrest : rest = rest' := by
      refine ih hrestKeys hdistinct fun kind => ?_
      by_cases e : kind = k
      · -- The first kind is counted once, so neither rest has it.
        rw [e, lookup_eq_none hfirst, lookup_eq_none (hrestKeys ▸ hfirst)]
      · simpa [e] using h kind
    rw [hn, hrest]

end Counts

namespace StatsBucket

theorem eq_of_figures {b b' : StatsBucket} (hb : b.Whole) (hb' : b'.Whole)
    (heventId : b.eventId = b'.eventId) (htitle : b.eventTitle = b'.eventTitle)
    (hfigure : ∀ f, b.figure f = b'.figure f) : b = b' := by
  have htickets : b.ticketTypeCounts = b'.ticketTypeCounts :=
    Counts.eq_of_lookup (hb.ticketTypes.trans hb'.ticketTypes.symm)
      (hb.ticketTypes ▸ by decide) fun kind =>
      hfigure (.tickets kind)
  have htransfers : b.transferDirectionCounts = b'.transferDirectionCounts :=
    Counts.eq_of_lookup (hb.transferDirections.trans hb'.transferDirections.symm)
      (hb.transferDirections ▸ by decide) fun kind => hfigure (.transfers kind)
  cases b
  cases b'
  congr 1
  · exact hfigure .purchasedAmount
  · exact hfigure .redeemedAmount
  · exact hfigure .checkedInTickets
  · exact hfigure .checkedInPeople

theorem eventTitle_entitle {b : StatsBucket} {title : String} (h : b.eventTitle = title) :
    (b.entitle title).eventTitle = title := by
  rw [entitle]
  split
  · rfl
  · exact h

end StatsBucket

namespace SalesTally

variable {tally tally' : SalesTally} {title : EventId → String}

structure Titled (title : EventId → String) (tally : SalesTally) : Prop where
  overall : tally.overall.eventTitle = ""
  bucket : ∀ event b, tally.events.get? event = some b → b.eventTitle = title event

theorem titled_empty : empty.Titled title := ⟨rfl, fun _ _ hb => by cases hb⟩

theorem Titled.bucketOf (h : tally.Titled title) {row : StatsRow}
    (hrow : row.eventTitle = title row.eventId) :
    (tally.bucketOf row).eventTitle = title row.eventId := by
  rw [SalesTally.bucketOf]
  refine (StatsBucket.eventTitle_entitle ?_).trans hrow
  rcases hold : tally.events.get? row.eventId with _ | b
  · rfl
  · exact (h.bucket row.eventId b hold).trans hrow.symm

theorem Titled.addRow (h : tally.Titled title) (hs : tally.Sound) {row : StatsRow}
    (hrow : row.eventTitle = title row.eventId) (hstep : tally.addRow? row = some tally') :
    tally'.Titled title := by
  obtain ⟨bucket, overall, hbucket, hoverall, rfl⟩ := addRow?_cases hstep
  have hadds := row.adds_row (tally.isNew row)
  refine ⟨(hadds.grows hs.whole hoverall).eventTitle.trans h.overall, fun event b hb => ?_⟩
  rw [Table.get?_insert] at hb
  split at hb
  · next e =>
    cases hb
    rw [(hadds.grows (hs.bucketOf row).1 hbucket).eventTitle, e]
    exact h.bucketOf hrow
  · exact h.bucket event b hb

theorem Titled.addRows (h : tally.Titled title) (hs : tally.Sound) {rows : List StatsRow}
    (hrows : ∀ row ∈ rows, row.eventTitle = title row.eventId)
    (hrun : rows.foldlM addRow? tally = some tally') : tally'.Titled title := by
  induction rows generalizing tally with
  | nil =>
    cases hrun
    exact h
  | cons row rest ih =>
    obtain ⟨hrow, hrest⟩ := List.forall_mem_cons.mp hrows
    rw [List.foldlM_cons] at hrun
    obtain ⟨tally₁, hstep, hrun⟩ := Option.bind_eq_some_iff.mp hrun
    exact ih (h.addRow hs hrow hstep) (hs.addRow hstep) hrest hrun

theorem Titled.sameSales (h : tally.Titled title) (hsame : tally.SameSales tally') :
    tally'.Titled title := by
  refine ⟨(congrArg StatsBucket.eventTitle hsame.overall).trans h.overall, fun event b' hb' => ?_⟩
  obtain ⟨b, hb, hunchecked⟩ := hsame.bucket_of_get? hb'
  exact (congrArg StatsBucket.eventTitle hunchecked).trans (h.bucket event b hb)

theorem titled_ofRows {rows : List StatsRow}
    (hrows : ∀ row ∈ rows.filter (·.eventId.isValid), row.eventTitle = title row.eventId)
    (h : ofRows? rows = some tally) : tally.Titled title :=
  titled_empty.addRows sound_empty hrows h

theorem titled_ofTables {t : Tables} {only : Option EventId} (he : ofTables? t only = some tally) :
    tally.Titled fun event => (t.events.get? event).getD "" := by
  obtain ⟨sold, hsold, hchecked⟩ := reported?_cases he
  refine (titled_ofRows (fun row hrow => ?_) hsold).sameSales (sameSales_addCheckIns hchecked)
  obtain ⟨order, -, hrow⟩ := List.mem_flatMap.mp (List.mem_of_mem_filter hrow)
  rw [statsRowsOf] at hrow
  split at hrow
  · cases List.mem_singleton.mp hrow
    rfl
  · obtain ⟨item, -, rfl⟩ := List.mem_map.mp hrow
    rfl

theorem filter_entries (t : Table EventId StatsBucket) (event : EventId) :
    t.entries.filter (·.1 == event) = ((t.get? event).map (event, ·)).toList := by
  obtain ⟨entries, hascending⟩ := t
  rw [Table.get?]
  induction entries with
  | nil => rfl
  | cons e rest ih =>
    obtain ⟨he, hrest⟩ := List.pairwise_cons.mp hascending
    rw [List.filter_cons, Table.lookup_cons_eq]
    by_cases hevent : e.1 = event
    · have hothers : rest.filter (·.1 == event) = [] := by
        refine List.filter_eq_nil_iff.mpr fun e' he' heq => ?_
        have hlt := he e' he'
        rw [hevent, ← beq_iff_eq.mp heq] at hlt
        exact Int.lt_irrefl _ hlt
      rw [if_pos (beq_iff_eq.mpr hevent), if_pos hevent.symm, hothers, ← hevent]
      rfl
    · rw [if_neg (mt beq_iff_eq.mp hevent), if_neg (Ne.symm hevent)]
      exact ih hrest

theorem Sound.stats_filter (h : tally.Sound) (event : EventId) :
    tally.stats.events.filter (·.eventId == some event) = (tally.events.get? event).toList := by
  have hids : ∀ e ∈ tally.events.entries, (e.2.eventId == some event) = (e.1 == event) := by
    intro e he
    rw [(h.bucket e.1 e.2 (Table.get?_eq_some_iff.mpr he)).2]
    rfl
  rw [stats, Table.values, List.filter_map, Function.comp_def,
    List.filter_congr hids, filter_entries]
  cases tally.events.get? event <;> rfl

end SalesTally

namespace TicketStats

/-- A report on one event: it has a bucket if the event has an order, and its figures for all are
those of the bucket, or zero. -/
structure OfEvent (part : TicketStats) (t : Tables) (event : EventId) : Prop where
  events : part.events ≠ [] ↔ ∃ order ∈ t.orders.values, order.eventId = event
  overall : (∃ b, part.events = [b] ∧ part.overall = { b with eventId := none, eventTitle := "" }) ∨
    part.events = [] ∧ part.overall = .empty none ""

end TicketStats

namespace SalesTally

variable {t : Tables} {event : EventId} {part whole : SalesTally}

section

variable (h : t.Accountable) (hpart : ofTables? t (some event) = some part)

include h hpart

theorem has_part_iff :
    part.has event = true ↔ ∃ order ∈ t.orders.values, order.eventId = event := by
  rw [has_ofTables h _ hpart]
  refine exists_congr fun order => and_congr_right fun _ => ?_
  rw [covers, Option.all_some, beq_iff_eq, and_self]

theorem get?_part_eq (hwhole : ofTables? t none = some whole) :
    part.events.get? event = whole.events.get? event := by
  have hhas : part.has event = whole.has event := by
    rw [Bool.eq_iff_iff, has_part_iff h hpart, has_ofTables h _ hwhole]
    exact exists_congr fun order => and_congr_right fun _ => (and_iff_right rfl).symm
  have hsound := sound_reported hpart
  have hsound' := sound_reported hwhole
  rcases hb : part.events.get? event with _ | b <;>
    rcases hb' : whole.events.get? event with _ | b'
  · rfl
  · simp [has, hb, hb'] at hhas
  · simp [has, hb, hb'] at hhas
  · have hfigure : ∀ f, b.figure f = b'.figure f := by
      intro f
      have hscope := has_of_get? hb
      have hpart := figure_ofTables h (some event) (some event) hpart
        (fun _ e => Option.some.inj e ▸ hscope) f
      have hwhole := figure_ofTables h none (some event) hwhole
        (fun _ e => Option.some.inj e ▸ hhas ▸ hscope) f
      simp only [Bool.and_self] at hpart
      rw [figure_of_get? hb] at hpart
      rw [figure_of_get? hb'] at hwhole
      exact Int64.toInt_inj.mp (hpart.trans hwhole.symm)
    obtain ⟨hwhole₁, hid⟩ := hsound.bucket event b hb
    obtain ⟨hwhole₂, hid'⟩ := hsound'.bucket event b' hb'
    have htitle := (titled_ofTables hpart).bucket event b hb
    have htitle' := (titled_ofTables hwhole).bucket event b' hb'
    rw [StatsBucket.eq_of_figures hwhole₁ hwhole₂ (hid.trans hid'.symm)
      (htitle.trans htitle'.symm) hfigure]

theorem events_part_eq : part.stats.events = (part.events.get? event).toList := by
  obtain ⟨ids, hids, -, hmem⟩ := (shows_ofTables h (some event) hpart).events
  rw [← (sound_reported hpart).stats_filter event]
  refine (List.filter_eq_self.mpr fun b hb => ?_).symm
  have hid : b.eventId ∈ ids.map some := hids ▸ List.mem_map_of_mem hb
  obtain ⟨event', hevent', e⟩ := List.mem_map.mp hid
  obtain ⟨order, -, hcovered, rfl⟩ := (hmem event').mp hevent'
  rw [← e, beq_iff_eq, beq_iff_eq.mp hcovered]

theorem overall_part_eq {b : StatsBucket} (hb : part.events.get? event = some b) :
    part.stats.overall = { b with eventId := none, eventTitle := "" } := by
  have hsound := sound_reported hpart
  obtain ⟨hwhole, -⟩ := hsound.bucket event b hb
  refine StatsBucket.eq_of_figures hsound.whole ⟨hwhole.ticketTypes, hwhole.transferDirections⟩
    hsound.eventId (titled_ofTables hpart).overall fun f => ?_
  have hall := figure_ofTables h (some event) none hpart nofun f
  have hevent := figure_ofTables h (some event) (some event) hpart
    (fun _ e => Option.some.inj e ▸ has_of_get? hb) f
  simp only [Bool.and_self] at hevent
  simp only [covers, Option.all_none, Bool.and_true] at hall
  rw [figure_of_get? hb] at hevent
  calc part.overall.figure f
    _ = b.figure f := Int64.toInt_inj.mp (hall.trans hevent.symm)
    _ = ({ b with eventId := none, eventTitle := "" } : StatsBucket).figure f := by cases f <;> rfl

end

theorem ofTables?_of_no_order (h : t.Accountable)
    (hnone : ∀ order ∈ t.orders.values, order.eventId ≠ event) :
    ofTables? t (some event) = some empty := by
  have hrows : t.statsRows (some event) = [] := by
    have hpicked : t.orders.values.filter (fun order => (some event).all (order.eventId == ·)) =
        [] :=
      List.filter_eq_nil_iff.mpr fun order ho hevent => hnone order ho (beq_iff_eq.mp hevent)
    rw [statsRows, hpicked, List.flatMap_nil]
  have hcheckIns : t.checkInRows (some event) = [] := by
    refine List.map_eq_nil_iff.mpr (List.filter_eq_nil_iff.mpr fun k hk hpicked => ?_)
    obtain ⟨order, ho, e⟩ := h.ticket_event hk
    obtain ⟨-, hevent⟩ := (Bool.and_eq_true _ _).mp hpicked
    exact hnone order (Table.mem_values_iff.mpr ⟨_, ho⟩) (e.trans (beq_iff_eq.mp hevent))
  rw [ofTables?, hrows, hcheckIns]
  rfl

theorem ofEvent_ofTables (h : t.Accountable) (hpart : ofTables? t (some event) = some part) :
    part.stats.OfEvent t event := by
  have hevents := events_part_eq h hpart
  have horders := has_part_iff h hpart
  rcases hb : part.events.get? event with _ | b
  · rw [hb] at hevents
    rw [has, hb] at horders
    have hnone : ∀ order ∈ t.orders.values, order.eventId ≠ event :=
      fun order ho e => Bool.false_ne_true (horders.mpr ⟨order, ho, e⟩)
    cases (ofTables?_of_no_order h hnone).symm.trans hpart
    exact ⟨⟨fun hne => absurd rfl hne, fun hsome => absurd (horders.mpr hsome) Bool.false_ne_true⟩,
      .inr ⟨rfl, rfl⟩⟩
  · rw [hb] at hevents
    refine ⟨⟨fun _ => horders.mp (has_of_get? hb), fun _ => ?_⟩,
      .inl ⟨b, hevents, overall_part_eq h hpart hb⟩⟩
    rw [hevents]
    exact List.cons_ne_nil b []

end SalesTally

namespace Memory.State

variable {σ : Type} {channel : Channel σ} {s : State σ}

/-- A report on one event is made if what is sold and checked in for the event fits, and one on all
events if that for all of them does. The former is then the part of the latter that is about the
event, with the bucket of the event for the figures of all. -/
theorem event_report_narrows (h : Reachable channel anyCall s) (hfresh : s.sources.ids.Fresh)
    (event : EventId) :
    ∃ part whole, serve channel (ticketStats (some event)) s = (.ok part, s) ∧
      serve channel (ticketStats none) s = (.ok whole, s) ∧
      (part.isSome = true ↔ ∀ f, s.committed.sales (covers (some event)) f ≤ 2 ^ 63 - 1) ∧
      (whole.isSome = true ↔ ∀ f, s.committed.sales (covers none) f ≤ 2 ^ 63 - 1) ∧
      (∀ stats, part = some stats → stats.OfEvent s.committed event) ∧
      ∀ stats, whole = some stats → ∃ partStats, part = some partStats ∧
        partStats.events = stats.events.filter (·.eventId == some event) := by
  have haccountable := h.accountable hfresh
  have hpartSome := SalesTally.isSome_ofTables? haccountable (some event)
  have hwholeSome := SalesTally.isSome_ofTables? haccountable none
  refine ⟨_, _, serve_ticketStats channel s (some event), serve_ticketStats channel s none,
    ?_, ?_, fun stats hstats => ?_, fun stats hstats => ?_⟩
  · rwa [Option.isSome_map]
  · rwa [Option.isSome_map]
  · obtain ⟨part, hpart, rfl⟩ := Option.map_eq_some_iff.mp hstats
    exact SalesTally.ofEvent_ofTables haccountable hpart
  · obtain ⟨whole, hwhole, rfl⟩ := Option.map_eq_some_iff.mp hstats
    have hfits := hwholeSome.mp (Option.isSome_iff_exists.mpr ⟨whole, hwhole⟩)
    have hevent : ∀ f, s.committed.sales (covers (some event)) f ≤ 2 ^ 63 - 1 := fun f =>
      Int.le_trans (haccountable.sales_mono _ (fun _ _ => rfl) f) (hfits f)
    obtain ⟨part, hpart⟩ := Option.isSome_iff_exists.mp (hpartSome.mpr hevent)
    refine ⟨part.stats, by rw [hpart]; rfl, ?_⟩
    rw [SalesTally.events_part_eq haccountable hpart,
      SalesTally.get?_part_eq haccountable hpart hwhole,
      (SalesTally.sound_reported hwhole).stats_filter event]

theorem event_report_narrows_used :
    ∃ part whole b, serve .log (ticketStats (some Sample.event)) (Sample.store Sample.untilUsed) =
        (.ok (some part), Sample.store Sample.untilUsed) ∧
      serve .log (ticketStats none) (Sample.store Sample.untilUsed) =
        (.ok (some whole), Sample.store Sample.untilUsed) ∧
      part.events = [b] ∧ whole.events.filter (·.eventId == some Sample.event) = [b] ∧
      part.overall.checkedInPeople = 2 ∧ b.checkedInPeople = 2 := by
  obtain ⟨part, whole, hpart, hwhole, -, hfits, hevent, hnarrows⟩ := event_report_narrows
    (Sample.store_reachable Sample.untilUsed)
    (Sample.store_fresh Sample.untilUsed (by decide +kernel)) Sample.event
  have hsome : ∀ f, (Sample.store Sample.untilUsed).committed.sales (covers none) f ≤
      2 ^ 63 - 1 := by
    decide +kernel
  obtain ⟨whole, rfl⟩ := Option.isSome_iff_exists.mp (hfits.mpr hsome)
  obtain ⟨part, rfl, hsame⟩ := hnarrows whole rfl
  obtain ⟨hordered, hoverall⟩ := hevent part rfl
  have hserved :=
    (serve_ticketStats .log (Sample.store Sample.untilUsed) (some Sample.event)).symm.trans
    hpart
  have hpeople : part.overall.checkedInPeople = 2 := by
    have hsaid : ((SalesTally.ofTables? (Sample.store Sample.untilUsed).committed
        (some Sample.event)).map (·.stats)).map (·.overall.checkedInPeople) = some 2 := by
      decide +kernel
    rw [Except.ok.inj (Prod.mk.inj hserved).1] at hsaid
    exact Option.some.inj hsaid
  have hexists : ∃ order ∈ (Sample.store Sample.untilUsed).committed.orders.values,
      order.eventId = Sample.event := by decide +kernel
  rcases hoverall with ⟨b, hb, hoverall⟩ | ⟨hnil, -⟩
  · rw [hoverall] at hpeople
    exact ⟨part, whole, b, hpart, hwhole, hb, hsame.symm.trans hb, by rw [hoverall]; exact hpeople,
      hpeople⟩
  · exact absurd hnil (hordered.mpr hexists)

end Memory.State

namespace Sample

def secondEvent : EventId := ⟨2⟩

def twoEvents : State Unit :=
  ((((State.start sources ()).addEvent event eventTitle).addEvent secondEvent "Winter Gala").addUser
    buyer).calls .log environment [
      createDearest event, createDearest secondEvent,
      createOne event product, createOne secondEvent ⟨Sources.countedId 1 1⟩,
      .confirmOrder ⟨Sources.countedId 1 2⟩ operator,
      .confirmOrder ⟨Sources.countedId 1 4⟩ operator]

end Sample

namespace Memory.State

/-- Each event has its report, but there is none on both. -/
theorem event_report_overflows :
    Reachable .log anyCall Sample.twoEvents ∧
      (∃ part, serve .log (ticketStats (some Sample.event)) Sample.twoEvents =
        (.ok (some part), Sample.twoEvents) ∧ part.events.length = 1) ∧
      serve .log (ticketStats none) Sample.twoEvents = (.ok none, Sample.twoEvents) := by
  have hreachable : Reachable .log anyCall Sample.twoEvents :=
    Reachable.calls (.addUser (.addEvent (.addEvent (.start _ _) _ _) _ _) _) _ _
  have hpart : (SalesTally.ofTables? Sample.twoEvents.committed (some Sample.event)).isSome =
      true := by
    decide +kernel
  have hwhole : SalesTally.ofTables? Sample.twoEvents.committed none = none :=
    Option.isNone_iff_eq_none.mp (by decide +kernel)
  obtain ⟨part, hpart⟩ := Option.isSome_iff_exists.mp hpart
  refine ⟨hreachable, ⟨part.stats, ?_, ?_⟩, ?_⟩
  · rw [serve_ticketStats, hpart]
    rfl
  · have hevents : (SalesTally.ofTables? Sample.twoEvents.committed (some Sample.event)).map
        (·.stats.events.length) = some 1 := by decide +kernel
    rw [hpart] at hevents
    exact Option.some.inj hevents
  · rw [serve_ticketStats, hwhole]
    rfl

end Memory.State

end EventTickets
