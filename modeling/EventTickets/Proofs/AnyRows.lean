import EventTickets.Proofs.Sales.Reference
import EventTickets.Proofs.Sales.Report

/-!
# Tallies of any rows

Rows need not come from the tables: they may repeat, stand in any order and contradict each other. A
tally still has a bucket for each event of theirs, in which every figure is what is due for the
event, and the buckets add up to that of all events. A further row of an order and status that was
there before brings in nothing.
-/

namespace EventTickets

namespace StatsRow

variable {rows : List StatsRow} {row : StatsRow} {key : OrderId × OrderStatus}

theorem due_split {ids : List EventId} (hids : ids.Nodup) (hall : ∀ row ∈ rows, row.eventId ∈ ids)
    (f : Figure) :
    (ids.map fun event => due (covers (some event)) rows f).sum = due (covers none) rows f := by
  have hsplit : ∀ (weight : StatsRow → Int) (l : List StatsRow), (∀ row ∈ l, row.eventId ∈ ids) →
      (ids.map fun event => sumOf (fun row => covers (some event) row.eventId) weight l).sum =
        sumOf (fun row => covers none row.eventId) weight l := by
    intro weight l hl
    have hkeys := sum_sumOf_key hids StatsRow.eventId (fun _ => true) weight l
    simp only [Bool.and_true] at hkeys
    refine hkeys.trans (sumOf_congr fun row hrow => ?_)
    rw [List.contains_iff_mem.mpr (hl row hrow)]
    rfl
  simp only [← reckon_eq_due, reckon]
  rw [List.sum_map_add, hsplit _ _ fun row hrow => hall row (mem_of_mem_firsts hrow),
    hsplit _ _ hall]

theorem mem_keys : key ∈ keys rows ↔ ∃ row ∈ rows, row.key = key := by
  rw [keys, List.mem_toFinset, List.mem_map]

theorem first?_append (h : key ∈ keys rows) (row : StatsRow) :
    first? (rows ++ [row]) key = first? rows key := by
  obtain ⟨row', hrow', rfl⟩ := mem_keys.mp h
  have hsome : (first? rows row'.key).isSome := List.find?_isSome.mpr ⟨row', hrow', BEq.rfl⟩
  rw [first?, List.find?_append, ← first?, Option.or_of_isSome hsome]

theorem revenue_append (h : row.key ∈ keys rows) (events : EventId → Bool)
    (statuses : List OrderStatus) :
    revenue events statuses (rows ++ [row]) = revenue events statuses rows := by
  have hkeys : keys (rows ++ [row]) = keys rows := by
    ext key
    simp only [mem_keys, List.mem_append, List.mem_singleton]
    obtain ⟨row', hrow', e⟩ := mem_keys.mp h
    constructor
    · rintro ⟨r, hr | rfl, rfl⟩
      · exact ⟨r, hr, rfl⟩
      · exact ⟨row', hrow', e⟩
    · rintro ⟨r, hr, rfl⟩
      exact ⟨r, .inl hr, rfl⟩
  rw [revenue, hkeys, revenue]
  refine Finset.sum_congr rfl fun key hkey => ?_
  rw [onFirst, first?_append (Finset.mem_filter.mp hkey).1, onFirst]

def possible (rows : List StatsRow) : List StatsRow := rows.filter (·.eventId.isValid)

theorem possible_append (rows : List StatsRow) (row : StatsRow) :
    possible (rows ++ [row]) = possible rows ++ if row.eventId.isValid then [row] else [] := by
  rw [possible, List.filter_append, List.filter_cons, List.filter_nil, possible]

/-- What is due for all events and for each of them is within 64 bits, after each of the rows that
count. -/
def SumsFit (rows : List StatsRow) : Prop :=
  ∀ pre, pre <+: possible rows → ∀ scope f, Amount.Fits (due (covers scope) pre f)

end StatsRow

namespace SalesTally

open StatsRow (due possible)

variable {tally tally' : SalesTally} {rows : List StatsRow} {row : StatsRow}

theorem isSome_ofRows?_iff (rows : List StatsRow) :
    (ofRows? rows).isSome = true ↔ StatsRow.SumsFit rows := by
  simp only [isSome_ofRows?, StatsRow.reckon_eq_due]
  rfl

theorem mem_ofRows (h : ofRows? rows = some tally) (event : EventId) :
    event ∈ tally.events.entries.map (·.1) ↔ ∃ row ∈ possible rows, row.eventId = event := by
  rw [mem_ids, has_ofRows h, ← possible, List.any_eq_true]
  refine exists_congr fun row => and_congr_right fun _ => ?_
  rw [beq_iff_eq, eq_comm]

/-- A tally that shows what is due for rows. -/
structure Accounts (tally : SalesTally) (rows : List StatsRow) : Prop where
  events : ∀ event, event ∈ tally.events.entries.map (·.1) ↔ ∃ row ∈ rows, row.eventId = event
  overall : tally.overall.Whole ∧ tally.overall.eventId = none ∧
    ∀ f, (tally.overall.figure f).toInt = due (covers none) rows f
  bucket : ∀ event b, tally.events.get? event = some b →
    b.Whole ∧ b.eventId = some event ∧ ∀ f, (b.figure f).toInt = due (covers (some event)) rows f
  total : ∀ f, (tally.overall.figure f).toInt =
    (tally.events.values.map fun b => (b.figure f).toInt).sum

theorem accounts_ofRows (h : ofRows? rows = some tally) : tally.Accounts (possible rows) := by
  have hsound := sound_ofRows h
  have hdue : ∀ scope f, (tally.figure scope f).toInt = due (covers scope) (possible rows) f := by
    intro scope f
    rw [figure_ofRows h, StatsRow.reckon_eq_due, possible]
  have hbucket : ∀ event b, tally.events.get? event = some b →
      ∀ f, (b.figure f).toInt = due (covers (some event)) (possible rows) f := by
    intro event b hb f
    rw [← figure_of_get? hb, hdue]
  refine ⟨mem_ofRows h, ⟨hsound.whole, hsound.eventId, hdue none⟩,
    fun event b hb => ?_, fun f => ?_⟩
  · obtain ⟨hwhole, heventId⟩ := hsound.bucket event b hb
    exact ⟨hwhole, heventId, hbucket event b hb⟩
  · have hall : ∀ row ∈ possible rows, row.eventId ∈ tally.events.entries.map (·.1) :=
      fun row hrow => (mem_ofRows h _).mpr ⟨row, hrow, rfl⟩
    have hoverall : (tally.overall.figure f).toInt = due (covers none) (possible rows) f :=
      hdue none f
    rw [hoverall, ← StatsRow.due_split tally.events.keys_nodup hall, Table.values, List.map_map,
      List.map_map]
    exact congrArg List.sum (List.map_congr_left fun e he =>
      (hbucket e.1 e.2 (Table.get?_eq_some_iff.mpr he) f).symm)

/-- A tally with the buckets of another, and maybe more, and with the same amounts in them. -/
structure KeepsAmounts (after before : SalesTally) : Prop where
  overall : after.overall.purchasedAmountCents = before.overall.purchasedAmountCents ∧
    after.overall.redeemedAmountCents = before.overall.redeemedAmountCents
  bucket : ∀ event b, before.events.get? event = some b → ∃ b', after.events.get? event = some b' ∧
    b'.purchasedAmountCents = b.purchasedAmountCents ∧
    b'.redeemedAmountCents = b.redeemedAmountCents

theorem keepsAmounts_of_figures {after before : SalesTally}
    (hevents : ∀ event, before.has event = true → after.has event = true)
    (hfigure : ∀ scope f, f = .purchasedAmount ∨ f = .redeemedAmount →
      after.figure scope f = before.figure scope f) : after.KeepsAmounts before := by
  refine ⟨⟨hfigure none _ (.inl rfl), hfigure none _ (.inr rfl)⟩, fun event b hb => ?_⟩
  obtain ⟨b', hb'⟩ := Option.isSome_iff_exists.mp (hevents event (has_of_get? hb))
  refine ⟨b', hb', ?_, ?_⟩
  · have h := hfigure (some event) .purchasedAmount (.inl rfl)
    rwa [figure_of_get? hb, figure_of_get? hb'] at h
  · have h := hfigure (some event) .redeemedAmount (.inr rfl)
    rwa [figure_of_get? hb, figure_of_get? hb'] at h

theorem keepsAmounts_append (h : ofRows? rows = some tally)
    (h' : ofRows? (rows ++ [row]) = some tally')
    (hknown : row.key ∈ StatsRow.keys (possible rows)) : tally'.KeepsAmounts tally := by
  have hpossible := StatsRow.possible_append rows row
  refine keepsAmounts_of_figures (fun event => ?_) fun scope f hf => ?_
  · rw [has_ofRows h, has_ofRows h', ← possible, ← possible, hpossible, List.any_append]
    exact fun hany => by rw [hany, Bool.true_or]
  · have hsame : due (covers scope) (possible (rows ++ [row])) f =
        due (covers scope) (possible rows) f := by
      rw [hpossible]
      split
      · rcases hf with rfl | rfl <;> exact StatsRow.revenue_append hknown _ _
      · rw [List.append_nil]
    rw [← StatsRow.reckon_eq_due, ← StatsRow.reckon_eq_due, possible, possible, ← figure_ofRows h',
      ← figure_ofRows h] at hsame
    exact Int64.toInt_inj.mp hsame

/-- As long as all sums fit, any rows have a tally, which shows what is due for those of possible
events, and a further row of an order and status that was among them changes no amount. There is no
tally where a sum does not fit. -/
theorem any_rows_accounted (rows : List StatsRow) :
    (StatsRow.SumsFit rows → ∃ tally, ofRows? rows = some tally ∧ tally.Accounts (possible rows) ∧
      ∀ row, (∃ row' ∈ possible rows, row'.key = row.key) → StatsRow.SumsFit (rows ++ [row]) →
        ∃ tally', ofRows? (rows ++ [row]) = some tally' ∧ tally'.KeepsAmounts tally) ∧
      (¬ StatsRow.SumsFit rows → ofRows? rows = none) := by
  refine ⟨fun hfits => ?_, fun hnot => ?_⟩
  · obtain ⟨tally, h⟩ := Option.isSome_iff_exists.mp ((isSome_ofRows?_iff rows).mpr hfits)
    refine ⟨tally, h, accounts_ofRows h, fun row hknown hfits' => ?_⟩
    obtain ⟨tally', h'⟩ := Option.isSome_iff_exists.mp ((isSome_ofRows?_iff _).mpr hfits')
    exact ⟨tally', h', keepsAmounts_append h h' (StatsRow.mem_keys.mpr hknown)⟩
  · rw [← Option.not_isSome_iff_eq_none, isSome_ofRows?_iff]
    exact hnot

end SalesTally

namespace Sample

def mixedRows : List StatsRow := [
  ⟨order, ⟨2⟩, "Winter", .paid, 700, some .ticket, " single ", 2⟩,
  ⟨order, ⟨0⟩, "", .redeemed, 100, some .ticket, "SINGLE", 8⟩,
  ⟨order, ⟨1⟩, "Summer", .redeemed, 900, some .ticket, "VIP", 4⟩,
  ⟨order, ⟨1⟩, "Summer", .paid, 800, some .transfer, "THERE", 3⟩,
  ⟨⟨Sources.countedId 1 2⟩, ⟨1⟩, "Summer", .pending, 500, none, "", 0⟩]

def oneMore : StatsRow := ⟨order, ⟨3⟩, "", .paid, 300, none, "", 0⟩

end Sample

namespace SalesTally

theorem any_rows_accounted_mixed :
    ∃ tally tally', ofRows? Sample.mixedRows = some tally ∧
      ofRows? (Sample.mixedRows ++ [Sample.oneMore]) = some tally' ∧
      (tally.overall.figure .purchasedAmount).toInt = 1600 ∧
      (tally.overall.figure (.tickets .single)).toInt = 2 ∧ tally'.KeepsAmounts tally := by
  have hfits : StatsRow.SumsFit Sample.mixedRows := (isSome_ofRows?_iff _).mp (by decide +kernel)
  have hfits' : StatsRow.SumsFit (Sample.mixedRows ++ [Sample.oneMore]) :=
    (isSome_ofRows?_iff _).mp (by decide +kernel)
  obtain ⟨tally, h, haccounts, hkeeps⟩ := (any_rows_accounted Sample.mixedRows).1 hfits
  obtain ⟨tally', h', hkept⟩ := hkeeps Sample.oneMore (by decide +kernel) hfits'
  obtain ⟨-, -, hfigure⟩ := haccounts.overall
  refine ⟨tally, tally', h, h', ?_, ?_, hkept⟩ <;> rw [hfigure] <;> decide +kernel

end SalesTally

end EventTickets
