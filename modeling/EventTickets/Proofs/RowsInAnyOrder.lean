import EventTickets.Proofs.AnyRows
import EventTickets.Proofs.EventReport
import EventTickets.Proofs.SalesFigures

/-!
# Reports on rows in another order

Stores list the rows of a report in orders of their own. Which row of an order is the first to carry
its total, and which row of an event puts the bucket in its place, then differs; what the rows say
of the order and of the event does not, and so neither do the figures and titles. Check-ins only
add, which they may do in any order.
-/

namespace EventTickets

open Memory Memory.Tables

namespace StatsRow

variable {rows rows' : List StatsRow}

/-- Rows that say the same of the same order and status, and of the same event. -/
structure Agree (rows : List StatsRow) : Prop where
  eventId : ∀ row ∈ rows, ∀ row' ∈ rows, row.key = row'.key → row.eventId = row'.eventId
  totalCents : ∀ row ∈ rows, ∀ row' ∈ rows, row.key = row'.key → row.totalCents = row'.totalCents
  eventTitle : ∀ row ∈ rows, ∀ row' ∈ rows, row.eventId = row'.eventId →
    row.eventTitle = row'.eventTitle

theorem Agree.sublist (h : Agree rows) (hsub : rows'.Sublist rows) : Agree rows' where
  eventId row hrow row' hrow' := h.eventId row (hsub.mem hrow) row' (hsub.mem hrow')
  totalCents row hrow row' hrow' := h.totalCents row (hsub.mem hrow) row' (hsub.mem hrow')
  eventTitle row hrow row' hrow' := h.eventTitle row (hsub.mem hrow) row' (hsub.mem hrow')

theorem isSome_first? {key : OrderId × OrderStatus} :
    (first? rows key).isSome = true ↔ key ∈ keys rows := by
  simp [first?, mem_keys]

theorem keys_perm (hperm : rows.Perm rows') : keys rows = keys rows' :=
  List.toFinset_eq_of_perm _ _ (hperm.map _)

theorem onFirst_perm (hperm : rows.Perm rows') (h : Agree rows) (events : EventId → Bool)
    (key : OrderId × OrderStatus) :
    onFirst events (·.totalCents.toInt) rows key =
      onFirst events (·.totalCents.toInt) rows' key := by
  have hsome : (first? rows key).isSome = (first? rows' key).isSome := by
    rw [Bool.eq_iff_iff, isSome_first?, isSome_first?, keys_perm hperm]
  rw [onFirst, onFirst]
  rcases hfirst : first? rows key with _ | row <;> rcases hfirst' : first? rows' key with _ | row'
  · rfl
  · simp [hfirst, hfirst'] at hsome
  · simp [hfirst, hfirst'] at hsome
  · obtain ⟨hrow, hkey⟩ := of_first?_eq_some hfirst
    obtain ⟨hrow', hkey'⟩ := of_first?_eq_some hfirst'
    have hsame : row.key = row'.key := hkey.trans hkey'.symm
    have hmem' := hperm.mem_iff.mpr hrow'
    rw [Option.elim_some, Option.elim_some, h.eventId row hrow row' hmem' hsame,
      h.totalCents row hrow row' hmem' hsame]

theorem due_perm (hperm : rows.Perm rows') (h : Agree rows) (events : EventId → Bool) (f : Figure) :
    due events rows f = due events rows' f := by
  have hrevenue : ∀ statuses, revenue events statuses rows = revenue events statuses rows' := by
    intro statuses
    rw [revenue, revenue, keys_perm hperm]
    exact Finset.sum_congr rfl fun key _ => onFirst_perm hperm h events key
  have hunits : ∀ counts, unitsSold events counts rows = unitsSold events counts rows' :=
    fun counts =>
    ((hperm.filter _).map _).sum_eq
  cases f with
  | purchasedAmount => exact hrevenue _
  | redeemedAmount => exact hrevenue _
  | tickets kind => exact hunits _
  | transfers kind => exact hunits _
  | checkedInTickets => rfl
  | checkedInPeople => rfl

def titleOf (rows : List StatsRow) (event : EventId) : String :=
  ((rows.find? (·.eventId == event)).map (·.eventTitle)).getD ""

theorem Agree.eventTitle_eq (h : Agree rows) {row : StatsRow} (hrow : row ∈ rows) :
    row.eventTitle = titleOf rows row.eventId := by
  have hsome : (rows.find? (·.eventId == row.eventId)).isSome :=
    List.find?_isSome.mpr ⟨row, hrow, BEq.rfl⟩
  obtain ⟨first, hfirst⟩ := Option.isSome_iff_exists.mp hsome
  have hevent : (first.eventId == row.eventId) = true := by simpa using List.find?_some hfirst
  rw [titleOf, hfirst]
  exact h.eventTitle row hrow first (List.mem_of_find?_eq_some hfirst) (beq_iff_eq.mp hevent).symm

end StatsRow

theorem Memory.Tables.Accountable.agree_statsRows {t : Tables} (h : t.Accountable)
    (only : Option EventId) : StatsRow.Agree (t.statsRows only) := by
  have horder : ∀ row ∈ t.statsRows only, ∃ order, t.orders.get? row.orderId = some order ∧
      row.Carries order ∧ row.eventTitle = (t.events.get? row.eventId).getD "" := by
    intro row hrow
    obtain ⟨order, ho, hrow⟩ := List.mem_flatMap.mp hrow
    have hcarries := t.carries_statsRowsOf order row hrow
    refine ⟨order, ?_, hcarries, ?_⟩
    · rw [hcarries.orderId]
      exact h.get?_of_mem (List.mem_filter.mp ho).1
    · rw [statsRowsOf] at hrow
      split at hrow
      · cases List.mem_singleton.mp hrow
        rfl
      · obtain ⟨item, -, rfl⟩ := List.mem_map.mp hrow
        rfl
  have hsame : ∀ row ∈ t.statsRows only, ∀ row' ∈ t.statsRows only, row.key = row'.key →
      row.eventId = row'.eventId ∧ row.totalCents = row'.totalCents := by
    intro row hrow row' hrow' hkey
    obtain ⟨order, ho, hcarries, -⟩ := horder row hrow
    obtain ⟨order', ho', hcarries', -⟩ := horder row' hrow'
    have hid : row.orderId = row'.orderId := congrArg Prod.fst hkey
    rw [hid, ho'] at ho
    cases ho
    exact ⟨hcarries.eventId.trans hcarries'.eventId.symm,
      hcarries.totalCents.trans hcarries'.totalCents.symm⟩
  refine ⟨fun row hrow row' hrow' hkey => (hsame row hrow row' hrow' hkey).1,
    fun row hrow row' hrow' hkey => (hsame row hrow row' hrow' hkey).2,
    fun row hrow row' hrow' hevent => ?_⟩
  obtain ⟨-, -, -, htitle⟩ := horder row hrow
  obtain ⟨-, -, -, htitle'⟩ := horder row' hrow'
  rw [htitle, htitle', hevent]

theorem Table.eq_of_get? {κ ν : Type} [Ranked κ] [DecidableEq κ] {t t' : Table κ ν}
    (h : ∀ k, t.get? k = t'.get? k) : t = t' := by
  have hnodup : ∀ t : Table κ ν, t.entries.Nodup := fun t => t.keys_nodup.of_map
  have hperm : t.entries.Perm t'.entries :=
    (List.perm_ext_iff_of_nodup (hnodup t) (hnodup t')).mpr fun e => by
      rw [← get?_eq_some_iff, ← get?_eq_some_iff, h]
  have hentries : t.entries = t'.entries :=
    hperm.eq_of_pairwise (fun a b _ _ hab hba => absurd (Int.lt_trans hab hba) (Int.lt_irrefl _))
      t.ascending t'.ascending
  cases t
  cases t'
  cases hentries
  rfl

namespace SalesTally

variable {tally tally' : SalesTally} {title : EventId → String} {rows rows' : List StatsRow}

theorem Sound.buckets_eq (h : tally.Sound) (h' : tally'.Sound) (ht : tally.Titled title)
    (ht' : tally'.Titled title) (hhas : ∀ event, tally.has event = tally'.has event)
    (hfigure : ∀ scope f, tally.figure scope f = tally'.figure scope f) :
    tally.overall = tally'.overall ∧ tally.events = tally'.events := by
  constructor
  · exact StatsBucket.eq_of_figures h.whole h'.whole (h.eventId.trans h'.eventId.symm)
      (ht.overall.trans ht'.overall.symm) (hfigure none)
  · refine Table.eq_of_get? fun event => ?_
    have hhas := hhas event
    have hfigure := hfigure (some event)
    rcases hb : tally.events.get? event with _ | b <;>
      rcases hb' : tally'.events.get? event with _ | b'
    · rfl
    · simp [has, hb, hb'] at hhas
    · simp [has, hb, hb'] at hhas
    · obtain ⟨hwhole, hid⟩ := h.bucket event b hb
      obtain ⟨hwhole', hid'⟩ := h'.bucket event b' hb'
      have htitle := (ht.bucket event b hb).trans (ht'.bucket event b' hb').symm
      simp only [figure_of_get? hb, figure_of_get? hb'] at hfigure
      rw [StatsBucket.eq_of_figures hwhole hwhole' (hid.trans hid'.symm) htitle hfigure]

theorem buckets_ofRows_perm (hperm : rows.Perm rows') (hagree : StatsRow.Agree rows)
    (h : ofRows? rows = some tally) (h' : ofRows? rows' = some tally') :
    tally.overall = tally'.overall ∧ tally.events = tally'.events := by
  have hpossible : (StatsRow.possible rows).Perm (StatsRow.possible rows') := hperm.filter _
  have htitled : tally.Titled (StatsRow.titleOf rows) :=
    titled_ofRows (fun row hrow => hagree.eventTitle_eq (List.mem_of_mem_filter hrow)) h
  have htitled' : tally'.Titled (StatsRow.titleOf rows) :=
    titled_ofRows (fun row hrow =>
      hagree.eventTitle_eq (hperm.mem_iff.mpr (List.mem_of_mem_filter hrow))) h'
  refine (sound_ofRows h).buckets_eq (sound_ofRows h') htitled htitled' (fun event => ?_)
    fun scope f => Int64.toInt_inj.mp ?_
  · rw [Bool.eq_iff_iff, ← mem_ids, ← mem_ids, mem_ofRows h, mem_ofRows h']
    simp only [hpossible.mem_iff]
  · rw [figure_ofRows h, figure_ofRows h', StatsRow.reckon_eq_due, StatsRow.reckon_eq_due]
    exact StatsRow.due_perm hpossible (hagree.sublist List.filter_sublist) _ _

theorem isSome_ofRows?_perm (hperm : rows.Perm rows') (hagree : StatsRow.Agree rows)
    (hnonneg : ∀ row ∈ rows, row.Nonneg) : (ofRows? rows).isSome = (ofRows? rows').isSome := by
  have hpossible : (rows.filter (·.eventId.isValid)).Perm (rows'.filter (·.eventId.isValid)) :=
    hperm.filter _
  have hdue := StatsRow.due_perm hpossible (hagree.sublist List.filter_sublist)
  rw [Bool.eq_iff_iff, isSome_ofRows?_of_nonneg hnonneg,
    isSome_ofRows?_of_nonneg fun row hrow => hnonneg row (hperm.mem_iff.mpr hrow)]
  simp only [StatsRow.reckon_eq_due, hdue]

theorem SameSales.eq_of_figures {start : SalesTally} (h : start.SameSales tally)
    (h' : start.SameSales tally')
    (hfigure : ∀ scope f, tally.figure scope f = tally'.figure scope f) : tally = tally' := by
  have hbucket : ∀ {b b' : StatsBucket}, b.unchecked = b'.unchecked →
      (∀ f, b.figure f = b'.figure f) → b = b' := by
    intro b b' hsame hfigure
    have htickets : b.checkedInTickets = b'.checkedInTickets := hfigure .checkedInTickets
    have hpeople : b.checkedInPeople = b'.checkedInPeople := hfigure .checkedInPeople
    cases b
    cases b'
    simp only [StatsBucket.unchecked, StatsBucket.mk.injEq, and_true] at hsame
    simp only [StatsBucket.mk.injEq]
    simp_all only [and_self]
  have hoverall := hbucket (h.overall.trans h'.overall.symm) (hfigure none)
  have hevents : tally.events = tally'.events := by
    refine Table.eq_of_get? fun event => ?_
    have hsame := (h.bucket event).trans (h'.bucket event).symm
    have hfigure := hfigure (some event)
    rcases hb : tally.events.get? event with _ | b <;>
      rcases hb' : tally'.events.get? event with _ | b'
    · rfl
    · simp [hb, hb'] at hsame
    · simp [hb, hb'] at hsame
    · simp only [figure_of_get? hb, figure_of_get? hb'] at hfigure
      rw [hb, hb'] at hsame
      rw [hbucket (Option.some.inj hsame) hfigure]
  cases tally
  cases tally'
  simp only [mk.injEq]
  exact ⟨hoverall, hevents, h.seen.trans h'.seen.symm⟩

variable {checkIns checkIns' : List CheckInRow}

theorem afterCheckIns_perm (tally : SalesTally) (hperm : checkIns.Perm checkIns')
    (i : Option EventId × Figure) :
    tally.afterCheckIns (checkIns.filter (·.eventId.isValid)) i =
      tally.afterCheckIns (checkIns'.filter (·.eventId.isValid)) i :=
  congrArg _ ((((hperm.filter _).filter _).map _).sum_eq)

theorem addCheckIns_perm {start : SalesTally} (hperm : checkIns.Perm checkIns')
    (h : start.addCheckIns? checkIns = some tally)
    (h' : start.addCheckIns? checkIns' = some tally') : tally = tally' := by
  refine (sameSales_addCheckIns h).eq_of_figures (sameSales_addCheckIns h') fun scope f => ?_
  refine Int64.toInt_inj.mp ?_
  rw [figure_addCheckIns h, figure_addCheckIns h', afterCheckIns_perm start hperm]

theorem addCheckIns?_perm_of_nonneg (start : SalesTally) (hperm : checkIns.Perm checkIns')
    (hnonneg : ∀ row ∈ checkIns, 0 ≤ row.quantity.toInt) :
    start.addCheckIns? checkIns = start.addCheckIns? checkIns' := by
  have hsome : (start.addCheckIns? checkIns).isSome = (start.addCheckIns? checkIns').isSome := by
    rw [Bool.eq_iff_iff, isSome_addCheckIns?_of_nonneg hnonneg,
      isSome_addCheckIns?_of_nonneg fun row hrow => hnonneg row (hperm.mem_iff.mpr hrow)]
    simp only [afterCheckIns_perm start hperm]
  rcases h : start.addCheckIns? checkIns with _ | tally <;>
    rcases h' : start.addCheckIns? checkIns' with _ | tally'
  · rfl
  · simp [h, h'] at hsome
  · simp [h, h'] at hsome
  · rw [addCheckIns_perm hperm h h']

/-- Rows that agree come to the same buckets in any two orders in which all sums fit, and if nothing
is negative they fit in both or in neither. So it is with check-ins on top of any tally. -/
theorem tally_in_any_order (hperm : rows.Perm rows') (hagree : StatsRow.Agree rows) :
    (∀ tally tally', ofRows? rows = some tally → ofRows? rows' = some tally' →
      tally.overall = tally'.overall ∧ tally.events = tally'.events) ∧
      ((∀ row ∈ rows, row.Nonneg) → (ofRows? rows).isSome = (ofRows? rows').isSome) ∧
      ∀ (start : SalesTally) (checkIns checkIns' : List CheckInRow), checkIns.Perm checkIns' →
        (∀ tally tally', start.addCheckIns? checkIns = some tally →
          start.addCheckIns? checkIns' = some tally' → tally = tally') ∧
        ((∀ row ∈ checkIns, 0 ≤ row.quantity.toInt) →
          start.addCheckIns? checkIns = start.addCheckIns? checkIns') :=
  ⟨fun _ _ => buckets_ofRows_perm hperm hagree, isSome_ofRows?_perm hperm hagree,
    fun start _ _ hchecks => ⟨fun _ _ => addCheckIns_perm hchecks,
      addCheckIns?_perm_of_nonneg start hchecks⟩⟩

end SalesTally

namespace Sample

def paidRow (n : Nat) (totalCents : Int64) : StatsRow :=
  ⟨⟨Sources.countedId 1 n⟩, event, eventTitle, .paid, totalCents, none, "", 0⟩

def paidRows : List StatsRow := [
  { paidRow 0 700 with itemType := some .ticket, productRef := "SINGLE", quantity := 2 },
  { paidRow 0 700 with itemType := some .transfer, productRef := "THERE", quantity := 3 },
  paidRow 1 900]

end Sample

namespace SalesTally

theorem tally_in_any_order_reversed :
    ∃ tally tally', ofRows? Sample.paidRows = some tally ∧
      ofRows? Sample.paidRows.reverse = some tally' ∧ tally.events = tally'.events ∧
      tally.addCheckIns? [⟨Sample.event, 1⟩, ⟨Sample.event, 10⟩] =
        tally.addCheckIns? [⟨Sample.event, 10⟩, ⟨Sample.event, 1⟩] := by
  have hagree : StatsRow.Agree Sample.paidRows :=
    ⟨by decide +kernel, by decide +kernel, by decide +kernel⟩
  have hnonneg : ∀ row ∈ Sample.paidRows, row.Nonneg := by
    have hall : ∀ row ∈ Sample.paidRows, 0 ≤ row.totalCents.toInt ∧ 0 ≤ row.quantity.toInt := by
      decide +kernel
    exact fun row hrow => ⟨(hall row hrow).1, (hall row hrow).2⟩
  obtain ⟨hsame, hsome, hcheckIns⟩ := tally_in_any_order (List.reverse_perm _).symm hagree
  have hfits : (ofRows? Sample.paidRows).isSome = true := by decide +kernel
  obtain ⟨tally, h⟩ := Option.isSome_iff_exists.mp hfits
  obtain ⟨tally', h'⟩ := Option.isSome_iff_exists.mp ((hsome hnonneg).symm.trans hfits)
  exact ⟨tally, tally', h, h', (hsame tally tally' h h').2,
    (hcheckIns tally _ _ (.swap _ _ _)).2 (by decide +kernel)⟩

/-- A total that takes back what another adds must come before it. -/
theorem tally_order_matters :
    StatsRow.Agree [Sample.paidRow 0 0x7FFFFFFFFFFFFFFF, Sample.paidRow 1 1,
      Sample.paidRow 2 (-1)] ∧
      ofRows? [Sample.paidRow 0 0x7FFFFFFFFFFFFFFF, Sample.paidRow 1 1, Sample.paidRow 2 (-1)] =
        none ∧
      (ofRows? [Sample.paidRow 0 0x7FFFFFFFFFFFFFFF, Sample.paidRow 2 (-1), Sample.paidRow 1 1]).map
        (·.overall.purchasedAmountCents) = some 0x7FFFFFFFFFFFFFFF := by
  refine ⟨⟨by decide +kernel, by decide +kernel, by decide +kernel⟩, ?_, by decide +kernel⟩
  exact Option.isNone_iff_eq_none.mp (by decide +kernel)

end SalesTally

end EventTickets
