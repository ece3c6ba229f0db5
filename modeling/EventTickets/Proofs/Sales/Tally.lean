import EventTickets.Proofs.Sales.Bucket
import EventTickets.Proofs.Sales.Sums

/-!
# What a tally counts

Each figure of each bucket is the sum of what the rows add to it. Of the rows of one order and
status the first carries the total, for all buckets together; units and check-ins count row by row.
A tally goes through rows to the end if and only if no sum on the way is out of range, and where
nothing is negative it is enough to look at the last.
-/

namespace EventTickets

open Amount (Fits)

/-- A step that a tally takes for each row, and the totals it has come to before further rows or
after them. It answers if and only if the totals after it fit. -/
structure Chain {τ ρ ι : Type} (sound : τ → Prop) (step : τ → ρ → Option τ)
    (total : τ → List ρ → ι → Int) : Prop where
  start : ∀ {t}, sound t → ∀ i, Fits (total t [] i)
  isSome_step : ∀ {t} row, sound t → ((step t row).isSome = true ↔ ∀ i, Fits (total t [row] i))
  next : ∀ {t row t'}, sound t → step t row = some t' →
    sound t' ∧ ∀ rest i, total t' rest i = total t (row :: rest) i

namespace Chain

variable {τ ρ ι : Type} {sound : τ → Prop} {step : τ → ρ → Option τ} {total : τ → List ρ → ι → Int}
  {t t' : τ} {rows : List ρ}

theorem run (h : Chain sound step total) (ht : sound t) (hrun : rows.foldlM step t = some t') :
    sound t' ∧ ∀ i, total t' [] i = total t rows i := by
  induction rows generalizing t with
  | nil =>
    cases hrun
    exact ⟨ht, fun _ => rfl⟩
  | cons row rest ih =>
    rw [List.foldlM_cons] at hrun
    obtain ⟨t₁, hstep, hrest⟩ := Option.bind_eq_some_iff.mp hrun
    obtain ⟨hsound, hnext⟩ := h.next ht hstep
    obtain ⟨hsound', htotal⟩ := ih hsound hrest
    exact ⟨hsound', fun i => (htotal i).trans (hnext rest i)⟩

theorem isSome_iff (h : Chain sound step total) (ht : sound t) (rows : List ρ) :
    (rows.foldlM step t).isSome = true ↔ ∀ pre, pre <+: rows → ∀ i, Fits (total t pre i) := by
  induction rows generalizing t with
  | nil =>
    refine ⟨fun _ pre hpre => ?_, fun _ => rfl⟩
    rw [List.prefix_nil.mp hpre]
    exact h.start ht
  | cons row rest ih =>
    rw [List.foldlM_cons]
    rcases hstep : step t row with _ | t₁
    · refine ⟨nofun, fun hall => ?_⟩
      have hsome := (h.isSome_step row ht).mpr (hall [row] ⟨rest, rfl⟩)
      rw [hstep] at hsome
      cases hsome
    · obtain ⟨hsound, hnext⟩ := h.next ht hstep
      refine (ih hsound).trans ⟨fun hall pre hpre i => ?_, fun hall pre hpre i => ?_⟩
      · cases pre with
        | nil => exact h.start ht i
        | cons first pre' =>
          obtain ⟨rfl, hpre'⟩ := List.cons_prefix_cons.mp hpre
          rw [← hnext]
          exact hall pre' hpre' i
      · rw [hnext]
        exact hall (row :: pre) (List.cons_prefix_cons.mpr ⟨rfl, hpre⟩) i

theorem isSome_iff_of_grows (h : Chain sound step total) (ht : sound t)
    (hgrows : ∀ pre, pre <+: rows → ∀ i,
      total t [] i ≤ total t pre i ∧ total t pre i ≤ total t rows i) :
    (rows.foldlM step t).isSome = true ↔ ∀ i, total t rows i ≤ 2 ^ 63 - 1 := by
  rw [h.isSome_iff ht]
  refine ⟨fun hall i => (hall rows List.prefix_rfl i).2, fun hfits pre hpre i => ?_⟩
  obtain ⟨hlow, hhigh⟩ := hgrows pre hpre i
  obtain ⟨hstart, -⟩ := h.start ht i
  exact ⟨Int.le_trans hstart hlow, Int.le_trans hhigh (hfits i)⟩

end Chain

namespace StatsRow

variable {rows pre : List StatsRow} {scope : Option EventId}

/-- The rows that are the first of their order and status, besides those seen before. -/
def firsts : List (OrderId × OrderStatus) → List StatsRow → List StatsRow
  | _, [] => []
  | seen, row :: rest =>
    if seen.contains row.key then firsts seen rest else row :: firsts (row.key :: seen) rest

def reckon (events : EventId → Bool) (seen : List (OrderId × OrderStatus)) (rows : List StatsRow)
    (f : Figure) : Int :=
  sumOf (fun row => events row.eventId) (·.amount f) (firsts seen rows) +
    sumOf (fun row => events row.eventId) (·.units f) rows

theorem reckon_nil (events : EventId → Bool) (seen : List (OrderId × OrderStatus)) (f : Figure) :
    reckon events seen [] f = 0 := rfl

theorem reckon_cons (events : EventId → Bool) (seen : List (OrderId × OrderStatus)) (row : StatsRow)
    (rest : List StatsRow) (f : Figure) :
    reckon events seen (row :: rest) f =
      (if events row.eventId then row.part (!seen.contains row.key) f else 0) +
        reckon events (if !seen.contains row.key then row.key :: seen else seen) rest f := by
  rw [reckon, reckon, firsts, sumOf_cons, part]
  cases seen.contains row.key with
  | true =>
    simp only [Bool.not_true, Bool.false_eq_true, if_true, if_false]
    split <;> omega
  | false =>
    simp only [Bool.not_false, Bool.false_eq_true, if_true, if_false, sumOf_cons]
    split <;> omega

theorem mem_of_mem_firsts {row : StatsRow} {seen : List (OrderId × OrderStatus)}
    (h : row ∈ firsts seen rows) : row ∈ rows := by
  induction rows generalizing seen with
  | nil => cases h
  | cons first rest ih =>
    rw [firsts] at h
    split at h
    · exact List.mem_cons_of_mem _ (ih h)
    · rcases List.mem_cons.mp h with rfl | h
      · exact List.mem_cons_self
      · exact List.mem_cons_of_mem _ (ih h)

theorem prefix_firsts (seen : List (OrderId × OrderStatus)) (h : pre <+: rows) :
    firsts seen pre <+: firsts seen rows := by
  induction rows generalizing pre seen with
  | nil =>
    cases List.prefix_nil.mp h
    exact List.prefix_rfl
  | cons row rest ih =>
    cases pre with
    | nil => exact List.nil_prefix
    | cons first pre' =>
      obtain ⟨rfl, hpre'⟩ := List.cons_prefix_cons.mp h
      rw [firsts, firsts]
      split
      · exact ih seen hpre'
      · exact List.cons_prefix_cons.mpr ⟨rfl, ih _ hpre'⟩

structure Nonneg (row : StatsRow) : Prop where
  totalCents : 0 ≤ row.totalCents.toInt
  quantity : 0 ≤ row.quantity.toInt

theorem Nonneg.amount {row : StatsRow} (h : row.Nonneg) (f : Figure) : 0 ≤ row.amount f := by
  have := h.totalCents
  cases f <;> simp only [StatsRow.amount, amountPart] <;> omega

theorem Nonneg.units {row : StatsRow} (h : row.Nonneg) (f : Figure) : 0 ≤ row.units f := by
  have := h.quantity
  rw [StatsRow.units]
  split
  · split
    · cases f <;> simp only [unitsPart] <;> omega
    · exact Int.le_refl 0
  · exact Int.le_refl 0

theorem reckon_nonneg (h : ∀ row ∈ rows, row.Nonneg) (events : EventId → Bool)
    (seen : List (OrderId × OrderStatus)) (f : Figure) : 0 ≤ reckon events seen rows f :=
  Int.add_nonneg (sumOf_nonneg fun row hrow => (h row (mem_of_mem_firsts hrow)).amount f)
    (sumOf_nonneg fun row hrow => (h row hrow).units f)

theorem reckon_prefix_le (h : ∀ row ∈ rows, row.Nonneg) (events : EventId → Bool)
    (seen : List (OrderId × OrderStatus)) (f : Figure) (hpre : pre <+: rows) :
    reckon events seen pre f ≤ reckon events seen rows f :=
  Int.add_le_add
    (sumOf_prefix_le (fun row hrow => (h row (mem_of_mem_firsts hrow)).amount f)
      (prefix_firsts _ hpre))
    (sumOf_prefix_le (fun row hrow => (h row hrow).units f) hpre)

theorem reckon_le {events events' : EventId → Bool} (h : ∀ row ∈ rows, row.Nonneg)
    (himp : ∀ event, events event = true → events' event = true)
    (seen : List (OrderId × OrderStatus)) (f : Figure) :
    reckon events seen rows f ≤ reckon events' seen rows f :=
  Int.add_le_add
    (sumOf_le (fun row hrow => (h row (mem_of_mem_firsts hrow)).amount f) fun row _ =>
      himp row.eventId)
    (sumOf_le (fun row hrow => (h row hrow).units f) fun row _ => himp row.eventId)

end StatsRow

def covers (scope : Option EventId) (event : EventId) : Bool := scope.all (event == ·)

theorem covers_self (event : EventId) : covers (some event) event = true := beq_self_eq_true event

theorem covers_of_ne {event event' : EventId} (h : event' ≠ event) :
    covers (some event) event' = false := beq_eq_false_iff_ne.mpr h

namespace SalesTally

variable {tally tally' : SalesTally} {scope : Option EventId} {f : Figure} {row : StatsRow}
  {rows : List StatsRow}

/-- A figure of the bucket of an event, which is zero where there is none, or of that of all
events. -/
def figure (tally : SalesTally) (scope : Option EventId) (f : Figure) : Int64 :=
  match scope with
  | none => tally.overall.figure f
  | some event => ((tally.events.get? event).map (·.figure f)).getD 0

def has (tally : SalesTally) (event : EventId) : Bool := (tally.events.get? event).isSome

structure Sound (tally : SalesTally) : Prop where
  whole : tally.overall.Whole
  eventId : tally.overall.eventId = none
  bucket : ∀ event b, tally.events.get? event = some b → b.Whole ∧ b.eventId = some event

theorem sound_empty : empty.Sound := ⟨StatsBucket.whole_empty _ _, rfl, nofun⟩

theorem figure_empty (scope : Option EventId) (f : Figure) : empty.figure scope f = 0 := by
  cases scope with
  | none => exact StatsBucket.figure_empty _ _ f
  | some event => rfl

def isNew (tally : SalesTally) (row : StatsRow) : Bool := !tally.seen.contains row.key

def bucketOf (tally : SalesTally) (row : StatsRow) : StatsBucket :=
  ((tally.events.get? row.eventId).getD (.empty (some row.eventId) row.eventTitle)).entitle
    row.eventTitle

theorem figure_bucketOf (tally : SalesTally) (row : StatsRow) (f : Figure) :
    (tally.bucketOf row).figure f = tally.figure (some row.eventId) f := by
  rw [bucketOf, StatsBucket.figure_entitle, figure]
  cases tally.events.get? row.eventId with
  | none => exact StatsBucket.figure_empty _ _ f
  | some b => rfl

theorem Sound.bucketOf (h : tally.Sound) (row : StatsRow) :
    (tally.bucketOf row).Whole ∧ (tally.bucketOf row).eventId = some row.eventId := by
  rw [SalesTally.bucketOf, StatsBucket.eventId_entitle]
  rcases hold : tally.events.get? row.eventId with _ | b
  · exact ⟨StatsBucket.whole_entitle (StatsBucket.whole_empty _ _) _, rfl⟩
  · obtain ⟨hwhole, hevent⟩ := h.bucket row.eventId b hold
    exact ⟨StatsBucket.whole_entitle hwhole _, hevent⟩

theorem addRow?_eq (tally : SalesTally) (row : StatsRow) :
    tally.addRow? row =
      (row.addTo? (tally.isNew row) (tally.bucketOf row)).bind fun bucket =>
        (row.addTo? (tally.isNew row) tally.overall).bind fun overall =>
          some ⟨overall, tally.events.insert row.eventId bucket,
            if tally.isNew row then row.key :: tally.seen else tally.seen⟩ := rfl

theorem addRow?_cases (h : tally.addRow? row = some tally') :
    ∃ bucket overall, row.addTo? (tally.isNew row) (tally.bucketOf row) = some bucket ∧
      row.addTo? (tally.isNew row) tally.overall = some overall ∧
      tally' = ⟨overall, tally.events.insert row.eventId bucket,
        if tally.isNew row then row.key :: tally.seen else tally.seen⟩ := by
  rw [addRow?_eq] at h
  obtain ⟨bucket, hbucket, h⟩ := Option.bind_eq_some_iff.mp h
  obtain ⟨overall, hoverall, h⟩ := Option.bind_eq_some_iff.mp h
  exact ⟨bucket, overall, hbucket, hoverall, (Option.some.inj h).symm⟩

theorem Sound.addRow (hs : tally.Sound) (h : tally.addRow? row = some tally') : tally'.Sound := by
  obtain ⟨bucket, overall, hbucket, hoverall, rfl⟩ := addRow?_cases h
  obtain ⟨hwhole, hevent⟩ := hs.bucketOf row
  have hadds := row.adds_row (tally.isNew row)
  have hgrows := hadds.grows hwhole hbucket
  have hgrows' := hadds.grows hs.whole hoverall
  refine ⟨hgrows'.whole, hgrows'.eventId.trans hs.eventId, fun event b hb => ?_⟩
  rw [Table.get?_insert] at hb
  split at hb
  · next e =>
    cases hb
    rw [e]
    exact ⟨hgrows.whole, hgrows.eventId.trans hevent⟩
  · exact hs.bucket event b hb

theorem figure_addRow (hs : tally.Sound) (h : tally.addRow? row = some tally') :
    (tally'.figure scope f).toInt = (tally.figure scope f).toInt +
      if covers scope row.eventId then row.part (tally.isNew row) f else 0 := by
  obtain ⟨bucket, overall, hbucket, hoverall, rfl⟩ := addRow?_cases h
  have hadds := row.adds_row (tally.isNew row)
  cases scope with
  | none => exact (hadds.grows hs.whole hoverall).figure f
  | some event =>
    rw [figure, figure, Table.get?_insert]
    by_cases e : event = row.eventId
    · rw [e, if_pos rfl, if_pos (covers_self _)]
      have hfigure := (hadds.grows (hs.bucketOf row).1 hbucket).figure f
      rwa [figure_bucketOf] at hfigure
    · rw [if_neg e, covers_of_ne (Ne.symm e)]
      exact (Int.add_zero _).symm

theorem isSome_addRow? (hs : tally.Sound) (row : StatsRow) :
    (tally.addRow? row).isSome = true ↔ ∀ scope f, Fits ((tally.figure scope f).toInt +
      if covers scope row.eventId then row.part (tally.isNew row) f else 0) := by
  constructor
  · intro hsome scope f
    obtain ⟨tally', h⟩ := Option.isSome_iff_exists.mp hsome
    rw [← figure_addRow hs h]
    exact Amount.fits_toInt _
  · intro hfits
    have hadds := row.adds_row (tally.isNew row)
    have hbucket : (row.addTo? (tally.isNew row) (tally.bucketOf row)).isSome = true := by
      refine hadds.answers (hs.bucketOf row).1 fun f => ?_
      have hfits := hfits (some row.eventId) f
      rwa [if_pos (covers_self _), ← figure_bucketOf] at hfits
    have hoverall : (row.addTo? (tally.isNew row) tally.overall).isSome = true :=
      hadds.answers hs.whole fun f => hfits none f
    obtain ⟨bucket, hbucket⟩ := Option.isSome_iff_exists.mp hbucket
    obtain ⟨overall, hoverall⟩ := Option.isSome_iff_exists.mp hoverall
    rw [addRow?_eq, hbucket, Option.bind_some, hoverall]
    rfl

theorem seen_addRow (h : tally.addRow? row = some tally') :
    tally'.seen = if !tally.seen.contains row.key then row.key :: tally.seen else tally.seen := by
  obtain ⟨bucket, overall, -, -, rfl⟩ := addRow?_cases h
  rfl

theorem has_addRow (h : tally.addRow? row = some tally') (event : EventId) :
    tally'.has event = (tally.has event || event == row.eventId) := by
  obtain ⟨bucket, overall, -, -, rfl⟩ := addRow?_cases h
  rw [has, Table.get?_insert, has]
  by_cases e : event = row.eventId <;> simp [e]

def afterRows (tally : SalesTally) (rows : List StatsRow) (i : Option EventId × Figure) : Int :=
  (tally.figure i.1 i.2).toInt + StatsRow.reckon (covers i.1) tally.seen rows i.2

theorem afterRows_cons (tally : SalesTally) (row : StatsRow) (rest : List StatsRow)
    (i : Option EventId × Figure) :
    tally.afterRows (row :: rest) i = (tally.figure i.1 i.2).toInt +
      (if covers i.1 row.eventId then row.part (tally.isNew row) i.2 else 0) +
      StatsRow.reckon (covers i.1)
        (if !tally.seen.contains row.key then row.key :: tally.seen else tally.seen) rest i.2 := by
  rw [afterRows, StatsRow.reckon_cons, ← Int.add_assoc]
  rfl

theorem chain_addRow : Chain Sound addRow? afterRows where
  start {tally} _ i := by
    rw [afterRows, StatsRow.reckon_nil, Int.add_zero]
    exact Amount.fits_toInt _
  isSome_step {tally} row hs := by
    simp only [isSome_addRow? hs, afterRows_cons, StatsRow.reckon_nil, Int.add_zero, Prod.forall]
  next hs h := by
    refine ⟨hs.addRow h, fun rest i => ?_⟩
    rw [afterRows_cons, afterRows, figure_addRow hs h, seen_addRow h]

theorem has_addRows (h : rows.foldlM addRow? tally = some tally') (event : EventId) :
    tally'.has event = (tally.has event || rows.any (event == ·.eventId)) := by
  induction rows generalizing tally with
  | nil =>
    cases h
    simp
  | cons row rest ih =>
    rw [List.foldlM_cons] at h
    obtain ⟨tally₁, hstep, hrest⟩ := Option.bind_eq_some_iff.mp h
    rw [ih hrest, has_addRow hstep, List.any_cons, Bool.or_assoc]

variable {checkIn : CheckInRow} {checkIns : List CheckInRow} {start : SalesTally}

structure SameSales (tally tally' : SalesTally) : Prop where
  overall : tally'.overall.unchecked = tally.overall.unchecked
  bucket : ∀ event, (tally'.events.get? event).map (·.unchecked) =
    (tally.events.get? event).map (·.unchecked)
  seen : tally'.seen = tally.seen

theorem SameSales.refl (tally : SalesTally) : tally.SameSales tally := ⟨rfl, fun _ => rfl, rfl⟩

theorem SameSales.has (h : tally.SameSales tally') (event : EventId) :
    tally'.has event = tally.has event := by
  have hsome := congrArg Option.isSome (h.bucket event)
  rwa [Option.isSome_map, Option.isSome_map] at hsome

theorem SameSales.bucket_of_get? (h : tally.SameSales tally') {event : EventId} {b' : StatsBucket}
    (hb' : tally'.events.get? event = some b') :
    ∃ b, tally.events.get? event = some b ∧ b'.unchecked = b.unchecked := by
  have hbucket := h.bucket event
  rw [hb', eq_comm] at hbucket
  obtain ⟨b, hb, hsame⟩ := Option.map_eq_some_iff.mp hbucket
  exact ⟨b, hb, hsame.symm⟩

theorem Sound.sameSales (hs : tally.Sound) (h : tally.SameSales tally') : tally'.Sound where
  whole := StatsBucket.whole_of_unchecked_eq h.overall hs.whole
  eventId := (congrArg StatsBucket.eventId h.overall).trans hs.eventId
  bucket event b' hb' := by
    obtain ⟨b, hb, hsame⟩ := h.bucket_of_get? hb'
    obtain ⟨hwhole, hevent⟩ := hs.bucket event b hb
    exact ⟨StatsBucket.whole_of_unchecked_eq hsame hwhole,
      (congrArg StatsBucket.eventId hsame).trans hevent⟩

def shows (tally : SalesTally) (scope : Option EventId) : Bool := scope.all tally.has

theorem SameSales.shows (h : tally.SameSales tally') (scope : Option EventId) :
    tally'.shows scope = tally.shows scope := by
  rw [SalesTally.shows, SalesTally.shows, funext h.has]

theorem addCheckIn?_cases (h : tally.addCheckIn? checkIn = some tally') :
    ∃ overall, tally.overall.addCheckIn? checkIn.quantity = some overall ∧
      ((∃ b bucket, tally.events.get? checkIn.eventId = some b ∧
          b.addCheckIn? checkIn.quantity = some bucket ∧
          tally' = ⟨overall, tally.events.insert checkIn.eventId bucket, tally.seen⟩) ∨
        tally.events.get? checkIn.eventId = none ∧
          tally' = ⟨overall, tally.events, tally.seen⟩) := by
  rw [addCheckIn?] at h
  obtain ⟨overall, hoverall, h⟩ := Option.bind_eq_some_iff.mp h
  refine ⟨overall, hoverall, ?_⟩
  rcases hold : tally.events.get? checkIn.eventId with _ | b
  · rw [hold] at h
    exact .inr ⟨rfl, (Option.some.inj h).symm⟩
  · rw [hold] at h
    obtain ⟨bucket, hbucket, h⟩ := Option.bind_eq_some_iff.mp h
    exact .inl ⟨b, bucket, rfl, hbucket, (Option.some.inj h).symm⟩

theorem SameSales.addCheckIn (hs : start.SameSales tally)
    (h : tally.addCheckIn? checkIn = some tally') : start.SameSales tally' := by
  obtain ⟨overall, hoverall, h⟩ := addCheckIn?_cases h
  have hsame := (StatsBucket.addCheckIn?_eq_some_iff.mp hoverall).1
  rcases h with ⟨b, bucket, hb, hbucket, rfl⟩ | ⟨-, rfl⟩
  · refine ⟨hsame.trans hs.overall, fun event => ?_, hs.seen⟩
    rw [← hs.bucket, Table.get?_insert]
    split
    · next e =>
      rw [e, hb, Option.map_some, Option.map_some,
        (StatsBucket.addCheckIn?_eq_some_iff.mp hbucket).1]
    · rfl
  · exact ⟨hsame.trans hs.overall, hs.bucket, hs.seen⟩

theorem figure_addCheckIn (h : tally.addCheckIn? checkIn = some tally') :
    (tally'.figure scope f).toInt = (tally.figure scope f).toInt +
      if tally.shows scope && covers scope checkIn.eventId then checkInPart checkIn.quantity f
      else 0 := by
  obtain ⟨overall, hoverall, h⟩ := addCheckIn?_cases h
  cases scope with
  | none =>
    obtain ⟨b, bucket, -, -, rfl⟩ | ⟨-, rfl⟩ := h <;>
      exact (StatsBucket.addCheckIn?_eq_some_iff.mp hoverall).2 f
  | some event =>
    obtain ⟨b, bucket, hb, hbucket, rfl⟩ | ⟨hnone, rfl⟩ := h
    · rw [figure, figure, Table.get?_insert]
      by_cases e : event = checkIn.eventId
      · have hshows : tally.shows (some event) = true := by
          rw [shows, Option.all_some, has, e, hb]
          rfl
        rw [hshows, e, if_pos rfl, hb, covers_self]
        exact (StatsBucket.addCheckIn?_eq_some_iff.mp hbucket).2 f
      · rw [if_neg e, covers_of_ne (Ne.symm e), Bool.and_false]
        exact (Int.add_zero _).symm
    · by_cases e : event = checkIn.eventId
      · have hshows : tally.shows (some event) = false := by
          rw [shows, Option.all_some, has, e, hnone]
          rfl
        rw [hshows, Bool.false_and]
        exact (Int.add_zero _).symm
      · rw [covers_of_ne (Ne.symm e), Bool.and_false]
        exact (Int.add_zero _).symm

theorem isSome_addCheckIn? (tally : SalesTally) (checkIn : CheckInRow) :
    (tally.addCheckIn? checkIn).isSome = true ↔ ∀ scope f, Fits ((tally.figure scope f).toInt +
      if tally.shows scope && covers scope checkIn.eventId then checkInPart checkIn.quantity f
      else 0) := by
  constructor
  · intro hsome scope f
    obtain ⟨tally', h⟩ := Option.isSome_iff_exists.mp hsome
    rw [← figure_addCheckIn h]
    exact Amount.fits_toInt _
  · intro hfits
    have hoverall : (tally.overall.addCheckIn? checkIn.quantity).isSome = true :=
      StatsBucket.isSome_addCheckIn?_iff.mpr fun f => hfits none f
    obtain ⟨overall, hoverall⟩ := Option.isSome_iff_exists.mp hoverall
    rw [addCheckIn?, hoverall]
    rcases hb : tally.events.get? checkIn.eventId with _ | b
    · rfl
    · have hbucket : (b.addCheckIn? checkIn.quantity).isSome = true := by
        refine StatsBucket.isSome_addCheckIn?_iff.mpr fun f => ?_
        have hfits := hfits (some checkIn.eventId) f
        rw [figure, shows, Option.all_some, has, hb, covers_self] at hfits
        exact hfits
      obtain ⟨bucket, hbucket⟩ := Option.isSome_iff_exists.mp hbucket
      simp [hbucket]

def afterCheckIns (tally : SalesTally) (checkIns : List CheckInRow) (i : Option EventId × Figure) :
    Int :=
  (tally.figure i.1 i.2).toInt + sumOf (fun row => tally.shows i.1 && covers i.1 row.eventId)
    (fun row => checkInPart row.quantity i.2) checkIns

theorem chain_addCheckIn (start : SalesTally) :
    Chain start.SameSales addCheckIn? afterCheckIns where
  start {tally} _ i := by
    rw [afterCheckIns, sumOf_nil, Int.add_zero]
    exact Amount.fits_toInt _
  isSome_step {tally} checkIn _ := by
    simp only [isSome_addCheckIn?, afterCheckIns, sumOf_cons, sumOf_nil, Int.add_zero, Prod.forall]
  next hs h := by
    refine ⟨hs.addCheckIn h, fun rest i => ?_⟩
    rw [afterCheckIns, afterCheckIns, figure_addCheckIn h,
      ((SameSales.refl _).addCheckIn h).shows, sumOf_cons, Int.add_assoc]

theorem sound_ofRows (h : ofRows? rows = some tally) : tally.Sound :=
  (chain_addRow.run sound_empty h).1

theorem figure_ofRows (h : ofRows? rows = some tally) (scope : Option EventId) (f : Figure) :
    (tally.figure scope f).toInt =
      StatsRow.reckon (covers scope) [] (rows.filter (·.eventId.isValid)) f := by
  have htotal := (chain_addRow.run sound_empty h).2 (scope, f)
  rw [afterRows, StatsRow.reckon_nil, Int.add_zero, afterRows, figure_empty, Int64.toInt_zero,
    Int.zero_add] at htotal
  exact htotal

theorem has_ofRows (h : ofRows? rows = some tally) (event : EventId) :
    tally.has event = (rows.filter (·.eventId.isValid)).any (event == ·.eventId) := by
  rw [has_addRows h]
  rfl

theorem isSome_ofRows? (rows : List StatsRow) :
    (ofRows? rows).isSome = true ↔ ∀ pre, pre <+: rows.filter (·.eventId.isValid) →
      ∀ scope f, Fits (StatsRow.reckon (covers scope) [] pre f) := by
  rw [ofRows?, chain_addRow.isSome_iff sound_empty]
  simp only [Prod.forall, afterRows, figure_empty, Int64.toInt_zero, Int.zero_add]
  rfl

theorem sameSales_addCheckIns (h : tally.addCheckIns? checkIns = some tally') :
    tally.SameSales tally' :=
  ((chain_addCheckIn tally).run (.refl tally) h).1

theorem figure_addCheckIns (h : tally.addCheckIns? checkIns = some tally') (scope : Option EventId)
    (f : Figure) :
    (tally'.figure scope f).toInt =
      tally.afterCheckIns (checkIns.filter (·.eventId.isValid)) (scope, f) := by
  have htotal := ((chain_addCheckIn tally).run (.refl tally) h).2 (scope, f)
  rw [afterCheckIns, sumOf_nil, Int.add_zero] at htotal
  exact htotal

theorem checkInPart_nonneg {people : Int64} (h : 0 ≤ people.toInt) (f : Figure) :
    0 ≤ checkInPart people f := by
  cases f <;> simp only [checkInPart] <;> omega

theorem isSome_addCheckIns?_of_nonneg (hchecks : ∀ row ∈ checkIns, 0 ≤ row.quantity.toInt) :
    (tally.addCheckIns? checkIns).isSome = true ↔
      ∀ i, tally.afterCheckIns (checkIns.filter (·.eventId.isValid)) i ≤ 2 ^ 63 - 1 := by
  refine (chain_addCheckIn tally).isSome_iff_of_grows (.refl tally) fun pre hpre i => ?_
  have hpart : ∀ row ∈ checkIns.filter (·.eventId.isValid), 0 ≤ checkInPart row.quantity i.2 :=
    fun row hrow => checkInPart_nonneg (hchecks row (List.mem_of_mem_filter hrow)) i.2
  exact ⟨Int.add_le_add_left (sumOf_nonneg fun row hrow => hpart row (hpre.subset hrow)) _,
    Int.add_le_add_left (sumOf_prefix_le hpart hpre) _⟩

theorem isSome_ofRows?_of_nonneg (hrows : ∀ row ∈ rows, row.Nonneg) :
    (ofRows? rows).isSome = true ↔ ∀ scope f,
      StatsRow.reckon (covers scope) [] (rows.filter (·.eventId.isValid)) f ≤ 2 ^ 63 - 1 := by
  have hpossible : ∀ row ∈ rows.filter (·.eventId.isValid), row.Nonneg :=
    fun row hrow => hrows row (List.mem_of_mem_filter hrow)
  rw [ofRows?, chain_addRow.isSome_iff_of_grows sound_empty fun pre hpre i => ?_]
  · simp only [Prod.forall, afterRows, figure_empty, Int64.toInt_zero, Int.zero_add]
    rfl
  · exact ⟨Int.add_le_add_left (StatsRow.reckon_nonneg
        (fun row hrow => hpossible row (hpre.subset hrow)) _ _ i.2) _,
      Int.add_le_add_left (StatsRow.reckon_prefix_le hpossible _ _ i.2 hpre) _⟩

theorem reported?_cases (h : reported? rows checkIns = some tally) :
    ∃ sold, ofRows? rows = some sold ∧ sold.addCheckIns? checkIns = some tally :=
  Option.bind_eq_some_iff.mp h

theorem sound_reported (h : reported? rows checkIns = some tally) : tally.Sound := by
  obtain ⟨sold, hsold, h⟩ := reported?_cases h
  exact (sound_ofRows hsold).sameSales (sameSales_addCheckIns h)

theorem has_reported (h : reported? rows checkIns = some tally) (event : EventId) :
    tally.has event = (rows.filter (·.eventId.isValid)).any (event == ·.eventId) := by
  obtain ⟨sold, hsold, h⟩ := reported?_cases h
  rw [(sameSales_addCheckIns h).has, has_ofRows hsold]

theorem figure_reported (h : reported? rows checkIns = some tally)
    (hscope : ∀ event, scope = some event → tally.has event = true) :
    (tally.figure scope f).toInt =
      StatsRow.reckon (covers scope) [] (rows.filter (·.eventId.isValid)) f +
        sumOf (fun row => covers scope row.eventId) (fun row => checkInPart row.quantity f)
          (checkIns.filter (·.eventId.isValid)) := by
  obtain ⟨sold, hsold, h⟩ := reported?_cases h
  have hshows : sold.shows scope = true := by
    cases scope with
    | none => rfl
    | some event =>
      rw [shows, Option.all_some, ← (sameSales_addCheckIns h).has]
      exact hscope event rfl
  rw [figure_addCheckIns h, afterCheckIns, figure_ofRows hsold, hshows]
  rfl

theorem isSome_reported? (hrows : ∀ row ∈ rows, row.Nonneg)
    (hchecks : ∀ row ∈ checkIns, 0 ≤ row.quantity.toInt)
    (hfits : ∀ f, StatsRow.reckon (covers none) [] (rows.filter (·.eventId.isValid)) f +
      sumOf (fun row => covers none row.eventId) (fun row => checkInPart row.quantity f)
        (checkIns.filter (·.eventId.isValid)) ≤ 2 ^ 63 - 1) :
    (reported? rows checkIns).isSome = true := by
  have hpossible : ∀ row ∈ rows.filter (·.eventId.isValid), row.Nonneg :=
    fun row hrow => hrows row (List.mem_of_mem_filter hrow)
  have hpart : ∀ f, ∀ row ∈ checkIns.filter (·.eventId.isValid), 0 ≤ checkInPart row.quantity f :=
    fun f row hrow => checkInPart_nonneg (hchecks row (List.mem_of_mem_filter hrow)) f
  have hscope : ∀ scope f, StatsRow.reckon (covers scope) [] (rows.filter (·.eventId.isValid)) f ≤
      StatsRow.reckon (covers none) [] (rows.filter (·.eventId.isValid)) f :=
    fun scope f => StatsRow.reckon_le hpossible (fun _ _ => rfl) [] f
  have hsold : (ofRows? rows).isSome = true := by
    refine (isSome_ofRows?_of_nonneg hrows).mpr fun scope f => ?_
    have := hfits f
    have := hscope scope f
    have : 0 ≤ sumOf (fun row => covers none row.eventId) (fun row => checkInPart row.quantity f)
      (checkIns.filter (·.eventId.isValid)) := sumOf_nonneg (hpart f)
    omega
  obtain ⟨sold, hsold⟩ := Option.isSome_iff_exists.mp hsold
  rw [reported?, hsold, Option.bind_some]
  refine (isSome_addCheckIns?_of_nonneg hchecks).mpr fun i => ?_
  rw [afterCheckIns, figure_ofRows hsold]
  exact Int.le_trans (Int.add_le_add (hscope i.1 i.2) (sumOf_le (hpart i.2) fun _ _ _ => rfl))
    (hfits i.2)

end SalesTally

end EventTickets
