import EventTickets.Sales.Tally

/-!
# What a bucket counts

A change of a bucket adds its part to each figure, and it answers if and only if each sum is within
64 bits. Changes of different figures can follow one another: the sum of the parts then fits if and
only if each sum on the way does.
-/

namespace EventTickets

namespace Amount

variable {a b c : Int64}

def Fits (n : Int) : Prop := -0x8000000000000000 ≤ n ∧ n ≤ 0x7FFFFFFFFFFFFFFF

theorem fits_iff_exists {n : Int} : Fits n ↔ ∃ a : Int64, a.toInt = n := by
  constructor
  · rintro ⟨hlow, hhigh⟩
    exact ⟨Int64.ofInt n, Int64.toInt_ofInt_of_le hlow (by omega)⟩
  · rintro ⟨a, rfl⟩
    have := Int64.toInt_lt a
    exact ⟨Int64.le_toInt a, by omega⟩

theorem fits_toInt (a : Int64) : Fits a.toInt := fits_iff_exists.mpr ⟨a, rfl⟩

theorem isSome_add? : (add? a b).isSome = true ↔ Fits (a.toInt + b.toInt) := by
  simp only [Option.isSome_iff_exists, add?_eq_some_iff, fits_iff_exists]

theorem addIf?_eq_some_iff {counts : Prop} [Decidable counts] :
    addIf? counts a b = some c ↔ c.toInt = a.toInt + if counts then b.toInt else 0 := by
  rw [addIf?]
  split
  · exact add?_eq_some_iff
  · rw [Option.some.injEq, Int.add_zero, eq_comm, Int64.toInt_inj]

end Amount

inductive Figure where
  | purchasedAmount
  | redeemedAmount
  | tickets (kind : TicketType)
  | transfers (kind : TransferDirection)
  | checkedInTickets
  | checkedInPeople
  deriving DecidableEq

theorem TicketType.mem_all (kind : TicketType) : kind ∈ TicketType.all := by
  cases kind <;> decide

theorem TransferDirection.mem_all (kind : TransferDirection) : kind ∈ TransferDirection.all := by
  cases kind <;> decide

namespace Figure

def all : List Figure :=
  [.purchasedAmount, .redeemedAmount, .checkedInTickets, .checkedInPeople] ++
    TicketType.all.map .tickets ++ TransferDirection.all.map .transfers

theorem mem_all (f : Figure) : f ∈ all := by
  cases f with
  | tickets kind => simp [all, kind.mem_all]
  | transfers kind => simp [all, kind.mem_all]
  | _ => simp [all]

instance {p : Figure → Prop} [DecidablePred p] : Decidable (∀ f, p f) :=
  decidable_of_iff (∀ f ∈ all, p f) ⟨fun h f => h f f.mem_all, fun h f _ => h f⟩

end Figure

namespace Counts

variable {κ : Type} [DecidableEq κ] {kind : κ} {quantity : Int64} {counts counts' : Counts κ}

theorem keys_add? (h : counts.add? kind quantity = some counts') :
    counts'.map (·.1) = counts.map (·.1) := by
  induction counts generalizing counts' with
  | nil =>
    cases h
    rfl
  | cons e rest ih =>
    rw [add?] at h
    split at h
    · obtain ⟨sum, -, rfl⟩ := Option.map_eq_some_iff.mp h
      rfl
    · obtain ⟨rest', hrest, rfl⟩ := Option.map_eq_some_iff.mp h
      rw [List.map_cons, List.map_cons, ih hrest]

theorem getD_add? (h : counts.add? kind quantity = some counts') {k : κ}
    (hk : k ∈ counts.map (·.1)) :
    ((counts'.lookup k).getD 0).toInt =
      ((counts.lookup k).getD 0).toInt + if kind = k then quantity.toInt else 0 := by
  induction counts generalizing counts' with
  | nil => cases hk
  | cons e rest ih =>
    rw [add?] at h
    rw [Table.lookup_cons_eq]
    split at h
    · next hkind =>
      obtain ⟨sum, hsum, rfl⟩ := Option.map_eq_some_iff.mp h
      rw [Table.lookup_cons_eq]
      by_cases heq : k = e.1
      · rw [if_pos heq, if_pos heq, if_pos (hkind ▸ heq.symm)]
        exact Amount.add?_eq_some_iff.mp hsum
      · rw [if_neg heq, if_neg heq, if_neg fun hk' => heq (hk'.symm.trans hkind.symm), Int.add_zero]
    · next hkind =>
      obtain ⟨rest', hrest, rfl⟩ := Option.map_eq_some_iff.mp h
      rw [Table.lookup_cons_eq]
      by_cases heq : k = e.1
      · rw [if_pos heq, if_pos heq, if_neg fun hk' => hkind (heq.symm.trans hk'.symm), Int.add_zero]
      · rw [if_neg heq, if_neg heq]
        exact ih hrest ((List.mem_cons.mp hk).resolve_left heq)

theorem isSome_add? (h : Amount.Fits (((counts.lookup kind).getD 0).toInt + quantity.toInt)) :
    (counts.add? kind quantity).isSome = true := by
  induction counts with
  | nil => rfl
  | cons e rest ih =>
    rw [Table.lookup_cons_eq] at h
    rw [add?]
    split
    · next hkind =>
      rw [if_pos hkind.symm] at h
      rw [Option.isSome_map]
      exact Amount.isSome_add?.mpr h
    · next hkind =>
      rw [if_neg (Ne.symm hkind)] at h
      rw [Option.isSome_map]
      exact ih h

end Counts

namespace StatsBucket

open Amount (Fits)

variable {b b' : StatsBucket} {change change' : StatsBucket → Option StatsBucket}
  {part part' : Figure → Int}

def figure (b : StatsBucket) : Figure → Int64
  | .purchasedAmount => b.purchasedAmountCents
  | .redeemedAmount => b.redeemedAmountCents
  | .tickets kind => (b.ticketTypeCounts.lookup kind).getD 0
  | .transfers kind => (b.transferDirectionCounts.lookup kind).getD 0
  | .checkedInTickets => b.checkedInTickets
  | .checkedInPeople => b.checkedInPeople

/-- A bucket that counts every kind. -/
structure Whole (b : StatsBucket) : Prop where
  ticketTypes : b.ticketTypeCounts.map (·.1) = TicketType.all
  transferDirections : b.transferDirectionCounts.map (·.1) = TransferDirection.all

theorem whole_empty (event : Option EventId) (title : String) : (empty event title).Whole :=
  ⟨rfl, rfl⟩

theorem figure_empty (event : Option EventId) (title : String) (f : Figure) :
    (empty event title).figure f = 0 := by
  rcases f with _ | _ | kind | kind | _ | _ <;> first | rfl | cases kind <;> rfl

theorem whole_entitle (hb : b.Whole) (title : String) : (b.entitle title).Whole := by
  rw [entitle]
  split
  · exact ⟨hb.ticketTypes, hb.transferDirections⟩
  · exact hb

theorem eventId_entitle (b : StatsBucket) (title : String) :
    (b.entitle title).eventId = b.eventId := by
  rw [entitle]
  split <;> rfl

theorem figure_entitle (b : StatsBucket) (title : String) (f : Figure) :
    (b.entitle title).figure f = b.figure f := by
  rw [entitle]
  split
  · cases f <;> rfl
  · rfl

structure Grows (b b' : StatsBucket) (part : Figure → Int) : Prop where
  eventId : b'.eventId = b.eventId
  eventTitle : b'.eventTitle = b.eventTitle
  whole : b'.Whole
  figure : ∀ f, (b'.figure f).toInt = (b.figure f).toInt + part f

theorem Grows.trans {b'' : StatsBucket} (h : b.Grows b' part) (h' : b'.Grows b'' part') :
    b.Grows b'' fun f => part f + part' f where
  eventId := h'.eventId.trans h.eventId
  eventTitle := h'.eventTitle.trans h.eventTitle
  whole := h'.whole
  figure f := by rw [h'.figure, h.figure, Int.add_assoc]

/-- A change that adds its part to each figure, and answers if no sum is out of range. -/
structure Adds (change : StatsBucket → Option StatsBucket) (part : Figure → Int) : Prop where
  grows : ∀ {b b'}, b.Whole → change b = some b' → b.Grows b' part
  answers : ∀ {b}, b.Whole → (∀ f, Fits ((b.figure f).toInt + part f)) → (change b).isSome = true

theorem adds_some : Adds some fun _ => 0 where
  grows hb h := by
    cases h
    exact ⟨rfl, rfl, hb, fun f => (Int.add_zero _).symm⟩
  answers _ _ := rfl

/-- Of a figure that only one of two changes adds to, no sum on the way can be out of range. -/
theorem Adds.bind (h : Adds change part) (h' : Adds change' part')
    (hapart : ∀ f, part f = 0 ∨ part' f = 0) :
    Adds (fun b => (change b).bind change') fun f => part f + part' f where
  grows hb hrun := by
    obtain ⟨b₁, hb₁, hrun⟩ := Option.bind_eq_some_iff.mp hrun
    have hgrows := h.grows hb hb₁
    exact hgrows.trans (h'.grows hgrows.whole hrun)
  answers {b} hb hfits := by
    have hfirst : (change b).isSome = true := by
      refine h.answers hb fun f => ?_
      rcases hapart f with hzero | hzero
      · rw [hzero, Int.add_zero]
        exact Amount.fits_toInt _
      · have := hfits f
        rwa [hzero, Int.add_zero] at this
    obtain ⟨b₁, hb₁⟩ := Option.isSome_iff_exists.mp hfirst
    have hgrows := h.grows hb hb₁
    rw [hb₁, Option.bind_some]
    refine h'.answers hgrows.whole fun f => ?_
    rw [hgrows.figure, Int.add_assoc]
    exact hfits f

theorem Adds.congr (h : Adds change part) (hchange : ∀ b, change' b = change b)
    (hpart : ∀ f, part' f = part f) : Adds change' part' := by
  rwa [funext hchange, funext hpart]

end StatsBucket

def amountPart (status : OrderStatus) (totalCents : Int64) : Figure → Int
  | .purchasedAmount => if status.isPurchased then totalCents.toInt else 0
  | .redeemedAmount => if status = .redeemed then totalCents.toInt else 0
  | _ => 0

def unitsPart (itemType : ItemType) (productRef : String) (quantity : Int64) : Figure → Int
  | .tickets kind =>
    if itemType = .ticket ∧ TicketType.parse? productRef = some kind then quantity.toInt else 0
  | .transfers kind =>
    if itemType = .transfer ∧ TransferDirection.parse? productRef = some kind then quantity.toInt
    else 0
  | _ => 0

def checkInPart (people : Int64) : Figure → Int
  | .checkedInTickets => 1
  | .checkedInPeople => people.toInt
  | _ => 0

namespace StatsBucket

open Amount (Fits)

theorem adds_addOrderTotal (status : OrderStatus) (totalCents : Int64) :
    Adds (addOrderTotal? status totalCents) (amountPart status totalCents) where
  grows {b b'} hb h := by
    simp only [addOrderTotal?, Option.bind_eq_bind, Option.bind_eq_some_iff,
      Amount.addIf?_eq_some_iff] at h
    obtain ⟨purchased, hpurchased, redeemed, hredeemed, h⟩ := h
    cases h
    refine ⟨rfl, rfl, ⟨hb.ticketTypes, hb.transferDirections⟩, fun f => ?_⟩
    cases f with
    | purchasedAmount => exact hpurchased
    | redeemedAmount => exact hredeemed
    | _ => exact (Int.add_zero _).symm
  answers {b} _ hfits := by
    obtain ⟨purchased, hpurchased⟩ := Amount.fits_iff_exists.mp (hfits .purchasedAmount)
    obtain ⟨redeemed, hredeemed⟩ := Amount.fits_iff_exists.mp (hfits .redeemedAmount)
    have hpurchased : Amount.addIf? status.isPurchased b.purchasedAmountCents totalCents =
        some purchased := Amount.addIf?_eq_some_iff.mpr hpurchased
    have hredeemed : Amount.addIf? (status = .redeemed) b.redeemedAmountCents totalCents =
        some redeemed := Amount.addIf?_eq_some_iff.mpr hredeemed
    rw [addOrderTotal?, hpurchased, hredeemed]
    rfl

def unchecked (b : StatsBucket) : StatsBucket :=
  { b with checkedInTickets := 0, checkedInPeople := 0 }

theorem whole_of_unchecked_eq {b b' : StatsBucket} (h : b'.unchecked = b.unchecked) (hb : b.Whole) :
    b'.Whole :=
  ⟨(congrArg (·.ticketTypeCounts.map (·.1)) h).trans hb.ticketTypes,
    (congrArg (·.transferDirectionCounts.map (·.1)) h).trans hb.transferDirections⟩

theorem addCheckIn?_eq_some_iff {people : Int64} {b b' : StatsBucket} :
    b.addCheckIn? people = some b' ↔ b'.unchecked = b.unchecked ∧
      ∀ f, (b'.figure f).toInt = (b.figure f).toInt + checkInPart people f := by
  constructor
  · intro h
    simp only [addCheckIn?, Option.bind_eq_bind, Option.bind_eq_some_iff,
      Amount.add?_eq_some_iff] at h
    obtain ⟨tickets, htickets, admitted, hadmitted, h⟩ := h
    cases h
    refine ⟨rfl, fun f => ?_⟩
    cases f with
    | checkedInTickets => exact htickets
    | checkedInPeople => exact hadmitted
    | _ => exact (Int.add_zero _).symm
  · rintro ⟨hsame, hfigure⟩
    have htickets : Amount.add? b.checkedInTickets 1 = some b'.checkedInTickets :=
      Amount.add?_eq_some_iff.mpr (hfigure .checkedInTickets)
    have hadmitted : Amount.add? b.checkedInPeople people = some b'.checkedInPeople :=
      Amount.add?_eq_some_iff.mpr (hfigure .checkedInPeople)
    rw [addCheckIn?, htickets, hadmitted]
    cases b
    cases b'
    simp only [unchecked, mk.injEq, and_true] at hsame
    obtain ⟨rfl, rfl, rfl, rfl, rfl, rfl⟩ := hsame
    rfl

theorem isSome_addCheckIn?_iff {people : Int64} {b : StatsBucket} :
    (b.addCheckIn? people).isSome = true ↔
      ∀ f, Fits ((b.figure f).toInt + checkInPart people f) := by
  constructor
  · intro hsome f
    obtain ⟨b', h⟩ := Option.isSome_iff_exists.mp hsome
    rw [← (addCheckIn?_eq_some_iff.mp h).2 f]
    exact Amount.fits_toInt _
  · intro hfits
    obtain ⟨tickets, htickets⟩ := Amount.fits_iff_exists.mp (hfits .checkedInTickets)
    obtain ⟨admitted, hadmitted⟩ := Amount.fits_iff_exists.mp (hfits .checkedInPeople)
    refine Option.isSome_iff_exists.mpr
      ⟨{ b with checkedInTickets := tickets, checkedInPeople := admitted },
        addCheckIn?_eq_some_iff.mpr ⟨rfl, fun f => ?_⟩⟩
    cases f with
    | checkedInTickets => exact htickets
    | checkedInPeople => exact hadmitted
    | _ => exact (Int.add_zero _).symm

theorem adds_ticketUnits (kind : TicketType) (quantity : Int64) :
    Adds (fun b => (b.ticketTypeCounts.add? kind quantity).map fun counts =>
      { b with ticketTypeCounts := counts }) fun
      | .tickets k => if kind = k then quantity.toInt else 0
      | _ => 0 where
  grows {b b'} hb h := by
    obtain ⟨counts, hcounts, rfl⟩ := Option.map_eq_some_iff.mp h
    refine ⟨rfl, rfl, ⟨(Counts.keys_add? hcounts).trans hb.ticketTypes, hb.transferDirections⟩,
      fun f => ?_⟩
    cases f with
    | tickets k => exact Counts.getD_add? hcounts (hb.ticketTypes ▸ TicketType.mem_all k)
    | _ => exact (Int.add_zero _).symm
  answers {b} _ hfits := by
    have hkind := hfits (.tickets kind)
    simp only [if_true] at hkind
    rw [Option.isSome_map]
    exact Counts.isSome_add? hkind

theorem adds_transferUnits (kind : TransferDirection) (quantity : Int64) :
    Adds (fun b => (b.transferDirectionCounts.add? kind quantity).map fun counts =>
      { b with transferDirectionCounts := counts }) fun
      | .transfers k => if kind = k then quantity.toInt else 0
      | _ => 0 where
  grows {b b'} hb h := by
    obtain ⟨counts, hcounts, rfl⟩ := Option.map_eq_some_iff.mp h
    refine ⟨rfl, rfl, ⟨hb.ticketTypes, (Counts.keys_add? hcounts).trans hb.transferDirections⟩,
      fun f => ?_⟩
    cases f with
    | transfers k =>
      exact Counts.getD_add? hcounts (hb.transferDirections ▸ TransferDirection.mem_all k)
    | _ => exact (Int.add_zero _).symm
  answers {b} _ hfits := by
    have hkind := hfits (.transfers kind)
    simp only [if_true] at hkind
    rw [Option.isSome_map]
    exact Counts.isSome_add? hkind

theorem adds_addUnits (itemType : ItemType) (productRef : String) (quantity : Int64) :
    Adds (addUnits? itemType productRef quantity) (unitsPart itemType productRef quantity) := by
  cases itemType with
  | ticket =>
    rcases hkind : TicketType.parse? productRef with _ | kind
    · refine adds_some.congr (fun b => by simp only [addUnits?, hkind]) fun f => ?_
      cases f <;> simp [unitsPart, hkind]
    · refine (adds_ticketUnits kind quantity).congr (fun b => by simp only [addUnits?, hkind])
        fun f => ?_
      cases f <;> simp [unitsPart, hkind]
  | transfer =>
    rcases hkind : TransferDirection.parse? productRef with _ | kind
    · refine adds_some.congr (fun b => by simp only [addUnits?, hkind]) fun f => ?_
      cases f <;> simp [unitsPart, hkind]
    · refine (adds_transferUnits kind quantity).congr (fun b => by simp only [addUnits?, hkind])
        fun f => ?_
      cases f <;> simp [unitsPart, hkind]

end StatsBucket

namespace StatsRow

def key (row : StatsRow) : OrderId × OrderStatus := (row.orderId, row.status)

def amount (row : StatsRow) (f : Figure) : Int := amountPart row.status row.totalCents f

def units (row : StatsRow) (f : Figure) : Int :=
  match row.itemType with
  | some itemType =>
    if row.status.isPurchased then unitsPart itemType row.productRef row.quantity f else 0
  | none => 0

theorem units_eq_zero {f : Figure}
    (hf : ∀ itemType productRef quantity, unitsPart itemType productRef quantity f = 0)
    (row : StatsRow) : row.units f = 0 := by
  simp only [units, hf, ite_self]
  split <;> rfl

theorem amount_or_units_eq_zero (row : StatsRow) (f : Figure) :
    row.amount f = 0 ∨ row.units f = 0 := by
  cases f with
  | purchasedAmount => exact .inr (units_eq_zero (fun _ _ _ => rfl) row)
  | redeemedAmount => exact .inr (units_eq_zero (fun _ _ _ => rfl) row)
  | _ => exact .inl rfl

theorem adds_units (row : StatsRow) : StatsBucket.Adds row.addUnits? row.units := by
  rcases hkind : row.itemType with _ | itemType
  · exact StatsBucket.adds_some.congr (fun b => by simp [addUnits?, hkind])
      fun f => by simp [units, hkind]
  · cases hstatus : row.status.isPurchased with
    | false =>
      exact StatsBucket.adds_some.congr (fun b => by simp [addUnits?, hkind, hstatus])
        fun f => by simp [units, hkind, hstatus]
    | true =>
      exact (StatsBucket.adds_addUnits itemType row.productRef row.quantity).congr
        (fun b => by simp [addUnits?, hkind, hstatus]) fun f => by simp [units, hkind, hstatus]

/-- What a row adds to the bucket of its event and to that of all events. -/
def part (row : StatsRow) (isNew : Bool) (f : Figure) : Int :=
  (if isNew then row.amount f else 0) + row.units f

theorem adds_row (row : StatsRow) (isNew : Bool) :
    StatsBucket.Adds (row.addTo? isNew) (row.part isNew) := by
  cases isNew with
  | false => exact StatsBucket.adds_some.bind row.adds_units fun _ => .inl rfl
  | true =>
    exact (StatsBucket.adds_addOrderTotal row.status row.totalCents).bind row.adds_units
      row.amount_or_units_eq_zero

end StatsRow

end EventTickets
