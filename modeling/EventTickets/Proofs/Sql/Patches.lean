import EventTickets.Proofs.Runs
import EventTickets.Proofs.Sql.Assignment
import EventTickets.Proofs.Sql.Formats

/-!
# Patches in both stores

A patch of a row in memory sets the fields that it names. The same patch as an update in the
database sets the columns of these fields from its parameters, and the row is read again. Names lose
their blanks on the way to the database, times what they have beyond microseconds, and a scope that
is no event is none once it is read again; what is in memory keeps them all. Where a patch has
nothing of this to lose, both stores have the same row afterwards.
-/

namespace EventTickets

open Time (Instant)

def TicketProductPatch.bound (patch : TicketProductPatch) : TicketProductPatch :=
  { patch with name := patch.name.map Text.trim }

def TransferProductPatch.bound (patch : TransferProductPatch) : TransferProductPatch :=
  { patch with name := patch.name.map Text.trim }

def PromoCodePatch.bound (patch : PromoCodePatch) : PromoCodePatch :=
  { patch with
    discountType := patch.discountType.map fun kind => .parse kind.name,
    activeFrom := patch.activeFrom.map Sql.Cell.microseconds,
    activeTo := patch.activeTo.map Sql.Cell.microseconds }

def PromoCode.readBack (p : PromoCode) : PromoCode :=
  { p with eventId := p.eventId.filter NumberId.isValid }

namespace Sql

open Assignment RowField

variable {row : Row} {id : ProductId} {now : Instant}

theorem ticketProduct_update {p : TicketProduct} {patch : TicketProductPatch} {raw : Option Int64}
    (h : row.ticketProduct = .ok p) (hlimit : patch.inventoryLimit = .ofInput raw) :
    (update Statement.ticketProductAssignments (Statement.updateTicketProduct id patch).params now
      row).ticketProduct =
      .ok (patch.bound.apply (Cell.microseconds now) p) := by
  obtain ⟨hid, hevent, hname, hkind, hprice, hinventory, hsold, hactive, hcreator,
      hcreated, hupdated, -⟩ :=
    Format.ticketProduct.decode_eq_ok_iff.mp h
  exact Format.ticketProduct.decode_eq_ok_iff.mpr ⟨shows_kept hid rfl, shows_kept hevent rfl,
    shows_given hname rfl rfl fun name => ⟨nofun, rfl⟩, shows_kept hkind rfl,
    shows_taken hprice rfl rfl fun price => ⟨nofun, rfl⟩, shows_switched hinventory rfl rfl hlimit,
    shows_kept hsold rfl, shows_taken hactive rfl rfl fun active => ⟨nofun, rfl⟩,
    shows_kept hcreator rfl, shows_kept hcreated rfl, shows_stamped hupdated rfl, trivial⟩

theorem transferProduct_update {p : TransferProduct} {patch : TransferProductPatch}
    {raw : Option Int64} (h : row.transferProduct = .ok p)
    (hlimit : patch.inventoryLimit = .ofInput raw) :
    (update Statement.transferProductAssignments
      (Statement.updateTransferProduct id patch).params now
        row).transferProduct = .ok (patch.bound.apply (Cell.microseconds now) p) := by
  obtain ⟨hid, hevent, hname, hkind, hprice, hinfo, hinventory, hsold, hactive, hcreator,
      hcreated, hupdated, -⟩ :=
    Format.transferProduct.decode_eq_ok_iff.mp h
  exact Format.transferProduct.decode_eq_ok_iff.mpr ⟨shows_kept hid rfl, shows_kept hevent rfl,
    shows_given hname rfl rfl fun name => ⟨nofun, rfl⟩, shows_kept hkind rfl,
    shows_taken hprice rfl rfl fun price => ⟨nofun, rfl⟩,
    shows_taken hinfo rfl rfl fun info => ⟨nofun, rfl⟩, shows_switched hinventory rfl rfl hlimit,
    shows_kept hsold rfl, shows_taken hactive rfl rfl fun active => ⟨nofun, rfl⟩,
    shows_kept hcreator rfl, shows_kept hcreated rfl, shows_stamped hupdated rfl, trivial⟩

theorem scope_of_shows {scope : Option EventId} (h : (RowField.scope "event_id").Shows row scope) :
    scope.filter NumberId.isValid = scope := by
  obtain ⟨cell, -, hcell⟩ := Option.bind_eq_some_iff.mp h
  obtain ⟨raw, -, rfl⟩ := Option.map_eq_some_iff.mp hcell
  rw [Option.filter_filter]
  simp

theorem getD_map_some {α β : Type} (f : α → β) (a : Option α) (b : Option β) :
    (a.map fun a => some (f a)).getD b = (a.map f <|> b) := by
  cases a <;> rfl

theorem promoCode_update {id : PromoCodeId} {p : PromoCode} {patch : PromoCodePatch}
    {raw : Option Int64} (h : row.promoCode = .ok p) (hlimit : patch.usageLimit = .ofInput raw) :
    (update Statement.promoCodeAssignments (Statement.updatePromoCode id patch).params
      now row).promoCode =
      .ok (patch.bound.apply (Cell.microseconds now) p).readBack := by
  obtain ⟨hkind, hscope, hid, hcode, hvalue, husage, hused, hfrom, hto, hactive, hcreator,
      hcreated, hupdated, -⟩ :=
    Format.promoCode.decode_eq_ok_iff.mp h
  refine Format.promoCode.decode_eq_ok_iff.mpr
    ⟨shows_given hkind rfl rfl fun kind => ⟨nofun, rfl⟩, ?_, shows_kept hid rfl,
      shows_kept hcode rfl, shows_taken hvalue rfl rfl fun value => ⟨nofun, rfl⟩,
    shows_switched husage rfl rfl hlimit, shows_kept hused rfl, ?_, ?_,
    shows_taken hactive rfl rfl fun active => ⟨nofun, rfl⟩, shows_kept hcreator rfl,
    shows_kept hcreated rfl, shows_stamped hupdated rfl, trivial⟩
  · -- The scope there is was read from a row, so reading it back leaves it as it is.
    change RowField.Shows _ _ ((patch.eventId <|> p.eventId).filter NumberId.isValid)
    have hread : (patch.eventId <|> p.eventId).filter NumberId.isValid =
        (patch.eventId.map fun scope => (some scope).filter NumberId.isValid).getD p.eventId := by
      cases patch.eventId with
      | none => exact scope_of_shows hscope
      | some scope => rfl
    rw [hread]
    exact shows_given hscope rfl rfl fun scope => ⟨nofun, rfl⟩
  · change RowField.Shows _ _ (patch.activeFrom.map Cell.microseconds <|> p.activeFrom)
    rw [← getD_map_some]
    exact shows_given hfrom rfl rfl fun start => ⟨nofun, rfl⟩
  · change RowField.Shows _ _ (patch.activeTo.map Cell.microseconds <|> p.activeTo)
    rw [← getD_map_some]
    exact shows_given hto rfl rfl fun stop => ⟨nofun, rfl⟩

end Sql

theorem getD_eq_getD_map_iff {α : Type} (f : α → α) (given : Option α) (kept : α) :
    given.getD kept = (given.map f).getD kept ↔ ∀ a ∈ given, f a = a := by
  cases given <;> simp [eq_comm]

theorem orElse_eq_map_orElse_iff {α : Type} (f : α → α) (given kept : Option α) :
    (given <|> kept) = (given.map f <|> kept) ↔ ∀ a ∈ given, f a = a := by
  cases given <;> simp [eq_comm]

/-- A patch that loses nothing on its way to the database and back. -/
structure PromoCodePatch.Lossless (patch : PromoCodePatch) : Prop where
  kind : ∀ kind ∈ patch.discountType, DiscountType.parse kind.name = kind
  start : ∀ start ∈ patch.activeFrom, Sql.Cell.microseconds start = start
  stop : ∀ stop ∈ patch.activeTo, Sql.Cell.microseconds stop = stop
  scope : ∀ scope ∈ patch.eventId, scope.isValid = true

theorem PromoCodePatch.apply_bound_iff (patch : PromoCodePatch) (now : Instant) {p : PromoCode}
    (hscope : p.eventId.filter NumberId.isValid = p.eventId) :
    patch.apply now p = (patch.bound.apply now p).readBack ↔ patch.Lossless := by
  have hevent : (patch.eventId <|> p.eventId) =
      (patch.eventId <|> p.eventId).filter NumberId.isValid ↔
      ∀ scope ∈ patch.eventId, scope.isValid = true := by
    cases patch.eventId with
    | none => simp [hscope]
    | some scope =>
      change some scope = (some scope).filter NumberId.isValid ↔ _
      cases hvalid : scope.isValid <;> simp [Option.filter_some, hvalid]
  simp only [apply, bound, PromoCode.readBack, PromoCode.mk.injEq, getD_eq_getD_map_iff,
    orElse_eq_map_orElse_iff, hevent, true_and, and_true]
  exact ⟨fun ⟨hkind, hfrom, hto, hscope⟩ => ⟨hkind, hfrom, hto, hscope⟩,
    fun ⟨hkind, hfrom, hto, hscope⟩ => ⟨hkind, hfrom, hto, hscope⟩⟩

namespace Memory

namespace State

variable {σ : Type} {s : State σ}

theorem answer_patched {κ ν : Type} [Ranked κ] [DecidableEq κ] {rows : Tables → Table κ ν}
    {call : StateM (State σ) (Except StoreError (Option ν))} {s' : State σ}
    {f : ν → ν} {k : κ} {v : ν} (hrow : (rows s.committed).get? k = some v)
    (hcall : call s = (.ok ((rows s'.committed).get? k), s'))
    (hrows : rows s'.committed = (rows s.committed).modify k f) :
    ∃ s', call s = (.ok (some (f v)), s') ∧ (rows s'.committed).get? k = some (f v) := by
  have hpatched : (rows s'.committed).get? k = some (f v) := by
    rw [hrows, Table.get?_modify, if_pos rfl, hrow, Option.map_some]
  exact ⟨s', by rw [hcall, hpatched], hpatched⟩

end State

end Memory

namespace Sql

open Assignment

/-- A row that is patched in the database is read as the record that the patch would make of it
without what is lost on the way there; in memory it is made of it with all of that. But for the time
at which they are made the two are the same if and only if nothing is lost: names have no blanks
around them, times no more than microseconds, and a scope is an event. -/
theorem patches_agree_iff_lossless {σ : Type} (s : Memory.State σ) (now : Instant) :
    (∀ row p id (patch : TicketProductPatch) raw, Row.ticketProduct row = .ok p →
      s.committed.ticketProducts.get? id = some p → patch.inventoryLimit = .ofInput raw →
      Row.ticketProduct
          (update Statement.ticketProductAssignments
            (Statement.updateTicketProduct id patch).params now row) =
        .ok (patch.bound.apply (Cell.microseconds now) p) ∧
      (∃ s', Memory.State.answerStore (.updateTicketProduct id patch) s =
          (.ok (some (patch.apply s.sources.now.1 p)), s') ∧
        s'.committed.ticketProducts.get? id = some (patch.apply s.sources.now.1 p)) ∧
      ∀ t, patch.apply t p = patch.bound.apply t p ↔ ∀ name ∈ patch.name, Text.trim name = name) ∧
    (∀ row p id (patch : TransferProductPatch) raw, Row.transferProduct row = .ok p →
      s.committed.transferProducts.get? id = some p → patch.inventoryLimit = .ofInput raw →
      Row.transferProduct
          (update Statement.transferProductAssignments
            (Statement.updateTransferProduct id patch).params now row) =
        .ok (patch.bound.apply (Cell.microseconds now) p) ∧
      (∃ s', Memory.State.answerStore (.updateTransferProduct id patch) s =
          (.ok (some (patch.apply s.sources.now.1 p)), s') ∧
        s'.committed.transferProducts.get? id = some (patch.apply s.sources.now.1 p)) ∧
      ∀ t, patch.apply t p = patch.bound.apply t p ↔ ∀ name ∈ patch.name, Text.trim name = name) ∧
    ∀ row p id (patch : PromoCodePatch) raw, Row.promoCode row = .ok p →
      s.committed.promoCodes.get? id = some p → patch.usageLimit = .ofInput raw →
      Row.promoCode (update Statement.promoCodeAssignments
        (Statement.updatePromoCode id patch).params now row) =
        .ok (patch.bound.apply (Cell.microseconds now) p).readBack ∧
      (∃ s', Memory.State.answerStore (.updatePromoCode id patch) s =
          (.ok (some (patch.apply s.sources.now.1 p)), s') ∧
        s'.committed.promoCodes.get? id = some (patch.apply s.sources.now.1 p)) ∧
      ∀ t, patch.apply t p = (patch.bound.apply t p).readBack ↔ patch.Lossless := by
  refine ⟨fun row p id patch raw h hp hlimit => ?_, fun row p id patch raw h hp hlimit => ?_,
    fun row p id patch raw h hp hlimit => ?_⟩
  · refine ⟨ticketProduct_update h hlimit, Memory.State.answer_patched hp rfl rfl, fun t => ?_⟩
    simp only [TicketProductPatch.apply, TicketProductPatch.bound, TicketProduct.mk.injEq,
      getD_eq_getD_map_iff, true_and, and_true]
  · refine ⟨transferProduct_update h hlimit, Memory.State.answer_patched hp rfl rfl, fun t => ?_⟩
    simp only [TransferProductPatch.apply, TransferProductPatch.bound, TransferProduct.mk.injEq,
      getD_eq_getD_map_iff, true_and, and_true]
  · have hscope := (Format.promoCode.decode_eq_ok_iff.mp h).2.1
    exact ⟨promoCode_update h hlimit, Memory.State.answer_patched hp rfl rfl,
      fun t => patch.apply_bound_iff t (scope_of_shows hscope)⟩

end Sql

namespace Sample

def dayPass : TicketProduct where
  id := product
  eventId := event
  name := "Day pass"
  ticketType := .single
  priceCents := 5000
  inventoryLimit := some 10
  soldCount := 0
  isActive := true
  createdBy := some operator
  createdAt := time
  updatedAt := time

theorem dayPass_created :
    (store [createProduct]).committed.ticketProducts.get? product = some dayPass := by
  decide +kernel

def dayPassRow : Sql.Row := Sql.rowOf Sql.Format.ticketProduct.layout.columns dayPass

theorem dayPass_read : dayPassRow.ticketProduct = .ok dayPass :=
  Sql.Format.ticketProduct.keeps.restores _ _ ((Sql.Format.hasRoom_ticketProduct _).mpr (by decide))
    (Sql.holds_rowOf (by decide))

def rename (name : String) : TicketProductPatch where
  name := some name
  priceCents := none
  inventoryLimit := .ofInput (some 0)
  isActive := none

end Sample

namespace Sql

open Assignment

theorem patches_agree_iff_lossless_renamed :
    ∃ p s', p.name = "Late show" ∧ p.inventoryLimit = none ∧
      Row.ticketProduct (update Statement.ticketProductAssignments
        (Statement.updateTicketProduct Sample.product (Sample.rename "Late show")).params
          Sample.time
        Sample.dayPassRow) = .ok p ∧
      Memory.State.answerStore (.updateTicketProduct Sample.product (Sample.rename "Late show"))
        (Sample.store [Sample.createProduct]) = (.ok (some p), s') := by
  obtain ⟨hdatabase, ⟨s', hmemory, -⟩, hsame⟩ :=
    (patches_agree_iff_lossless (Sample.store [Sample.createProduct]) Sample.time).1
      Sample.dayPassRow Sample.dayPass
      Sample.product (Sample.rename "Late show") (some 0) Sample.dayPass_read
      Sample.dayPass_created rfl
  have hnow : (Sample.store [Sample.createProduct]).sources.now.1 = Sample.time := by decide +kernel
  have hmicros : Cell.microseconds Sample.time = Sample.time := by decide
  rw [hmicros, ← (hsame Sample.time).mpr (by decide +kernel)] at hdatabase
  rw [hnow] at hmemory
  exact ⟨_, s', rfl, rfl, hdatabase, hmemory⟩

/-- With blanks around it the name keeps them in memory only. -/
theorem patched_name_keeps_blanks_in_memory :
    (Row.ticketProduct (update Statement.ticketProductAssignments
      (Statement.updateTicketProduct Sample.product (Sample.rename "  Late show  ")).params
        Sample.time
      Sample.dayPassRow)).map (·.name) = .ok "Late show" ∧
    (Memory.State.answerStore (.updateTicketProduct Sample.product (Sample.rename "  Late show  "))
      (Sample.store [Sample.createProduct])).1.map (Option.map (·.name)) =
        .ok (some "  Late show  ") := by
  let patch := Sample.rename "  Late show  "
  let s := Sample.store [Sample.createProduct]
  have hanswer : ∃ s', Memory.State.answerStore (.updateTicketProduct Sample.product patch) s =
      (.ok (some (patch.apply s.sources.now.1 Sample.dayPass)), s') ∧
        s'.committed.ticketProducts.get? Sample.product = some _ :=
    Memory.State.answer_patched Sample.dayPass_created rfl rfl
  obtain ⟨s', hmemory, -⟩ := hanswer
  have hlimit : (Sample.rename "  Late show  ").inventoryLimit = .ofInput (some 0) := rfl
  rw [hmemory, ticketProduct_update Sample.dayPass_read hlimit]
  have htrim : Text.trim "  Late show  " = "Late show" := by decide +kernel
  exact ⟨congrArg Except.ok htrim, rfl⟩

end Sql

end EventTickets
