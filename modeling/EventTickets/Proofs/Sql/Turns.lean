import EventTickets.Proofs.Sql.Asking
import Mathlib.Data.Fintype.Lattice
import Mathlib.Data.Prod.Lex

/-!
# The rows that a transaction takes

A row is taken by locking or updating it, and a transaction keeps it until it ends. All rows stand
in one order: orders, items, ticket products and then transfer products by identifier, promo codes,
tickets. A row fits what a transaction holds if nothing that is held comes after it; only items and
tickets may stand level with what is held, for they are parts of an order that is held too.
-/

namespace EventTickets.Sql

inductive TableRow where
  | order (id : OrderId)
  | item (id : Int64)
  | product (kind : ItemType) (id : ProductId)
  | promo (id : PromoCodeId)
  | ticket (id : TicketId)
  deriving DecidableEq

/-- Which order an item or a ticket belongs to. -/
structure Owners where
  item : Int64 → OrderId
  ticket : TicketId → OrderId

namespace TableRow

def stage : TableRow → Nat
  | .order _ => 0
  | .item _ => 1
  | .product .ticket _ => 2
  | .product .transfer _ => 3
  | .promo _ => 4
  | .ticket _ => 5

def place : TableRow → Int
  | .product _ id => Ranked.rank id
  | _ => 0

def rank (r : TableRow) : ℕ ×ₗ ℤ := toLex (r.stage, r.place)

def isProduct : TableRow → Bool
  | .product _ _ => true
  | _ => false

def isPromo : TableRow → Bool
  | .promo _ => true
  | _ => false

def owner? (own : Owners) : TableRow → Option OrderId
  | .item id => some (own.item id)
  | .ticket id => some (own.ticket id)
  | _ => none

theorem rank_le_iff {r s : TableRow} :
    r.rank ≤ s.rank ↔ r.stage < s.stage ∨ r.stage = s.stage ∧ r.place ≤ s.place := by
  simp [rank, Prod.Lex.toLex_le_toLex]

theorem rank_lt_of_stage_lt {r s : TableRow} (h : r.stage < s.stage) : r.rank < s.rank := by
  simp [rank, Prod.Lex.toLex_lt_toLex, h]

theorem stage_le_of_rank_le {r s : TableRow} (h : r.rank ≤ s.rank) : r.stage ≤ s.stage := by
  rcases rank_le_iff.mp h with hlt | ⟨heq, -⟩
  · exact Nat.le_of_lt hlt
  · exact Nat.le_of_eq heq

theorem stage_eq_of_rank_eq {r s : TableRow} (h : r.rank = s.rank) : r.stage = s.stage :=
  Nat.le_antisymm (stage_le_of_rank_le h.le) (stage_le_of_rank_le h.ge)

theorem eq_of_rank_eq {r s : TableRow} (hr : r.isProduct = true) (h : s.rank = r.rank) : s = r := by
  have hstage := stage_eq_of_rank_eq h
  have hplace : s.place = r.place := congrArg (fun p => (ofLex p).2) h
  cases r with
  | product kind id =>
    cases s with
    | product kind' id' =>
      have hid : id' = id := Ranked.rank_injective _ _ hplace
      cases kind <;> cases kind' <;> simp [stage] at hstage <;> rw [hid]
    | _ => cases kind <;> simp [stage] at hstage
  | _ => cases hr

theorem owner_of_rank_eq {own : Owners} {r s : TableRow} {o : OrderId} (hr : r.owner? own = some o)
    (h : s.rank = r.rank) : ∃ o', s.owner? own = some o' := by
  have hstage := stage_eq_of_rank_eq h
  cases r with
  | item id =>
    cases s with
    | item id' => exact ⟨_, rfl⟩
    | product kind id' => cases kind <;> simp [stage] at hstage
    | _ => simp [stage] at hstage
  | ticket id =>
    cases s with
    | ticket id' => exact ⟨_, rfl⟩
    | product kind id' => cases kind <;> simp [stage] at hstage
    | _ => simp [stage] at hstage
  | _ => cases hr

theorem isProduct_of_stage_eq {r s : TableRow} (h : s.stage = r.stage) :
    s.isProduct = r.isProduct := by
  have hstage : ∀ t : TableRow, t.isProduct = decide (t.stage = 2 ∨ t.stage = 3) := by
    intro t
    cases t with
    | product kind id => cases kind <;> rfl
    | _ => rfl
  rw [hstage, hstage, h]

theorem stage_of_isProduct {r : TableRow} (h : r.isProduct = true) : 2 ≤ r.stage ∧ r.stage ≤ 3 := by
  cases r with
  | product kind id => cases kind <;> simp [stage]
  | _ => cases h

theorem place_eq_zero {r : TableRow} (h : r.isProduct = false) : r.place = 0 := by
  cases r with
  | product kind id => cases h
  | _ => rfl

theorem rank_le_of_stage_le {r s : TableRow} (hr : r.isProduct = false) (h : s.stage ≤ r.stage) :
    s.rank ≤ r.rank := by
  rcases Nat.lt_or_eq_of_le h with hlt | heq
  · exact (rank_lt_of_stage_lt hlt).le
  · have hs : s.isProduct = false := (isProduct_of_stage_eq heq).trans hr
    exact rank_le_iff.mpr (.inr ⟨heq, by rw [place_eq_zero hs, place_eq_zero hr]⟩)

theorem isProduct_of_owner {own : Owners} {r : TableRow} {o : OrderId} (h : r.owner? own = some o) :
    r.isProduct = false := by
  cases r with
  | product kind id => cases h
  | _ => rfl

end TableRow

/-- Whether a row may be taken next. Codes may be unique or not; if not, one code may stand for
several rows. -/
structure Fits (own : Owners) (unique : Prop) (held : List TableRow) (r : TableRow) : Prop where
  behind : ∀ s ∈ held, s.rank ≤ r.rank
  owned : ∀ o, r.owner? own = some o → .order o ∈ held
  alone : r.owner? own = none → (r.isPromo = true → unique) → ∀ s ∈ held, s.rank ≠ r.rank

def InTurn (own : Owners) (unique : Prop) : List TableRow → List TableRow → Prop
  | _, [] => True
  | held, r :: rest => (r ∈ held ∨ Fits own unique held r) ∧ InTurn own unique (held ++ [r]) rest

section Turns

variable {own : Owners} {unique : Prop} {held rows : List TableRow} {r : TableRow}

theorem inTurn_append {more : List TableRow} :
    InTurn own unique held (rows ++ more) ↔ InTurn own unique held rows ∧
      InTurn own unique (held ++ rows) more := by
  induction rows generalizing held with
  | nil => simp [InTurn]
  | cons r rest ih =>
    simp only [List.cons_append, InTurn, ih, and_assoc, List.append_assoc, List.nil_append]

theorem inTurn_singleton : InTurn own unique held [r] ↔ r ∈ held ∨ Fits own unique held r := by
  simp [InTurn]

theorem inTurn_of_same (hrows : ∀ s ∈ rows, s = r) (hr : r ∈ held ∨ Fits own unique held r) :
    InTurn own unique held rows := by
  induction rows generalizing held with
  | nil => trivial
  | cons s rest ih =>
    obtain ⟨rfl, hrest⟩ := List.forall_mem_cons.mp hrows
    exact ⟨hr, ih hrest (.inl (by simp))⟩

theorem inTurn_of_parts {o : OrderId} {n : Nat}
    (hrows : ∀ r ∈ rows, r.owner? own = some o ∧ r.stage = n) (ho : .order o ∈ held)
    (hheld : ∀ s ∈ held, s.stage ≤ n) : InTurn own unique held rows := by
  induction rows generalizing held with
  | nil => trivial
  | cons r rest ih =>
    obtain ⟨⟨hr, hstage⟩, hrest⟩ := List.forall_mem_cons.mp hrows
    have hfits : Fits own unique held r := by
      have hbehind : ∀ s ∈ held, s.rank ≤ r.rank := fun s hs =>
        TableRow.rank_le_of_stage_le (TableRow.isProduct_of_owner hr) (hstage ▸ hheld s hs)
      refine ⟨hbehind, fun o' ho' => ?_, fun hnone => ?_⟩
      · rw [hr] at ho'
        cases ho'
        exact ho
      · rw [hr] at hnone
        cases hnone
    refine ⟨.inr hfits, ih hrest (List.mem_append_left _ ho) fun s hs => ?_⟩
    rcases List.mem_append.mp hs with hs | hs
    · exact hheld s hs
    · rw [List.mem_singleton.mp hs, hstage]

theorem inTurn_of_promos (hrows : ∀ r ∈ rows, r.isPromo = true) (hunique : unique → rows.length ≤ 1)
    (hheld : ∀ s ∈ held, s.stage ≤ 4) (hfirst : unique → rows ≠ [] → ∀ s ∈ held, s.stage < 4) :
    InTurn own unique held rows := by
  induction rows generalizing held with
  | nil => trivial
  | cons r rest ih =>
    obtain ⟨hr, hrest⟩ := List.forall_mem_cons.mp hrows
    cases r with
    | promo id =>
      have hfits : Fits own unique held (.promo id) := by
        refine ⟨fun s hs => TableRow.rank_le_of_stage_le rfl (hheld s hs), nofun,
          fun _ hcode s hs he => ?_⟩
        have hstage := hfirst (hcode rfl) (List.cons_ne_nil _ _) s hs
        rw [TableRow.stage_eq_of_rank_eq he] at hstage
        exact Nat.lt_irrefl _ hstage
      have honly : unique → rest = [] := fun hu =>
        List.eq_nil_of_length_eq_zero (Nat.le_zero.mp (Nat.le_of_succ_le_succ (hunique hu)))
      refine ⟨.inr hfits, ih hrest (fun hu => ?_) (fun s hs => ?_) fun hu hne =>
        absurd (honly hu) hne⟩
      · rw [honly hu]
        exact Nat.zero_le 1
      · rcases List.mem_append.mp hs with hs | hs
        · exact hheld s hs
        · rw [List.mem_singleton.mp hs]
          exact Nat.le_refl 4
    | _ => cases hr

theorem InTurn.above (h : InTurn own unique held rows) {s : TableRow}
    (hs : s ∈ rows) (hnew : s ∉ held) : ∀ t ∈ held, t.rank ≤ s.rank := by
  induction rows generalizing held with
  | nil => cases hs
  | cons r rest ih =>
    obtain ⟨hr, hrest⟩ := h
    by_cases he : s = r
    · rw [he] at hnew ⊢
      exact (hr.resolve_left hnew).behind
    · have hlater := ih hrest ((List.mem_cons.mp hs).resolve_left he) (by simp [hnew, he])
      exact fun t ht => hlater t (List.mem_append_left _ ht)

/-- Rows that are taken in turn are taken for the first time in their order. -/
theorem InTurn.firstTouches (h : InTurn own unique held rows) :
    (rows.filter fun r => decide (r ∉ held)).eraseDups.Pairwise fun r s => r.rank ≤ s.rank := by
  induction rows generalizing held with
  | nil => simp
  | cons r rest ih =>
    obtain ⟨hr, hrest⟩ := h
    have hlater := ih hrest
    by_cases hheld : r ∈ held
    · have hsame : ∀ s, decide (s ∉ held ++ [r]) = decide (s ∉ held) := by
        intro s
        by_cases he : s = r
        · simp [he, hheld]
        · simp [he]
      simp only [hsame] at hlater
      rwa [List.filter_cons_of_neg (by simp [hheld])]
    · have hsplit : ∀ s, (decide (s ∉ held) && !s == r) = decide (s ∉ held ++ [r]) := by
        intro s
        simp [Bool.and_comm, beq_eq_decide]
      rw [List.filter_cons_of_pos (by simp [hheld]), List.eraseDups_cons, List.filter_filter]
      simp only [Bool.and_comm (!_ == r), hsplit]
      refine List.pairwise_cons.mpr ⟨fun s hs => ?_, hlater⟩
      obtain ⟨hmem, hnew⟩ := List.mem_filter.mp (List.mem_eraseDups.mp hs)
      exact hrest.above hmem (of_decide_eq_true hnew) r (by simp)

theorem InTurn.owner (h : InTurn own unique held rows)
    (hheld : ∀ s ∈ held, ∀ o, s.owner? own = some o → .order o ∈ held) {s : TableRow}
    (hs : s ∈ held ++ rows) {o : OrderId} (ho : s.owner? own = some o) :
    .order o ∈ held ++ rows := by
  induction rows generalizing held with
  | nil => simpa using hheld s (by simpa using hs) o ho
  | cons r rest ih =>
    obtain ⟨hr, hrest⟩ := h
    rw [List.append_cons] at hs ⊢
    refine ih hrest (fun t ht o' ho' => ?_) hs
    rcases List.mem_append.mp ht with ht | ht
    · exact List.mem_append_left _ (hheld t ht o' ho')
    · rw [List.mem_singleton.mp ht] at ho'
      rcases hr with hr | hr
      · exact List.mem_append_left _ (hheld r hr o' ho')
      · exact List.mem_append_left _ (hr.owned o' ho')

theorem InTurn.order_unique (h : InTurn own unique held rows)
    (hheld : ∀ o o', .order o ∈ held → .order o' ∈ held → o = o') {o o' : OrderId}
    (ho : .order o ∈ held ++ rows) (ho' : .order o' ∈ held ++ rows) : o = o' := by
  induction rows generalizing held with
  | nil => exact hheld o o' (by simpa using ho) (by simpa using ho')
  | cons r rest ih =>
    obtain ⟨hr, hrest⟩ := h
    rw [List.append_cons] at ho ho'
    have hnew : ∀ a b, .order a ∈ held → r = .order b → a = b := by
      rintro a b ha rfl
      rcases hr with hr | hr
      · exact hheld a b ha hr
      · exact (hr.alone rfl nofun _ ha rfl).elim
    refine ih hrest (fun a b ha hb => ?_) ho ho'
    rcases List.mem_append.mp ha with ha | ha <;> rcases List.mem_append.mp hb with hb | hb
    · exact hheld a b ha hb
    · exact hnew a b ha (List.mem_singleton.mp hb).symm
    · exact (hnew b a hb (List.mem_singleton.mp ha).symm).symm
    · exact TableRow.order.inj ((List.mem_singleton.mp ha).trans (List.mem_singleton.mp hb).symm)

/-- Of several that wait, each having taken its rows in turn, one waits for a row that nobody
holds. -/
theorem exists_unheld {ι : Type} [Finite ι] [Nonempty ι] {held : ι → List TableRow}
    {wanted : ι → TableRow} (hheld : ∀ i, InTurn own True [] (held i))
    (hfits : ∀ i, Fits own True (held i) (wanted i)) (hwanted : ∀ i, wanted i ∉ held i)
    (hapart : ∀ i j, i ≠ j → (held i).Disjoint (held j)) : ∃ i, ∀ j, wanted i ∉ held j := by
  -- Whoever held the last of the rows that are waited for would wait for one that does not come
  -- before it. Both would then be parts of orders, and the order of the first would be held twice.
  obtain ⟨i, hlast⟩ := Finite.exists_max fun i => (wanted i).rank
  refine ⟨i, fun j hj => ?_⟩
  have hne : i ≠ j := fun e => hwanted i (by rwa [← e] at hj)
  have hrank : (wanted i).rank = (wanted j).rank := le_antisymm ((hfits j).behind _ hj) (hlast j)
  cases hpart : (wanted j).owner? own with
  | none => exact (hfits j).alone hpart (fun _ => trivial) _ hj hrank
  | some o =>
    obtain ⟨o', ho'⟩ := TableRow.owner_of_rank_eq hpart hrank
    have hown : .order o' ∈ held j := (hheld j).owner (by simp) hj ho'
    exact hapart i j hne ((hfits i).owned o' ho') hown

end Turns

namespace Row

def cell? {α : Type} [OfCell α] (row : Row) (name : String) : Option α :=
  (row.lookup name).bind ofCell?

theorem cell?_of_column {α : Type} [OfCell α] {row : Row} {entity name : String} {a : α}
    (h : row.column entity name = .ok a) : row.cell? name = some a := by
  unfold column at h
  unfold cell?
  split at h
  · next found =>
    cases h
    exact found
  · cases h

end Row

namespace Statement

def named : Statement → List TableRow
  | .lockTicketProduct id => [.product .ticket id]
  | .lockTransferProduct id => [.product .transfer id]
  | .consumePromo id => [.promo id]
  | .releasePromo id => [.promo id]
  | .lockOrder id => [.order id]
  | .reserve kind product _ => [.product kind product]
  | .release kind product _ => [.product kind product]
  | .transition id _ => [.order id]
  | .issueToken ticket _ => [.ticket ticket]
  | .lockTicket id => [.ticket id]
  | .markRedeemed ticket _ _ => [.ticket ticket]
  | _ => []

def found? : Statement → Row → Option TableRow
  | .lockPromoByCode _, row => (row.cell? "id").map fun id => .promo ⟨id⟩
  | .lockOrderItems _, row => (row.cell? "id").map .item
  | .lockOrderTickets _, row => (row.cell? "id").map fun id => .ticket ⟨id⟩
  | .lockOrderOfTicket _, row => (row.cell? "id").map fun id => .order ⟨id⟩
  | _, _ => none

def belongs (own : Owners) : Statement → Row → Bool
  | .lockOrderItems o, row => (row.cell? "id").all fun id => own.item id = o
  | .lockOrderTickets o, row => (row.cell? "id").all fun id => own.ticket ⟨id⟩ = o
  | .lockOrderOfTicket ticket, row => row.cell? "id" = some (own.ticket ticket).uuid
  | .lockTicket ticket, row => (row.cell? "order_id").all fun id => own.ticket ticket = ⟨id⟩
  | _, _ => true

def namesCode : Statement → Bool
  | .lockPromoByCode _ => true
  | _ => false

def Idle (s : Statement) : Prop := s.named = [] ∧ ∀ row, s.found? row = none

end Statement

namespace Entry

def rows (x : Entry) : List Row :=
  match x.2 with
  | .ok o => o.rows
  | .error _ => []

/-- The rows that a statement goes for, one after the other. -/
def reaches (x : Entry) : List TableRow := x.1.named ++ x.rows.filterMap x.1.found?

def applies (x : Entry) : Bool :=
  match x.2 with
  | .ok o => if x.1.asksForRows then !o.rows.isEmpty else o.affected ≠ 0
  | .error _ => false

def takes (x : Entry) : List TableRow := if x.applies then x.reaches else []

def Belongs (own : Owners) (x : Entry) : Prop := ∀ row ∈ x.rows, x.1.belongs own row

instance (own : Owners) (x : Entry) : Decidable (x.Belongs own) :=
  inferInstanceAs (Decidable (∀ row ∈ x.rows, x.1.belongs own row = true))

def OfUniqueCodes (x : Entry) : Prop := x.1.namesCode = true → x.rows.length ≤ 1

instance (x : Entry) : Decidable x.OfUniqueCodes := inferInstanceAs (Decidable (_ → _))

theorem takes_eq (x : Entry) : x.takes = x.reaches ∨ x.takes = [] := by
  unfold takes
  split
  · exact .inl rfl
  · exact .inr rfl

theorem reaches_of_idle {x : Entry} (h : x.1.Idle) : x.reaches = [] := by
  simp [reaches, h.1, h.2]

theorem takes_of_idle {x : Entry} (h : x.1.Idle) : x.takes = [] := by
  simp [takes, reaches_of_idle h]

theorem idle_of_control {x : Entry} (h : x.1.control? ≠ none) : x.1.Idle := by
  rcases x with ⟨s, answer⟩
  cases s with
  | begin => exact ⟨rfl, fun _ => rfl⟩
  | commit => exact ⟨rfl, fun _ => rfl⟩
  | rollback => exact ⟨rfl, fun _ => rfl⟩
  | setTimeout milliseconds => exact ⟨rfl, fun _ => rfl⟩
  | schema => exact ⟨rfl, fun _ => rfl⟩
  | _ => exact absurd rfl h

end Entry

def takenRows (log : List Entry) : List TableRow := log.flatMap Entry.takes

def firstTouches (log : List Entry) : List TableRow := (takenRows log).eraseDups

/-- Rows that ascend, with one order at most, and with no part of an order without that order. -/
structure Ascending (own : Owners) (touches : List TableRow) : Prop where
  sorted : touches.Pairwise fun r s => r.rank ≤ s.rank
  order : ∀ o o', .order o ∈ touches → .order o' ∈ touches → o = o'
  owner : ∀ r ∈ touches, ∀ o, r.owner? own = some o → .order o ∈ touches

/-- Whether all that is gone for in a log is gone for in turn. -/
def Orderly (own : Owners) (unique : Prop) : List TableRow → List Entry → Prop
  | _, [] => True
  | held, x :: rest => InTurn own unique held x.reaches ∧ Orderly own unique (held ++ x.takes) rest

section Logs

variable {own : Owners} {unique : Prop} {held : List TableRow} {log more : List Entry}

theorem takenRows_append : takenRows (log ++ more) = takenRows log ++ takenRows more :=
  List.flatMap_append

theorem orderly_append :
    Orderly own unique held (log ++ more) ↔
      Orderly own unique held log ∧ Orderly own unique (held ++ takenRows log) more := by
  induction log generalizing held with
  | nil => simp [Orderly, takenRows]
  | cons x rest ih =>
    simp only [List.cons_append, Orderly, ih, and_assoc, takenRows,
      List.flatMap_cons, List.append_assoc]

theorem orderly_of_idle (h : ∀ x ∈ log, x.1.Idle) :
    Orderly own unique held log ∧ takenRows log = [] := by
  induction log generalizing held with
  | nil => exact ⟨trivial, rfl⟩
  | cons x rest ih =>
    obtain ⟨hx, hrest⟩ := List.forall_mem_cons.mp h
    obtain ⟨horderly, htaken⟩ : Orderly own unique (held ++ x.takes) rest ∧
        takenRows rest = [] := ih hrest
    refine ⟨⟨?_, horderly⟩, ?_⟩
    · rw [Entry.reaches_of_idle hx]
      trivial
    · rw [takenRows, List.flatMap_cons, Entry.takes_of_idle hx]
      exact htaken

theorem Orderly.taken (h : Orderly own unique held log) :
    InTurn own unique held (takenRows log) := by
  induction log generalizing held with
  | nil => trivial
  | cons x rest ih =>
    obtain ⟨hx, hrest⟩ := h
    rw [takenRows, List.flatMap_cons, inTurn_append]
    refine ⟨?_, ih hrest⟩
    rcases x.takes_eq with he | he <;> rw [he]
    · exact hx
    · trivial

theorem Orderly.ascending (h : Orderly own unique [] log) : Ascending own (firstTouches log) := by
  refine ⟨by simpa [firstTouches] using h.taken.firstTouches, fun o o' ho ho' => ?_,
    fun r hr o ho => ?_⟩
  · exact h.taken.order_unique nofun (List.mem_eraseDups.mp ho) (List.mem_eraseDups.mp ho')
  · exact List.mem_eraseDups.mpr (h.taken.owner nofun (List.mem_eraseDups.mp hr) ho)

theorem Orderly.product_lt_iff (h : Orderly own unique [] log) {r s : TableRow}
    (hr : r.isProduct = true) (hrmem : r ∈ firstTouches log) (hsmem : s ∈ firstTouches log) :
    (firstTouches log).idxOf r < (firstTouches log).idxOf s ↔ r.rank < s.rank := by
  have hsorted := h.ascending.sorted
  have hri := List.idxOf_lt_length_iff.mpr hrmem
  have hsi := List.idxOf_lt_length_iff.mpr hsmem
  have hle : ∀ {a b : TableRow} (ha : (firstTouches log).idxOf a < (firstTouches log).length)
      (hb : (firstTouches log).idxOf b < (firstTouches log).length),
      (firstTouches log).idxOf a < (firstTouches log).idxOf b → a.rank ≤ b.rank := by
    intro a b ha hb hab
    have hpair := List.pairwise_iff_getElem.mp hsorted _ _ ha hb hab
    rwa [List.getElem_idxOf ha, List.getElem_idxOf hb] at hpair
  constructor
  · intro hlt
    refine lt_of_le_of_ne (hle hri hsi hlt) fun he => ?_
    rw [TableRow.eq_of_rank_eq hr he.symm] at hlt
    exact Nat.lt_irrefl _ hlt
  · intro hlt
    rcases Nat.lt_trichotomy ((firstTouches log).idxOf r) ((firstTouches log).idxOf s) with
      hlt' | he | hgt
    · exact hlt'
    · rw [List.idxOf_inj hrmem] at he
      rw [he] at hlt
      exact absurd hlt (lt_irrefl _)
    · exact absurd (hle hsi hri hgt) (not_le_of_gt hlt)

theorem Orderly.waiting {x : Entry} {rows rest : List TableRow} {wanted : TableRow}
    (h : Orderly own unique [] (log ++ x :: more)) (hx : x.reaches = rows ++ wanted :: rest)
    (hwanted : wanted ∉ takenRows log ++ rows) :
    InTurn own unique [] (takenRows log ++ rows) ∧
      Fits own unique (takenRows log ++ rows) wanted := by
  obtain ⟨hlog, hreaches, -⟩ := orderly_append.mp h
  rw [hx, inTurn_append] at hreaches
  obtain ⟨hrows, hnext, -⟩ := hreaches
  refine ⟨inTurn_append.mpr ⟨hlog.taken, hrows⟩, ?_⟩
  exact hnext.resolve_left hwanted

end Logs

end EventTickets.Sql
