import EventTickets.Proofs.Sql.Layout

/-!
# What assignments do to a row

An update gives the columns that it assigns something new and leaves the others alone. A column that
is given a parameter keeps what it has if the parameter is null, a switched column keeps it unless
the switch is on, and a stamped column gets the time of the transaction.
-/

namespace EventTickets.Sql

open Time (Instant)

namespace Assignment

def column : Assignment → String
  | .given column _ => column
  | .switched column _ _ => column
  | .stamped column => column

def param (params : List Cell) (n : Nat) : Cell := params.getD (n - 1) .null

def result (params : List Cell) (now : Instant) (current : Cell) : Assignment → Cell
  | .given _ n =>
    match param params n with
    | .null => current
    | cell => cell
  | .switched _ flag n =>
    match param params flag with
    | .bool true => param params n
    | _ => current
  | .stamped _ => .time now

variable (assignments : List Assignment) (params : List Cell) (now : Instant)

def assigned (name : String) (current : Cell) : Cell :=
  (assignments.find? (·.column == name)).elim current (result params now current)

def update (row : Row) : Row :=
  row.map fun (name, cell) => (name, assigned assignments params now name cell)

theorem lookup_update (row : Row) (name : String) :
    (update assignments params now row).lookup name =
      (row.lookup name).map (assigned assignments params now name) := by
  induction row with
  | nil => rfl
  | cons p row ih =>
    rw [update, List.map_cons, List.lookup_cons, List.lookup_cons]
    by_cases h : name = p.1
    · subst h
      simp
    · rw [beq_false_of_ne h]
      exact ih

end Assignment

open Assignment

namespace RowField

variable {α β : Type} {field : RowField α} {row : Row} {assignments : List Assignment}
  {params : List Cell}
  {now : Instant} {a a' : α}

theorem shows_update (h : field.Shows row a)
    (hcell : ∀ cell, field.value? cell = some a →
      field.value? (assigned assignments params now field.name cell) = some a') :
    field.Shows (update assignments params now row) a' := by
  obtain ⟨cell, hlookup, hvalue⟩ := Option.bind_eq_some_iff.mp h
  rw [Shows, lookup_update, hlookup]
  exact hcell cell hvalue

theorem shows_kept (h : field.Shows row a)
    (hnone : assignments.find? (·.column == field.name) = none) :
    field.Shows (update assignments params now row) a :=
  shows_update h fun cell hvalue => by rwa [assigned, hnone]

theorem shows_given {n : Nat} {given : Option β} {put : β → Cell} {f : β → α}
    (h : field.Shows row a)
    (hgiven : assignments.find? (·.column == field.name) = some (.given field.name n))
    (hparam : param params n = .optional put given)
    (hput : ∀ b, put b ≠ .null ∧ field.value? (put b) = some (f b)) :
    field.Shows (update assignments params now row) ((given.map f).getD a) := by
  refine shows_update h fun cell hvalue => ?_
  rw [assigned, hgiven, Option.elim_some, result, hparam]
  cases given with
  | none => exact hvalue
  | some b =>
    obtain ⟨hnull, hb⟩ := hput b
    rw [Cell.optional]
    split
    · next e => exact absurd e hnull
    · exact hb

theorem shows_taken {n : Nat} {given : Option α} {put : α → Cell} (h : field.Shows row a)
    (hgiven : assignments.find? (·.column == field.name) = some (.given field.name n))
    (hparam : param params n = .optional put given)
    (hput : ∀ a, put a ≠ .null ∧ field.value? (put a) = some a) :
    field.Shows (update assignments params now row) (given.getD a) := by
  have hshows : field.Shows (update assignments params now row) ((given.map id).getD a) :=
    shows_given h hgiven hparam hput
  rwa [Option.map_id_fun, id] at hshows

theorem shows_switched {name : String} {flag n : Nat} {change : LimitUpdate} {raw : Option Int64}
    {limit : Option UInt32} (h : (RowField.limit name).Shows row limit)
    (hswitched : assignments.find? (·.column == (RowField.limit name).name) =
      some (.switched name flag n))
    (hparams : (param params flag, param params n) = Statement.limitChange change)
    (hinput : change = .ofInput raw) :
    (RowField.limit name).Shows (update assignments params now row) (change.apply limit) := by
  obtain ⟨hflag, hparam⟩ := Prod.mk.inj hparams
  refine shows_update h fun cell hvalue => ?_
  rw [assigned, hswitched, Option.elim_some, result, hflag, hparam]
  cases change with
  | keep => exact hvalue
  | clear => rfl
  | set limit => exact (RowField.limit name).value?_cell (limitFits_of_set hinput.symm)

theorem shows_stamped {name : String} {t : Instant}
    (h : (required name : RowField Instant).Shows row t)
    (hstamped : assignments.find? (·.column == (required name : RowField Instant).name) =
      some (.stamped name)) :
    (required name : RowField Instant).Shows (update assignments params now row)
    (Cell.microseconds now) :=
  shows_update h fun cell _ => by
    rw [assigned, hstamped]
    rfl

end RowField

end EventTickets.Sql
