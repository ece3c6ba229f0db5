import EventTickets.Proofs.Records.Parts
import EventTickets.Sql.Rows
import EventTickets.Sql.Statement

/-!
# Records column by column

A format lists the columns of a record in the order in which they are read: what a column has to
hold, how it is read, and what is put into it for a record. A row that has what is put into the
columns for a record is read as that record, and a row is read as some record if and only if every
column holds what it has to.
-/

namespace EventTickets.Sql

def Cell.type? : Cell → Option ColumnType
  | .null => none
  | .int8 _ => some .int8
  | .int4 _ => some .int4
  | .bool _ => some .bool
  | .text _ => some .text
  | .uuid _ => some .uuid
  | .timestamp _ => some .timestamp
  | .jsonb _ => some .jsonb
  | .texts _ => none
  | .foreign _ => none

inductive Form where
  /-- A value of the type. -/
  | value (type : ColumnType)
  /-- A number that is not negative. -/
  | counter
  /-- A text that is known. -/
  | kind (known : String → Bool)
  /-- A null, or else what the form says. -/
  | nullable (form : Form)

namespace Form

def admits : Form → Cell → Bool
  | .value type, cell => cell.type? == some type
  | .counter, .int4 n => 0 ≤ n
  | .counter, _ => false
  | .kind known, .text s => known s
  | .kind _, _ => false
  | .nullable _, .null => true
  | .nullable form, cell => form.admits cell

end Form

class CellOf (α : Type) [OfCell α] where
  type : ColumnType
  cell : α → Cell
  ofCell?_cell : ∀ a, ofCell? (cell a) = some a
  isSome_ofCell? : ∀ c : Cell, (ofCell? c : Option α).isSome = (Form.value type).admits c

instance : CellOf Int64 := ⟨.int8, .int8, fun _ => rfl, fun c => by cases c <;> rfl⟩

instance : CellOf Int32 := ⟨.int4, .int4, fun _ => rfl, fun c => by cases c <;> rfl⟩

instance : CellOf Bool := ⟨.bool, .bool, fun _ => rfl, fun c => by cases c <;> rfl⟩

instance : CellOf String := ⟨.text, .text, fun _ => rfl, fun c => by cases c <;> rfl⟩

instance : CellOf Uuid := ⟨.uuid, .uuid, fun _ => rfl, fun c => by cases c <;> rfl⟩

instance : CellOf Time.Instant :=
  ⟨.timestamp, .timestamp, fun _ => rfl, fun c => by cases c <;> rfl⟩

instance : CellOf Json := ⟨.jsonb, .jsonb, fun _ => rfl, fun c => by cases c <;> rfl⟩

section

variable {α : Type} [OfCell α] [CellOf α]

theorem isSome_ofCell?_nullable (c : Cell) :
    (ofCell? c : Option (Option α)).isSome = (Form.nullable (.value (CellOf.type α))).admits c := by
  have h := CellOf.isSome_ofCell? (α := α) c
  cases c with
  | null => rfl
  | _ =>
    rw [Form.admits, ← h]
    · exact Option.isSome_map
    · nofun

theorem ofCell?_nullable {c : Cell} {a : α} (h : ofCell? c = some a) :
    (ofCell? c : Option (Option α)) = some (some a) := by
  cases c with
  | null =>
    have hnull := CellOf.isSome_ofCell? (α := α) .null
    rw [h] at hnull
    cases hnull
  | _ =>
    change (ofCell? _).map some = _
    rw [h]
    rfl

theorem ofCell?_optional (a : Option α) : ofCell? (Cell.optional CellOf.cell a) = some a := by
  cases a with
  | none => rfl
  | some a => exact ofCell?_nullable (CellOf.ofCell?_cell a)

end

namespace Reading

variable {α β : Type} {entity : String} {o : Option α} {x : Reading α}

/-- Reading gives what there is, or the error of a record that cannot be read. -/
def Gives (entity : String) : Option α → Reading α → Prop
  | some a, x => x = .ok a
  | none, x => ∃ detail, x = .error (.decode entity detail)

theorem Gives.bind {f : α → Option β} {g : α → Reading β} (hx : Gives entity o x)
    (hf : ∀ a, Gives entity (f a) (g a)) : Gives entity (o.bind f) (x >>= g) := by
  cases o with
  | some a =>
    obtain rfl : x = .ok a := hx
    exact hf a
  | none =>
    obtain ⟨detail, rfl⟩ := hx
    exact ⟨detail, rfl⟩

theorem Gives.map (hx : Gives entity o x) (f : α → β) :
    Gives entity (o.map f) (x >>= fun a => .ok (f a)) := by
  rw [Option.map_eq_bind]
  exact hx.bind fun a => rfl

theorem Gives.eq_ok_iff (hx : Gives entity o x) {a : α} : x = .ok a ↔ o = some a := by
  cases o with
  | some b =>
    obtain rfl : x = .ok b := hx
    simp
  | none =>
    obtain ⟨detail, rfl⟩ := hx
    simp

end Reading

open Reading

theorem Row.gives_column {α : Type} [OfCell α] (row : Row) (entity name : String) :
    Gives entity ((row.lookup name).bind (ofCell? (α := α))) (row.column entity name) := by
  rw [column]
  rcases (row.lookup name).bind (ofCell? (α := α)) with _ | a
  · exact ⟨_, rfl⟩
  · rfl

theorem Row.gives_kind {α : Type} (row : Row) (entity name : String) (parse? : String → Option α) :
    Gives entity (((row.lookup name).bind ofCell?).bind parse?) (row.kind entity name parse?) := by
  refine (row.gives_column entity name).bind fun raw => ?_
  cases parse? raw with
  | some a => rfl
  | none => exact ⟨_, rfl⟩

def CounterFits (n : UInt32) : Prop := n.toNat ≤ 2147483647

def LimitFits (limit : Option UInt32) : Prop := ∀ n ∈ limit, 1 ≤ n.toNat ∧ n.toNat ≤ 2147483647

instance (n : UInt32) : Decidable (CounterFits n) :=
  inferInstanceAs (Decidable (n.toNat ≤ 2147483647))

instance (limit : Option UInt32) : Decidable (LimitFits limit) := Option.decidableForallMem limit

theorem limitFits_ofInput (raw : Option Int64) : LimitFits (Limit.ofInput raw) := by
  rcases raw with _ | n
  · exact fun _ h => (Option.some_ne_none _ h.symm).elim
  · have hlargest : Limit.largest.toNat = 2147483647 := rfl
    intro limit hlimit
    simp only [Limit.ofInput] at hlimit
    split at hlimit
    · cases hlimit
    · split at hlimit
      · cases hlimit
        exact ⟨by decide, Nat.le_refl _⟩
      · next hpositive hrange =>
        cases hlimit
        rw [UInt32.toNat_ofNat', Nat.mod_eq_of_lt (by omega)]
        omega

theorem limitFits_of_set {raw : Option Int64} {limit : UInt32}
    (h : LimitUpdate.ofInput raw = .set limit) : LimitFits (some limit) := by
  rcases raw with _ | n
  · cases h
  · simp only [LimitUpdate.ofInput] at h
    split at h
    · next limit' hlimit =>
      cases h
      exact hlimit ▸ limitFits_ofInput (some n)
    · cases h

theorem toInt_int32 {n : UInt32} (h : CounterFits n) : (Int32.ofNat n.toNat).toInt = n.toNat := by
  have hfits : n.toNat < 2147483648 := Nat.lt_succ_of_le h
  exact Int32.toInt_ofNat_of_lt hfits

theorem ofNat_int32 {n : UInt32} (h : CounterFits n) :
    UInt32.ofNat (Int32.ofNat n.toNat).toInt.toNat = n := by
  rw [toInt_int32 h]
  exact UInt32.ofNat_toNat

structure RowField (α : Type) where
  name : String
  form : Form
  read : Row → String → Reading α
  value? : Cell → Option α
  cell : α → Cell
  /-- Whether the column can take the value. -/
  Storable : α → Prop
  reads : ∀ row entity, Gives entity ((row.lookup name).bind value?) (read row entity)
  isSome_value? : ∀ c, (value? c).isSome = form.admits c
  value?_cell : ∀ {a}, Storable a → value? (cell a) = some a

namespace RowField

variable {α β : Type}

def Shows (field : RowField α) (row : Row) (a : α) : Prop :=
  (row.lookup field.name).bind field.value? = some a

section

variable [OfCell α] [CellOf α]

def required (name : String) : RowField α where
  name := name
  form := .value (CellOf.type α)
  read row entity := row.column entity name
  value? := ofCell?
  cell := CellOf.cell
  Storable _ := True
  reads row entity := row.gives_column entity name
  isSome_value? := CellOf.isSome_ofCell?
  value?_cell {a} _ := CellOf.ofCell?_cell a

def nullable (name : String) : RowField (Option α) where
  name := name
  form := .nullable (.value (CellOf.type α))
  read row entity := row.column entity name
  value? := ofCell?
  cell := .optional CellOf.cell
  Storable _ := True
  reads row entity := row.gives_column entity name
  isSome_value? := isSome_ofCell?_nullable
  value?_cell {a} _ := ofCell?_optional a

end

def through [OfCell β] (name : String) (form : Form)
    (hform : ∀ c, (ofCell? c : Option β).isSome = form.admits c) (of : β → α)
    (read : Row → String → Reading α) (hread : ∀ row entity, read row entity =
      (row.column entity name : Reading β) >>= fun raw => .ok (of raw))
    (cell : α → Cell) (Storable : α → Prop)
    (hcell : ∀ {a}, Storable a → (ofCell? (cell a)).map of = some a) : RowField α where
  name := name
  form := form
  read := read
  value? c := (ofCell? c).map of
  cell := cell
  Storable := Storable
  reads row entity := by
    have hcolumn := (row.gives_column (α := β) entity name).map of
    rw [Option.map_bind] at hcolumn
    rw [hread]
    exact hcolumn
  isSome_value? c := by rw [Option.isSome_map, hform]
  value?_cell := hcell

def user (name : String) : RowField (Option UserId) :=
  through name (.nullable (.value .int8)) (isSome_ofCell?_nullable (α := Int64))
    (Option.map NumberId.mk)
    (fun row entity => row.user entity name) (fun _ _ => rfl) Statement.userCell
    (fun _ => True) fun {user} _ => by
    cases user <;> rfl

def scope (name : String) : RowField (Option EventId) :=
  through name (.nullable (.value .int8)) (isSome_ofCell?_nullable (α := Int64))
    (fun raw : Option Int64 => (raw.map NumberId.mk).filter NumberId.isValid)
    (fun row entity => (row.column entity name : Reading (Option Int64)) >>= fun raw =>
      .ok ((raw.map NumberId.mk).filter NumberId.isValid)) (fun _ _ => rfl) Statement.eventCell
    (fun scope => ∀ event ∈ scope, event.isValid = true) fun {scope} hvalid => by
    cases scope with
    | none => rfl
    | some event => exact congrArg some (if_pos (hvalid event rfl))

def discount (name : String) : RowField DiscountType :=
  through name (.value .text) (CellOf.isSome_ofCell? (α := String)) DiscountType.parse
    (fun row entity => (row.column entity name : Reading String) >>= fun raw => .ok (.parse raw))
    (fun _ _ => rfl)
    (fun kind => .text kind.name) (fun kind => DiscountType.parse kind.name = kind) (congrArg some)

def details (name : String) : RowField Meta :=
  through name (.nullable (.value .jsonb)) (isSome_ofCell?_nullable (α := Json))
    (fun
      | some (.obj fields) => fields
      | _ => [])
    (fun row entity => row.details entity name)
    (fun row entity => by
      refine bind_congr fun raw => ?_
      rcases raw with _ | (_ | _ | _ | _ | _ | _) <;> rfl)
    (fun fields => .jsonb (.obj fields)) (fun _ => True) fun _ => rfl

def count (name : String) : RowField UInt32 where
  name := name
  form := .counter
  read row entity := row.count entity name
  value? c := (ofCell? c : Option Int32).bind fun n => if n < 0 then none else
    some (.ofNat n.toInt.toNat)
  cell n := .int4 (.ofNat n.toNat)
  Storable := CounterFits
  reads row entity := by
    rw [← Option.bind_assoc]
    refine (row.gives_column entity name).bind fun n => ?_
    by_cases hnegative : n < 0
    · rw [if_pos hnegative, if_pos hnegative]
      exact ⟨_, rfl⟩
    · rw [if_neg hnegative, if_neg hnegative]
      rfl
  isSome_value? c := by
    cases c with
    | int4 n =>
      change (if n < 0 then none else some _).isSome = decide (0 ≤ n)
      by_cases hnegative : n < 0
      · rw [if_pos hnegative, decide_eq_false (Int32.not_le.mpr hnegative), Option.isSome_none]
      · rw [if_neg hnegative, decide_eq_true (Int32.not_lt.mp hnegative), Option.isSome_some]
    | _ => rfl
  value?_cell {n} hfits := by
    have hnonneg : ¬ Int32.ofNat n.toNat < 0 := by
      rw [Int32.lt_iff_toInt_lt, toInt_int32 hfits, Int32.toInt_zero]
      omega
    change (if Int32.ofNat n.toNat < 0 then none else some _) = some n
    rw [if_neg hnonneg, ofNat_int32 hfits]

def limit (name : String) : RowField (Option UInt32) :=
  through name (.nullable (.value .int4)) (isSome_ofCell?_nullable (α := Int32))
    (fun raw : Option Int32 => (raw.filter (0 < ·)).map fun n => UInt32.ofNat n.toInt.toNat)
    (fun row entity => row.limit entity name) (fun _ _ => rfl) Statement.limitCell LimitFits
      fun {limit} hfits => by
    cases limit with
    | none => rfl
    | some n =>
      obtain ⟨hpositive, hlargest⟩ := hfits n rfl
      have hroom : ¬ 2147483647 < n := by
        rw [UInt32.lt_iff_toNat_lt]
        exact Nat.not_lt.mpr hlargest
      have hkept : 0 < Int32.ofNat n.toNat := by
        rw [Int32.lt_iff_toInt_lt, toInt_int32 hlargest, Int32.toInt_zero]
        omega
      simp only [Statement.limitCell, Cell.optional, if_neg hroom]
      change some (((some (Int32.ofNat n.toNat)).filter (0 < ·)).map _) = _
      rw [Option.filter_some, if_pos (decide_eq_true hkept), Option.map_some, ofNat_int32 hlargest]

def kind (name : String) (parse? : String → Option α) (text : α → String)
    (hparse : ∀ a, parse? (text a) = some a) : RowField α where
  name := name
  form := .kind fun s => (parse? s).isSome
  read row entity := row.kind entity name parse?
  value? c := (ofCell? c).bind parse?
  cell a := .text (text a)
  Storable _ := True
  reads row entity := by
    rw [← Option.bind_assoc]
    exact row.gives_kind entity name parse?
  isSome_value? c := by cases c <;> rfl
  value?_cell {a} _ := by
    rw [← hparse a]
    rfl

def optionalKind (name : String) (parse? : String → Option α) (text : α → String)
    (hparse : ∀ a, parse? (text a) = some a) (read : Row → String → Reading (Option α))
    (hread : ∀ row entity, read row entity =
      (row.column entity name : Reading (Option String)) >>= fun
      | some _ => some <$> row.kind entity name parse?
      | none => .ok none) : RowField (Option α) where
  name := name
  form := .nullable (.kind fun s => (parse? s).isSome)
  read := read
  value?
    | .null => some none
    | c => ((ofCell? c).bind parse?).map some
  cell a := .optional (fun a => .text (text a)) a
  Storable _ := True
  reads row entity := by
    have hkind := row.gives_kind entity name parse?
    rw [hread, Row.column]
    cases hcell : row.lookup name with
    | none => exact ⟨_, rfl⟩
    | some cell =>
      cases cell with
      | null => rfl
      | text s =>
        -- The second reading of the column finds the text of the first.
        rw [hcell] at hkind
        exact hkind.map some
      | _ => exact ⟨_, rfl⟩
  isSome_value? c := by
    cases c with
    | text s => exact Option.isSome_map
    | _ => rfl
  value?_cell {a} _ := by
    cases a with
    | none => rfl
    | some a => exact congrArg (Option.map some) (hparse a)

end RowField

/-- A column with what is put into it for a record. -/
structure Column (R : Type) where
  name : String
  form : Form
  cell : R → Cell
  /-- Whether the column can take its part of the record. -/
  Storable : R → Prop

def Column.Fits {R : Type} (column : Column R) (row : Row) : Prop :=
  ∃ cell, row.lookup column.name = some cell ∧ column.form.admits cell = true

section

variable {R : Type} (columns : List (Column R)) (r : R)

def HasRoom : Prop := ∀ column ∈ columns, column.Storable r

def Holds (row : Row) : Prop := ∀ column ∈ columns, row.lookup column.name = some (column.cell r)

def rowOf : Row := columns.map fun column => (column.name, column.cell r)

def Puts (written : List (String × Cell)) : Prop :=
  ∀ p ∈ written, ∃ column ∈ columns, column.name = p.1 ∧ column.cell r = p.2

variable {columns r}

theorem holds_rowOf (h : (columns.map (·.name)).Nodup) : Holds columns r (rowOf columns r) := by
  induction columns with
  | nil => exact List.forall_mem_nil _
  | cons column rest ih =>
    obtain ⟨hname, hrest⟩ := List.nodup_cons.mp h
    refine List.forall_mem_cons.mpr ⟨List.lookup_cons_self, fun other hother => ?_⟩
    -- The pair in front does not hide the columns behind it: they have other names.
    have hother' : (other.name == column.name) = false :=
      beq_false_of_ne fun e => hname (List.mem_map.mpr ⟨other, hother, e⟩)
    rw [rowOf, List.map_cons, List.lookup_cons, hother']
    exact ih hrest other hother

end

/-- The columns of a record in the order in which they are read, each with the part of the record
that is in it. The parts are put together by a function of type `K`. -/
inductive Layout (R : Type) : Type → Type 1
  | done : Layout R R
  | next {α K : Type} (field : RowField α) (of : R → α) (rest : Layout R K) : Layout R (α → K)

namespace Layout

variable {R K : Type}

def columns {K : Type} : Layout R K → List (Column R)
  | .done => []
  | .next field of rest =>
    ⟨field.name, field.form, fun r => field.cell (of r),
      fun r => field.Storable (of r)⟩ :: rest.columns

def read {K : Type} : Layout R K → K → Row → String → Reading R
  | .done, r, _, _ => .ok r
  | .next field _ rest, make, row, entity => field.read row entity >>= fun a =>
    rest.read (make a) row entity

def value? {K : Type} : Layout R K → K → Row → Option R
  | .done, r, _ => some r
  | .next field _ rest, make, row =>
    ((row.lookup field.name).bind field.value?).bind fun a => rest.value? (make a) row

def record {K : Type} : Layout R K → K → R → R
  | .done, r, _ => r
  | .next _ of rest, make, r => rest.record (make (of r)) r

def Agrees {K : Type} : Layout R K → K → (R → Prop) → Prop
  | .done, r, P => P r
  | .next _ of rest, make, P => ∀ a, rest.Agrees (make a) fun r => P r ∧ of r = a

def Shows {K : Type} (row : Row) (r : R) : Layout R K → Prop
  | .done => True
  | .next field of rest => field.Shows row (of r) ∧ rest.Shows row r

variable {L : Layout R K} {make : K} {P : R → Prop} {row : Row} {r : R}

theorem gives_read (L : Layout R K) (make : K) (row : Row) (entity : String) :
    Gives entity (L.value? make row) (L.read make row entity) := by
  induction L with
  | done => rfl
  | next field of rest ih => exact (field.reads row entity).bind fun a => ih (make a)

theorem isSome_value? : (L.value? make row).isSome ↔ ∀ column ∈ L.columns, column.Fits row := by
  induction L with
  | done => simp [value?, columns]
  | next field of rest ih =>
    rw [value?, columns, List.forall_mem_cons]
    have hown : ((row.lookup field.name).bind field.value?).isSome ↔
        ∃ cell, row.lookup field.name = some cell ∧ field.form.admits cell = true := by
      cases row.lookup field.name with
      | none => simp
      | some cell => simp [field.isSome_value?]
    rw [Column.Fits, ← hown]
    cases (row.lookup field.name).bind field.value? with
    | none => simp
    | some a => simp [ih]

theorem Shows.value? (h : L.Shows row r) : L.value? make row = some (L.record make r) := by
  induction L with
  | done => rfl
  | next field of rest ih => exact Option.bind_eq_some_iff.mpr ⟨of r, h.1, ih h.2⟩

theorem Agrees.of_value? (hL : L.Agrees make P) (h : L.value? make row = some r) : P r := by
  -- With each part that is read more is known of the record, so `P` grows along the layout.
  induction L generalizing P with
  | done =>
    cases h
    exact hL
  | next field of rest ih =>
    obtain ⟨a, -, h⟩ := Option.bind_eq_some_iff.mp h
    exact (ih (hL a) h).1

theorem Agrees.shows (hL : L.Agrees make P) (h : L.value? make row = some r) : L.Shows row r := by
  induction L generalizing P with
  | done => trivial
  | next field of rest ih =>
    obtain ⟨a, ha, h⟩ := Option.bind_eq_some_iff.mp h
    obtain ⟨-, rfl⟩ := (hL a).of_value? h
    exact ⟨ha, ih (hL _) h⟩

theorem shows_of_cells (hroom : HasRoom L.columns r) (hcells : Holds L.columns r row) :
    L.Shows row r := by
  induction L with
  | done => trivial
  | next field of rest ih =>
    obtain ⟨hstorable, hroom⟩ := List.forall_mem_cons.mp hroom
    obtain ⟨hcell, hcells⟩ := List.forall_mem_cons.mp hcells
    refine ⟨?_, ih hroom hcells⟩
    rw [RowField.Shows, hcell]
    exact field.value?_cell hstorable

end Layout

/-- How records of a kind are kept in rows. -/
structure Format (R : Type) where
  entity : String
  {Parts : Type}
  layout : Layout R Parts
  make : Parts
  decode : Row → Reading R
  decode_eq : ∀ row, layout.read make row entity = decode row
  record_eq : ∀ r, layout.record make r = r
  agrees : layout.Agrees make fun _ => True

/-- What is put into the columns for a record is read as that record. A row that lacks a column, or
has something in it that the column must not hold, is an error that names the kind of record; any
other row is a record. -/
structure Keeps {R : Type} (entity : String) (decode : Row → Reading R)
    (columns : List (Column R)) : Prop where
  restores : ∀ r (row : Row), HasRoom columns r → Holds columns r row → decode row = .ok r
  refuses : ∀ row : Row, (∃ column ∈ columns, ¬ column.Fits row) →
    ∃ detail, decode row = .error (.decode entity detail)
  accepts : ∀ row : Row, (∀ column ∈ columns, column.Fits row) → ∃ r, decode row = .ok r

namespace Format

variable {R : Type} (F : Format R)

theorem gives_decode (row : Row) : Gives F.entity (F.layout.value? F.make row) (F.decode row) :=
  F.decode_eq row ▸ F.layout.gives_read F.make row F.entity

theorem decode_eq_ok_iff {row : Row} {r : R} : F.decode row = .ok r ↔ F.layout.Shows row r := by
  rw [(F.gives_decode row).eq_ok_iff]
  exact ⟨F.agrees.shows, fun h => by rw [h.value?, F.record_eq]⟩

theorem keeps : Keeps F.entity F.decode F.layout.columns where
  restores r row hroom hcells := F.decode_eq_ok_iff.mpr (Layout.shows_of_cells hroom hcells)
  refuses row h := by
    have hnone : F.layout.value? F.make row = none := by
      rw [← Option.not_isSome_iff_eq_none, Layout.isSome_value?]
      exact fun hall => h.elim fun column hcolumn => hcolumn.2 (hall column hcolumn.1)
    have hgives := F.gives_decode row
    rwa [hnone] at hgives
  accepts row h := by
    obtain ⟨r, hr⟩ := Option.isSome_iff_exists.mp (Layout.isSome_value?.mpr h)
    exact ⟨r, (F.gives_decode row).eq_ok_iff.mpr hr⟩

end Format

end EventTickets.Sql
