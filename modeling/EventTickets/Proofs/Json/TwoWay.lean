import EventTickets.Json.Codec
import EventTickets.Proofs.Json.Reading
import Mathlib.Data.List.Basic

/-!
# Reading what was written

A value that was read is read again from its written form. Many types read everything back that they
write; others only what they can have read, such as lists whose items have this property or names in
a normal form. Between writing and reading the fields of objects may be put in another order, as
they are in a text.
-/

namespace EventTickets

namespace Json

def Flat : Json → Prop
  | .null => True
  | .bool _ => True
  | .int n => (Json.int n).InRange
  | .str _ => True
  | _ => False

theorem Flat.fits {j : Json} (h : j.Flat) (depth : Nat) : j.Fits depth := by
  cases j with
  | null => trivial
  | bool b => trivial
  | int n => exact h
  | str s => trivial
  | _ => exact h.elim

end Json

/-- A change to a value under which its parts are found where they were, each changed in the same
way. It leaves values alone that are `Kept`, and these have only such parts. -/
structure Rearrangement (f : Json → Json) (Kept : Json → Prop) : Prop where
  flat : ∀ {j : Json}, j.Flat → f j = j
  arr : ∀ js, f (.arr js) = .arr (js.map f)
  obj : ∀ {fields : Meta}, (fields.map (·.1)).Nodup →
    ∃ fields', f (.obj fields) = .obj fields' ∧ ∀ s, fields'.lookup s = (fields.lookup s).map f
  kept : ∀ {j}, Kept j → f j = j
  items : ∀ {js}, Kept (.arr js) → ∀ j ∈ js, Kept j
  fields : ∀ {fields}, Kept (.obj fields) → ∀ p ∈ fields, Kept p.2

theorem rearrangement_id : Rearrangement id fun _ => True where
  flat _ := rfl
  arr js := by rw [List.map_id]; rfl
  obj _ := ⟨_, rfl, fun s => by rw [Option.map_id]; rfl⟩
  kept _ := rfl
  items _ _ _ := trivial
  fields _ _ _ := trivial

theorem rearrangement_sorted : Rearrangement Json.sorted Json.Canonical where
  flat {j} h := by
    cases j with
    | arr js => exact h.elim
    | obj fields => exact h.elim
    | _ => rfl
  arr js := by rw [Json.sorted, Json.sortedItems_eq]
  obj {fields} h := by
    refine ⟨_, by rw [Json.sorted], fun s => ?_⟩
    have hnames : (Json.sortedFields fields).map (·.1) = fields.map (·.1) := by
      rw [Json.sortedFields_eq, List.map_map]
      rfl
    rw [Json.lookup_insertAll (hnames ▸ h), Json.sortedFields_eq, Json.lookup_map]
    exact Option.or_none
  kept h := Json.Canonical.sorted_eq _ h
  items h := Json.canonicalItems_iff.mp h
  fields h := Json.canonicalFields_iff.mp h.2

/-- Whatever was read is read again from its written form. -/
class TwoWay (α : Type) [Encode α] [Decode α] : Prop where
  rereads : ∀ {f : Json → Json} {Kept : Json → Prop}, Rearrangement f Kept →
    ∀ {j : Json} {a : α}, Kept j → decode? j = some a → decode? (f (encode a)) = some a

/-- The written form of what was read nests no deeper than what it was read from. -/
class Bounded (α : Type) [Encode α] [Decode α] : Prop where
  fits : ∀ {depth : Nat} {j : Json} {a : α}, j.Fits depth → decode? j = some a →
    (encode a).Fits depth

/-- Null stands for no value, so that it can stand for an absent one. -/
class NullFree (α : Type) [Decode α] : Prop where
  null : decode? (α := α) .null = none

class FlatForm (α : Type) [Encode α] : Prop where
  flat : ∀ a : α, (encode a).Flat

section

variable {α : Type} [Encode α] [Decode α] [FlatForm α]

instance : Bounded α where
  fits {depth _ a} _ _ := (FlatForm.flat a).fits depth

theorem TwoWay.of_flat
    (h : ∀ {j : Json} {a : α}, decode? j = some a → decode? (encode a) = some a) :
    TwoWay α where
  rereads {_ _} hf {_ a} _ hread := by rw [hf.flat (FlatForm.flat a), h hread]

theorem TwoWay.of_forall (h : ∀ a : α, decode? (encode a) = some a) : TwoWay α :=
  .of_flat fun _ => h _

end

instance : FlatForm Bool := ⟨fun _ => trivial⟩

instance : TwoWay Bool := .of_forall fun _ => rfl

instance : NullFree Bool := ⟨rfl⟩

instance : FlatForm String := ⟨fun _ => trivial⟩

instance : TwoWay String := .of_forall fun _ => rfl

instance : NullFree String := ⟨rfl⟩

theorem integerWithin?_int {low high n : Int} (hlow : low ≤ n) (hhigh : n ≤ high) :
    integerWithin? low high (.int n) = some n :=
  if_pos ⟨hlow, hhigh⟩

theorem decode?_int64 (n : Int64) : decode? (encode n) = some n := by
  have hread : integerWithin? (-0x8000000000000000) 0x7FFFFFFFFFFFFFFF (.int n.toInt) =
      some n.toInt :=
    integerWithin?_int n.le_toInt (Int.le_sub_one_of_lt n.toInt_lt)
  change (integerWithin? (-0x8000000000000000) 0x7FFFFFFFFFFFFFFF (.int n.toInt)).map Int64.ofInt =
    some n
  rw [hread, Option.map_some, Int64.ofInt_toInt]

theorem inRange_int64 (n : Int64) : (encode n).InRange := by
  have hlow := n.le_toInt
  have hhigh := n.toInt_lt
  exact ⟨by omega, by omega⟩

instance : FlatForm Int64 := ⟨inRange_int64⟩

instance : TwoWay Int64 := .of_forall decode?_int64

instance : NullFree Int64 := ⟨rfl⟩

instance : FlatForm UInt32 := ⟨fun n => ⟨by omega, by have := n.toNat_lt; omega⟩⟩

instance : TwoWay UInt32 := .of_forall fun n => by
  have hread : integerWithin? 0 0xFFFFFFFF (.int n.toNat) = some (n.toNat : Int) :=
    integerWithin?_int (Int.natCast_nonneg _) (by have := n.toNat_lt; omega)
  change (integerWithin? 0 0xFFFFFFFF (.int n.toNat)).map (fun n => UInt32.ofNat n.toNat) = some n
  rw [hread, Option.map_some, Int.toNat_natCast, UInt32.ofNat_toNat]

instance : NullFree UInt32 := ⟨rfl⟩

instance : FlatForm UInt64 := ⟨fun n => ⟨by omega, by have := n.toNat_lt; omega⟩⟩

instance : TwoWay UInt64 := .of_forall fun n => by
  have hread : integerWithin? 0 0xFFFFFFFFFFFFFFFF (.int n.toNat) = some (n.toNat : Int) :=
    integerWithin?_int (Int.natCast_nonneg _) (by have := n.toNat_lt; omega)
  change (integerWithin? 0 0xFFFFFFFFFFFFFFFF (.int n.toNat)).map (fun n => UInt64.ofNat n.toNat) =
    some n
  rw [hread, Option.map_some, Int.toNat_natCast, UInt64.ofNat_toNat]

theorem of_decode?_meta {j : Json} {fields : Meta} (h : decode? j = some fields) :
    j = .obj fields := by
  cases j with
  | obj fields' => exact congrArg Json.obj (Option.some.inj h)
  | _ => cases h

instance : TwoWay Meta where
  rereads {f _} hf {j fields} hj h := by
    rw [of_decode?_meta h] at hj
    change decode? (f (.obj fields)) = some fields
    rw [hf.kept hj]
    rfl

instance : Bounded Meta where
  fits {_ j fields} hj h := by
    rw [of_decode?_meta h] at hj
    exact hj

instance : NullFree Meta := ⟨rfl⟩

section

variable {α : Type} [Decode α]

theorem decode?_option_of_ne_null {j : Json} (h : j ≠ .null) :
    decode? (α := Option α) j = (decode? j).map some := by
  cases j with
  | null => exact (h rfl).elim
  | _ => rfl

theorem of_decode?_option {j : Json} {a : α} (h : decode? j = some (some a)) :
    decode? j = some a := by
  have hj : j ≠ .null := by
    rintro rfl
    cases h
  rw [decode?_option_of_ne_null hj] at h
  obtain ⟨a', ha, e⟩ := Option.map_eq_some_iff.mp h
  rw [ha, Option.some.inj e]

instance : NullFree (List α) := ⟨rfl⟩

theorem forall_mem_of_mapM {P : Json → Prop} {Q : α → Prop}
    (hPQ : ∀ j a, P j → decode? j = some a → Q a) {js : List Json} {as : List α}
    (hjs : ∀ j ∈ js, P j) (h : js.mapM decode? = some as) : ∀ a ∈ as, Q a := by
  induction js generalizing as with
  | nil =>
    cases h
    exact fun a ha => (List.not_mem_nil ha).elim
  | cons j js ih =>
    rw [List.mapM_cons] at h
    obtain ⟨a, ha, h⟩ := Option.bind_eq_some_iff.mp h
    obtain ⟨as', has, h⟩ := Option.bind_eq_some_iff.mp h
    cases h
    obtain ⟨hj, hjs⟩ := List.forall_mem_cons.mp hjs
    exact List.forall_mem_cons.mpr ⟨hPQ j a hj ha, ih hjs has⟩

theorem mapM_decode? {g : α → Json} {as : List α} (h : ∀ a ∈ as, decode? (g a) = some a) :
    (as.map g).mapM decode? = some as := by
  induction as with
  | nil => rfl
  | cons a as ih =>
    obtain ⟨ha, has⟩ := List.forall_mem_cons.mp h
    rw [List.map_cons, List.mapM_cons, ha, ih has]
    rfl

theorem of_decode?_list {j : Json} {as : List α} (h : decode? j = some as) :
    ∃ js, j = .arr js ∧ js.mapM decode? = some as := by
  cases j with
  | arr js => exact ⟨js, rfl, h⟩
  | _ => cases h

variable [Encode α]

instance [TwoWay α] [NullFree α] : TwoWay (Option α) where
  rereads {f _} hf {j a} hj h := by
    cases a with
    | none =>
      change decode? (α := Option α) (f .null) = some none
      rw [hf.flat (j := .null) trivial]
      rfl
    | some a =>
      have hread : decode? (f (encode a)) = some a := TwoWay.rereads hf hj (of_decode?_option h)
      have hne : f (encode a) ≠ .null := by
        intro hnull
        rw [hnull, NullFree.null] at hread
        cases hread
      change decode? (α := Option α) (f (encode a)) = some (some a)
      rw [decode?_option_of_ne_null hne, hread]
      rfl

instance [Bounded α] : Bounded (Option α) where
  fits {depth j a} hj h := by
    cases a with
    | none => exact trivial
    | some a =>
      change (encode a).Fits depth
      exact Bounded.fits hj (of_decode?_option h)

instance [TwoWay α] : TwoWay (List α) where
  rereads {f _} hf {j as} hj h := by
    obtain ⟨js, rfl, hjs⟩ := of_decode?_list h
    change decode? (α := List α) (f (.arr (as.map encode))) = some as
    rw [hf.arr, List.map_map]
    exact mapM_decode? (forall_mem_of_mapM (fun j a hj ha => TwoWay.rereads hf hj ha)
      (hf.items hj) hjs)

instance [Bounded α] : Bounded (List α) where
  fits {depth j as} hj h := by
    obtain ⟨js, rfl, hjs⟩ := of_decode?_list h
    obtain ⟨hdepth, hitems⟩ := hj
    refine ⟨hdepth, Json.fitItems_iff.mpr (List.forall_mem_map.mpr ?_)⟩
    exact forall_mem_of_mapM (fun j a hj ha => Bounded.fits hj ha) (Json.fitItems_iff.mp hitems) hjs

end

end EventTickets
