import EventTickets.Proofs.Json.TwoWay
import EventTickets.Proofs.Text.Digits
import EventTickets.Proofs.Text.LetterCase
import EventTickets.Proofs.Time.Rfc3339
import EventTickets.Promo.Verdict
import EventTickets.Sales.Bucket

/-!
# Parts of records

Identifiers and kinds are read back whatever they are. An instant, a discount type and the counts of
a bucket are read back because they were read: the instant is in range, the name of the type is in
its normal form, and the counts stand in the order of the kinds, each at most once.
-/

namespace EventTickets

open Time (Instant)

theorem Uuid.map_ofText?_text {κ : Type} (mk : Uuid → κ) (uuid : Uuid) :
    (Uuid.ofText? uuid.text).map mk = some (mk uuid) := by
  rw [Uuid.ofText?_text, Option.map_some]

instance {kind : UuidKind} : FlatForm (UuidId kind) := ⟨fun _ => trivial⟩

instance {kind : UuidKind} : TwoWay (UuidId kind) :=
  .of_forall fun id => Uuid.map_ofText?_text UuidId.mk id.uuid

instance {kind : UuidKind} : Bounded (UuidId kind) := inferInstance

instance {kind : UuidKind} : NullFree (UuidId kind) := ⟨rfl⟩

instance {kind : NumberKind} : FlatForm (NumberId kind) := ⟨fun id => inRange_int64 id.number⟩

instance {kind : NumberKind} : TwoWay (NumberId kind) :=
  .of_forall fun id => congrArg (Option.map NumberId.mk) (decode?_int64 id.number)

instance {kind : NumberKind} : Bounded (NumberId kind) := inferInstance

instance {kind : NumberKind} : NullFree (NumberId kind) := ⟨rfl⟩

instance : FlatForm TicketType := ⟨fun _ => trivial⟩

instance : TwoWay TicketType := .of_forall fun kind => by cases kind <;> rfl

instance : NullFree TicketType := ⟨rfl⟩

instance : FlatForm TransferDirection := ⟨fun _ => trivial⟩

instance : TwoWay TransferDirection := .of_forall fun kind => by cases kind <;> rfl

instance : NullFree TransferDirection := ⟨rfl⟩

instance : FlatForm ItemType := ⟨fun _ => trivial⟩

instance : TwoWay ItemType := .of_forall fun kind => by cases kind <;> rfl

instance : FlatForm OrderStatus := ⟨fun _ => trivial⟩

instance : TwoWay OrderStatus := .of_forall fun status => by cases status <;> rfl

instance : NullFree OrderStatus := ⟨rfl⟩

instance : FlatForm PaymentMethod := ⟨fun _ => trivial⟩

instance : TwoWay PaymentMethod := .of_forall fun method => by cases method <;> rfl

instance : FlatForm PromoRejection := ⟨fun _ => trivial⟩

instance : TwoWay PromoRejection := .of_forall fun reason => by cases reason <;> rfl

instance : NullFree PromoRejection := ⟨rfl⟩

theorem TicketType.parse?_name (kind : TicketType) : parse? kind.name = some kind := by
  cases kind <;> decide +kernel

theorem TransferDirection.parse?_name (kind : TransferDirection) :
    parse? kind.name = some kind := by
  cases kind <;> decide +kernel

theorem ItemType.parse?_name (kind : ItemType) : parse? kind.name = some kind := by
  cases kind <;> decide +kernel

theorem OrderStatus.parse?_name (status : OrderStatus) : parse? status.name = some status := by
  cases status <;> decide +kernel

theorem PaymentMethod.parse?_name (method : PaymentMethod) : parse? method.name = some method := by
  cases method <;> decide +kernel

theorem DiscountType.parse_name_parse (raw : String) : parse (parse raw).name = parse raw := by
  obtain ⟨token, htoken⟩ : ∃ token, token = Text.normalizeToken raw := ⟨_, rfl⟩
  have hnormal : Text.normalizeToken token = token := by
    rw [htoken, Text.normalizeToken_normalizeToken]
  have hraw : parse raw = if token = "PERCENT" then .percent else if token = "FIXED" then
      .fixed else .other token := by
    rw [parse, ← htoken]
  rw [hraw]
  split
  · rfl
  · next hpercent =>
    split
    · rfl
    · next hfixed => rw [name, parse, hnormal, if_neg hpercent, if_neg hfixed]

instance : FlatForm DiscountType := ⟨fun _ => trivial⟩

instance : TwoWay DiscountType := .of_flat fun {j kind} h => by
  cases j with
  | str raw =>
    rw [← Option.some.inj h]
    exact congrArg some (DiscountType.parse_name_parse raw)
  | _ => cases h

instance : FlatForm Instant := ⟨fun _ => trivial⟩

instance : TwoWay Instant := .of_flat fun {j t} h => by
  cases j with
  | str s => exact (Instant.readable_of_ofText? h).ofText?_text
  | _ => cases h

instance : NullFree Instant := ⟨rfl⟩

namespace Counts

variable {κ : Type} {kinds : List κ} {name : κ → String}

def count? (name : κ → String) (fields : Meta) (kind : κ) : Option (Option (κ × Int64)) :=
  match fields.lookup (name kind) with
  | some j => (decode? j).map fun n => some (kind, n)
  | none => some none

theorem filterMapM_count?_cons_iff {kind : κ} {given : Meta} {counts : Counts κ} :
    (kind :: kinds).filterMapM (count? name given) = some counts ↔
      given.lookup (name kind) = none ∧ kinds.filterMapM (count? name given) = some counts ∨
        ∃ j n rest, given.lookup (name kind) = some j ∧ decode? j = some n ∧
          kinds.filterMapM (count? name given) = some rest ∧ counts = (kind, n) :: rest := by
  rw [List.filterMapM_cons, count?]
  cases given.lookup (name kind) with
  | none => simp
  | some j =>
    cases hn : (decode? j : Option Int64) with
    | none => simp [hn]
    | some n => simp [hn, Option.bind_eq_some_iff, eq_comm (b := counts)]

theorem sublist_kinds {given : Meta} {counts : Counts κ}
    (h : kinds.filterMapM (count? name given) = some counts) :
    (counts.map (·.1)).Sublist kinds := by
  induction kinds generalizing counts with
  | nil =>
    cases h
    exact List.Sublist.refl _
  | cons kind kinds ih =>
    rcases filterMapM_count?_cons_iff.mp h with ⟨-, hrest⟩ | ⟨j, n, rest, -, -, hrest, rfl⟩
    · exact (ih hrest).cons kind
    · exact (ih hrest).cons_cons kind

def fields (name : κ → String) (counts : Counts κ) : Meta :=
  counts.map fun (k, n) => (name k, encode n)

theorem sublist_names {counts : Counts κ} (h : (counts.map (·.1)).Sublist kinds) :
    ((counts.fields name).map (·.1)).Sublist (kinds.map name) := by
  have hnames : (counts.fields name).map (·.1) = (counts.map (·.1)).map name := by
    rw [fields, List.map_map, List.map_map]
    rfl
  rw [hnames]
  exact h.map name

theorem filterMapM_again (hkinds : (kinds.map name).Nodup) {given : Meta} {counts : Counts κ}
    (h : kinds.filterMapM (count? name given) = some counts) {again : Meta}
    (hagain : ∀ kind ∈ kinds, again.lookup (name kind) = (counts.fields name).lookup (name kind)) :
    kinds.filterMapM (count? name again) = some counts := by
  -- The counts behind the first kind are of other kinds, so under its name stands its own count or
  -- nothing.
  induction kinds generalizing counts with
  | nil => exact h
  | cons kind kinds ih =>
    obtain ⟨hown, hkinds⟩ := List.nodup_cons.mp hkinds
    obtain ⟨hfirst, hothers⟩ := List.forall_mem_cons.mp hagain
    rcases filterMapM_count?_cons_iff.mp h with ⟨-, hrest⟩ | ⟨j, n, rest, -, -, hrest, rfl⟩
    · have hnone : (counts.fields name).lookup (name kind) = none :=
        Json.lookup_eq_none fun p hp e =>
        hown (e ▸ (sublist_names (sublist_kinds hrest)).subset (List.mem_map_of_mem hp))
      exact filterMapM_count?_cons_iff.mpr (.inl ⟨hfirst.trans hnone, ih hkinds hrest hothers⟩)
    · have hcount : again.lookup (name kind) = some (encode n) := hfirst.trans List.lookup_cons_self
      have hothers' (k) (hk : k ∈ kinds) : again.lookup (name k) =
          (fields name rest).lookup (name k) := by
        have hne : name k ≠ name kind := fun e => hown (e ▸ List.mem_map_of_mem hk)
        rw [hothers k hk, fields, List.map_cons, Json.lookup_cons, if_neg hne]
        rfl
      exact filterMapM_count?_cons_iff.mpr
        (.inr ⟨_, n, rest, hcount, decode?_int64 n, ih hkinds hrest hothers', rfl⟩)

variable {j : Json} {counts : Counts κ}

theorem exists_fields (h : ofJson? kinds name j = some counts) :
    ∃ given, j = .obj given ∧ kinds.filterMapM (count? name given) = some counts := by
  cases j with
  | obj given => exact ⟨given, rfl, (Option.ite_none_right_eq_some.mp h).2⟩
  | _ => cases h

theorem rereads (hkinds : (kinds.map name).Nodup) {f : Json → Json} {Kept : Json → Prop}
    (hf : Rearrangement f Kept) (h : ofJson? kinds name j = some counts) :
    ofJson? kinds name (f (toJson name counts)) = some counts := by
  obtain ⟨given, -, hread⟩ := exists_fields h
  have hnames : ((counts.fields name).map (·.1)).Sublist (kinds.map name) :=
    sublist_names (sublist_kinds hread)
  obtain ⟨again, hobj, hlookup⟩ := hf.obj (hnames.nodup hkinds)
  -- Counts are written without parts, so the change leaves each of them alone.
  have hsame (s) : again.lookup s = (counts.fields name).lookup s := by
    rw [hlookup]
    cases hs : (counts.fields name).lookup s with
    | none => rfl
    | some j =>
      obtain ⟨count, -, e⟩ := List.mem_map.mp (Json.mem_of_lookup_eq_some hs)
      obtain ⟨-, rfl⟩ := Prod.mk.inj e
      rw [Option.map_some, hf.flat (FlatForm.flat count.2)]
  have hknown : again.all (fun p => (kinds.map name).contains p.1) = true := by
    rw [List.all_eq_true]
    intro p hp
    obtain ⟨j, hj⟩ := Json.exists_lookup_of_mem hp
    rw [hsame] at hj
    have hname : p.1 ∈ (counts.fields name).map (·.1) :=
      List.mem_map.mpr ⟨(p.1, j), Json.mem_of_lookup_eq_some hj, rfl⟩
    exact List.contains_iff_mem.mpr (hnames.subset hname)
  change ofJson? kinds name (f (.obj (counts.fields name))) = some counts
  rw [hobj]
  exact Option.ite_none_right_eq_some.mpr ⟨hknown, filterMapM_again hkinds hread fun _ _ => hsame _⟩

theorem fits {depth : Nat} (hj : j.Fits depth) (h : ofJson? kinds name j = some counts) :
    (toJson name counts).Fits depth := by
  obtain ⟨given, rfl, -⟩ := exists_fields h
  refine ⟨hj.1, Json.fitFields_iff.mpr (List.forall_mem_map.mpr fun count _ => ?_)⟩
  exact (FlatForm.flat count.2).fits _

end Counts

instance : TwoWay (Counts TicketType) where
  rereads {_ _} hf {_ _} _ h :=
    Counts.rereads (show (TicketType.all.map TicketType.name).Nodup by decide) hf h

instance : Bounded (Counts TicketType) where
  fits {_ _ _} hj h := Counts.fits hj h

instance : TwoWay (Counts TransferDirection) where
  rereads {_ _} hf {_ _} _ h :=
    Counts.rereads (show (TransferDirection.all.map TransferDirection.name).Nodup by decide) hf h

instance : Bounded (Counts TransferDirection) where
  fits {_ _ _} hj h := Counts.fits hj h

end EventTickets
