import EventTickets.Order.Record
import EventTickets.Proofs.Json.TwoWay

/-!
# Records component by component

A schema lists the components of a record in the order in which they are read, each with how it is
written, and ends in the record made of them. What a schema that fits its record reads, it writes so
that it reads the same again: every component finds its own part of the written form under its name,
since the names differ.
-/

namespace EventTickets

/-- A component of a record: its part of the written form, all of it under the name of the
component, and how it is read from all parts. -/
structure Component (α : Type) where
  name : String
  write : α → Meta
  read : Components → Option α
  /-- How deep the value nests that is taken if there is none. -/
  layers : Nat
  named : ∀ a, ((write a).map (·.1)).Sublist [name]
  /-- The part alone decides what is read, and gives a value back that was read before. -/
  rereads : ∀ {f : Json → Json} {Kept : Json → Prop}, Rearrangement f Kept →
    ∀ {c : Components} {a : α},
    (∀ p ∈ c.fields, Kept p.2) → read c = some a → ∀ {fields : Meta},
    fields.lookup name = ((write a).lookup name).map f → read ⟨fields, false⟩ = some a
  fits : ∀ {depth : Nat} {c : Components} {a : α}, (∀ p ∈ c.fields, p.2.Fits depth) →
    layers ≤ depth → read c = some a → ∀ p ∈ write a, p.2.Fits depth

/-- What a value needs to stand for an absent component: it is read from its own written form. -/
structure IsDefault {α : Type} [Encode α] [Decode α] (absent : α) (layers : Nat) : Prop where
  rereads : ∀ {f : Json → Json} {Kept : Json → Prop}, Rearrangement f Kept →
    decode? (f (encode absent)) = some absent
  fits : ∀ {depth : Nat}, layers ≤ depth → (encode absent).Fits depth

section

variable {α : Type} [Encode α] [Decode α]

theorem isDefault_none : IsDefault (none : Option α) 0 where
  rereads {f _} hf := by
    change decode? (α := Option α) (f .null) = _
    rw [hf.flat (j := .null) trivial]
    rfl
  fits _ := trivial

theorem isDefault_empty : IsDefault "" 0 where
  rereads {f _} hf := by
    rw [hf.flat (FlatForm.flat "")]
    rfl
  fits _ := trivial

theorem isDefault_nil : IsDefault ([] : List α) 2 where
  rereads {f _} hf := by
    change decode? (α := List α) (f (.arr [])) = _
    rw [hf.arr]
    rfl
  fits h := ⟨h, trivial⟩

theorem isDefault_noFields : IsDefault ([] : Meta) 2 where
  rereads {f _} hf := by
    obtain ⟨fields, hobj, hlookup⟩ :=
      hf.obj (show (([] : Meta).map (·.1)).Nodup from List.nodup_nil)
    have hnone : fields = [] := by
      cases fields with
      | nil => rfl
      | cons p fields =>
        have hp := hlookup p.1
        rw [Json.lookup_cons, if_pos rfl] at hp
        cases hp
    change decode? (α := Meta) (f (.obj [])) = _
    rw [hobj, hnone]
    rfl
  fits h := ⟨h, trivial⟩

end

namespace Component

theorem lookup_singleton (name : String) (j : Json) : [(name, j)].lookup name = some j := by simp

theorem withDefault_of_optional {α : Type} [Decode α] {c : Components}
    {name : String} {a : Option α} (h : c.optional name = some a) :
    c.withDefault name none = some a := by
  rw [Components.optional] at h
  rw [Components.withDefault]
  split at h
  · exact h
  · split at h
    · cases h
    · exact h

variable {α : Type} [Encode α] [Decode α] [TwoWay α] [Bounded α]

def required (name : String) : Component α where
  name := name
  write a := [(name, encode a)]
  read c := c.required name
  layers := 0
  named _ := List.Sublist.refl _
  rereads {f _} hf {c a} hc h {fields} hfields := by
    obtain ⟨j, hj, h⟩ := Option.bind_eq_some_iff.mp h
    rw [Components.required, hfields, lookup_singleton]
    exact TwoWay.rereads hf (hc _ (Json.mem_of_lookup_eq_some hj)) h
  fits {depth c a} hc _ h := by
    obtain ⟨j, hj, h⟩ := Option.bind_eq_some_iff.mp h
    exact List.forall_mem_singleton.mpr (Bounded.fits (hc _ (Json.mem_of_lookup_eq_some hj)) h)

def absentAs (name : String) (absent : α) (layers : Nat) (habsent : IsDefault absent layers)
    (read : Components → Option α)
    (hread : ∀ {c a}, read c = some a → c.withDefault name absent = some a)
    (hagain : ∀ fields, read ⟨fields, false⟩ = Components.withDefault ⟨fields, false⟩ name absent)
    (write : α → Meta) (hwrite : ∀ a, write a = [(name, encode a)] ∨ write a = [] ∧ a = absent) :
    Component α where
  name := name
  write := write
  read := read
  layers := layers
  named a := by
    rcases hwrite a with h | ⟨h, -⟩
    · rw [h]
      exact List.Sublist.refl _
    · rw [h]
      exact List.nil_sublist _
  rereads {f _} hf {c a} hc h {fields} hfields := by
    rw [hagain, Components.withDefault, hfields]
    rcases hwrite a with hone | ⟨hnone, rfl⟩
    · rw [hone, lookup_singleton, Option.map_some]
      have h := hread h
      rw [Components.withDefault] at h
      split at h
      · next hj => exact TwoWay.rereads hf (hc _ (Json.mem_of_lookup_eq_some hj)) h
      · rw [← Option.some.inj h]
        exact habsent.rereads hf
    · rw [hnone]
      rfl
  fits {depth c a} hc hdepth h := by
    rcases hwrite a with hone | ⟨hnone, -⟩
    · rw [hone]
      refine List.forall_mem_singleton.mpr ?_
      have h := hread h
      rw [Components.withDefault] at h
      split at h
      · next hj => exact Bounded.fits (hc _ (Json.mem_of_lookup_eq_some hj)) h
      · rw [← Option.some.inj h]
        exact habsent.fits hdepth
    · rw [hnone]
      exact fun p hp => (List.not_mem_nil hp).elim

def defaulted (name : String) (absent : α) {layers : Nat} (habsent : IsDefault absent layers) :
    Component α :=
  absentAs name absent layers habsent (·.withDefault name absent) id (fun _ => rfl)
    (fun a => [(name, encode a)])
    fun _ => .inl rfl

def optional [NullFree α] (name : String) : Component (Option α) :=
  absentAs name none 0 isDefault_none (·.optional name) withDefault_of_optional (fun _ => rfl)
    (fun a => [(name, encode a)]) fun _ => .inl rfl

def present [NullFree α] (name : String) : Component (Option α) :=
  absentAs name none 0 isDefault_none (·.withDefault name none) id (fun _ => rfl)
    (encodePresent name) fun
    | some _ => .inl rfl
    | none => .inr ⟨rfl, rfl⟩

def nonEmpty (name : String) : Component String :=
  absentAs name "" 0 isDefault_empty (·.withDefault name "") id (fun _ => rfl)
    (encodeNonEmpty name) fun a => by
    rw [encodeNonEmpty]
    split
    · next hempty => exact .inr ⟨rfl, String.isEmpty_iff.mp hempty⟩
    · exact .inl rfl

end Component

inductive Schema (R : Type) : Type 1 where
  | done (record : R)
  | next {α : Type} (component : Component α) (of : R → α) (rest : α → Schema R)

namespace Schema

variable {R : Type}

def read : Schema R → Components → Option R
  | done record, _ => some record
  | next component _ rest, c => (component.read c).bind fun a => (rest a).read c

def write : Schema R → R → Meta
  | done _, _ => []
  | next component of rest, r => component.write (of r) ++ (rest (of r)).write r

def names : Schema R → R → List String
  | done _, _ => []
  | next component of rest, r => component.name :: (rest (of r)).names r

def layers : Schema R → R → Nat
  | done _, _ => 0
  | next component of rest, r => max component.layers ((rest (of r)).layers r)

/-- Whether the record at the end has the components that lead to it, and `P` besides. -/
def Agrees : (R → Prop) → Schema R → Prop
  | P, done r => P r
  | P, next _ of rest => ∀ a, (rest a).Agrees fun r => P r ∧ of r = a

def Found (fields : Meta) : Schema R → R → Prop
  | done _, _ => True
  | next component of rest, r =>
    fields.lookup component.name = (component.write (of r)).lookup component.name ∧
      (rest (of r)).Found fields r

variable {S : Schema R} {P : R → Prop} {c : Components} {r : R}

theorem Agrees.of_read (hS : S.Agrees P) (h : S.read c = some r) : P r := by
  induction S generalizing P with
  | done record =>
    cases h
    exact hS
  | next component of rest ih =>
    obtain ⟨a, -, h⟩ := Option.bind_eq_some_iff.mp h
    exact (ih a (hS a) h).1

theorem Agrees.rereads (hS : S.Agrees P) {f : Json → Json} {Kept : Json → Prop}
    (hf : Rearrangement f Kept) (hc : ∀ p ∈ c.fields, Kept p.2) (h : S.read c = some r)
    {fields fields' : Meta} (hfields : S.Found fields r)
    (hlookup : ∀ s, fields'.lookup s = (fields.lookup s).map f) :
    S.read ⟨fields', false⟩ = some r := by
  induction S generalizing P with
  | done record => exact h
  | next component of rest ih =>
    obtain ⟨a, ha, h⟩ := Option.bind_eq_some_iff.mp h
    obtain ⟨-, rfl⟩ := (hS a).of_read h
    obtain ⟨hfound, hrest⟩ := hfields
    have hown : fields'.lookup component.name =
        ((component.write (of r)).lookup component.name).map f := by
      rw [hlookup, hfound]
    exact Option.bind_eq_some_iff.mpr ⟨of r, component.rereads hf hc ha hown, ih _ (hS _) h hrest⟩

theorem Agrees.fits (hS : S.Agrees P) {depth : Nat} (hc : ∀ p ∈ c.fields, p.2.Fits depth)
    (h : S.read c = some r) (hdepth : S.layers r ≤ depth) : ∀ p ∈ S.write r, p.2.Fits depth := by
  induction S generalizing P with
  | done record => exact fun p hp => (List.not_mem_nil hp).elim
  | next component of rest ih =>
    obtain ⟨a, ha, h⟩ := Option.bind_eq_some_iff.mp h
    obtain ⟨-, rfl⟩ := (hS a).of_read h
    obtain ⟨hown, hrest⟩ := Nat.max_le.mp hdepth
    exact List.forall_mem_append.mpr ⟨component.fits hc hown ha, ih _ (hS _) h hrest⟩

theorem sublist_names (S : Schema R) (r : R) : ((S.write r).map (·.1)).Sublist (S.names r) := by
  induction S with
  | done record => exact List.Sublist.refl _
  | next component of rest ih =>
    rw [write, List.map_append]
    exact (component.named (of r)).append (ih _)

theorem found_write (hnames : (S.names r).Nodup) {front : Meta}
    (hfront : ∀ p ∈ front, p.1 ∉ S.names r) : S.Found (front ++ S.write r) r := by
  induction S generalizing front with
  | done record => trivial
  | next component of rest ih =>
    obtain ⟨hown, hrest⟩ := List.nodup_cons.mp hnames
    have hbefore : front.lookup component.name = none :=
      Json.lookup_eq_none fun p hp e => hfront p hp (e ▸ List.mem_cons_self)
    have hbehind : ((rest (of r)).write r).lookup component.name = none :=
      Json.lookup_eq_none fun p hp e =>
        hown (e ▸ (sublist_names _ r).subset (List.mem_map_of_mem hp))
    refine ⟨?_, ?_⟩
    · rw [write, List.lookup_append, hbefore, Option.none_or, List.lookup_append,
        hbehind, Option.or_none]
    · rw [write, ← List.append_assoc]
      refine ih _ hrest fun p hp hmem => ?_
      rcases List.mem_append.mp hp with hp | hp
      · exact hfront p hp (List.mem_cons_of_mem _ hmem)
      · have hname := (component.named (of r)).subset (List.mem_map_of_mem hp)
        exact hown (List.mem_singleton.mp hname ▸ hmem)

/-- A schema describes a record if the record is written and read as the schema writes and reads it.
The names of the components are those that the record is taken apart by. -/
structure Describes [Encode R] [Decode R] (S : Schema R) (fieldNames : List String) : Prop where
  encode_eq : ∀ r : R, encode r = .obj (S.write r)
  decode?_eq : ∀ j, decode? j = (Components.of? fieldNames j).bind S.read
  agrees : S.Agrees fun _ => True
  names_eq : ∀ r, S.names r = fieldNames
  nodup : fieldNames.Nodup

theorem forall_mem_of? {Q : Json → Prop} {fieldNames : List String} {j : Json}
    (h : Components.of? fieldNames j = some c) (hitems : ∀ js, j = .arr js → ∀ j ∈ js, Q j)
    (hfields : ∀ fields, j = .obj fields → ∀ p ∈ fields, Q p.2) : ∀ p ∈ c.fields, Q p.2 := by
  cases j with
  | arr js =>
    obtain ⟨-, h⟩ := Option.ite_none_right_eq_some.mp h
    rw [← Option.some.inj h]
    exact fun p hp => hitems js rfl _ (List.of_mem_zip hp).2
  | obj fields =>
    rw [← Option.some.inj h]
    exact hfields fields rfl
  | _ => cases h

theorem fits_components {fieldNames : List String} {depth : Nat} {j : Json} (hj : j.Fits depth)
    (h : Components.of? fieldNames j = some c) :
    1 < depth ∧ ∀ p ∈ c.fields, p.2.Fits (depth - 1) := by
  refine ⟨?_, forall_mem_of? h (fun js e => ?_) fun fields e => ?_⟩
  · cases j with
    | arr js => exact hj.1
    | obj fields => exact hj.1
    | _ => cases h
  · subst e
    exact Json.fitItems_iff.mp hj.2
  · subst e
    exact Json.fitFields_iff.mp hj.2

variable [Encode R] [Decode R] {fieldNames : List String}

theorem Describes.of_decode? (h : S.Describes fieldNames) {j : Json} (hread : decode? j = some r) :
    ∃ c, Components.of? fieldNames j = some c ∧ S.read c = some r :=
  Option.bind_eq_some_iff.mp (h.decode?_eq j ▸ hread)

theorem Describes.twoWay (h : S.Describes fieldNames) : TwoWay R where
  rereads {f _} hf {j r} hj hread := by
    obtain ⟨c, hc, hread⟩ := h.of_decode? hread
    have hnames : (S.names r).Nodup := h.names_eq r ▸ h.nodup
    have hfound : S.Found ([] ++ S.write r) r :=
      found_write hnames fun p hp => (List.not_mem_nil hp).elim
    have hkept := forall_mem_of? hc (fun js e => hf.items (e ▸ hj)) fun fields e =>
      hf.fields (e ▸ hj)
    obtain ⟨fields', hobj, hlookup⟩ := hf.obj ((sublist_names S r).nodup hnames)
    rw [h.encode_eq, hobj, h.decode?_eq]
    exact h.agrees.rereads hf hkept hread hfound hlookup

theorem Describes.fits (h : S.Describes fieldNames) {depth : Nat} {j : Json} (hj : j.Fits depth)
    (hread : decode? j = some r) (hdepth : S.layers r < depth) : (encode r).Fits depth := by
  obtain ⟨c, hc, hread⟩ := h.of_decode? hread
  obtain ⟨hnested, hparts⟩ := fits_components hj hc
  rw [h.encode_eq]
  exact ⟨hnested, Json.fitFields_iff.mpr (h.agrees.fits hparts hread (by omega))⟩

theorem Describes.bounded (h : S.Describes fieldNames) (hlayers : ∀ r, S.layers r = 0) :
    Bounded R where
  fits {depth j r} hj hread := by
    obtain ⟨c, hc, -⟩ := h.of_decode? hread
    have hnested := (fits_components hj hc).1
    exact h.fits hj hread (by rw [hlayers]; omega)

theorem Describes.nullFree (h : S.Describes fieldNames) : NullFree R where
  null := by rw [h.decode?_eq]; rfl

end Schema

end EventTickets
