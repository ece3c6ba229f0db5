import EventTickets.Json.Value

/-!
# Fields of objects

Fields are kept in the order of their names, each name once. Whether they are put there one by one
or stand in some other order, under a name there is the same value.
-/

namespace EventTickets

namespace Json

theorem lookup_cons (name : String) (j : Json) (fields : Meta) (s : String) :
    ((name, j) :: fields).lookup s = if s = name then some j else fields.lookup s := by
  rw [List.lookup_cons]
  by_cases h : s = name
  · rw [if_pos h, beq_iff_eq.mpr h]
  · rw [if_neg h, beq_eq_false_iff_ne.mpr h]

theorem lookup_map (g : Json → Json) (fields : Meta) (s : String) :
    (fields.map fun p => (p.1, g p.2)).lookup s = (fields.lookup s).map g := by
  induction fields with
  | nil => rfl
  | cons p fields ih =>
    rw [List.map_cons, lookup_cons, ih, lookup_cons]
    split <;> rfl

theorem lookup_eq_none {fields : Meta} {s : String} (h : ∀ p ∈ fields, p.1 ≠ s) :
    fields.lookup s = none := by
  rw [List.lookup_eq_none_iff]
  exact fun p hp => bne_iff_ne.mpr (h p hp).symm

theorem mem_of_lookup_eq_some {fields : Meta} {s : String} {j : Json}
    (h : fields.lookup s = some j) : (s, j) ∈ fields := by
  obtain ⟨before, after, rfl, -⟩ := List.lookup_eq_some_iff.mp h
  exact List.mem_append_right before List.mem_cons_self

theorem exists_lookup_of_mem {fields : Meta} {p : String × Json} (h : p ∈ fields) :
    ∃ j, fields.lookup p.1 = some j := by
  cases hlookup : fields.lookup p.1 with
  | some j => exact ⟨j, rfl⟩
  | none => exact absurd rfl (bne_iff_ne.mp (List.lookup_eq_none_iff.mp hlookup p h))

theorem lookup_insertField (name : String) (j : Json) (fields : Meta) (s : String) :
    (insertField name j fields).lookup s = if s = name then some j else fields.lookup s := by
  induction fields with
  | nil => exact lookup_cons name j [] s
  | cons p fields ih =>
    obtain ⟨name', j'⟩ := p
    rw [insertField]
    split
    · exact lookup_cons name j _ s
    · split
      · next he =>
        rw [lookup_cons, lookup_cons, he]
        split <;> rfl
      · next hne =>
        rw [lookup_cons, lookup_cons, ih]
        by_cases h : s = name'
        · rw [if_pos h, if_neg (fun e => hne (e.symm.trans h)), if_pos h]
        · rw [if_neg h, if_neg h]

theorem mem_insertField {name : String} {j : Json} {fields : Meta} {p : String × Json}
    (h : p ∈ insertField name j fields) : p = (name, j) ∨ p ∈ fields := by
  induction fields with
  | nil => exact .inl (List.mem_singleton.mp h)
  | cons q fields ih =>
    rw [insertField] at h
    split at h
    · exact List.mem_cons.mp h
    · split at h
      · exact (List.mem_cons.mp h).imp_right (List.mem_cons_of_mem _)
      · rcases List.mem_cons.mp h with h | h
        · exact .inr (h ▸ List.mem_cons_self)
        · exact (ih h).imp_right (List.mem_cons_of_mem _)

def Ordered (fields : Meta) : Prop := (fields.map (·.1)).Pairwise (· < ·)

theorem ordered_cons_iff {p : String × Json} {fields : Meta} :
    Ordered (p :: fields) ↔ (∀ q ∈ fields, p.1 < q.1) ∧ Ordered fields := by
  rw [Ordered, List.map_cons, List.pairwise_cons, List.forall_mem_map]
  rfl

theorem ordered_insertField {name : String} {j : Json} {fields : Meta} (h : Ordered fields) :
    Ordered (insertField name j fields) := by
  induction fields with
  | nil => exact List.pairwise_singleton _ _
  | cons p fields ih =>
    obtain ⟨hp, hfields⟩ := ordered_cons_iff.mp h
    rw [insertField]
    split
    · next hlt =>
      refine ordered_cons_iff.mpr ⟨List.forall_mem_cons.mpr
        ⟨hlt, fun q hq => String.lt_trans hlt (hp q hq)⟩, h⟩
    · next hnot =>
      split
      · next he => exact ordered_cons_iff.mpr ⟨fun q hq => he ▸ hp q hq, hfields⟩
      · next hne =>
        have hlt : p.1 < name := Std.lt_of_le_of_ne (String.not_lt.mp hnot) (Ne.symm hne)
        refine ordered_cons_iff.mpr ⟨fun q hq => ?_, ih hfields⟩
        rcases mem_insertField hq with rfl | hq
        · exact hlt
        · exact hp q hq

def insertAll (fields read : Meta) : Meta :=
  fields.foldl (fun read p => insertField p.1 p.2 read) read

theorem lookup_insertAll {fields : Meta} (h : (fields.map (·.1)).Nodup) (read : Meta) (s : String) :
    (insertAll fields read).lookup s = (fields.lookup s).or (read.lookup s) := by
  induction fields generalizing read with
  | nil => rfl
  | cons p fields ih =>
    obtain ⟨name, j⟩ := p
    obtain ⟨hname, hfields⟩ := List.nodup_cons.mp h
    rw [insertAll, List.foldl_cons]
    change (insertAll fields (insertField name j read)).lookup s = _
    rw [ih hfields, lookup_insertField, lookup_cons]
    by_cases he : s = name
    · have hnone : fields.lookup s = none :=
        lookup_eq_none fun q hq e => hname (List.mem_map.mpr ⟨q, hq, e.trans he⟩)
      rw [if_pos he, if_pos he, hnone]
      rfl
    · rw [if_neg he, if_neg he]

theorem insertField_eq_append {name : String} {j : Json} {fields : Meta}
    (h : ∀ p ∈ fields, p.1 < name) : insertField name j fields = fields ++ [(name, j)] := by
  induction fields with
  | nil => rfl
  | cons p fields ih =>
    obtain ⟨hp, hfields⟩ := List.forall_mem_cons.mp h
    have hne : name ≠ p.1 := fun e => String.lt_irrefl name (by rw [← e] at hp; exact hp)
    rw [insertField, if_neg (String.lt_asymm hp), if_neg hne, ih hfields, List.cons_append]

theorem insertAll_eq_append {fields read : Meta} (h : Ordered (read ++ fields)) :
    insertAll fields read = read ++ fields := by
  induction fields generalizing read with
  | nil => exact (List.append_nil read).symm
  | cons p fields ih =>
    have hread : ∀ q ∈ read, q.1 < p.1 := fun q hq => by
      rw [Ordered, List.map_append, List.pairwise_append] at h
      exact h.2.2 _ (List.mem_map_of_mem hq) _ List.mem_cons_self
    rw [← List.singleton_append, ← List.append_assoc] at h
    rw [insertAll, List.foldl_cons, insertField_eq_append hread]
    change insertAll fields (read ++ [p]) = _
    rw [ih h, List.append_assoc, List.singleton_append]

end Json

end EventTickets
