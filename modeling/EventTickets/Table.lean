import EventTickets.Id

/-!
# Tables

Rows under their keys, at most one per key and in the order of keys.
-/

namespace EventTickets

structure Table (κ ν : Type) [Ranked κ] where
  entries : List (κ × ν)
  ascending : entries.Pairwise fun a b => Ranked.rank a.1 < Ranked.rank b.1

namespace Table

variable {κ ν : Type} [Ranked κ] [DecidableEq κ]

def empty : Table κ ν := ⟨[], .nil⟩

def get? (t : Table κ ν) (k : κ) : Option ν := t.entries.lookup k

def values (t : Table κ ν) : List ν := t.entries.map (·.2)

def size (t : Table κ ν) : Nat := t.entries.length

def insertEntry (k : κ) (v : ν) : List (κ × ν) → List (κ × ν)
  | [] => [(k, v)]
  | (k', v') :: rest =>
    if Ranked.rank k < Ranked.rank k' then (k, v) :: (k', v') :: rest
    else if k = k' then (k, v) :: rest
    else (k', v') :: insertEntry k v rest

omit [DecidableEq κ] in
theorem rank_lt_of_not {k k' : κ} (h : ¬ Ranked.rank k < Ranked.rank k') (hne : k ≠ k') :
    Ranked.rank k' < Ranked.rank k := by
  have : Ranked.rank k ≠ Ranked.rank k' := fun e => hne (Ranked.rank_injective k k' e)
  omega

theorem mem_insertEntry {k : κ} {v : ν} {l : List (κ × ν)} {e : κ × ν} (h : e ∈ insertEntry k v l) :
    e = (k, v) ∨ e ∈ l := by
  induction l with
  | nil => simpa [insertEntry] using h
  | cons a rest ih =>
    rw [insertEntry] at h
    split at h
    · simpa using h
    · split at h
      · rcases List.mem_cons.mp h with h | h
        · exact .inl h
        · exact .inr (List.mem_cons_of_mem _ h)
      · rcases List.mem_cons.mp h with h | h
        · exact .inr (h ▸ List.mem_cons_self)
        · exact (ih h).imp id (List.mem_cons_of_mem _)

theorem insertEntry_ascending (k : κ) (v : ν) {l : List (κ × ν)}
    (h : l.Pairwise fun a b => Ranked.rank a.1 < Ranked.rank b.1) :
    (insertEntry k v l).Pairwise fun a b => Ranked.rank a.1 < Ranked.rank b.1 := by
  induction l with
  | nil => simp [insertEntry]
  | cons a rest ih =>
    obtain ⟨ha, hrest⟩ := List.pairwise_cons.mp h
    rw [insertEntry]
    split
    · next hlt =>
      refine .cons (fun b hb => ?_) h
      rcases List.mem_cons.mp hb with rfl | hb
      · exact hlt
      · exact Int.lt_trans hlt (ha b hb)
    · next hnlt =>
      split
      · next heq =>
        subst heq
        exact .cons ha hrest
      · next hne =>
        refine .cons (fun b hb => ?_) (ih hrest)
        rcases mem_insertEntry hb with rfl | hb
        · exact rank_lt_of_not hnlt hne
        · exact ha b hb

/-- Puts a row under a key, instead of the one that may be there. -/
def insert (t : Table κ ν) (k : κ) (v : ν) : Table κ ν :=
  ⟨insertEntry k v t.entries, insertEntry_ascending k v t.ascending⟩

def modify (t : Table κ ν) (k : κ) (f : ν → ν) : Table κ ν where
  entries := t.entries.map fun e => if e.1 = k then (e.1, f e.2) else e
  ascending := by
    refine List.pairwise_map.mpr (t.ascending.imp fun {a b} h => ?_)
    have key : ∀ e : κ × ν, (if e.1 = k then (e.1, f e.2) else e).1 = e.1 :=
      fun e => by split <;> rfl
    rw [key, key]
    exact h

def erase (t : Table κ ν) (k : κ) : Table κ ν :=
  ⟨t.entries.filter (·.1 ≠ k), t.ascending.filter _⟩

omit [Ranked κ] in
theorem lookup_cons_eq (k : κ) (e : κ × ν) (l : List (κ × ν)) :
    (e :: l).lookup k = if k = e.1 then some e.2 else l.lookup k := by
  obtain ⟨k₀, v₀⟩ := e
  by_cases h : k = k₀
  · subst h
    simp
  · have hb : (k == k₀) = false := by simpa using h
    simp [List.lookup_cons, hb, h]

theorem lookup_insertEntry (k k' : κ) (v : ν) (l : List (κ × ν)) :
    (insertEntry k v l).lookup k' = if k' = k then some v else l.lookup k' := by
  induction l with
  | nil => rw [insertEntry, lookup_cons_eq]
  | cons a rest ih =>
    rw [insertEntry]
    split
    · rw [lookup_cons_eq]
    · split
      · next heq =>
        rw [lookup_cons_eq, lookup_cons_eq]
        by_cases h : k' = k <;> simp [h, ← heq]
      · next hne =>
        rw [lookup_cons_eq, lookup_cons_eq, ih]
        by_cases h : k' = a.1
        · simp [h, Ne.symm hne]
        · simp [h]

theorem lookup_eq_some_iff_mem {l : List (κ × ν)}
    (h : l.Pairwise fun a b => Ranked.rank a.1 < Ranked.rank b.1) {k : κ} {v : ν} :
    l.lookup k = some v ↔ (k, v) ∈ l := by
  induction l with
  | nil => simp
  | cons a rest ih =>
    obtain ⟨ha, hrest⟩ := List.pairwise_cons.mp h
    rw [lookup_cons_eq, List.mem_cons]
    split
    · next heq =>
      have hnot : (k, v) ∉ rest := fun hm => Int.lt_irrefl _ (heq ▸ ha _ hm)
      obtain ⟨k₀, v₀⟩ := a
      simp_all [eq_comm]
    · next hne =>
      rw [ih hrest]
      exact ⟨.inr, fun hm => hm.resolve_left fun e => hne (congrArg Prod.fst e)⟩

theorem get?_eq_some_iff {t : Table κ ν} {k : κ} {v : ν} : t.get? k = some v ↔ (k, v) ∈ t.entries :=
  lookup_eq_some_iff_mem t.ascending

@[simp] theorem get?_insert (t : Table κ ν) (k k' : κ) (v : ν) :
    (t.insert k v).get? k' = if k' = k then some v else t.get? k' :=
  lookup_insertEntry k k' v t.entries

@[simp] theorem get?_modify (t : Table κ ν) (k k' : κ) (f : ν → ν) :
    (t.modify k f).get? k' = if k' = k then (t.get? k').map f else t.get? k' := by
  simp only [get?, modify]
  induction t.entries with
  | nil => simp
  | cons a rest ih =>
    rw [List.map_cons, lookup_cons_eq, lookup_cons_eq, ih]
    by_cases ha : a.1 = k <;> by_cases h : k' = a.1 <;> by_cases hk : k' = k <;> simp_all

@[simp] theorem get?_erase (t : Table κ ν) (k k' : κ) :
    (t.erase k).get? k' = if k' = k then none else t.get? k' := by
  simp only [get?, erase]
  induction t.entries with
  | nil => simp
  | cons a rest ih =>
    rw [List.filter_cons, lookup_cons_eq]
    by_cases ha : a.1 = k
    · rw [if_neg (by simpa using ha), ih]
      by_cases h : k' = k <;> simp [h, ha]
    · rw [if_pos (by simpa using ha), lookup_cons_eq, ih]
      by_cases h : k' = a.1 <;> simp [h, ha]

theorem key_ne_of_get?_eq_none {t : Table κ ν} {k : κ} (h : t.get? k = none) :
    ∀ e ∈ t.entries, e.1 ≠ k := by
  intro e he heq
  have hsome : t.get? k = some e.2 := get?_eq_some_iff.mpr (heq ▸ he)
  rw [h] at hsome
  cases hsome

theorem modify_eq_self {t : Table κ ν} {k : κ} {f : ν → ν} (h : (t.modify k f).get? k = none) :
    t.modify k f = t := by
  rw [get?_modify, if_pos rfl, Option.map_eq_none_iff] at h
  have hsame : t.entries.map (fun e => if e.1 = k then (e.1, f e.2) else e) = t.entries :=
    (List.map_congr_left fun e he => if_neg (key_ne_of_get?_eq_none h e he)).trans (List.map_id' _)
  cases t
  simpa [modify] using hsame

theorem erase_eq_self {t : Table κ ν} {k : κ} (h : t.get? k = none) : t.erase k = t := by
  have hsame : t.entries.filter (·.1 ≠ k) = t.entries :=
    List.filter_eq_self.mpr fun e he => decide_eq_true (key_ne_of_get?_eq_none h e he)
  cases t
  simpa [erase] using hsame

theorem mem_values_iff {t : Table κ ν} {v : ν} : v ∈ t.values ↔ ∃ k, t.get? k = some v := by
  simp [values, get?_eq_some_iff]

end Table

end EventTickets
