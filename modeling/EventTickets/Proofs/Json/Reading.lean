import EventTickets.Json.Reader
import EventTickets.Proofs.Json.Fields
import EventTickets.Proofs.Json.Values

/-!
# Values and their texts

A value without decimals is read from its written form with its fields in the order of their names,
if its integers are of 64 bits and it nests less deep than a text may. Whatever was read is like
that, and has its fields in that order already.
-/

namespace EventTickets

namespace Json

open JsonSource (split splitItems splitFields escaped bytesOf)

def InRange : Json → Prop
  | .int n => -0x8000000000000000 ≤ n ∧ n ≤ 0xFFFFFFFFFFFFFFFF
  | _ => True

mutual

def Fits : Nat → Json → Prop
  | _, .null => True
  | _, .bool _ => True
  | _, .int n => (Json.int n).InRange
  | _, .decimal _ => True
  | _, .str _ => True
  | depth, .arr js => 1 < depth ∧ FitItems (depth - 1) js
  | depth, .obj fields => 1 < depth ∧ FitFields (depth - 1) fields

def FitItems : Nat → List Json → Prop
  | _, [] => True
  | depth, j :: js => j.Fits depth ∧ FitItems depth js

def FitFields : Nat → List (String × Json) → Prop
  | _, [] => True
  | depth, (_, j) :: fields => j.Fits depth ∧ FitFields depth fields

end

theorem fitItems_iff {depth : Nat} {js : List Json} :
    FitItems depth js ↔ ∀ j ∈ js, j.Fits depth := by
  induction js with
  | nil => simp [FitItems]
  | cons j js ih => rw [FitItems, ih, List.forall_mem_cons]

theorem fitFields_iff {depth : Nat} {fields : List (String × Json)} :
    FitFields depth fields ↔ ∀ p ∈ fields, p.2.Fits depth := by
  induction fields with
  | nil => simp [FitFields]
  | cons p fields ih => rw [FitFields, ih, List.forall_mem_cons]

mutual

/-- The value with its fields in the order of their names; of fields with one name the last
counts. -/
def sorted : Json → Json
  | .arr js => .arr (sortedItems js)
  | .obj fields => .obj (insertAll (sortedFields fields) [])
  | .null => .null
  | .bool b => .bool b
  | .int n => .int n
  | .decimal text => .decimal text
  | .str s => .str s

def sortedItems : List Json → List Json
  | [] => []
  | j :: js => j.sorted :: sortedItems js

def sortedFields : List (String × Json) → List (String × Json)
  | [] => []
  | (name, j) :: fields => (name, j.sorted) :: sortedFields fields

end

theorem sortedItems_eq (js : List Json) : sortedItems js = js.map sorted := by
  induction js with
  | nil => rfl
  | cons j js ih => rw [sortedItems, ih, List.map_cons]

theorem sortedFields_eq (fields : List (String × Json)) :
    sortedFields fields = fields.map fun p => (p.1, p.2.sorted) := by
  induction fields with
  | nil => rfl
  | cons p fields ih => rw [sortedFields, ih, List.map_cons]

theorem integer?_int {n : Int} (h : (Json.int n).InRange) :
    integer? (decide (n < 0)) n.natAbs = some (.int n) := by
  obtain ⟨hlow, hhigh⟩ := h
  rw [integer?]
  by_cases hneg : n < 0
  · rw [decide_eq_true hneg, if_pos rfl, if_neg (by omega)]
    congr 2
    omega
  · rw [decide_eq_false hneg, if_neg Bool.false_ne_true, if_pos (by omega)]
    congr 2
    omega

mutual

theorem ofSource?_split (j : Json) (hj : j.Whole) {depth : Nat} (hfits : j.Fits depth) :
    ofSource? depth (split j) = some j.sorted := by
  cases j with
  | null => rfl
  | bool b => rfl
  | int n => exact integer?_int hfits
  | decimal text => exact hj.elim
  | str s => exact congrArg (Option.map Json.str) (JsonSource.text?_escaped s)
  | arr js =>
    obtain ⟨hdepth, hitems⟩ := hfits
    rw [split, ofSource?, if_neg (by omega), ofSources?_splitItems js hj hitems,
      Option.map_some, sorted]
  | obj fields =>
    obtain ⟨hdepth, hfields⟩ := hfits
    rw [split, ofSource?, if_neg (by omega), ofMembers?_splitFields fields hj hfields,
      Option.map_some, sorted]

theorem ofSources?_splitItems (js : List Json) (hjs : WholeItems js) {depth : Nat}
    (hfits : FitItems depth js) : ofSources? depth (splitItems js) = some (sortedItems js) := by
  cases js with
  | nil => rfl
  | cons j js =>
    rw [splitItems, ofSources?, ofSource?_split j hjs.1 hfits.1,
      ofSources?_splitItems js hjs.2 hfits.2, sortedItems]
    rfl

theorem ofMembers?_splitFields (fields : List (String × Json))
    (hj : WholeFields fields) {depth : Nat} (hfits : FitFields depth fields) (read : Meta) :
    ofMembers? depth read (splitFields fields) = some (insertAll (sortedFields fields) read) := by
  cases fields with
  | nil => rfl
  | cons p fields =>
    obtain ⟨name, j⟩ := p
    rw [splitFields, ofMembers?, JsonSource.text?_escaped, ofSource?_split j hj.1 hfits.1]
    exact ofMembers?_splitFields fields hj.2 hfits.2 _

end

theorem parse?_compact {j : Json} (hj : j.Whole) (hfits : j.Fits 128) :
    parse? j.compact = some j.sorted := by
  rw [parse?, Text.toUTF8_toList]
  change (JsonSource.read (bytesOf j)).bind _ = _
  rw [JsonSource.read_bytesOf hj, Option.bind_some, ofSource?_split j hj hfits]

mutual

def Canonical : Json → Prop
  | .arr js => CanonicalItems js
  | .obj fields => Ordered fields ∧ CanonicalFields fields
  | .null => True
  | .bool _ => True
  | .int _ => True
  | .decimal _ => True
  | .str _ => True

def CanonicalItems : List Json → Prop
  | [] => True
  | j :: js => j.Canonical ∧ CanonicalItems js

def CanonicalFields : List (String × Json) → Prop
  | [] => True
  | (_, j) :: fields => j.Canonical ∧ CanonicalFields fields

end

theorem canonicalItems_iff {js : List Json} : CanonicalItems js ↔ ∀ j ∈ js, j.Canonical := by
  induction js with
  | nil => simp [CanonicalItems]
  | cons j js ih => rw [CanonicalItems, ih, List.forall_mem_cons]

theorem canonicalFields_iff {fields : List (String × Json)} :
    CanonicalFields fields ↔ ∀ p ∈ fields, p.2.Canonical := by
  induction fields with
  | nil => simp [CanonicalFields]
  | cons p fields ih => rw [CanonicalFields, ih, List.forall_mem_cons]

mutual

theorem Canonical.sorted_eq (j : Json) (h : j.Canonical) : j.sorted = j := by
  cases j with
  | null => rfl
  | bool b => rfl
  | int n => rfl
  | decimal text => rfl
  | str s => rfl
  | arr js => rw [sorted, CanonicalItems.sorted_eq js h]
  | obj fields =>
    obtain ⟨hordered, hfields⟩ := h
    have hall : Ordered ([] ++ fields) := hordered
    rw [sorted, CanonicalFields.sorted_eq fields hfields, insertAll_eq_append hall, List.nil_append]

theorem CanonicalItems.sorted_eq (js : List Json) (h : CanonicalItems js) :
    sortedItems js = js := by
  cases js with
  | nil => rfl
  | cons j js => rw [sortedItems, Canonical.sorted_eq j h.1, CanonicalItems.sorted_eq js h.2]

theorem CanonicalFields.sorted_eq (fields : List (String × Json)) (h : CanonicalFields fields) :
    sortedFields fields = fields := by
  cases fields with
  | nil => rfl
  | cons p fields =>
    obtain ⟨name, j⟩ := p
    rw [sortedFields, Canonical.sorted_eq j h.1, CanonicalFields.sorted_eq fields h.2]

end

theorem of_decimal? {bytes : Bytes} {j : Json} (h : decimal? bytes = some j) :
    ∃ text, j = .decimal text := by
  rw [decimal?] at h
  split at h
  · obtain ⟨text, -, e⟩ := Option.map_eq_some_iff.mp h
    exact ⟨text, e.symm⟩
  · cases h

theorem of_integer? {negative : Bool} {magnitude : Nat} {j : Json}
    (h : integer? negative magnitude = some j) :
    (∃ n, j = .int n ∧ (Json.int n).InRange) ∨ ∃ text, j = .decimal text := by
  rw [integer?] at h
  split at h
  · split at h
    · exact .inr (of_decimal? h)
    · next hfit =>
      refine .inl ⟨_, (Option.some.inj h).symm, ?_⟩
      rw [InRange]
      omega
  · split at h
    · next hfit =>
      refine .inl ⟨_, (Option.some.inj h).symm, ?_⟩
      rw [InRange]
      omega
    · exact .inr (of_decimal? h)

mutual

theorem of_ofSource? (source : JsonSource) {depth : Nat} {j : Json}
    (h : ofSource? depth source = some j) : j.Fits depth ∧ j.Canonical := by
  cases source with
  | null =>
    cases h
    exact ⟨trivial, trivial⟩
  | bool b =>
    cases h
    exact ⟨trivial, trivial⟩
  | integer negative magnitude =>
    rw [ofSource?] at h
    rcases of_integer? h with ⟨n, rfl, hn⟩ | ⟨text, rfl⟩
    · exact ⟨hn, trivial⟩
    · exact ⟨trivial, trivial⟩
  | decimal bytes =>
    rw [ofSource?] at h
    obtain ⟨text, rfl⟩ := of_decimal? h
    exact ⟨trivial, trivial⟩
  | str content =>
    obtain ⟨s, -, rfl⟩ := Option.map_eq_some_iff.mp h
    exact ⟨trivial, trivial⟩
  | arr sources =>
    rw [ofSource?] at h
    split at h
    · cases h
    · next hdepth =>
      obtain ⟨js, hjs, rfl⟩ := Option.map_eq_some_iff.mp h
      obtain ⟨hfit, hcanonical⟩ := of_ofSources? sources hjs
      exact ⟨⟨Nat.not_le.mp hdepth, hfit⟩, hcanonical⟩
  | obj members =>
    rw [ofSource?] at h
    split at h
    · cases h
    · next hdepth =>
      obtain ⟨fields, hfields, rfl⟩ := Option.map_eq_some_iff.mp h
      obtain ⟨hfit, hcanonical⟩ := of_ofMembers? members hfields
        ⟨trivial, List.Pairwise.nil, trivial⟩
      exact ⟨⟨Nat.not_le.mp hdepth, hfit⟩, hcanonical⟩

theorem of_ofSources? (sources : List JsonSource) {depth : Nat} {js : List Json}
    (h : ofSources? depth sources = some js) : FitItems depth js ∧ CanonicalItems js := by
  cases sources with
  | nil =>
    cases h
    exact ⟨trivial, trivial⟩
  | cons source sources =>
    obtain ⟨j, hj, h⟩ := Option.bind_eq_some_iff.mp h
    obtain ⟨js', hjs, h⟩ := Option.bind_eq_some_iff.mp h
    cases h
    obtain ⟨hfit, hcanonical⟩ := of_ofSource? source hj
    obtain ⟨hfits, hcanonicals⟩ := of_ofSources? sources hjs
    exact ⟨⟨hfit, hfits⟩, hcanonical, hcanonicals⟩

theorem of_ofMembers? (members : List (Bytes × JsonSource)) {depth : Nat} {read fields : Meta}
    (h : ofMembers? depth read members = some fields)
    (hread : FitFields depth read ∧ Ordered read ∧ CanonicalFields read) :
    FitFields depth fields ∧ Ordered fields ∧ CanonicalFields fields := by
  cases members with
  | nil =>
    cases h
    exact hread
  | cons member members =>
    obtain ⟨name, source⟩ := member
    obtain ⟨name, -, h⟩ := Option.bind_eq_some_iff.mp h
    obtain ⟨j, hj, h⟩ := Option.bind_eq_some_iff.mp h
    obtain ⟨hfit, hcanonical⟩ := of_ofSource? source hj
    obtain ⟨hfits, hordered, hcanonicals⟩ := hread
    refine of_ofMembers? members h ⟨fitFields_iff.mpr fun p hp => ?_, ordered_insertField hordered,
      canonicalFields_iff.mpr fun p hp => ?_⟩
    · rcases mem_insertField hp with rfl | hp
      · exact hfit
      · exact fitFields_iff.mp hfits p hp
    · rcases mem_insertField hp with rfl | hp
      · exact hcanonical
      · exact canonicalFields_iff.mp hcanonicals p hp

end

/-- What was read from a text keeps within the limits of reading and has its fields in order. -/
theorem of_parse? {text : String} {j : Json} (h : parse? text = some j) :
    j.Fits 128 ∧ j.Canonical := by
  obtain ⟨source, -, h⟩ := Option.bind_eq_some_iff.mp h
  exact of_ofSource? source h

end Json

end EventTickets
