import EventTickets.Proofs.Json.TwoWay
import EventTickets.Ticket.Claims

/-!
# Claims are read as they were written

Whatever texts and integers claims are made of, their bytes are read back as the same claims, so
different claims have different bytes.
-/

namespace EventTickets

open JsonSource (split splitFields)

namespace Claims

def IsScalar : Json → Prop
  | .int _ => True
  | .str _ => True
  | _ => False

theorem component?_split {j : Json} (hj : IsScalar j) (hrange : j.InRange) :
    component? (split j) = some j := by
  match j, hj with
  | .str s, _ => rw [split, component?, JsonSource.text?_escaped, Option.map_some]
  | .int n, _ => exact Json.integer?_int hrange

theorem knownMembers?_splitFields {fields : List (String × Json)}
    (h : ∀ f ∈ fields, f.1 ∈ fieldNames) :
    knownMembers? (splitFields fields) = some (fields.map fun f => (f.1, split f.2)) := by
  induction fields with
  | nil => rfl
  | cons field rest ih =>
    obtain ⟨hfield, hrest⟩ := List.forall_mem_cons.mp h
    have hknown : fieldNames.contains field.1 = true := List.contains_iff_mem.mpr hfield
    rw [splitFields, knownMembers?, JsonSource.text?_escaped, ih hrest]
    simp only [Option.bind_eq_bind, Option.bind_some, Option.pure_def, hknown,
      if_true, List.map_cons]

theorem wholeFields_of_isScalar {fields : List (String × Json)} (h : ∀ f ∈ fields, IsScalar f.2) :
    Json.WholeFields fields := by
  induction fields with
  | nil => trivial
  | cons field rest ih =>
    obtain ⟨hfield, hrest⟩ := List.forall_mem_cons.mp h
    refine ⟨?_, ih hrest⟩
    obtain ⟨name, j⟩ := field
    cases j with
    | int n => trivial
    | str s => trivial
    | _ => exact hfield.elim

theorem mapM_component? {fields : List (String × Json)} (hscalar : ∀ f ∈ fields, IsScalar f.2)
    (hrange : ∀ f ∈ fields, f.2.InRange) :
    (fields.map fun f => (f.1, split f.2)).mapM (fun m => (component? m.2).map (m.1, ·)) =
      some fields := by
  induction fields with
  | nil => rfl
  | cons field rest ih =>
    obtain ⟨hfield, hrest⟩ := List.forall_mem_cons.mp hscalar
    obtain ⟨hfieldRange, hrestRange⟩ := List.forall_mem_cons.mp hrange
    rw [List.map_cons, List.mapM_cons, component?_split hfield hfieldRange, ih hrest hrestRange]
    rfl

variable (claims : Claims)

def fields : List (String × Json) := [
  ("ticketId", encode claims.ticketId),
  ("eventId", encode claims.eventId),
  ("userId", encode claims.userId),
  ("ticketType", encode claims.ticketType),
  ("quantity", encode claims.quantity),
  ("nonce", encode claims.nonce),
  ("issuedAt", encode claims.issuedAt)]

theorem bytes_eq : claims.bytes = JsonSource.bytesOf (.obj claims.fields) := Text.toUTF8_toList _

theorem isScalar_fields : ∀ f ∈ claims.fields, IsScalar f.2 := by
  simp only [fields, List.forall_mem_cons]
  exact ⟨trivial, trivial, trivial, trivial, trivial, trivial, trivial,
    fun f hf => (List.not_mem_nil hf).elim⟩

theorem inRange_fields : ∀ f ∈ claims.fields, f.2.InRange := by
  simp only [fields, List.forall_mem_cons]
  exact ⟨trivial, inRange_int64 _, inRange_int64 _, trivial, inRange_int64 _,
    trivial, inRange_int64 _, fun f hf => (List.not_mem_nil hf).elim⟩

theorem decode?_string (s : String) : decode? (encode s) = some s := rfl

theorem decode?_fields : decode? (Json.obj claims.fields) = some claims := by
  have hof : Components.of? fieldNames (.obj claims.fields) = some ⟨claims.fields, false⟩ := rfl
  change (Components.of? fieldNames (.obj claims.fields)).bind _ = _
  rw [hof, Option.bind_some]
  simp [Components.required, fields, List.lookup_cons, decode?_int64, decode?_string]

theorem ofBytes?_bytes : ofBytes? claims.bytes = some claims := by
  have hwhole : (Json.obj claims.fields).Whole := wholeFields_of_isScalar claims.isScalar_fields
  have hnames : claims.fields.map (·.1) = fieldNames := rfl
  have hknown : ∀ f ∈ claims.fields, f.1 ∈ fieldNames := fun f hf => hnames ▸ List.mem_map_of_mem hf
  have hdistinct : (claims.fields.map (·.1)).Nodup := by
    rw [hnames]
    decide
  rw [ofBytes?, bytes_eq, JsonSource.read_bytesOf hwhole, Option.bind_some, split, ofSource?,
    knownMembers?_splitFields hknown, Option.bind_some, ofMembers?,
    mapM_component? claims.isScalar_fields claims.inRange_fields]
  simp only [Option.bind_eq_bind, Option.bind_some]
  rw [if_pos hdistinct, decode?_fields]

end Claims

end EventTickets
