import EventTickets.Proofs.Json.Numbers
import EventTickets.Proofs.Json.Strings

/-!
# Values in JSON texts

A value without decimals is split along its written form into the same parts, each name and text
still with its escapes. The reader makes two calls per byte at most: one for a value and one for its
place in a list.
-/

namespace EventTickets

open Text (utf8Bytes)

namespace Json

mutual

def Whole : Json → Prop
  | .null => True
  | .bool _ => True
  | .int _ => True
  | .decimal _ => False
  | .str _ => True
  | .arr js => WholeItems js
  | .obj fields => WholeFields fields

def WholeItems : List Json → Prop
  | [] => True
  | j :: js => j.Whole ∧ WholeItems js

def WholeFields : List (String × Json) → Prop
  | [] => True
  | (_, j) :: fields => j.Whole ∧ WholeFields fields

end

end Json

namespace JsonSource

mutual

def split : Json → JsonSource
  | .null => .null
  | .bool b => .bool b
  | .int n => .integer (decide (n < 0)) n.natAbs
  | .decimal text => .decimal (utf8Bytes text.toList)
  | .str s => .str (escaped s.toList)
  | .arr js => .arr (splitItems js)
  | .obj fields => .obj (splitFields fields)

def splitItems : List Json → List JsonSource
  | [] => []
  | j :: js => split j :: splitItems js

def splitFields : List (String × Json) → List (Bytes × JsonSource)
  | [] => []
  | (name, j) :: fields => (escaped name.toList, split j) :: splitFields fields

end

def bytesOf (j : Json) : Bytes := utf8Bytes j.compact.toList

def itemBytes (js : List Json) : Bytes := utf8Bytes (",".intercalate (Json.compactItems js)).toList

def fieldBytes (fields : List (String × Json)) : Bytes :=
  utf8Bytes (",".intercalate (Json.compactFields fields)).toList

theorem itemBytes_singleton (j : Json) : itemBytes [j] = bytesOf j :=
  congrArg (fun s : String => utf8Bytes s.toList) String.intercalate_singleton

theorem utf8Bytes_comma (a b : String) :
    utf8Bytes (a ++ "," ++ b).toList = utf8Bytes a.toList ++ 0x2C :: utf8Bytes b.toList := by
  have hcomma : utf8Bytes ",".toList = [0x2C] := rfl
  rw [String.toList_append, String.toList_append, Text.utf8Bytes_append,
    Text.utf8Bytes_append, hcomma, List.append_assoc, List.singleton_append]

theorem itemBytes_cons_cons (j j' : Json) (js : List Json) :
    itemBytes (j :: j' :: js) = bytesOf j ++ 0x2C :: itemBytes (j' :: js) := by
  rw [itemBytes, Json.compactItems, Json.compactItems,
    String.intercalate_cons_cons, utf8Bytes_comma]
  rfl

def nameBytes (name : String) : Bytes := 0x22 :: (escaped name.toList ++ [0x22, 0x3A])

theorem fieldBytes_singleton (name : String) (j : Json) :
    fieldBytes [(name, j)] = nameBytes name ++ bytesOf j := by
  have htext : (",".intercalate (Json.compactFields [(name, j)])) =
      Json.strText name ++ ":" ++ j.compact :=
    String.intercalate_singleton
  have hcolon : utf8Bytes ":".toList = [0x3A] := rfl
  rw [fieldBytes, htext, String.toList_append, String.toList_append, Text.utf8Bytes_append,
    Text.utf8Bytes_append, utf8Bytes_strText, hcolon]
  simp [bytesOf, nameBytes]

theorem fieldBytes_cons_cons (field field' : String × Json) (rest : List (String × Json)) :
    fieldBytes (field :: field' :: rest) = fieldBytes [field] ++
      0x2C :: fieldBytes (field' :: rest) := by
  have htext : ",".intercalate (Json.compactFields (field :: field' :: rest)) =
      ",".intercalate (Json.compactFields [field]) ++ "," ++
      ",".intercalate (Json.compactFields (field' :: rest)) := by
    simp only [Json.compactFields, String.intercalate_singleton, String.intercalate_cons_cons]
  rw [fieldBytes, htext, utf8Bytes_comma]
  rfl

theorem bytesOf_arr (js : List Json) : bytesOf (.arr js) = 0x5B :: itemBytes js ++ [0x5D] := by
  have htext : (Json.arr js).compact = "[" ++ ",".intercalate (Json.compactItems js) ++ "]" := by
    rw [Json.compact]
  rw [bytesOf, htext, String.toList_append, String.toList_append, Text.utf8Bytes_append,
    Text.utf8Bytes_append]
  rfl

theorem bytesOf_obj (fields : List (String × Json)) :
    bytesOf (.obj fields) = 0x7B :: fieldBytes fields ++ [0x7D] := by
  have htext : (Json.obj fields).compact = "\x7b" ++ ",".intercalate (Json.compactFields fields) ++
      "\x7d" := by
    rw [Json.compact]
  rw [bytesOf, htext, String.toList_append, String.toList_append, Text.utf8Bytes_append,
    Text.utf8Bytes_append]
  rfl

theorem bytesOf_str (s : String) : bytesOf (.str s) = 0x22 :: escaped s.toList ++ [0x22] := by
  rw [bytesOf, Json.compact, utf8Bytes_strText]

theorem endsNumber_of_head {b : UInt8} (h : isDigitByte b = false ∧ b ≠ 0x2E ∧ b ≠ 0x65 ∧ b ≠ 0x45)
    (rest : Bytes) : EndsNumber (b :: rest) := by
  rintro b' tail e
  obtain ⟨rfl, -⟩ := List.cons.inj e
  exact h

theorem endsNumber_comma (rest : Bytes) : EndsNumber (0x2C :: rest) :=
  endsNumber_of_head (by decide) rest

theorem endsNumber_brace (rest : Bytes) : EndsNumber (0x7D :: rest) :=
  endsNumber_of_head (by decide) rest

theorem endsNumber_bracket (rest : Bytes) : EndsNumber (0x5D :: rest) :=
  endsNumber_of_head (by decide) rest

theorem bytesOf_eq_cons {j : Json} (hj : j.Whole) :
    ∃ b tail, bytesOf j = b :: tail ∧ isBlankByte b = false ∧ b ≠ 0x5D := by
  cases j with
  | null => exact ⟨0x6E, [0x75, 0x6C, 0x6C], rfl, by decide, by decide⟩
  | bool b =>
    cases b with
    | false => exact ⟨0x66, [0x61, 0x6C, 0x73, 0x65], rfl, by decide, by decide⟩
    | true => exact ⟨0x74, [0x72, 0x75, 0x65], rfl, by decide, by decide⟩
  | int n =>
    rw [bytesOf, utf8Bytes_int]
    split
    · exact ⟨0x2D, _, rfl, by decide, by decide⟩
    · obtain ⟨b, more, e, -⟩ := digitBytes_eq_cons n.natAbs
      have hdigit : isDigitByte b = true :=
        isDigitByte_of_mem_digitBytes n.natAbs b (by rw [e]; exact List.mem_cons_self)
      exact ⟨b, more, e, isBlankByte_of_isDigitByte hdigit, by rintro rfl; cases hdigit⟩
  | decimal text => exact hj.elim
  | str s => exact ⟨0x22, _, bytesOf_str s, by decide, by decide⟩
  | arr js => exact ⟨0x5B, _, bytesOf_arr js, by decide, by decide⟩
  | obj fields => exact ⟨0x7B, _, bytesOf_obj fields, by decide, by decide⟩

theorem itemBytes_eq_cons {js : List Json} (hne : js ≠ []) (hjs : Json.WholeItems js) :
    ∃ b tail, itemBytes js = b :: tail ∧ isBlankByte b = false ∧ b ≠ 0x5D := by
  cases js with
  | nil => exact (hne rfl).elim
  | cons j js =>
    obtain ⟨b, tail, e, hb⟩ := bytesOf_eq_cons hjs.1
    cases js with
    | nil => exact ⟨b, tail, by rw [itemBytes_singleton, e], hb⟩
    | cons j' js => exact ⟨b, _, by rw [itemBytes_cons_cons, e, List.cons_append], hb⟩

theorem fieldBytes_eq_cons {fields : List (String × Json)} (hne : fields ≠ []) :
    ∃ tail, fieldBytes fields = 0x22 :: tail := by
  obtain ⟨⟨name, j⟩, more, rfl⟩ := List.exists_cons_of_ne_nil hne
  cases more with
  | nil => exact ⟨_, fieldBytes_singleton name j⟩
  | cons field' more => exact ⟨_, by rw [fieldBytes_cons_cons, fieldBytes_singleton]; rfl⟩

theorem value_str (s : String) (fuel : Nat) (rest : Bytes) :
    value (fuel + 1) (bytesOf (.str s) ++ rest) = some (split (.str s), rest) := by
  rw [bytesOf_str, List.cons_append, List.cons_append, value, skipBlanks_cons (b := 0x22) rfl]
  change (stringContent (escaped s.toList ++ [0x22] ++ rest)).map _ = _
  rw [List.append_assoc, List.singleton_append, stringContent_escaped]
  rfl

theorem value_null (fuel : Nat) (rest : Bytes) :
    value (fuel + 1) (bytesOf .null ++ rest) = some (split .null, rest) := by
  have hbytes : bytesOf .null = [0x6E, 0x75, 0x6C, 0x6C] := rfl
  rw [hbytes, List.cons_append, value, skipBlanks_cons (b := 0x6E) rfl]
  rfl

theorem value_bool (b : Bool) (fuel : Nat) (rest : Bytes) :
    value (fuel + 1) (bytesOf (.bool b) ++ rest) = some (split (.bool b), rest) := by
  cases b with
  | false =>
    have hbytes : bytesOf (.bool false) = [0x66, 0x61, 0x6C, 0x73, 0x65] := rfl
    rw [hbytes, List.cons_append, value, skipBlanks_cons (b := 0x66) rfl]
    rfl
  | true =>
    have hbytes : bytesOf (.bool true) = [0x74, 0x72, 0x75, 0x65] := rfl
    rw [hbytes, List.cons_append, value, skipBlanks_cons (b := 0x74) rfl]
    rfl

theorem value_arr {js : List Json} (hjs : Json.WholeItems js) {fuel : Nat} {rest : Bytes}
    (h : js ≠ [] → items fuel (itemBytes js ++ 0x5D :: rest) = some (splitItems js, rest)) :
    value (fuel + 1) (bytesOf (.arr js) ++ rest) = some (split (.arr js), rest) := by
  rw [bytesOf_arr, List.append_assoc, List.cons_append, List.singleton_append, value,
    skipBlanks_cons (b := 0x5B) rfl]
  cases js with
  | nil => rfl
  | cons j js =>
    obtain ⟨b, tail, e, hblank, hend⟩ := itemBytes_eq_cons (List.cons_ne_nil j js) hjs
    have hitems := h (List.cons_ne_nil j js)
    rw [e, List.cons_append] at hitems ⊢
    simp only [skipBlanks_cons hblank]
    split
    · next heq => exact absurd (List.cons.inj heq).1 hend
    · rw [hitems]
      rfl

theorem value_obj {fields : List (String × Json)} {fuel : Nat} {rest : Bytes}
    (h : fields ≠ [] → members fuel (fieldBytes fields ++ 0x7D :: rest) =
      some (splitFields fields, rest)) :
    value (fuel + 1) (bytesOf (.obj fields) ++ rest) = some (split (.obj fields), rest) := by
  rw [bytesOf_obj, List.append_assoc, List.cons_append, List.singleton_append, value,
    skipBlanks_cons (b := 0x7B) rfl]
  cases fields with
  | nil => rfl
  | cons field fields =>
    obtain ⟨tail, e⟩ := fieldBytes_eq_cons (List.cons_ne_nil field fields)
    have hmembers := h (List.cons_ne_nil field fields)
    rw [e, List.cons_append] at hmembers ⊢
    simp only [skipBlanks_cons (b := 0x22) rfl]
    -- The first byte inside is a quote, so it is not the empty object.
    change (members fuel (0x22 :: (tail ++ 0x7D :: rest))).map _ = _
    rw [hmembers]
    rfl

variable {fuel : Nat} {name : String} {bytes rest : Bytes} {j : JsonSource}

theorem items_last (h : value fuel bytes = some (j, 0x5D :: rest)) :
    items (fuel + 1) bytes = some ([j], rest) := by
  rw [items, h]
  rfl

theorem items_more (h : value fuel bytes = some (j, 0x2C :: rest)) :
    items (fuel + 1) bytes = (items fuel rest).map fun p => (j :: p.1, p.2) := by
  rw [items, h]
  rfl

theorem members_last (h : value fuel bytes = some (j, 0x7D :: rest)) :
    members (fuel + 1) (nameBytes name ++ bytes) = some ([(escaped name.toList, j)], rest) := by
  rw [nameBytes, List.cons_append, List.append_assoc, List.cons_append, members,
    skipBlanks_cons (b := 0x22) rfl]
  simp only [stringContent_escaped, List.cons_append, List.nil_append,
    skipBlanks_cons (b := 0x3A) rfl, h]
  rfl

theorem members_more (h : value fuel bytes = some (j, 0x2C :: rest)) :
    members (fuel + 1) (nameBytes name ++ bytes) =
      (members fuel rest).map fun p => ((escaped name.toList, j) :: p.1, p.2) := by
  rw [nameBytes, List.cons_append, List.append_assoc, List.cons_append, members,
    skipBlanks_cons (b := 0x22) rfl]
  simp only [stringContent_escaped, List.cons_append, List.nil_append,
    skipBlanks_cons (b := 0x3A) rfl, h]
  rfl

mutual

/-- Every value is read from its bytes, as long as what follows cannot belong to a number at their
end. -/
theorem value_bytesOf (j : Json) (hj : j.Whole) {fuel : Nat}
    (hfuel : 2 * (bytesOf j).length < fuel) {rest : Bytes} (h : EndsNumber rest) :
    value fuel (bytesOf j ++ rest) = some (split j, rest) := by
  obtain ⟨fuel, rfl⟩ : ∃ k, fuel = k + 1 := ⟨fuel - 1, by omega⟩
  cases j with
  | null => exact value_null fuel rest
  | bool b => exact value_bool b fuel rest
  | int n => exact value_int n fuel h
  | decimal text => exact hj.elim
  | str s => exact value_str s fuel rest
  | arr js =>
    rw [bytesOf_arr, List.length_append, List.length_cons] at hfuel
    exact value_arr hj fun hne => items_itemBytes js hne hj (by omega) rest
  | obj fields =>
    rw [bytesOf_obj, List.length_append, List.length_cons] at hfuel
    exact value_obj fun hne => members_fieldBytes fields hne hj (by omega) rest

theorem items_itemBytes (js : List Json) (hne : js ≠ []) (hjs : Json.WholeItems js) {fuel : Nat}
    (hfuel : 2 * (itemBytes js).length + 1 < fuel) (rest : Bytes) :
    items fuel (itemBytes js ++ 0x5D :: rest) = some (splitItems js, rest) := by
  obtain ⟨fuel, rfl⟩ : ∃ k, fuel = k + 1 := ⟨fuel - 1, by omega⟩
  cases js with
  | nil => exact (hne rfl).elim
  | cons j js =>
    obtain ⟨hj, hjs⟩ := hjs
    cases js with
    | nil =>
      rw [itemBytes_singleton] at hfuel ⊢
      exact items_last (value_bytesOf j hj (by omega) (endsNumber_bracket rest))
    | cons j' js =>
      rw [itemBytes_cons_cons, List.length_append, List.length_cons] at hfuel
      rw [itemBytes_cons_cons, List.append_assoc, List.cons_append,
        items_more (value_bytesOf j hj (by omega) (endsNumber_comma _)),
        items_itemBytes (j' :: js) (List.cons_ne_nil j' js) hjs (by omega) rest]
      rfl

theorem members_fieldBytes (fields : List (String × Json)) (hne : fields ≠ [])
    (hfields : Json.WholeFields fields) {fuel : Nat}
    (hfuel : 2 * (fieldBytes fields).length + 1 < fuel) (rest : Bytes) :
    members fuel (fieldBytes fields ++ 0x7D :: rest) = some (splitFields fields, rest) := by
  obtain ⟨fuel, rfl⟩ : ∃ k, fuel = k + 1 := ⟨fuel - 1, by omega⟩
  cases fields with
  | nil => exact (hne rfl).elim
  | cons field fields =>
    obtain ⟨name, j⟩ := field
    obtain ⟨hj, hfields⟩ := hfields
    cases fields with
    | nil =>
      rw [fieldBytes_singleton, List.length_append] at hfuel
      rw [fieldBytes_singleton, List.append_assoc]
      exact members_last (value_bytesOf j hj (by omega) (endsNumber_brace rest))
    | cons field' fields =>
      rw [fieldBytes_cons_cons, fieldBytes_singleton, List.length_append, List.length_append,
        List.length_cons] at hfuel
      rw [fieldBytes_cons_cons, fieldBytes_singleton, List.append_assoc,
        List.append_assoc, List.cons_append,
        members_more (value_bytesOf j hj (by omega) (endsNumber_comma _)),
        members_fieldBytes (field' :: fields) (List.cons_ne_nil field' fields)
        hfields (by omega) rest]
      rfl

end

theorem read_bytesOf {j : Json} (hj : j.Whole) : read (bytesOf j) = some (split j) := by
  have hends : EndsNumber [] := fun b tail e => by cases e
  have hvalue := value_bytesOf j hj (show 2 * (bytesOf j).length < 2 *
    (bytesOf j).length + 2 by omega) hends
  rw [List.append_nil] at hvalue
  rw [read, hvalue]
  rfl

end JsonSource

end EventTickets
