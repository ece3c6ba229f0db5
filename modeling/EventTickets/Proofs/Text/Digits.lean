import EventTickets.Text.Blank
import EventTickets.Uuid
import Mathlib.Algebra.Group.Nat.Defs

/-!
# Hexadecimal digits

Digits are read back as what they stand for, so texts of one length are told apart by their numbers.
They are letters in lower case or decimal digits, never a blank or a separator.
-/

namespace EventTickets

namespace Text

def IsHexDigit (c : Char) : Prop := ∃ n, n < 16 ∧ c = hexDigit n

theorem hexValue?_hexDigit {n : Nat} (h : n < 16) : hexValue? (hexDigit n) = some n := by
  have hall : ∀ n ∈ List.range 16, hexValue? (hexDigit n) = some n := by decide
  exact hall n (List.mem_range.mpr h)

theorem IsHexDigit.of_all {P : Char → Prop} [DecidablePred P]
    (hall : ∀ n ∈ List.range 16, P (hexDigit n)) {c : Char} (h : IsHexDigit c) : P c := by
  obtain ⟨n, hn, rfl⟩ := h
  exact hall n (List.mem_range.mpr hn)

theorem IsHexDigit.not_blank {c : Char} (h : IsHexDigit c) : isBlank c = false :=
  h.of_all (P := fun c => isBlank c = false) (by decide)

theorem IsHexDigit.ne_point {c : Char} (h : IsHexDigit c) : c ≠ '.' :=
  h.of_all (P := (· ≠ '.')) (by decide)

theorem IsHexDigit.ne_hyphen {c : Char} (h : IsHexDigit c) : c ≠ '-' :=
  h.of_all (P := (· ≠ '-')) (by decide)

theorem IsHexDigit.toLower {c : Char} (h : IsHexDigit c) : c.toLower = c :=
  h.of_all (P := fun c => c.toLower = c) (by decide)

theorem of_toLower_ne {P : Char → Prop} [DecidablePred P]
    (hall : ∀ n ∈ List.range 26, P (Char.ofNat ('A'.toNat + n))) {c : Char} (h : c.toLower ≠ c) :
    P c := by
  delta Char.toLower at h
  split at h
  · next hrange =>
    have hlow : 'A'.toNat ≤ c.toNat := UInt32.le_iff_toNat_le.mp hrange.1
    have hhigh : c.toNat ≤ 'Z'.toNat := UInt32.le_iff_toNat_le.mp hrange.2
    have hletter := hall (c.toNat - 'A'.toNat)
      (List.mem_range.mpr (Nat.lt_succ_of_le (Nat.sub_le_of_le_add hhigh)))
    rwa [Nat.add_sub_of_le hlow, Char.ofNat_toNat] at hletter
  · exact (h rfl).elim

theorem IsHexDigit.of_toLower {c : Char} (h : IsHexDigit c.toLower) :
    isBlank c = false ∧ c ≠ '.' := by
  by_cases hlower : c.toLower = c
  · rw [hlower] at h
    exact ⟨h.not_blank, h.ne_point⟩
  · exact of_toLower_ne (P := fun c => isBlank c = false ∧ c ≠ '.') (by decide) hlower

theorem IsHexDigit.letter {x c : Char} (h : IsHexDigit x) (hlower : c.toLower = x) (hne : c ≠ x) :
    'a' ≤ x ∧ x ≤ 'f' ∧ c = x.toUpper := by
  subst hlower
  have hletter := of_toLower_ne (P := fun c => 'a' ≤ c.toLower ∧ c = c.toLower.toUpper)
    (by decide) (Ne.symm hne)
  have hhigh := h.of_all (P := fun x => 'a' ≤ x → x ≤ 'f') (by decide)
  exact ⟨hletter.1, hhigh hletter.1, hletter.2⟩

theorem isHexDigit_of_mem_hexFixed {count n : Nat} {c : Char} (h : c ∈ hexFixed count n) :
    IsHexDigit c := by
  induction count generalizing n with
  | zero => cases h
  | succ count ih =>
    rcases List.mem_append.mp h with h | h
    · exact ih h
    · exact ⟨n % 16, Nat.mod_lt _ (by decide), List.mem_singleton.mp h⟩

@[simp] theorem length_hexFixed (count n : Nat) : (hexFixed count n).length = count := by
  induction count generalizing n with
  | zero => rfl
  | succ count ih => simp [hexFixed, ih]

theorem hexNumber?_hexFixed (count n : Nat) :
    hexNumber? (hexFixed count n) = some (n % 16 ^ count) := by
  induction count generalizing n with
  | zero => simp [hexNumber?, hexFixed, Nat.mod_one]
  | succ count ih =>
    have hfront := ih (n / 16)
    rw [hexNumber?] at hfront
    rw [hexFixed, hexNumber?, List.foldlM_append, hfront]
    -- The digits before the last are those of the quotient, and weigh sixteen times as much.
    have hpow : n % 16 ^ (count + 1) = n / 16 % 16 ^ count * 16 + n % 16 := by
      rw [Nat.pow_succ', Nat.mod_mul]
      omega
    simp [hexValue?_hexDigit (Nat.mod_lt n (show 0 < 16 by decide)), hpow]

theorem hexFixed_injective {count m n : Nat} (hm : m < 16 ^ count) (hn : n < 16 ^ count)
    (h : hexFixed count m = hexFixed count n) : m = n := by
  have hvalue := (hexNumber?_hexFixed count m).symm.trans
    ((congrArg hexNumber? h).trans (hexNumber?_hexFixed count n))
  rwa [Nat.mod_eq_of_lt hm, Nat.mod_eq_of_lt hn, Option.some.injEq] at hvalue

end Text

namespace Uuid

open Text

theorem flatten_groups (sizes : List Nat) (cs : List Char) : (groups sizes cs).flatten = cs := by
  induction sizes generalizing cs with
  | nil => simp [groups]
  | cons n rest ih => rw [groups, List.flatten_cons, ih, List.take_append_drop]

theorem filter_intercalate {c : Char} (parts : List (List Char)) (h : ∀ part ∈ parts, c ∉ part) :
    ([c].intercalate parts).filter (· ≠ c) = parts.flatten := by
  have hself : ∀ part ∈ parts, part.filter (· ≠ c) = part := fun part hpart =>
    List.filter_eq_self.mpr fun c' hc' => decide_eq_true fun e => h part hpart (e ▸ hc')
  induction parts with
  | nil => rfl
  | cons part rest ih =>
    obtain ⟨-, hrest⟩ := List.forall_mem_cons.mp h
    obtain ⟨hpart, hselves⟩ := List.forall_mem_cons.mp hself
    cases rest with
    | nil => simpa using hpart
    | cons part' rest' =>
      rw [List.intercalate_cons_cons, List.filter_append, List.filter_append,
        hpart, ih hrest hselves]
      simp

theorem filter_chars (id : Uuid) : id.chars.filter (· ≠ '-') = hexFixed 32 id.bits.toNat := by
  have hparts : ∀ part ∈ groups [8, 4, 4, 4] (hexFixed 32 id.bits.toNat), '-' ∉ part := by
    intro part hpart hmem
    have hflat : '-' ∈ (groups [8, 4, 4, 4] (hexFixed 32 id.bits.toNat)).flatten :=
      List.mem_flatten.mpr ⟨part, hpart, hmem⟩
    rw [flatten_groups] at hflat
    exact (isHexDigit_of_mem_hexFixed hflat).ne_hyphen rfl
  rw [chars, filter_intercalate _ hparts, flatten_groups]

theorem chars_ne_nil (id : Uuid) : id.chars ≠ [] := by
  intro e
  have hlength := congrArg List.length (filter_chars id)
  rw [e, length_hexFixed] at hlength
  cases hlength

theorem not_blank_of_mem_chars (id : Uuid) {c : Char} (h : c ∈ id.chars) : isBlank c = false := by
  by_cases e : c = '-'
  · rw [e]
    decide
  · have hdigit : c ∈ id.chars.filter (· ≠ '-') := List.mem_filter.mpr ⟨h, decide_eq_true e⟩
    rw [filter_chars] at hdigit
    exact (isHexDigit_of_mem_hexFixed hdigit).not_blank

theorem groups_append {n : Nat} {front : List Char} (h : front.length = n) (sizes : List Nat)
    (rest : List Char) : groups (n :: sizes) (front ++ rest) = front :: groups sizes rest := by
  rw [groups, List.take_left' h, List.drop_left' h]

theorem unhyphenated?_intercalate {cs : List Char} (h : cs.length = 32) :
    unhyphenated? (['-'].intercalate (groups [8, 4, 4, 4] cs)) = some cs ∧
      (['-'].intercalate (groups [8, 4, 4, 4] cs)).length = 36 := by
  obtain ⟨a, b, c, d, e, hgroups, ha, hb, hc, hd, he⟩ : ∃ a b c d e,
    groups [8, 4, 4, 4] cs = [a, b, c, d, e] ∧
      a.length = 8 ∧ b.length = 4 ∧ c.length = 4 ∧ d.length = 4 ∧ e.length = 12 :=
    ⟨_, _, _, _, _, rfl, by simp [h], by simp [h], by simp [h], by simp [h], by simp [h]⟩
  have hall : a ++ b ++ c ++ d ++ e = cs := by simpa [hgroups] using flatten_groups [8, 4, 4, 4] cs
  have htext : ['-'].intercalate [a, b, c, d, e] =
      a ++ (['-'] ++ (b ++ (['-'] ++ (c ++ (['-'] ++ (d ++ (['-'] ++ e))))))) := by
    simp [List.intercalate_cons_cons]
  have hone : ['-'].length = 1 := rfl
  rw [hgroups, htext]
  constructor
  · rw [unhyphenated?, groups_append ha, groups_append hone, groups_append hb,
      groups_append hone, groups_append hc, groups_append hone, groups_append hd,
      groups_append hone, groups, ← hall]
    exact if_pos he
  · simp [ha, hb, hc, hd, he]

theorem ofText?_text (id : Uuid) : ofText? id.text = some id := by
  obtain ⟨hdigits, hlength⟩ := unhyphenated?_intercalate (length_hexFixed 32 id.bits.toNat)
  have hread : digits? id.chars = some (hexFixed 32 id.bits.toNat) := by
    rw [digits?, chars, if_neg (by rw [hlength]; decide), if_pos hlength, hdigits]
  have hbits : id.bits.toNat % 16 ^ 32 = id.bits.toNat := Nat.mod_eq_of_lt id.bits.isLt
  rw [ofText?, text, String.toList_ofList, hread, Option.bind_some, hexNumber?_hexFixed,
    hbits, Option.map_some, BitVec.ofNat_toNat, BitVec.setWidth_eq]

theorem text_injective {a b : Uuid} (h : a.text = b.text) : a = b :=
  Option.some.inj ((ofText?_text a).symm.trans ((congrArg ofText? h).trans (ofText?_text b)))

end Uuid

end EventTickets
