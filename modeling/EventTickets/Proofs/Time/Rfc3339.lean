import EventTickets.Proofs.Json.Numbers
import EventTickets.Proofs.Text.Blank
import EventTickets.Proofs.Time.Calendar
import EventTickets.Time.Rfc3339
import Mathlib.Algebra.Group.Nat.Defs

/-!
# Instants read back

An instant that was read is written in a form that reads as the same instant: each part of the text
is read back by its own reader, which stops where the part ends, and the calendar gives the day
back. Leap seconds come out right because every offset is a whole number of minutes.
-/

namespace EventTickets.Time

namespace Rfc3339

theorem digit?_digitChar (n : Nat) : Text.digit? (digitChar n) = some (n % 10) := by
  have hall : ∀ n ∈ List.range 10, Text.digit? (Char.ofNat ('0'.toNat + n)) = some n := by decide
  exact hall (n % 10) (List.mem_range.mpr (Nat.mod_lt n (by decide)))

theorem isDigit_digitChar (n : Nat) : isDigit (digitChar n) = true := by
    rw [isDigit, digit?_digitChar]; rfl

theorem isBlank_digitChar (n : Nat) : Text.isBlank (digitChar n) = false := by
  have hall : ∀ n ∈ List.range 10, Text.isBlank (Char.ofNat ('0'.toNat + n)) = false := by decide
  exact hall (n % 10) (List.mem_range.mpr (Nat.mod_lt n (by decide)))

theorem isDigit_of_mem_lastDigits {width n : Nat} {c : Char} (h : c ∈ lastDigits width n) :
    isDigit c = true := by
  induction width generalizing n with
  | zero => cases h
  | succ width ih =>
    rcases List.mem_append.mp h with h | h
    · exact ih h
    · rw [List.mem_singleton.mp h]
      exact isDigit_digitChar n

@[simp] theorem length_lastDigits (width n : Nat) : (lastDigits width n).length = width := by
  induction width generalizing n with
  | zero => rfl
  | succ width ih => rw [lastDigits, List.length_append, ih, List.length_singleton]

theorem exists_lastDigits_cons (width n : Nat) :
    ∃ d more, lastDigits (width + 1) n = digitChar d :: more := by
  induction width generalizing n with
  | zero => exact ⟨n, [], rfl⟩
  | succ width ih =>
    obtain ⟨d, more, e⟩ := ih (n / 10)
    exact ⟨d, more ++ [digitChar n], by rw [lastDigits, e]; rfl⟩

theorem lastDigits_add (front back n : Nat) :
    lastDigits (front + back) n = lastDigits front (n / 10 ^ back) ++ lastDigits back n := by
  induction back generalizing n with
  | zero => simp [lastDigits]
  | succ back ih =>
    rw [← Nat.add_assoc, lastDigits, ih, lastDigits, List.append_assoc,
      Nat.div_div_eq_div_mul, ← Nat.pow_succ']

theorem takeDigits_lastDigits (width more acc n : Nat) (rest : List Char) :
    takeDigits (width + more) acc (lastDigits width n ++ rest) =
      takeDigits more (acc * 10 ^ width + n % 10 ^ width) rest := by
  -- By induction on the width; the last digit is the first one after the shorter number.
  induction width generalizing more n rest with
  | zero => simp [lastDigits, Nat.mod_one]
  | succ width ih =>
    rw [lastDigits, List.append_assoc, Nat.add_assoc, ih, Nat.add_comm 1 more,
      List.singleton_append, takeDigits, digit?_digitChar]
    have hvalue : (acc * 10 ^ width + n / 10 % 10 ^ width) * 10 + n % 10 =
        acc * 10 ^ (width + 1) + n % 10 ^ (width + 1) := by
      rw [Nat.pow_succ', Nat.mod_mul, Nat.add_mul, Nat.mul_assoc, Nat.mul_comm (10 ^ width) 10]
      omega
    simp only [hvalue]

def EndsDigits (rest : List Char) : Prop := ∀ c tail, rest = c :: tail → Text.digit? c = none

theorem takeDigits_of_ends (more acc : Nat) {rest : List Char} (h : EndsDigits rest) :
    takeDigits more acc rest = (acc, rest) := by
  cases more with
  | zero => rfl
  | succ more =>
    cases rest with
    | nil => rfl
    | cons c tail => rw [takeDigits, h c tail rfl]

theorem number_lastDigits (width more n : Nat) (rest : List Char) :
    number (width + 1 + more) (lastDigits (width + 1) n ++ rest) =
      some (takeDigits more (n % 10 ^ (width + 1)) rest) := by
  have hread := takeDigits_lastDigits (width + 1) more 0 n rest
  obtain ⟨d, tail, e⟩ := exists_lastDigits_cons width n
  rw [Nat.zero_mul, Nat.zero_add] at hread
  rw [← hread, e, List.cons_append, number, digit?_digitChar]
  rfl

theorem dropBlanks_lastDigits (width n : Nat) (rest : List Char) :
    Text.dropBlanks (lastDigits (width + 1) n ++ rest) = lastDigits (width + 1) n ++ rest := by
  obtain ⟨d, tail, e⟩ := exists_lastDigits_cons width n
  rw [e, List.cons_append, Text.dropBlanks,
    List.dropWhile_cons_of_neg (by rw [isBlank_digitChar]; decide)]

theorem numberWithin_lastDigits {width low high n : Nat} (hn : n < 10 ^ (width + 1))
    (hlow : low ≤ n) (hhigh : n ≤ high) (rest : List Char) :
    numberWithin (width + 1) low high (lastDigits (width + 1) n ++ rest) = some (n, rest) := by
  have hread := number_lastDigits width 0 n rest
  rw [Nat.add_zero, Nat.mod_eq_of_lt hn] at hread
  rw [numberWithin, dropBlanks_lastDigits, hread]
  exact if_pos ⟨hlow, hhigh⟩

theorem dropBlanks_cons {c : Char} (h : Text.isBlank c = false) (rest : List Char) :
    Text.dropBlanks (c :: rest) = c :: rest :=
  List.dropWhile_cons_of_neg (by rw [h]; decide)

theorem mark_cons {c : Char} (h : Text.isBlank c = false) (rest : List Char) :
    mark c (c :: rest) = some ((), rest) := by
  rw [mark, dropBlanks_cons h]
  exact if_pos rfl

theorem lastDigits_zero (width : Nat) : lastDigits width 0 = List.replicate width '0' := by
  induction width with
  | zero => rfl
  | succ width ih =>
    rw [lastDigits, Nat.zero_div, ih, List.replicate_succ']
    rfl

theorem toDigits_eq_lastDigits (n : Nat) :
    ∃ width, Nat.toDigits 10 n = lastDigits (width + 1) n ∧ n < 10 ^ (width + 1) := by
  have hchar : ∀ n ∈ List.range 10, n.digitChar = digitChar n := by decide
  induction n using JsonSource.digits_induction with
  | single n h =>
    refine ⟨0, ?_, h⟩
    rw [Nat.toDigits_of_lt_base h, hchar n (List.mem_range.mpr h)]
    rfl
  | step n h ih =>
    obtain ⟨width, hdigits, hn⟩ := ih
    have hlast : digitChar (n % 10) = digitChar n := by rw [digitChar, Nat.mod_mod, digitChar]
    refine ⟨width + 1, ?_, by rw [Nat.pow_succ]; omega⟩
    rw [Nat.toDigits_of_base_le (by decide) h, hdigits,
      hchar _ (List.mem_range.mpr (Nat.mod_lt n (by decide))), hlast]
    rfl

theorem padded_eq_lastDigits (width n : Nat) :
    ∃ count, padded width n = lastDigits (count + 1) n ∧ n < 10 ^ (count + 1) := by
  obtain ⟨count, hdigits, hn⟩ := toDigits_eq_lastDigits n
  refine ⟨width - (count + 1) + count, ?_,
    Nat.lt_of_lt_of_le hn (Nat.pow_le_pow_right (by decide) (by omega))⟩
  rw [padded, Nat.toList_repr, hdigits, length_lastDigits, Nat.add_assoc,
    lastDigits_add _ (count + 1), Nat.div_eq_of_lt hn, lastDigits_zero]

theorem endsDigits_hyphen (rest : List Char) : EndsDigits ('-' :: rest) := by
  rintro c tail e
  cases e
  decide

theorem year_yearText (y : Int) (rest : List Char) :
    year (yearText y ++ '-' :: rest) = some (y, '-' :: rest) := by
  rw [yearText]
  split
  · next h =>
    obtain ⟨n, rfl⟩ := Int.eq_ofNat_of_zero_le h.1
    have hn : n < 10 ^ (3 + 1) := by have := h.2; omega
    have hread : number 4 (lastDigits 4 n ++ '-' :: rest) = some (n, '-' :: rest) := by
      rw [number_lastDigits 3 0, Nat.mod_eq_of_lt hn]
      rfl
    have hdigit : ∀ n ∈ List.range 10, Char.ofNat ('0'.toNat + n) ≠ '-' ∧
        Char.ofNat ('0'.toNat + n) ≠ '+' := by decide
    obtain ⟨d, more, e⟩ := exists_lastDigits_cons 3 n
    have hd : digitChar d ≠ '-' ∧ digitChar d ≠ '+' :=
      hdigit _ (List.mem_range.mpr (Nat.mod_lt d (by decide)))
    rw [Int.toNat_natCast, year, dropBlanks_lastDigits]
    rw [e] at hread ⊢
    split
    · next heq => exact absurd (List.cons.inj heq).1 hd.1
    · next heq => exact absurd (List.cons.inj heq).1 hd.2
    · rw [hread]
      rfl
  · obtain ⟨count, hpadded, hn⟩ := padded_eq_lastDigits 4 y.natAbs
    obtain ⟨digits, hdigits⟩ : ∃ digits, digits = lastDigits (count + 1) y.natAbs ++ '-' :: rest :=
      ⟨_, rfl⟩
    have hlength : digits.length = count + 1 + (rest.length + 1) := by
      rw [hdigits, List.length_append, length_lastDigits]
      rfl
    have hread : number digits.length digits = some (y.natAbs, '-' :: rest) := by
      rw [hlength, hdigits, number_lastDigits, takeDigits_of_ends _ _ (endsDigits_hyphen rest),
        Nat.mod_eq_of_lt hn]
    rw [hpadded, List.cons_append, ← hdigits, year]
    by_cases hneg : y < 0
    · have hvalue : -(y.natAbs : Int) = y := by omega
      rw [if_pos hneg, dropBlanks_cons (by decide)]
      change (number digits.length digits).map _ = _
      rw [hread]
      exact congrArg (fun n => some (n, '-' :: rest)) hvalue
    · have hvalue : (y.natAbs : Int) = y := by omega
      rw [if_neg hneg, dropBlanks_cons (by decide)]
      change (number digits.length digits).map _ = _
      rw [hread]
      exact congrArg (fun n => some (n, '-' :: rest)) hvalue

theorem foldl_lastDigits (width acc n : Nat) :
    (lastDigits width n).foldl (fun n c => n * 10 + (c.toNat - '0'.toNat)) acc = acc * 10 ^ width +
      n % 10 ^ width := by
  have hall : ∀ n ∈ List.range 10, (Char.ofNat ('0'.toNat + n)).toNat - '0'.toNat = n := by decide
  induction width generalizing n with
  | zero => simp [lastDigits, Nat.mod_one]
  | succ width ih =>
    have hlast : (digitChar n).toNat - '0'.toNat = n % 10 :=
      hall _ (List.mem_range.mpr (Nat.mod_lt n (by decide)))
    rw [lastDigits, List.foldl_append, ih, List.foldl_cons, List.foldl_nil, hlast,
      Nat.pow_succ', Nat.mod_mul, Nat.add_mul, Nat.mul_assoc, Nat.mul_comm (10 ^ width) 10]
    omega

theorem fraction_digits (width : Nat) {n : Nat} (hwidth : width < 9) (hn : n < 10 ^ (width + 1))
    (rest : List Char) :
    fraction ('.' :: lastDigits (width + 1) n ++ 'Z' :: rest) =
      some (n * 10 ^ (9 - (width + 1)), 'Z' :: rest) := by
  have hdigits : ∀ c ∈ lastDigits (width + 1) n, isDigit c = true :=
    fun _ h => isDigit_of_mem_lastDigits h
  have htake : (lastDigits (width + 1) n ++ 'Z' :: rest).takeWhile isDigit =
      lastDigits (width + 1) n := by
    rw [List.takeWhile_append_of_pos hdigits,
      List.takeWhile_cons_of_neg (by decide), List.append_nil]
  have hdrop : (lastDigits (width + 1) n ++ 'Z' :: rest).dropWhile isDigit = 'Z' :: rest := by
    rw [List.dropWhile_append_of_pos hdigits, List.dropWhile_cons_of_neg (by decide)]
  have hall : (lastDigits (width + 1) n).take 9 = lastDigits (width + 1) n :=
    List.take_of_length_le (by rw [length_lastDigits]; exact hwidth)
  obtain ⟨d, more, e⟩ := exists_lastDigits_cons width n
  have hsome : (lastDigits (width + 1) n).isEmpty = false := by rw [e]; rfl
  simp only [List.cons_append, fraction, htake, hdrop, hall, hsome, foldl_lastDigits,
    length_lastDigits, Nat.zero_mul, Nat.zero_add, Nat.mod_eq_of_lt hn]
  rfl

theorem fraction_fractionText {nanos : Nat} (h : nanos < 1000000000) (rest : List Char) :
    fraction (fractionText nanos ++ 'Z' :: rest) = some (nanos, 'Z' :: rest) := by
  rw [fractionText]
  split
  · next hzero => rw [hzero]; rfl
  · split
    · next hmilli =>
      rw [fraction_digits 2 (by decide) (by omega)]
      exact congrArg (fun n => some (n, 'Z' :: rest)) (by omega)
    · split
      · next hmicro =>
        rw [fraction_digits 5 (by decide) (by omega)]
        exact congrArg (fun n => some (n, 'Z' :: rest)) (by omega)
      · rw [fraction_digits 8 (by decide) (by omega)]
        exact congrArg (fun n => some (n, 'Z' :: rest)) (by omega)

/-- Every part is read as it was written, a leap second as the sixtieth of its minute. -/
theorem ofChars?_chars {t : Instant} (hnanos : t.nanos < 2000000000) {second : Nat}
    (hsecond : second = (t.seconds % 86400).toNat) :
    ofChars? (chars t) =
      assemble (CivilDate.ofDays (t.seconds / 86400)) (second / 3600) (second / 60 % 60)
        (second % 60 + t.nanos / 1000000000) (t.nanos % 1000000000) 0 := by
  obtain ⟨date, hdate⟩ : ∃ date, date = CivilDate.ofDays (t.seconds / 86400) := ⟨_, rfl⟩
  have hvalid : date.Valid := hdate ▸ CivilDate.valid_ofDays _
  have hmonth (rest : List Char) : numberWithin 2 1 12 (lastDigits 2 date.month ++ rest) =
      some (date.month, rest) :=
    numberWithin_lastDigits (by have := hvalid.2.1; omega) hvalid.1 hvalid.2.1 rest
  have hday (rest : List Char) : numberWithin 2 1 31 (lastDigits 2 date.day ++ rest) =
      some (date.day, rest) :=
    numberWithin_lastDigits (by have := hvalid.day_le; omega) hvalid.2.2.1
      (hvalid.day_le) rest
  have hhour (rest : List Char) :
      numberWithin 2 0 23 (lastDigits 2 (second / 3600) ++ rest) = some (second / 3600, rest) :=
    numberWithin_lastDigits (by omega) (Nat.zero_le _) (by omega) rest
  have hminute (rest : List Char) :
      numberWithin 2 0 59 (lastDigits 2 (second / 60 % 60) ++ rest) =
      some (second / 60 % 60, rest) :=
    numberWithin_lastDigits (by omega) (Nat.zero_le _) (by omega) rest
  have hlast (rest : List Char) :
      numberWithin 2 0 60 (lastDigits 2 (second % 60 + t.nanos / 1000000000) ++ rest) =
        some (second % 60 + t.nanos / 1000000000, rest) :=
    numberWithin_lastDigits (by omega) (Nat.zero_le _) (by omega) rest
  have hfraction := fraction_fractionText (Nat.mod_lt t.nanos (show 0 < 1000000000 by decide)) []
  have hyphen (rest : List Char) : mark '-' ('-' :: rest) = some ((), rest) :=
    mark_cons (by decide) rest
  have hcolon (rest : List Char) : mark ':' (':' :: rest) = some ((), rest) :=
    mark_cons (by decide) rest
  have hT (rest : List Char) : separator ('T' :: rest) = some ((), rest) := rfl
  have hZ : offset ['Z'] = some (0, []) := rfl
  simp only [ofChars?, chars, ← hdate, ← hsecond, List.append_assoc, List.cons_append,
    year_yearText, hyphen, hmonth, hday, hT, hhour, hcolon, hminute, hlast, hfraction, hZ,
    Option.bind_eq_bind, Option.bind_some]
  rfl

theorem foldl_digits_lt {digits : List Char} (h : ∀ c ∈ digits, isDigit c = true) (acc : Nat) :
    digits.foldl (fun n c => n * 10 + (c.toNat - '0'.toNat)) acc < (acc + 1) *
      10 ^ digits.length := by
  induction digits generalizing acc with
  | nil => simp
  | cons c digits ih =>
    obtain ⟨hc, hdigits⟩ := List.forall_mem_cons.mp h
    have hvalue : c.toNat - '0'.toNat < 10 := by
      rw [isDigit, Text.digit?] at hc
      split at hc
      · next hrange =>
        have hhigh : c.toNat ≤ 57 := UInt32.le_iff_toNat_le.mp hrange.2
        have hzero : '0'.toNat = 48 := rfl
        omega
      · cases hc
    have hstep : (acc * 10 + (c.toNat - '0'.toNat) + 1) * 10 ^ digits.length ≤ (acc + 1) * 10 *
        10 ^ digits.length :=
      Nat.mul_le_mul_right _ (by omega)
    rw [List.foldl_cons, List.length_cons, Nat.pow_succ', ← Nat.mul_assoc]
    exact Nat.lt_of_lt_of_le (ih hdigits _) hstep

theorem fraction_lt {cs rest : List Char} {nanos : Nat} (h : fraction cs = some (nanos, rest)) :
    nanos < 1000000000 := by
  rw [fraction.eq_def] at h
  split at h
  · next digits =>
    obtain ⟨read, hread⟩ : ∃ read, read = (digits.takeWhile isDigit).take 9 := ⟨_, rfl⟩
    have hdigits : ∀ c ∈ read, isDigit c = true := fun c hc =>
      List.mem_takeWhile_imp (List.mem_of_mem_take (hread ▸ hc))
    have hlength : read.length ≤ 9 := hread ▸ List.length_take_le 9 _
    simp only [← hread] at h
    split at h
    · cases h
    · have hvalue := foldl_digits_lt hdigits 0
      obtain ⟨rfl, -⟩ := Prod.mk.inj (Option.some.inj h)
      have hpow : 10 ^ read.length * 10 ^ (9 - read.length) = 1000000000 := by
        rw [← Nat.pow_add, Nat.add_sub_of_le hlength]
      rw [Nat.zero_add, Nat.one_mul] at hvalue
      rw [← hpow]
      exact Nat.mul_lt_mul_of_pos_right hvalue (Nat.pow_pos (by decide))
  · obtain ⟨rfl, -⟩ := Prod.mk.inj (Option.some.inj h)
    decide

theorem signedOffset_minutes {negative : Bool} {cs rest : List Char} {east : Int}
    (h : signedOffset negative cs = some (east, rest)) : east % 60 = 0 := by
  rw [signedOffset] at h
  obtain ⟨⟨hours, rest'⟩, -, h⟩ := Option.bind_eq_some_iff.mp h
  obtain ⟨⟨minutes, rest''⟩, -, h⟩ := Option.bind_eq_some_iff.mp h
  obtain ⟨rfl, -⟩ := Prod.mk.inj (Option.some.inj h)
  split <;> omega

theorem offset_minutes {cs rest : List Char} {east : Int} (h : offset cs = some (east, rest)) :
    east % 60 = 0 := by
  rw [offset] at h
  split at h
  · obtain ⟨rfl, -⟩ := Prod.mk.inj (Option.some.inj h)
    rfl
  · obtain ⟨rfl, -⟩ := Prod.mk.inj (Option.some.inj h)
    rfl
  · exact signedOffset_minutes h
  · exact signedOffset_minutes h
  · exact signedOffset_minutes h
  · split at h
    · obtain ⟨rfl, -⟩ := Prod.mk.inj (Option.some.inj h)
      rfl
    · cases h
  · cases h

theorem exists_assemble {cs : List Char} {t : Instant} (h : ofChars? cs = some t) :
    ∃ date hour minute second nanos east, nanos < 1000000000 ∧ east % 60 = 0 ∧
      assemble date hour minute second nanos east = some t := by
  rw [ofChars?] at h
  obtain ⟨⟨year, _⟩, -, h⟩ := Option.bind_eq_some_iff.mp h
  obtain ⟨⟨_, _⟩, -, h⟩ := Option.bind_eq_some_iff.mp h
  obtain ⟨⟨month, _⟩, -, h⟩ := Option.bind_eq_some_iff.mp h
  obtain ⟨⟨_, _⟩, -, h⟩ := Option.bind_eq_some_iff.mp h
  obtain ⟨⟨day, _⟩, -, h⟩ := Option.bind_eq_some_iff.mp h
  obtain ⟨⟨_, _⟩, -, h⟩ := Option.bind_eq_some_iff.mp h
  obtain ⟨⟨hour, _⟩, -, h⟩ := Option.bind_eq_some_iff.mp h
  obtain ⟨⟨_, _⟩, -, h⟩ := Option.bind_eq_some_iff.mp h
  obtain ⟨⟨minute, _⟩, -, h⟩ := Option.bind_eq_some_iff.mp h
  obtain ⟨⟨_, _⟩, -, h⟩ := Option.bind_eq_some_iff.mp h
  obtain ⟨⟨second, _⟩, -, h⟩ := Option.bind_eq_some_iff.mp h
  obtain ⟨⟨nanos, _⟩, hfraction, h⟩ := Option.bind_eq_some_iff.mp h
  obtain ⟨⟨east, _⟩, hoffset, h⟩ := Option.bind_eq_some_iff.mp h
  refine ⟨⟨year, month, day⟩, hour, minute, second, nanos, east, fraction_lt hfraction,
    offset_minutes hoffset, ?_⟩
  simp only at h
  split at h
  · exact h
  · cases h

end Rfc3339

namespace Instant

/-- What holds of every instant that was read: it is in the range, and a leap second comes last in
its minute. -/
structure Readable (t : Instant) : Prop where
  low : minSeconds ≤ t.seconds
  high : t.seconds ≤ maxSeconds
  nanos : t.nanos < 2000000000
  leap : 1000000000 ≤ t.nanos → t.seconds % 60 = 59

theorem readable_of_ofText? {s : String} {t : Instant} (h : ofText? s = some t) : t.Readable := by
  obtain ⟨date, hour, minute, second, nanos, east, hnanos, heast, h⟩ := Rfc3339.exists_assemble h
  rw [Rfc3339.assemble] at h
  obtain ⟨⟨-, -, -, -, -, hlow, hhigh⟩, h⟩ := Option.ite_none_right_eq_some.mp h
  rw [← Option.some.inj h]
  refine ⟨hlow, hhigh, ?_, fun hleap => ?_⟩
  · change nanos + (if second = 60 then 1000000000 else 0) < 2000000000
    split <;> omega
  · change 1000000000 ≤ nanos + (if second = 60 then 1000000000 else 0) at hleap
    split at hleap
    · next hsixty =>
      simp only [if_pos hsixty]
      omega
    · omega

theorem Readable.ofText?_text {t : Instant} (h : t.Readable) : ofText? t.text = some t := by
  obtain ⟨second, hsecond⟩ : ∃ s, s = (t.seconds % 86400).toNat := ⟨_, rfl⟩
  obtain ⟨hlow, hhigh, hnanos, hleap⟩ := h
  rw [ofText?, text, String.toList_ofList, Rfc3339.ofChars?_chars hnanos hsecond]
  obtain ⟨date, hdate⟩ : ∃ date, date = CivilDate.ofDays (t.seconds / 86400) := ⟨_, rfl⟩
  have hvalid : date.Valid := hdate ▸ CivilDate.valid_ofDays _
  have hdays : date.toDays = t.seconds / 86400 := hdate ▸ CivilDate.toDays_ofDays _
  have hyear : -262143 ≤ date.year ∧ date.year ≤ 262142 := by
    rw [minSeconds] at hlow
    rw [maxSeconds] at hhigh
    exact hdate ▸ CivilDate.year_ofDays_bounds (by omega) (by omega)
  obtain ⟨last, hlast⟩ : ∃ n, n = second % 60 + t.nanos / 1000000000 := ⟨_, rfl⟩
  -- The sixtieth second is the one after the last, at which the leap second is kept.
  have htime : (if last = 60 then 59 else last) = second % 60 := by split <;> omega
  have hfraction : t.nanos % 1000000000 + (if last = 60 then 1000000000 else 0) = t.nanos := by
    split <;> omega
  have hseconds : date.toDays * 86400 +
      ((second / 3600 : Nat) * 3600 + (second / 60 % 60 : Nat) * 60 + (second % 60 : Nat)) - 0 =
      t.seconds := by
    omega
  rw [← hdate, ← hlast, Rfc3339.assemble]
  simp only [htime, hfraction, hseconds]
  exact if_pos ⟨hvalid, hyear.1, hyear.2, by decide, by decide, hlow, hhigh⟩

end Instant

end EventTickets.Time
