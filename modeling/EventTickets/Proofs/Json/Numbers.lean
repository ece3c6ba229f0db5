import EventTickets.Json.Value
import EventTickets.Proofs.Text.Utf8

/-!
# Integers in JSON texts

An integer is written with its digits and no zero in front, and read back with its sign and
magnitude, as long as what follows cannot belong to it.
-/

namespace EventTickets

open Text (utf8Bytes)

namespace JsonSource

def digitByte (n : Nat) : UInt8 := UInt8.ofNat (48 + n)

theorem digitByte_toNat {n : Nat} (h : n < 10) : (digitByte n).toNat = 48 + n :=
  UInt8.toNat_ofNat_of_lt' (show 48 + n < 256 by omega)

theorem isDigitByte_digitByte {n : Nat} (h : n < 10) : isDigitByte (digitByte n) = true := by
  have hall : ∀ n ∈ List.range 10, isDigitByte (digitByte n) = true := by decide
  exact hall n (List.mem_range.mpr h)

def digitBytes (n : Nat) : Bytes := utf8Bytes (Nat.toDigits 10 n)

theorem utf8EncodeChar_digitChar {n : Nat} (h : n < 10) :
    String.utf8EncodeChar n.digitChar = [digitByte n] := by
  have hall : ∀ n ∈ List.range 10, String.utf8EncodeChar n.digitChar = [digitByte n] := by decide
  exact hall n (List.mem_range.mpr h)

theorem digitBytes_of_lt {n : Nat} (h : n < 10) : digitBytes n = [digitByte n] := by
  rw [digitBytes, Nat.toDigits_of_lt_base h, Text.utf8Bytes_cons, utf8EncodeChar_digitChar h]
  rfl

theorem digitBytes_of_le {n : Nat} (h : 10 ≤ n) :
    digitBytes n = digitBytes (n / 10) ++ [digitByte (n % 10)] := by
  rw [digitBytes, Nat.toDigits_of_base_le (by decide) h, Text.utf8Bytes_append, Text.utf8Bytes_cons,
    utf8EncodeChar_digitChar (Nat.mod_lt n (by decide))]
  rfl

theorem digits_induction {P : Nat → Prop} (single : ∀ n, n < 10 → P n)
    (step : ∀ n, 10 ≤ n → P (n / 10) → P n) (n : Nat) : P n := by
  induction n using Nat.strongRecOn with
  | _ n ih =>
    by_cases h : n < 10
    · exact single n h
    · exact step n (Nat.not_lt.mp h) (ih (n / 10) (by omega))

theorem isDigitByte_of_mem_digitBytes (n : Nat) : ∀ b ∈ digitBytes n, isDigitByte b = true := by
  induction n using digits_induction with
  | single n h =>
    rw [digitBytes_of_lt h]
    exact List.forall_mem_singleton.mpr (isDigitByte_digitByte h)
  | step n h ih =>
    rw [digitBytes_of_le h]
    exact List.forall_mem_append.mpr
      ⟨ih, List.forall_mem_singleton.mpr (isDigitByte_digitByte (Nat.mod_lt n (by decide)))⟩

theorem digitsValue_digitBytes (n : Nat) : digitsValue (digitBytes n) = n := by
  induction n using digits_induction with
  | single n h => simp [digitBytes_of_lt h, digitsValue, digitByte_toNat h]
  | step n h ih =>
    rw [digitsValue] at ih
    rw [digitBytes_of_le h, digitsValue, List.foldl_append, ih]
    have hdigit := digitByte_toNat (Nat.mod_lt n (show 0 < 10 by decide))
    simp only [List.foldl_cons, List.foldl_nil, hdigit]
    omega

theorem digitBytes_eq_cons (n : Nat) :
    ∃ b rest, digitBytes n = b :: rest ∧ (b = 0x30 → rest = []) := by
  induction n using digits_induction with
  | single n h => exact ⟨digitByte n, [], digitBytes_of_lt h, fun _ => rfl⟩
  | step n h ih =>
    obtain ⟨b, rest, e, hzero⟩ := ih
    refine ⟨b, rest ++ [digitByte (n % 10)], by rw [digitBytes_of_le h, e]; rfl, ?_⟩
    -- A zero in front would be all of the shorter number, which is not zero.
    rintro rfl
    rw [hzero rfl] at e
    have hvalue := digitsValue_digitBytes (n / 10)
    rw [e] at hvalue
    have : digitsValue [0x30] = 0 := rfl
    omega

def EndsNumber (rest : Bytes) : Prop :=
  ∀ b tail, rest = b :: tail → isDigitByte b = false ∧ b ≠ 0x2E ∧ b ≠ 0x65 ∧ b ≠ 0x45

theorem wholePart_digitBytes (n : Nat) {rest : Bytes} (h : EndsNumber rest) :
    wholePart (digitBytes n ++ rest) = some (digitBytes n, rest) := by
  have hstop : rest.takeWhile isDigitByte = [] ∧ rest.dropWhile isDigitByte = rest := by
    cases rest with
    | nil => exact ⟨rfl, rfl⟩
    | cons b tail => simp [(h b tail rfl).1]
  have htake : (digitBytes n ++ rest).takeWhile isDigitByte = digitBytes n := by
    rw [List.takeWhile_append_of_pos (isDigitByte_of_mem_digitBytes n), hstop.1, List.append_nil]
  have hdrop : (digitBytes n ++ rest).dropWhile isDigitByte = rest := by
    rw [List.dropWhile_append_of_pos (isDigitByte_of_mem_digitBytes n), hstop.2]
  obtain ⟨b, more, e, hzero⟩ := digitBytes_eq_cons n
  rw [wholePart, htake, hdrop, e]
  split
  · next heq => cases heq
  · next heq =>
    cases heq
    cases hzero rfl
  · rfl

theorem fractionPart_of_ends {rest : Bytes} (h : EndsNumber rest) :
    fractionPart rest = some ([], rest) := by
  cases rest with
  | nil => rfl
  | cons b tail => exact fractionPart.eq_2 _ fun tail' e => (h b tail rfl).2.1 (List.cons.inj e).1

theorem exponentPart_of_ends {rest : Bytes} (h : EndsNumber rest) :
    exponentPart rest = some ([], rest) := by
  cases rest with
  | nil => rfl
  | cons b tail =>
    obtain ⟨-, -, he, hE⟩ := h b tail rfl
    rw [exponentPart.eq_def]
    exact if_neg (not_or.mpr ⟨he, hE⟩)

theorem unsignedNumber_digitBytes (negative : Bool) (n : Nat) {rest : Bytes} (h : EndsNumber rest) :
    unsignedNumber negative (digitBytes n ++ rest) = some (.integer negative n, rest) := by
  simp only [unsignedNumber, wholePart_digitBytes n h, fractionPart_of_ends h,
    exponentPart_of_ends h, Option.bind_eq_bind, Option.bind_some, digitsValue_digitBytes]
  rfl

theorem skipBlanks_cons {b : UInt8} (h : isBlankByte b = false) (rest : Bytes) :
    skipBlanks (b :: rest) = b :: rest :=
  List.dropWhile_cons_of_neg (Bool.eq_false_iff.mp h)

theorem isBlankByte_of_isDigitByte {b : UInt8} (h : isDigitByte b = true) :
    isBlankByte b = false := by
  refine Bool.eq_false_iff.mpr fun hblank => ?_
  simp only [isBlankByte, Bool.or_eq_true, beq_iff_eq] at hblank
  rcases hblank with ((rfl | rfl) | rfl) | rfl <;> cases h

theorem value_digit {b : UInt8} (h : isDigitByte b = true) (fuel : Nat) (rest : Bytes) :
    value (fuel + 1) (b :: rest) = unsignedNumber false (b :: rest) := by
  rw [value, skipBlanks_cons (isBlankByte_of_isDigitByte h)]
  -- Every other branch asks for a byte that is no digit.
  split <;> first | rfl | (next heq => cases heq; cases h)

theorem utf8Bytes_int (n : Int) :
    utf8Bytes (Json.int n).compact.toList = if n < 0 then 0x2D :: digitBytes n.natAbs else
      digitBytes n.natAbs := by
  have htext : (Json.int n).compact = n.repr := rfl
  rw [htext]
  cases n with
  | ofNat n =>
    have hnonneg : ¬ Int.ofNat n < 0 := Int.not_lt.mpr (Int.natCast_nonneg n)
    rw [if_neg hnonneg]
    exact congrArg utf8Bytes Nat.toList_repr
  | negSucc n =>
    have hminus : (Int.negSucc n).repr = "-" ++ (n + 1).repr := rfl
    rw [if_pos (Int.negSucc_lt_zero n), hminus, String.toList_append, Nat.toList_repr,
      Text.utf8Bytes_append]
    rfl

theorem value_int (n : Int) (fuel : Nat) {rest : Bytes} (h : EndsNumber rest) :
    value (fuel + 1) (utf8Bytes (Json.int n).compact.toList ++ rest) =
      some (.integer (decide (n < 0)) n.natAbs, rest) := by
  rw [utf8Bytes_int]
  by_cases hneg : n < 0
  · rw [if_pos hneg, List.cons_append, value, skipBlanks_cons (b := 0x2D) rfl, decide_eq_true hneg]
    exact unsignedNumber_digitBytes true n.natAbs h
  · obtain ⟨b, more, e, -⟩ := digitBytes_eq_cons n.natAbs
    have hdigit : isDigitByte b = true :=
      isDigitByte_of_mem_digitBytes n.natAbs b (by rw [e]; exact List.mem_cons_self)
    have hread := unsignedNumber_digitBytes false n.natAbs h
    rw [e, List.cons_append] at hread
    rw [if_neg hneg, e, List.cons_append, value_digit hdigit, hread, decide_eq_false hneg]

end JsonSource

end EventTickets
