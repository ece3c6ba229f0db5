import EventTickets.Json.Value
import EventTickets.Proofs.Text.Digits
import EventTickets.Proofs.Text.Utf8

/-!
# Strings in JSON texts

A string is written with escapes and read in two steps: first the bytes up to its closing quote,
then what they stand for. Both go along character by character, so each is told what one character
does to it.
-/

namespace EventTickets

open Text (utf8Bytes)

namespace JsonSource

def IsPlain (b : UInt8) : Prop := ¬ b < 0x20 ∧ b ≠ 0x22 ∧ b ≠ 0x5C

theorem stringContent_plain {b : UInt8} (h : IsPlain b) (rest : Bytes) :
    stringContent (b :: rest) = (stringContent rest).map fun (s, r) => (b :: s, r) := by
  obtain ⟨hlow, hquote, hslash⟩ := h
  rw [stringContent.eq_5 _ _ hquote (fun _ _ _ _ _ e => (hslash e).elim)
    (fun _ _ e => (hslash e).elim), if_neg (not_or.mpr ⟨hlow, hslash⟩)]

theorem stringContent_simple {e b : UInt8} (hu : e ≠ 0x75)
    (h : simpleEscape? e = some b) (rest : Bytes) :
    stringContent (0x5C :: e :: rest) = (stringContent rest).map fun (s, r) =>
      (0x5C :: e :: s, r) := by
  rw [stringContent.eq_4 _ _ (fun _ _ _ _ _ e => (hu e).elim), h]

theorem stringContent_unicode {a b c d : UInt8} {unit : Nat}
    (h : hexUnit? a b c d = some unit) (rest : Bytes) :
    stringContent (0x5C :: 0x75 :: a :: b :: c :: d :: rest) =
      (stringContent rest).map fun (s, r) => (0x5C :: 0x75 :: a :: b :: c :: d :: s, r) := by
  rw [stringContent, h]

theorem unescape_plain {b : UInt8} (h : IsPlain b) (rest : Bytes) :
    unescape (b :: rest) = (unescape rest).map (b :: ·) := by
  obtain ⟨-, -, hslash⟩ := h
  rw [unescape.eq_4 _ _ (fun _ _ _ _ _ e => (hslash e).elim) (fun _ _ e => (hslash e).elim)]

theorem unescape_simple {e b : UInt8} (hu : e ≠ 0x75)
    (h : simpleEscape? e = some b) (rest : Bytes) :
    unescape (0x5C :: e :: rest) = (unescape rest).map (b :: ·) := by
  rw [unescape.eq_3 _ _ (fun _ _ _ _ _ e => (hu e).elim), h]

theorem unescape_unicode {a b c d : UInt8} {unit : Nat} (h : hexUnit? a b c d = some unit)
    (hunit : unit < 0xD800) (rest : Bytes) :
    unescape (0x5C :: 0x75 :: a :: b :: c :: d :: rest) = (unescape rest).map (utf8 unit ++ ·) := by
  rw [unescape, h]
  simp only
  rw [if_neg (by omega), if_neg (by omega)]

theorem stringContent_append_plain {bytes : Bytes} (h : ∀ b ∈ bytes, IsPlain b) (rest : Bytes) :
    stringContent (bytes ++ rest) = (stringContent rest).map fun (s, r) => (bytes ++ s, r) := by
  induction bytes with
  | nil => simp
  | cons b bytes ih =>
    obtain ⟨hb, hbytes⟩ := List.forall_mem_cons.mp h
    rw [List.cons_append, stringContent_plain hb, ih hbytes, Option.map_map]
    rfl

theorem unescape_append_plain {bytes : Bytes} (h : ∀ b ∈ bytes, IsPlain b) (rest : Bytes) :
    unescape (bytes ++ rest) = (unescape rest).map (bytes ++ ·) := by
  induction bytes with
  | nil => simp
  | cons b bytes ih =>
    obtain ⟨hb, hbytes⟩ := List.forall_mem_cons.mp h
    rw [List.cons_append, unescape_plain hb, ih hbytes, Option.map_map]
    rfl

def hexDigitByte (n : Nat) : UInt8 := UInt8.ofNat (Text.hexDigit n).toNat

theorem hexByte?_hexDigitByte {n : Nat} (h : n < 16) : hexByte? (hexDigitByte n) = some n := by
  have hall : ∀ n ∈ List.range 16, hexByte? (hexDigitByte n) = some n := by decide
  exact hall n (List.mem_range.mpr h)

theorem utf8EncodeChar_hexDigit {n : Nat} (h : n < 16) :
    String.utf8EncodeChar (Text.hexDigit n) = [hexDigitByte n] := by
  have hall : ∀ n ∈ List.range 16, (Text.hexDigit n).toNat < 128 := by decide
  exact Text.utf8EncodeChar_ascii (hall n (List.mem_range.mpr h))

theorem isPlain_utf8EncodeChar {c : Char} (hquote : c ≠ '"') (hslash : c ≠ '\\')
    (hlow : ¬ c.toNat < 32) : ∀ b ∈ String.utf8EncodeChar c, IsPlain b := by
  intro b hb
  by_cases hascii : c.toNat < 128
  · rw [Text.utf8EncodeChar_ascii hascii] at hb
    cases List.mem_singleton.mp hb
    have hvalue : (UInt8.ofNat c.toNat).toNat = c.toNat :=
      UInt8.toNat_ofNat_of_lt' (Nat.lt_trans hascii (by decide))
    refine ⟨fun e => ?_, fun e => hquote (Char.toNat_inj.mp ?_),
      fun e => hslash (Char.toNat_inj.mp ?_)⟩
    · rw [UInt8.lt_iff_toNat_lt, hvalue] at e
      exact hlow e
    · rw [← hvalue, e]
      rfl
    · rw [← hvalue, e]
      rfl
  · have hhigh := UInt8.le_iff_toNat_le.mp (Text.utf8EncodeChar_high (Nat.not_lt.mp hascii) b hb)
    refine ⟨fun e => ?_, ?_, ?_⟩
    · exact Nat.not_lt.mpr hhigh (Nat.lt_trans (UInt8.lt_iff_toNat_lt.mp e) (by decide))
    · rintro rfl
      exact absurd hhigh (by decide)
    · rintro rfl
      exact absurd hhigh (by decide)

inductive Escape (c : Char) : Bytes → Prop
  | plain (h : ∀ b ∈ String.utf8EncodeChar c, IsPlain b) : Escape c (String.utf8EncodeChar c)
  | simple (e b : UInt8) (hu : e ≠ 0x75) (h : simpleEscape? e = some b)
      (hc : String.utf8EncodeChar c = [b]) :
    Escape c [0x5C, e]
  | unicode (a b c' d : UInt8) (unit : Nat) (h : hexUnit? a b c' d = some unit)
      (hunit : unit < 0xD800)
    (hc : String.utf8EncodeChar c = utf8 unit) : Escape c [0x5C, 0x75, a, b, c', d]

theorem escape_escapeChar (c : Char) : Escape c (utf8Bytes (Json.escapeChar c)) := by
  have hcode : ∀ n, c.toNat = n → c = Char.ofNat n := fun n h => by rw [← h, Char.ofNat_toNat]
  -- One case for each way to write a character, in the order in which they are tried.
  unfold Json.escapeChar
  split
  · next h => subst h; exact .simple 0x22 0x22 (by decide) rfl rfl
  split
  · next h => subst h; exact .simple 0x5C 0x5C (by decide) rfl rfl
  split
  · next h => cases hcode 8 h; exact .simple 0x62 0x08 (by decide) rfl rfl
  split
  · next h => cases hcode 9 h; exact .simple 0x74 0x09 (by decide) rfl rfl
  split
  · next h => cases hcode 10 h; exact .simple 0x6E 0x0A (by decide) rfl rfl
  split
  · next h => cases hcode 12 h; exact .simple 0x66 0x0C (by decide) rfl rfl
  split
  · next h => cases hcode 13 h; exact .simple 0x72 0x0D (by decide) rfl rfl
  split
  · next h =>
    have hbytes : utf8Bytes (['\\', 'u'] ++ Text.hexFixed 4 c.toNat) =
        [0x5C, 0x75, hexDigitByte (c.toNat / 16 / 16 / 16 % 16),
          hexDigitByte (c.toNat / 16 / 16 % 16), hexDigitByte (c.toNat / 16 % 16),
          hexDigitByte (c.toNat % 16)] := by
      simp only [Text.hexFixed, utf8Bytes, List.flatMap_append, List.flatMap_cons,
        List.flatMap_nil, List.append_nil, List.nil_append,
        utf8EncodeChar_hexDigit (Nat.mod_lt _ (show 0 < 16 by decide))]
      rfl
    rw [hbytes]
    refine .unicode _ _ _ _ c.toNat ?_ (by omega) (by rw [utf8, Char.ofNat_toNat])
    simp only [hexUnit?, hexByte?_hexDigitByte (Nat.mod_lt _ (show 0 < 16 by decide)),
      Option.bind_eq_bind, Option.bind_some, Option.pure_def, Option.some.injEq]
    omega
  · next hquote hslash _ _ _ _ _ hlow =>
    have hself : utf8Bytes [c] = String.utf8EncodeChar c := by
      rw [Text.utf8Bytes_cons]; exact List.append_nil _
    rw [hself]
    exact .plain (isPlain_utf8EncodeChar hquote hslash hlow)

theorem Escape.stringContent {c : Char} {bytes : Bytes} (h : Escape c bytes) (rest : Bytes) :
    JsonSource.stringContent (bytes ++ rest) = (JsonSource.stringContent rest).map fun (s, r) =>
      (bytes ++ s, r) := by
  cases h with
  | plain h => exact stringContent_append_plain h rest
  | simple e b hu h hc => exact stringContent_simple hu h rest
  | unicode a b c' d unit h hunit hc => exact stringContent_unicode h rest

theorem Escape.unescape {c : Char} {bytes : Bytes} (h : Escape c bytes) (rest : Bytes) :
    JsonSource.unescape (bytes ++ rest) =
      (JsonSource.unescape rest).map (String.utf8EncodeChar c ++ ·) := by
  cases h with
  | plain h => exact unescape_append_plain h rest
  | simple e b hu h hc =>
    rw [hc]
    exact unescape_simple hu h rest
  | unicode a b c' d unit h hunit hc =>
    rw [hc]
    exact unescape_unicode h hunit rest

def escaped (cs : List Char) : Bytes := utf8Bytes (cs.flatMap Json.escapeChar)

theorem escaped_cons (c : Char) (cs : List Char) :
    escaped (c :: cs) = utf8Bytes (Json.escapeChar c) ++ escaped cs := by
  rw [escaped, List.flatMap_cons, Text.utf8Bytes_append, escaped]

theorem stringContent_escaped (cs : List Char) (rest : Bytes) :
    stringContent (escaped cs ++ 0x22 :: rest) = some (escaped cs, rest) := by
  induction cs with
  | nil => exact stringContent.eq_2 rest
  | cons c cs ih =>
    rw [escaped_cons, List.append_assoc, (escape_escapeChar c).stringContent, ih]
    rfl

theorem unescape_escaped (cs : List Char) : unescape (escaped cs) = some (utf8Bytes cs) := by
  induction cs with
  | nil => rfl
  | cons c cs ih =>
    rw [escaped_cons, (escape_escapeChar c).unescape, ih, Text.utf8Bytes_cons]
    rfl

theorem text?_escaped (s : String) : text? (escaped s.toList) = some s := by
  rw [text?, unescape_escaped, Option.bind_some, Text.ofUtf8?_utf8Bytes]

theorem utf8Bytes_strText (s : String) :
    utf8Bytes (Json.strText s).toList = 0x22 :: escaped s.toList ++ [0x22] := by
  rw [Json.strText, String.toList_ofList, Text.utf8Bytes_append, Text.utf8Bytes_cons]
  rfl

end JsonSource

end EventTickets
