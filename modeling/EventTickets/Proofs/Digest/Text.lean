import EventTickets.Digest.Sha256
import EventTickets.Digest.Text
import EventTickets.Proofs.Text.Digits

/-!
# Bytes written as text and read back

Both forms tell all byte strings apart. Base64 is read back as the bytes it was made of, and nothing
else is read as these bytes.
-/

namespace EventTickets.Digest

theorem isHexDigit_of_mem_hexChars {bytes : List UInt8} {c : Char} (h : c ∈ hexChars bytes) :
    Text.IsHexDigit c := by
  obtain ⟨b, -, hc⟩ := List.mem_flatMap.mp h
  exact Text.isHexDigit_of_mem_hexFixed hc

theorem map_toLower_hexChars (bytes : List UInt8) :
    (hexChars bytes).map Char.toLower = hexChars bytes := by
  rw [List.map_congr_left fun c hc => (isHexDigit_of_mem_hexChars hc).toLower, List.map_id']

theorem hexChars_eq_nil_iff {bytes : List UInt8} : hexChars bytes = [] ↔ bytes = [] := by
  cases bytes <;> simp [hexChars, Text.hexFixed]

theorem hexChars_injective {a b : List UInt8} (h : hexChars a = hexChars b) : a = b := by
  induction a generalizing b with
  | nil => exact (hexChars_eq_nil_iff.mp h.symm).symm
  | cons x xs ih =>
    cases b with
    | nil => exact hexChars_eq_nil_iff.mp h
    | cons y ys =>
      obtain ⟨hhead, htail⟩ := List.append_inj h (by simp)
      have hbyte := Text.hexFixed_injective x.toNat_lt y.toNat_lt hhead
      rw [UInt8.toNat_inj.mp hbyte, ih htail]

theorem hex_injective {a b : List UInt8} (h : hex a = hex b) : a = b :=
  hexChars_injective (String.ofList_injective h)

@[simp] theorem length_sha256 (message : List UInt8) : (sha256 message).length = 32 := by
  simp [sha256, HashState.words, wordBytes]

namespace Base64Url

theorem digitValue?_digit {n : Nat} (h : n < 64) : digitValue? (digit n) = some n := by
  have hall : ∀ n ∈ List.range 64, digitValue? (digit n) = some n := by decide
  exact hall n (List.mem_range.mpr h)

theorem decodeChars?_encodeChars (bytes : List UInt8) :
    decodeChars? (encodeChars bytes) = some bytes := by
  induction bytes using encodeChars.induct with
  | case1 => rfl
  | case2 a =>
    have ha := a.toNat_lt
    have h₁ := digitValue?_digit (n := a.toNat / 4) (by omega)
    have h₂ := digitValue?_digit (n := a.toNat % 4 * 16) (by omega)
    have hzero : a.toNat % 4 * 16 % 16 = 0 := by omega
    have hbyte : a.toNat / 4 * 4 + a.toNat % 4 * 16 / 16 = a.toNat := by omega
    simp only [encodeChars, decodeChars?, h₁, h₂, hzero, hbyte, Option.bind_eq_bind,
      Option.bind_some, if_true, Option.pure_def, UInt8.ofNat_toNat]
  | case3 a b =>
    have ha := a.toNat_lt
    have hb := b.toNat_lt
    have h₁ := digitValue?_digit (n := a.toNat / 4) (by omega)
    have h₂ := digitValue?_digit (n := a.toNat % 4 * 16 + b.toNat / 16) (by omega)
    have h₃ := digitValue?_digit (n := b.toNat % 16 * 4) (by omega)
    have hzero : b.toNat % 16 * 4 % 4 = 0 := by omega
    have hbyte₁ : a.toNat / 4 * 4 + (a.toNat % 4 * 16 + b.toNat / 16) / 16 = a.toNat := by omega
    have hbyte₂ : (a.toNat % 4 * 16 + b.toNat / 16) % 16 * 16 + b.toNat % 16 * 4 / 4 = b.toNat := by
      omega
    simp only [encodeChars, decodeChars?, h₁, h₂, h₃, hzero, hbyte₁, hbyte₂,
      Option.bind_eq_bind, Option.bind_some, if_true, Option.pure_def, UInt8.ofNat_toNat]
  | case4 a b c rest ih =>
    have ha := a.toNat_lt
    have hb := b.toNat_lt
    have hc := c.toNat_lt
    have h₁ := digitValue?_digit (n := a.toNat / 4) (by omega)
    have h₂ := digitValue?_digit (n := a.toNat % 4 * 16 + b.toNat / 16) (by omega)
    have h₃ := digitValue?_digit (n := b.toNat % 16 * 4 + c.toNat / 64) (by omega)
    have h₄ := digitValue?_digit (n := c.toNat % 64) (by omega)
    have hbyte₁ : a.toNat / 4 * 4 + (a.toNat % 4 * 16 + b.toNat / 16) / 16 = a.toNat := by omega
    have hbyte₂ : (a.toNat % 4 * 16 + b.toNat / 16) % 16 * 16 +
        (b.toNat % 16 * 4 + c.toNat / 64) / 4 = b.toNat := by
      omega
    have hbyte₃ : (b.toNat % 16 * 4 + c.toNat / 64) % 4 * 64 + c.toNat % 64 = c.toNat := by omega
    simp only [encodeChars, decodeChars?, h₁, h₂, h₃, h₄, ih, hbyte₁, hbyte₂, hbyte₃,
      Option.bind_eq_bind, Option.bind_some, Option.pure_def, UInt8.ofNat_toNat]

theorem digit_of_digitValue? {c : Char} {n : Nat} (h : digitValue? c = some n) :
    n < 64 ∧ digit n = c := by
  -- A digit of one of the three ranges is as far from its start as its value from that of the
  -- range.
  have hchar : ∀ start low : Nat, start ≤ c.toNat →
      Char.ofNat (start + (c.toNat - start + low - low)) = c :=
    fun _ _ hle => by rw [Nat.add_sub_cancel, Nat.add_sub_of_le hle, Char.ofNat_toNat]
  have hrange : ∀ {low high : Char}, low ≤ c ∧ c ≤ high → low.toNat ≤ c.toNat ∧
      c.toNat ≤ high.toNat := fun h =>
    h.imp UInt32.le_iff_toNat_le.mp UInt32.le_iff_toNat_le.mp
  rw [digitValue?] at h
  split at h
  · next hupper =>
    cases h
    obtain ⟨hlow, hhigh⟩ := hrange hupper
    have : c.toNat - 'A'.toNat ≤ 25 := Nat.sub_le_of_le_add hhigh
    exact ⟨by omega, by rw [digit, if_pos (by omega)]; exact hchar _ 0 hlow⟩
  split at h
  · next hlower =>
    cases h
    obtain ⟨hlow, hhigh⟩ := hrange hlower
    have : c.toNat - 'a'.toNat ≤ 25 := Nat.sub_le_of_le_add hhigh
    exact ⟨by omega, by rw [digit, if_neg (by omega), if_pos (by omega)]; exact hchar _ _ hlow⟩
  split at h
  · next hdecimal =>
    cases h
    obtain ⟨hlow, hhigh⟩ := hrange hdecimal
    have : c.toNat - '0'.toNat ≤ 9 := Nat.sub_le_of_le_add hhigh
    exact ⟨by omega, by rw [digit, if_neg (by omega), if_neg (by omega),
      if_pos (by omega)]; exact hchar _ _ hlow⟩
  split at h
  · next e =>
    cases h
    exact ⟨by decide, e.symm⟩
  · split at h
    · next e =>
      cases h
      exact ⟨by decide, e.symm⟩
    · cases h

theorem eq_encodeChars_of_decodeChars? {cs : List Char} {bytes : List UInt8}
    (h : decodeChars? cs = some bytes) : cs = encodeChars bytes := by
  -- The digits of a group are below 64, so each can be told from the bytes that the group makes.
  have hbyte : ∀ n : Nat, n < 256 → (UInt8.ofNat n).toNat = n := fun _ => UInt8.toNat_ofNat_of_lt'
  induction cs using decodeChars?.induct generalizing bytes with
  | case1 =>
    cases h
    rfl
  | case2 p => cases h
  | case3 p q =>
    simp only [decodeChars?, Option.bind_eq_bind, Option.pure_def, Option.bind_eq_some_iff,
      Option.ite_none_right_eq_some, Option.some.injEq] at h
    obtain ⟨a, hp, b, hq, hzero, rfl⟩ := h
    obtain ⟨ha, rfl⟩ := digit_of_digitValue? hp
    obtain ⟨hb, rfl⟩ := digit_of_digitValue? hq
    have h₁ : (a * 4 + b / 16) / 4 = a := by omega
    have h₂ : (a * 4 + b / 16) % 4 * 16 = b := by omega
    rw [encodeChars, hbyte _ (by omega), h₁, h₂]
  | case4 p q r =>
    simp only [decodeChars?, Option.bind_eq_bind, Option.pure_def, Option.bind_eq_some_iff,
      Option.ite_none_right_eq_some, Option.some.injEq] at h
    obtain ⟨a, hp, b, hq, c, hr, hzero, rfl⟩ := h
    obtain ⟨ha, rfl⟩ := digit_of_digitValue? hp
    obtain ⟨hb, rfl⟩ := digit_of_digitValue? hq
    obtain ⟨hc, rfl⟩ := digit_of_digitValue? hr
    have h₁ : (a * 4 + b / 16) / 4 = a := by omega
    have h₂ : (a * 4 + b / 16) % 4 * 16 + (b % 16 * 16 + c / 4) / 16 = b := by omega
    have h₃ : (b % 16 * 16 + c / 4) % 16 * 4 = c := by omega
    rw [encodeChars, hbyte _ (by omega), hbyte _ (by omega), h₁, h₂, h₃]
  | case5 p q r s rest ih =>
    simp only [decodeChars?, Option.bind_eq_bind, Option.pure_def, Option.bind_eq_some_iff,
      Option.some.injEq] at h
    obtain ⟨a, hp, b, hq, c, hr, d, hs, tail, htail, rfl⟩ := h
    obtain ⟨ha, rfl⟩ := digit_of_digitValue? hp
    obtain ⟨hb, rfl⟩ := digit_of_digitValue? hq
    obtain ⟨hc, rfl⟩ := digit_of_digitValue? hr
    obtain ⟨hd, rfl⟩ := digit_of_digitValue? hs
    have h₁ : (a * 4 + b / 16) / 4 = a := by omega
    have h₂ : (a * 4 + b / 16) % 4 * 16 + (b % 16 * 16 + c / 4) / 16 = b := by omega
    have h₃ : (b % 16 * 16 + c / 4) % 16 * 4 + (c % 4 * 64 + d) / 64 = c := by omega
    have h₄ : (c % 4 * 64 + d) % 64 = d := by omega
    rw [encodeChars, hbyte _ (by omega), hbyte _ (by omega), hbyte _ (by omega), h₁,
      h₂, h₃, h₄, ih htail]

theorem decode?_encode (bytes : List UInt8) : decode? (encode bytes) = some bytes := by
  rw [decode?, encode, String.toList_ofList, decodeChars?_encodeChars]

/-- Base64 is read in its canonical spelling only. -/
theorem decode?_eq_some_iff {s : String} {bytes : List UInt8} :
    decode? s = some bytes ↔ s = encode bytes := by
  refine ⟨fun h => ?_, fun h => h ▸ decode?_encode bytes⟩
  rw [encode, ← eq_encodeChars_of_decodeChars? h, String.ofList_toList]

def IsDigit (c : Char) : Prop := ∃ n, n < 64 ∧ c = digit n

theorem IsDigit.of_all {P : Char → Prop} [DecidablePred P] (hall : ∀ n ∈ List.range 64, P (digit n))
    {c : Char} (h : IsDigit c) : P c := by
  obtain ⟨n, hn, rfl⟩ := h
  exact hall n (List.mem_range.mpr hn)

theorem IsDigit.not_blank {c : Char} (h : IsDigit c) : Text.isBlank c = false :=
  h.of_all (P := fun c => Text.isBlank c = false) (by decide)

theorem IsDigit.ne_point {c : Char} (h : IsDigit c) : c ≠ '.' :=
  h.of_all (P := (· ≠ '.')) (by decide)

theorem isDigit_of_mem_encodeChars (bytes : List UInt8) : ∀ c ∈ encodeChars bytes, IsDigit c := by
  induction bytes using encodeChars.induct with
  | case1 => exact fun c hc => (List.not_mem_nil hc).elim
  | case2 a =>
    have ha := a.toNat_lt
    simp only [encodeChars, List.forall_mem_cons]
    exact ⟨⟨_, by omega, rfl⟩, ⟨_, by omega, rfl⟩, fun c hc => (List.not_mem_nil hc).elim⟩
  | case3 a b =>
    have ha := a.toNat_lt
    have hb := b.toNat_lt
    simp only [encodeChars, List.forall_mem_cons]
    exact ⟨⟨_, by omega, rfl⟩, ⟨_, by omega, rfl⟩, ⟨_, by omega, rfl⟩,
      fun c hc => (List.not_mem_nil hc).elim⟩
  | case4 a b c rest ih =>
    have ha := a.toNat_lt
    have hb := b.toNat_lt
    have hc := c.toNat_lt
    simp only [encodeChars, List.forall_mem_cons]
    exact ⟨⟨_, by omega, rfl⟩, ⟨_, by omega, rfl⟩, ⟨_, by omega, rfl⟩, ⟨_, by omega, rfl⟩, ih⟩

theorem not_point_mem_encodeChars (bytes : List UInt8) : '.' ∉ encodeChars bytes := fun h =>
  (isDigit_of_mem_encodeChars bytes _ h).ne_point rfl

theorem encodeChars_injective {a b : List UInt8} (h : encodeChars a = encodeChars b) : a = b :=
  Option.some.inj ((decodeChars?_encodeChars a).symm.trans
    ((congrArg decodeChars? h).trans (decodeChars?_encodeChars b)))

theorem encodeChars_ne_nil {bytes : List UInt8} (h : bytes ≠ []) : encodeChars bytes ≠ [] := by
  intro e
  have hdecoded := decodeChars?_encodeChars bytes
  rw [e] at hdecoded
  exact h (Option.some.inj hdecoded).symm

end Base64Url

end EventTickets.Digest
