import EventTickets.Proofs.Ticket.RoundTrip
import Mathlib.Data.List.Basic

/-!
# Which tokens are accepted

The bytes that a token carries can be spelled in one way only, up to blanks around the token and the
case of its signature. So a changed token is refused, unless it carries a valid signature of other
bytes. Nothing is assumed of the HMAC.
-/

namespace EventTickets.Token

open Text (isBlank trimChars dropBlanks IsHexDigit)
open Digest (hexChars hmacSha256)
open Digest.Base64Url (encodeChars not_point_mem_encodeChars)

theorem parts?_eq_some_iff {token payload signature : String} :
    parts? token = some (payload, signature) ↔
      (payload.toList ≠ [] ∧ signature.toList ≠ [] ∧ '.' ∉ payload.toList ∧
        '.' ∉ signature.toList) ∧ trimChars token.toList = payload.toList ++
          '.' :: signature.toList := by
  constructor
  · intro h
    have hsplit := List.takeWhile_append_dropWhile (p := (· ≠ '.')) (l := trimChars token.toList)
    have hno : '.' ∉ (trimChars token.toList).takeWhile (· ≠ '.') := fun hmem => by
      simpa using List.mem_takeWhile_imp hmem
    have hpoint := List.head?_dropWhile_not (· ≠ '.') (trimChars token.toList)
    simp only [parts?] at h
    split at h
    · next p ps d s ss hp hs =>
      rw [hp] at hsplit hno
      rw [hs] at hsplit hpoint
      split at h
      · cases h
      · next hs' =>
        cases h
        have hd : d = '.' := by simpa using hpoint
        rw [← hsplit, hd]
        simp only [String.toList_ofList]
        exact ⟨⟨List.cons_ne_nil _ _, List.cons_ne_nil _ _, hno,
          fun hmem => hs' (List.contains_iff_mem.mpr hmem)⟩, trivial⟩
    · cases h
  · rintro ⟨⟨hp, hs, hp', hs'⟩, htrim⟩
    have hall : ∀ c ∈ payload.toList, decide (c ≠ '.') = true := fun c hc =>
      decide_eq_true fun e => hp' (e ▸ hc)
    obtain ⟨p, ps, ep⟩ := List.exists_cons_of_ne_nil hp
    obtain ⟨s, ss, es⟩ := List.exists_cons_of_ne_nil hs
    rw [parts?, htrim, List.takeWhile_append_of_pos hall, List.dropWhile_append_of_pos hall, ep, es]
    rw [es] at hs'
    simp only [List.takeWhile_cons, List.dropWhile_cons, ne_eq, not_true_eq_false,
      decide_false, Bool.false_eq_true, if_false, List.append_nil, List.contains_iff_mem, hs',
      Option.some.injEq, Prod.mk.injEq]
    rw [← ep, ← es, String.ofList_toList, String.ofList_toList]
    exact ⟨rfl, rfl⟩

variable {secret : SigningSecret} {claims claims' : Claims} {token : String}

/-- A token whose payload is read as some bytes and whose signature is theirs, in either case. -/
def Carries (secret : SigningSecret) (bytes : Bytes) (token : String) : Prop :=
  ∃ payload signature, parts? token = some (payload, signature) ∧
    Digest.Base64Url.decode? payload = some bytes ∧ Text.lower signature = secret.signature bytes

/-- The one spelling of a token for some bytes, up to blanks around it and the case of its
signature. -/
def Spells (secret : SigningSecret) (bytes : Bytes) (token : String) : Prop :=
  ∃ signature, Text.lower signature = secret.signature bytes ∧
    Text.IsPadded (Digest.Base64Url.encode bytes ++ "." ++ signature) token

theorem isHexDigit_of_lower {signature : String} {bytes : Bytes}
    (h : Text.lower signature = secret.signature bytes) {c : Char} (hc : c ∈ signature.toList) :
    IsHexDigit c.toLower := by
  have hmem : c.toLower ∈ (Text.lower signature).toList := by
    rw [Text.lower, String.toList_ofList]
    exact List.mem_map_of_mem hc
  rw [h, SigningSecret.signature, Digest.hex, String.toList_ofList] at hmem
  exact Digest.isHexDigit_of_mem_hexChars hmem

theorem signature_ne_nil {signature : String} {bytes : Bytes}
    (h : Text.lower signature = secret.signature bytes) : signature.toList ≠ [] := by
  intro e
  rw [Text.lower, e, SigningSecret.signature, Digest.hex] at h
  have hnil := Digest.hexChars_eq_nil_iff.mp (String.ofList_injective h).symm
  have hlength := congrArg List.length hnil
  rw [hmacSha256, Digest.length_sha256] at hlength
  cases hlength

theorem carries_iff_spells {bytes : Bytes} (hbytes : bytes ≠ []) :
    Carries secret bytes token ↔ Spells secret bytes token := by
  constructor
  · rintro ⟨payload, signature, hparts, hpayload, hsignature⟩
    obtain ⟨-, htrim⟩ := parts?_eq_some_iff.mp hparts
    have hspelled : Text.trim token = Digest.Base64Url.encode bytes ++ "." ++ signature := by
      rw [← Digest.Base64Url.decode?_eq_some_iff.mp hpayload, ← String.toList_inj, Text.trim,
        String.toList_ofList, htrim, String.toList_append, String.toList_append, List.append_assoc]
      rfl
    exact ⟨signature, hsignature, hspelled ▸ Text.isPadded_trim token⟩
  · rintro ⟨signature, hsignature, hpadded⟩
    have hdigits := Digest.Base64Url.isDigit_of_mem_encodeChars bytes
    have hlist : (Digest.Base64Url.encode bytes ++ "." ++ signature).toList =
        encodeChars bytes ++ '.' :: signature.toList := by
      rw [String.toList_append, String.toList_append, Digest.Base64Url.encode,
        String.toList_ofList, List.append_assoc]
      rfl
    have hblank : ∀ c ∈ (Digest.Base64Url.encode bytes ++ "." ++ signature).toList,
        isBlank c = false := by
      rw [hlist]
      refine List.forall_mem_append.mpr ⟨fun c hc => (hdigits c hc).not_blank, ?_⟩
      exact List.forall_mem_cons.mpr
        ⟨by decide, fun c hc => (isHexDigit_of_lower hsignature hc).of_toLower.1⟩
    refine ⟨_, signature, parts?_eq_some_iff.mpr
      ⟨⟨?_, signature_ne_nil hsignature, ?_, fun hc => ?_⟩, ?_⟩,
      Digest.Base64Url.decode?_encode bytes, hsignature⟩
    · rw [Digest.Base64Url.encode, String.toList_ofList]
      exact Digest.Base64Url.encodeChars_ne_nil hbytes
    · rw [Digest.Base64Url.encode, String.toList_ofList]
      exact fun hc => (hdigits _ hc).ne_point rfl
    · exact (isHexDigit_of_lower hsignature hc).of_toLower.2 rfl
    · rw [hpadded.trimChars hblank, hlist, Digest.Base64Url.encode, String.toList_ofList]

theorem verify_eq_ok_iff :
    verify secret token = .ok claims ↔
      ∃ bytes, Carries secret bytes token ∧ Claims.ofBytes? bytes = some claims ∧
        claims.missing? = none := by
  constructor
  · intro h
    simp only [verify] at h
    split at h
    · next payload signature hparts =>
      split at h
      · next bytes hpayload =>
        split at h
        · cases h
        · next hsignature =>
          split at h
          · next found hclaims =>
            split at h
            · cases h
            · next hmissing =>
              cases h
              exact ⟨bytes, ⟨payload, signature, hparts, hpayload, (not_not.mp hsignature).symm⟩,
                hclaims, hmissing⟩
          · cases h
      · cases h
    · cases h
  · rintro ⟨bytes, ⟨payload, signature, hparts, hpayload, hsignature⟩, hclaims, hmissing⟩
    rw [verify, hparts]
    simp only [hpayload, hclaims]
    rw [if_neg (not_not_intro hsignature.symm), hmissing]
    rfl

def replaced (token : String) (i : Nat) (c : Char) : String := String.ofList (token.toList.set i c)

theorem Carries.trimChars_eq {bytes : Bytes} (h : Carries secret bytes token) :
    ∃ signature, '.' ∉ signature ∧
      signature.map Char.toLower = hexChars (hmacSha256 secret.key.toUTF8.toList bytes) ∧
      trimChars token.toList = encodeChars bytes ++ '.' :: signature := by
  obtain ⟨payload, signature, hparts, hpayload, hsignature⟩ := h
  obtain ⟨⟨-, -, -, hpoint⟩, htrim⟩ := parts?_eq_some_iff.mp hparts
  rw [Digest.Base64Url.decode?_eq_some_iff.mp hpayload, Digest.Base64Url.encode,
    String.toList_ofList] at htrim
  exact ⟨signature.toList, hpoint, String.ofList_injective hsignature, htrim⟩

section

variable (secret claims) (j : Nat) (c : Char)

theorem getElem?_sign :
    (sign secret claims).toList[(encodeChars claims.bytes).length + j + 1]? =
      (hexChars (hmacSha256 secret.key.toUTF8.toList claims.bytes))[j]? := by
  have hjump : (encodeChars claims.bytes).length + j + 1 - (encodeChars claims.bytes).length = j +
      1 := by omega
  rw [toList_sign, List.getElem?_append_right (by omega), hjump, List.getElem?_cons_succ]

theorem toList_replaced :
    (replaced (sign secret claims) ((encodeChars claims.bytes).length + j + 1) c).toList =
      encodeChars claims.bytes ++ '.' ::
        (hexChars (hmacSha256 secret.key.toUTF8.toList claims.bytes)).set j c := by
  have hjump : (encodeChars claims.bytes).length + j + 1 - (encodeChars claims.bytes).length = j +
      1 := by omega
  rw [replaced, String.toList_ofList, toList_sign, List.set_append_right _ _ (by omega),
    hjump, List.set_cons_succ]

end

section

variable {bytes : Bytes} {i : Nat} {x c : Char} (hx : (sign secret claims).toList[i]? = some x)

include hx

theorem isHexDigit_of_signature (hi : (encodeChars claims.bytes).length < i) : IsHexDigit x := by
  obtain ⟨j, rfl⟩ := Nat.exists_eq_add_of_lt hi
  rw [getElem?_sign] at hx
  exact Digest.isHexDigit_of_mem_hexChars (List.mem_of_getElem? hx)

theorem spells_replaced (hi : (encodeChars claims.bytes).length < i) (hlower : c.toLower = x) :
    Spells secret claims.bytes (replaced (sign secret claims) i c) := by
  obtain ⟨j, rfl⟩ := Nat.exists_eq_add_of_lt hi
  rw [getElem?_sign] at hx
  obtain ⟨hj, hdigit⟩ := List.getElem?_eq_some_iff.mp hx
  refine ⟨String.ofList ((hexChars (hmacSha256 secret.key.toUTF8.toList claims.bytes)).set j c), ?_,
    ?_⟩
  · rw [Text.lower, String.toList_ofList, List.map_set, Digest.map_toLower_hexChars, hlower,
      ← hdigit, List.set_getElem_self]
    rfl
  · have hspelled : replaced (sign secret claims) ((encodeChars claims.bytes).length + j + 1) c =
        Digest.Base64Url.encode claims.bytes ++ "." ++
          String.ofList ((hexChars (hmacSha256 secret.key.toUTF8.toList claims.bytes)).set
            j c) := by
      rw [← String.toList_inj, toList_replaced]
      simp only [Digest.Base64Url.encode, String.toList_append,
        String.toList_ofList, List.append_assoc]
      rfl
    rw [hspelled]
    exact Text.IsPadded.refl _

variable (h : Carries secret bytes (replaced (sign secret claims) i c))

include h

theorem of_payload_replaced (hi : i < (encodeChars claims.bytes).length) (hne : c ≠ x) :
    bytes ≠ claims.bytes ∧
      hmacSha256 secret.key.toUTF8.toList bytes =
        hmacSha256 secret.key.toUTF8.toList claims.bytes := by
  obtain ⟨signature, hpoint, hsignature, htrim⟩ := h.trimChars_eq
  have hend : ∀ c ∈ (hexChars (hmacSha256 secret.key.toUTF8.toList claims.bytes)).reverse,
      isBlank c = false :=
    fun c hc => (Digest.isHexDigit_of_mem_hexChars (List.mem_reverse.mp hc)).not_blank
  rw [toList_sign, List.getElem?_append_left hi] at hx
  rw [replaced, String.toList_ofList, toList_sign, List.set_append_left _ _ hi,
    Text.trimChars_append_cons (by decide), Text.dropBlanks_eq_self hend,
    List.reverse_reverse] at htrim
  obtain ⟨epayload, -, rfl⟩ :=
    (List.append_cons_inj_of_notMem (not_point_mem_encodeChars bytes) hpoint).mp htrim.symm
  refine ⟨?_, ?_⟩
  · rintro rfl
    -- Blanks cut off at the front would make the payload shorter than it was.
    have hwhole : dropBlanks ((encodeChars claims.bytes).set i c) =
        (encodeChars claims.bytes).set i c :=
      (List.dropWhile_suffix isBlank).eq_of_length
        ((congrArg List.length epayload).symm.trans (List.length_set ..).symm)
    have hchar := List.getElem?_set_self (a := c) hi
    rw [← hwhole, ← epayload, hx] at hchar
    exact hne (Option.some.inj hchar).symm
  · rw [Digest.map_toLower_hexChars] at hsignature
    exact (Digest.hexChars_injective hsignature).symm

theorem of_signature_replaced (hi : (encodeChars claims.bytes).length < i) :
    bytes = claims.bytes ∧ c.toLower = x := by
  obtain ⟨signature, hpoint, hsignature, htrim⟩ := h.trimChars_eq
  obtain ⟨j, rfl⟩ := Nat.exists_eq_add_of_lt hi
  rw [getElem?_sign] at hx
  rw [toList_replaced, Text.trimChars_append_cons (by decide), Text.dropBlanks_eq_self fun c hc =>
      (Digest.Base64Url.isDigit_of_mem_encodeChars _ c hc).not_blank] at htrim
  obtain ⟨epayload, -, rfl⟩ :=
    (List.append_cons_inj_of_notMem (not_point_mem_encodeChars bytes) hpoint).mp htrim.symm
  obtain rfl := Digest.Base64Url.encodeChars_injective epayload
  refine ⟨rfl, ?_⟩
  -- Blanks cut off at the end would make the signature shorter than it was.
  have hlength := congrArg List.length hsignature
  rw [List.length_map, List.length_reverse] at hlength
  have hwhole := (List.dropWhile_suffix isBlank).eq_of_length
    (hlength.trans ((List.length_set ..).symm.trans (List.length_reverse ..).symm))
  have hj : j < (hexChars (hmacSha256 secret.key.toUTF8.toList claims.bytes)).length :=
    (List.getElem?_eq_some_iff.mp hx).1
  rw [← hsignature, dropBlanks, hwhole, List.reverse_reverse, List.getElem?_map,
    List.getElem?_set_self hj] at hx
  exact Option.some.inj hx

theorem ne_point_replaced (hne : c ≠ x) : i ≠ (encodeChars claims.bytes).length := by
  obtain ⟨signature, hpoint, hsignature, htrim⟩ := h.trimChars_eq
  rintro rfl
  rw [toList_sign, List.getElem?_append_right (Nat.le_refl _), Nat.sub_self,
    List.getElem?_cons_zero, Option.some.injEq] at hx
  subst hx
  have hmem : '.' ∈ trimChars (replaced (sign secret claims)
      (encodeChars claims.bytes).length c).toList := by
    rw [htrim]
    exact List.mem_append_right _ List.mem_cons_self
  have hmem' := Text.mem_of_mem_trimChars hmem
  rw [replaced, String.toList_ofList, toList_sign, List.set_append_right _ _ (Nat.le_refl _),
    Nat.sub_self, List.set_cons_zero, List.mem_append, List.mem_cons] at hmem'
  rcases hmem' with hpayload | rfl | hdigest
  · exact not_point_mem_encodeChars _ hpayload
  · exact hne rfl
  · exact (Digest.isHexDigit_of_mem_hexChars hdigest).ne_point rfl

end

/-- What is accepted either spells what was signed or carries other bytes under a signature of their
own. With one character replaced it is the former only by the case of a letter of the signature, and
the latter only if the two byte strings have one HMAC. -/
theorem not_malleable (secret : SigningSecret) (claims : Claims) :
    (∀ token claims', verify secret token = .ok claims' →
      Spells secret claims.bytes token ∨ ∃ bytes, bytes ≠ claims.bytes ∧
        Carries secret bytes token) ∧
    (∀ i x c claims', (sign secret claims).toList[i]? = some x → c ≠ x →
      verify secret (replaced (sign secret claims) i c) = .ok claims' →
        (encodeChars claims.bytes).length < i ∧ 'a' ≤ x ∧ x ≤ 'f' ∧ c = x.toUpper ∨
        i < (encodeChars claims.bytes).length ∧
          ∃ bytes, bytes ≠ claims.bytes ∧ Carries secret bytes (replaced (sign secret claims) i c) ∧
            hmacSha256 secret.key.toUTF8.toList bytes =
              hmacSha256 secret.key.toUTF8.toList claims.bytes) ∧
    ∀ i x c, (encodeChars claims.bytes).length < i → (sign secret claims).toList[i]? = some x →
      c.toLower ≠ x → ∃ e, verify secret (replaced (sign secret claims) i c) = .error e := by
  refine ⟨fun token claims' h => ?_, fun i x c claims' hx hne h => ?_, fun i x c hi hx hlower => ?_⟩
  · obtain ⟨bytes, hcarries, -, -⟩ := verify_eq_ok_iff.mp h
    by_cases hbytes : bytes = claims.bytes
    · subst hbytes
      exact Or.inl ((carries_iff_spells (bytes_ne_nil claims)).mp hcarries)
    · exact Or.inr ⟨bytes, hbytes, hcarries⟩
  · obtain ⟨bytes, hcarries, -, -⟩ := verify_eq_ok_iff.mp h
    rcases Nat.lt_trichotomy i (encodeChars claims.bytes).length with hbefore | hpoint | hbehind
    · obtain ⟨hbytes, hcollision⟩ := of_payload_replaced hx hcarries hbefore hne
      exact Or.inr ⟨hbefore, bytes, hbytes, hcarries, hcollision⟩
    · exact (ne_point_replaced hx hcarries hne hpoint).elim
    · exact Or.inl ⟨hbehind, (isHexDigit_of_signature hx hbehind).letter
        (of_signature_replaced hx hcarries hbehind).2 hne⟩
  · cases h : verify secret (replaced (sign secret claims) i c) with
    | error e => exact ⟨e, rfl⟩
    | ok claims' =>
      obtain ⟨bytes, hcarries, -, -⟩ := verify_eq_ok_iff.mp h
      exact (hlower (of_signature_replaced hx hcarries hi).2).elim

theorem not_malleable_letter :
    let secret : SigningSecret := ⟨"secret", by decide⟩
    let claims : Claims := ⟨"t", 1, 7, "o", 2, "u", 3⟩
    let token := sign secret claims
    token.toList[127]? = some 'e' ∧ verify secret (replaced token 127 'E') = .ok claims ∧
    (Spells secret claims.bytes (replaced token 127 'E') ∨
      ∃ bytes, bytes ≠ claims.bytes ∧ Carries secret bytes (replaced token 127 'E')) ∧
    ((encodeChars claims.bytes).length < 127 ∧ 'a' ≤ 'e' ∧ 'e' ≤ 'f' ∧ 'E' = 'e'.toUpper) ∧
    ∃ e, verify secret (replaced token 127 'f') = .error e := by
  intro secret claims token
  have hlength : (encodeChars claims.bytes).length = 126 := by decide +kernel
  have hdigit : (hexChars (hmacSha256 secret.key.toUTF8.toList claims.bytes))[0]? = some 'e' := by
    decide +kernel
  have hbehind : (encodeChars claims.bytes).length < 127 := by
    rw [hlength]
    decide
  have hx : token.toList[127]? = some 'e' := by
    have h := getElem?_sign secret claims 0
    rwa [hlength, hdigit] at h
  have hverified : verify secret (replaced token 127 'E') = .ok claims :=
    verify_eq_ok_iff.mpr ⟨claims.bytes, (carries_iff_spells (bytes_ne_nil claims)).mpr
      (spells_replaced hx hbehind (by decide)), Claims.ofBytes?_bytes claims, by decide⟩
  obtain ⟨haccepted, hreplaced, hrefused⟩ := not_malleable secret claims
  refine ⟨hx, hverified, haccepted _ _ hverified, ?_, hrefused _ _ _ hbehind hx (by decide)⟩
  rcases hreplaced _ _ _ _ hx (by decide) hverified with hletter | ⟨hbefore, -⟩
  · exact hletter
  · exact absurd hbefore (Nat.lt_asymm hbehind)

end EventTickets.Token
