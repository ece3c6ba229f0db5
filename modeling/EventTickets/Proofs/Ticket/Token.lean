import EventTickets.Proofs.Digest.Text
import EventTickets.Proofs.Text.Blank
import EventTickets.Proofs.Ticket.Claims
import EventTickets.Ticket.Token

/-!
# Signed tokens are verified

A token that was signed is read back as its claims, with blanks around it or without. Only claims
that lack what every token needs are refused.
-/

namespace EventTickets.Token

open Text (isBlank)

variable (secret : SigningSecret) (claims : Claims)

theorem bytes_ne_nil : claims.bytes ≠ [] := by
  rw [Claims.bytes_eq, JsonSource.bytesOf_obj]
  exact List.cons_ne_nil _ _

theorem toList_sign :
    (sign secret claims).toList =
      Digest.Base64Url.encodeChars claims.bytes ++ '.' ::
        Digest.hexChars (Digest.hmacSha256 secret.key.toUTF8.toList claims.bytes) := by
  simp only [sign, SigningSecret.signature, Digest.hex, Digest.Base64Url.encode,
    String.toList_append, String.toList_ofList, List.append_assoc]
  rfl

theorem not_blank_sign : ∀ c ∈ (sign secret claims).toList, isBlank c = false := by
  rw [toList_sign]
  refine List.forall_mem_append.mpr ⟨fun c hc => ?_,
    List.forall_mem_cons.mpr ⟨by decide, fun c hc => ?_⟩⟩
  · exact (Digest.Base64Url.isDigit_of_mem_encodeChars _ c hc).not_blank
  · exact (Digest.isHexDigit_of_mem_hexChars hc).not_blank

theorem sign_ne_nil : (sign secret claims).toList ≠ [] := by
  rw [toList_sign]
  simp

theorem lower_signature :
    Text.lower (secret.signature claims.bytes) = secret.signature claims.bytes := by
  rw [SigningSecret.signature, Digest.hex, Text.lower, String.toList_ofList,
    Digest.map_toLower_hexChars]

section

variable {secret claims} {token : String} (htoken : Text.IsPadded (sign secret claims) token)

include htoken

theorem parts?_sign :
    parts? token = some (Digest.Base64Url.encode claims.bytes, secret.signature claims.bytes) := by
  have htrim := htoken.trimChars (not_blank_sign secret claims)
  have hpayload : ∀ c ∈ Digest.Base64Url.encodeChars claims.bytes, decide (c ≠ '.') = true :=
    fun c hc =>
    decide_eq_true (Digest.Base64Url.isDigit_of_mem_encodeChars _ c hc).ne_point
  have hsignature : ¬ '.' ∈ Digest.hexChars
      (Digest.hmacSha256 secret.key.toUTF8.toList claims.bytes) := fun hc =>
    (Digest.isHexDigit_of_mem_hexChars hc).ne_point rfl
  obtain ⟨p, payload, hp⟩ := List.exists_cons_of_ne_nil
    (Digest.Base64Url.encodeChars_ne_nil (bytes_ne_nil claims))
  have hdigest : Digest.hmacSha256 secret.key.toUTF8.toList claims.bytes ≠ [] :=
    List.ne_nil_of_length_pos (by rw [Digest.hmacSha256, Digest.length_sha256]; decide)
  obtain ⟨s, signature, hs⟩ := List.exists_cons_of_ne_nil (mt Digest.hexChars_eq_nil_iff.mp hdigest)
  rw [parts?, htrim, toList_sign, Digest.Base64Url.encode, SigningSecret.signature, Digest.hex]
  rw [List.takeWhile_append_of_pos hpayload, List.dropWhile_append_of_pos hpayload, hp, hs]
  rw [hs] at hsignature
  simp [hsignature]

theorem verify_sign :
    verify secret token =
      match claims.missing? with
      | some claim => .error (.malformed (.missing claim))
      | none => .ok claims := by
  rw [verify, parts?_sign htoken]
  simp only [Digest.Base64Url.decode?_encode, Claims.ofBytes?_bytes]
  rw [if_neg (not_not_intro (lower_signature secret claims).symm)]
  rfl

end

theorem digest_ne_empty (token : String) : (digest token).isEmpty = false := by
  refine Text.isEmpty_of_ne_nil ?_
  rw [digest, Digest.hex, String.toList_ofList, ne_eq, Digest.hexChars_eq_nil_iff]
  exact List.ne_nil_of_length_pos (by rw [Digest.length_sha256]; decide)

end EventTickets.Token
