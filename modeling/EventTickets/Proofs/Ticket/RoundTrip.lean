import EventTickets.Proofs.Ticket.Token

/-!
# Signing and verifying are inverse to each other

Over all claims, whatever texts and integers they hold: a signed token is verified to the very
claims it was made from, or refused for the first claim that a token must have and this one has not.
Blanks around a token are never seen, and no two sets of claims share a token.
-/

namespace EventTickets

open Text (isBlank)

namespace Claims

/-- What every token must have, in the order in which it is asked for. -/
def required (claims : Claims) : List (String × Bool) := [
  ("ticketId", claims.ticketId.toList.any (!isBlank ·)),
  ("eventId", decide (0 < claims.eventId.toInt)),
  ("userId", decide (0 < claims.userId.toInt)),
  ("quantity", decide (0 < claims.quantity.toInt)),
  ("issuedAt", decide (0 < claims.issuedAt.toInt))]

def lacking? (claims : Claims) : Option String := (claims.required.find? (!·.2)).map (·.1)

theorem le_zero_iff (n : Int64) : n ≤ 0 ↔ (!decide (0 < n.toInt)) = true := by
  rw [Int64.le_iff_toInt_le, Bool.not_eq_true', decide_eq_false_iff_not]
  exact Int.not_lt.symm

theorem missing?_eq_lacking? (claims : Claims) : claims.missing? = claims.lacking? := by
  have hblank : (Text.trim claims.ticketId).isEmpty = !claims.ticketId.toList.any (!isBlank ·) := by
    rw [Text.trim_isEmpty, List.all_eq_not_any_not]
  simp only [missing?, lacking?, required, hblank, le_zero_iff, List.find?_cons, List.find?_nil]
  repeat' split
  all_goals simp_all

end Claims

namespace Token

theorem parts?_eq_of_padded {token padded : String} (h : Text.IsPadded token padded) :
    parts? padded = parts? token := by
  rw [parts?, parts?, h.trimChars_eq]

theorem verify_eq_of_padded (secret : SigningSecret) {token padded : String}
    (h : Text.IsPadded token padded) : verify secret padded = verify secret token := by
  rw [verify, verify, parts?_eq_of_padded h]

theorem eq_of_sign_eq {secret secret' : SigningSecret} {claims claims' : Claims}
    (h : sign secret claims = sign secret' claims') : claims = claims' := by
  have hparts := parts?_sign (Text.IsPadded.refl (sign secret claims))
  rw [h, parts?_sign (Text.IsPadded.refl _), Option.some.injEq, Prod.mk.injEq] at hparts
  have hbytes := congrArg Digest.Base64Url.decode? hparts.1
  rw [Digest.Base64Url.decode?_encode, Digest.Base64Url.decode?_encode, Option.some.injEq] at hbytes
  have hclaims := congrArg Claims.ofBytes? hbytes
  rw [Claims.ofBytes?_bytes, Claims.ofBytes?_bytes, Option.some.injEq] at hclaims
  exact hclaims.symm

/-- Verifying gives back what was signed, or names the first requirement that it does not meet;
blanks around a token are not seen, and the claims can be had from the token alone. -/
theorem sign_round_trip (secret : SigningSecret) (claims : Claims) :
    (∀ padded, Text.IsPadded (sign secret claims) padded →
      verify secret padded =
        match claims.lacking? with
        | none => .ok claims
        | some claim => .error (.malformed (.missing claim))) ∧
    (∀ claim, (TokenDefect.missing claim).text = "missing " ++ claim) ∧
    (∀ token padded, Text.IsPadded token padded → verify secret padded = verify secret token) ∧
    ∀ secret' claims', claims' ≠ claims → sign secret' claims' ≠ sign secret claims := by
  refine ⟨fun padded hpadded => ?_, fun _ => rfl, fun _ _ => verify_eq_of_padded secret,
    fun _ _ => mt eq_of_sign_eq⟩
  rw [verify_sign hpadded, Claims.missing?_eq_lacking?]
  cases claims.lacking? <;> rfl

theorem sign_round_trip_odd_texts :
    let secret : SigningSecret := ⟨"secret", by decide⟩
    let claims : Claims := ⟨"\"\\\n", 1, 7, "😀", 2, "", 3⟩
    let negative : Claims := { claims with userId := Int64.minValue }
    (∃ c ∈ claims.ticketId.toList, isBlank c = false) ∧
    verify secret (" " ++ sign secret claims ++ "\n") = .ok claims ∧
    verify secret (sign secret negative) = .error (.malformed (.missing "userId")) ∧
    sign secret negative ≠ sign secret claims := by
  intro secret claims negative
  have hpadded : Text.IsPadded (sign secret claims) (" " ++ sign secret claims ++ "\n") :=
    ⟨" ", "\n", List.forall_mem_singleton.mpr rfl, List.forall_mem_singleton.mpr rfl, rfl⟩
  have hmet : claims.lacking? = none := by decide
  have hlacking : negative.lacking? = some "userId" := by decide
  refine ⟨⟨'"', by decide, rfl⟩, ?_, ?_, ?_⟩
  · rw [(sign_round_trip secret claims).1 _ hpadded, hmet]
  · rw [(sign_round_trip secret negative).1 _ (Text.IsPadded.refl _), hlacking]
  · exact (sign_round_trip secret claims).2.2.2 _ _ (by decide)

end Token

end EventTickets
