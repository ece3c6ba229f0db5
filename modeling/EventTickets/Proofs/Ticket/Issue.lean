import EventTickets.Proofs.Service.Redemption
import EventTickets.Proofs.Service.Confirmation
import EventTickets.Proofs.Ticket.Token

/-!
# What an issued token opens

A token that was issued for a ticket is verified and agrees with the ticket. Check-in takes it for
that ticket and refuses it for any other.
-/

namespace EventTickets

/-- Whether a token can be issued at a time: after the first second of the epoch and, as every
reading of a clock, not past the latest time there is. -/
def Time.Instant.Stamps (t : Time.Instant) : Prop :=
  1 ≤ t.seconds ∧ t.seconds ≤ Time.Instant.maxSeconds

instance (t : Time.Instant) : Decidable t.Stamps := inferInstanceAs (Decidable (_ ∧ _))

/-- A ticket is for a user and an event of the platform and admits as many people as its tier
says. -/
structure Ticket.Proper (k : Ticket) : Prop where
  user : k.userId.isValid = true
  event : k.eventId.isValid = true
  quantity : k.quantity = k.ticketType.groupSize

/-- Whether a ticket has a token that was signed for it, and with it the digest of that token. -/
def Ticket.IsIssued (secret : SigningSecret) (k : Ticket) : Prop :=
  ∃ (nonce : String) (time : Time.Instant), time.Stamps ∧
    k.qrPayload = some (Token.sign secret (Claims.ofTicket k nonce time)) ∧
    k.qrPayloadHash = some (Token.digest (Token.sign secret (Claims.ofTicket k nonce time)))

namespace UuidId

variable {kind : UuidKind}

theorem text_injective {a b : UuidId kind} (h : a.text = b.text) : a = b := by
  obtain ⟨a⟩ := a
  obtain ⟨b⟩ := b
  exact congrArg UuidId.mk (Uuid.text_injective h)

theorem text_ne_blank (id : UuidId kind) : (Text.trim id.text).isEmpty = false := by
  have hchars : id.text.toList = id.uuid.chars := String.toList_ofList
  have hblank : ∀ c ∈ id.text.toList, Text.isBlank c = false := by
    rw [hchars]
    exact fun c hc => id.uuid.not_blank_of_mem_chars hc
  have hne : id.text.toList ≠ [] := by
    rw [hchars]
    exact id.uuid.chars_ne_nil
  rw [(Text.IsPadded.refl id.text).trim hblank]
  exact Text.isEmpty_of_ne_nil hne

end UuidId

namespace Claims

variable {k : Ticket} (nonce : String) (time : Time.Instant)

theorem toInt_quantity (k : Ticket) :
    (ofTicket k nonce time).quantity.toInt = k.quantity.toNat := by
  have hlt := k.quantity.toNat_lt
  exact Int64.toInt_ofNat_of_lt (by omega)

theorem mismatch?_ofTicket (k : Ticket) : (ofTicket k nonce time).mismatch? k = none := by
  have hid : (ofTicket k nonce time).ticketId = k.id.text := rfl
  have hevent : (ofTicket k nonce time).eventId = k.eventId.number := rfl
  have huser : (ofTicket k nonce time).userId = k.userId.number := rfl
  have htier : Text.sameIgnoringCase (ofTicket k nonce time).ticketType k.ticketType.name = true :=
    beq_self_eq_true _
  rw [mismatch?, if_neg (not_not_intro hid), if_neg (not_not_intro hevent),
    if_neg (not_not_intro huser), htier, if_neg (by decide),
    if_neg (not_not_intro (toInt_quantity nonce time k))]

theorem mismatch?_ofTicket_of_ne {k' : Ticket} (h : k'.id ≠ k.id) :
    (ofTicket k' nonce time).mismatch? k = some "ticketId" :=
  if_pos fun e => h (UuidId.text_injective e)

variable {time}

theorem missing?_ofTicket (hk : k.Proper) (ht : time.Stamps) :
    (ofTicket k nonce time).missing? = none := by
  have hid : ¬ (Text.trim (ofTicket k nonce time).ticketId).isEmpty = true :=
    Bool.eq_false_iff.mp k.id.text_ne_blank
  have hevent : ¬ (ofTicket k nonce time).eventId ≤ 0 :=
    Int64.not_le.mpr (of_decide_eq_true hk.event)
  have huser : ¬ (ofTicket k nonce time).userId ≤ 0 := Int64.not_le.mpr (of_decide_eq_true hk.user)
  have hquantity : ¬ (ofTicket k nonce time).quantity ≤ 0 := by
    rw [Int64.not_le, Int64.lt_iff_toInt_lt, toInt_quantity nonce time k, hk.quantity]
    cases k.ticketType <;> decide
  have hissuedAt : ¬ (ofTicket k nonce time).issuedAt ≤ 0 := by
    obtain ⟨hlow, hhigh⟩ := ht
    have hmax : Time.Instant.maxSeconds < 2 ^ 63 := by decide
    have hexact : (ofTicket k nonce time).issuedAt.toInt = time.seconds :=
      Int64.toInt_ofInt_of_le (by omega) (by omega)
    rw [Int64.not_le, Int64.lt_iff_toInt_lt, hexact]
    exact hlow
  rw [missing?, if_neg hid, if_neg hevent, if_neg huser, if_neg hquantity, if_neg hissuedAt]

end Claims

namespace Redemption

theorem authenticate_eq_ok_iff {secret : SigningSecret} {k : Ticket} {token : String} :
    authenticate secret k token = .ok () ↔
      ∃ claims, Token.verify secret token = .ok claims ∧ claims.mismatch? k = none ∧
        ∀ digest, k.qrPayloadHash = some digest → digest.isEmpty = false →
          digest = Token.digest token := by
  rw [authenticate]
  rcases Token.verify secret token with e | claims
  · simp [Except.mapError, bind, Except.bind]
  rcases hm : claims.mismatch? k with _ | field
  · rcases k.qrPayloadHash with _ | digest
    · simp [Except.mapError, bind, Except.bind, hm, pure, Except.pure]
    · by_cases hempty : digest = ""
      · simp [Except.mapError, bind, Except.bind, hm, hempty, pure, Except.pure]
      by_cases hdigest : digest = Token.digest token
      · simp [Except.mapError, bind, Except.bind, hm, pure, Except.pure, hdigest]
      · simp [Except.mapError, bind, Except.bind, hm, hempty, hdigest, throw, throwThe,
          MonadExceptOf.throw]
  · simp [Except.mapError, bind, Except.bind, hm, throw, throwThe, MonadExceptOf.throw]

theorem authenticate_eq_error_of_mismatch {secret : SigningSecret} {k : Ticket}
    {token field : String} {claims : Claims} (hv : Token.verify secret token = .ok claims)
    (hm : claims.mismatch? k = some field) :
    authenticate secret k token = .error (.tokenMismatch (.field field)) := by
  simp [authenticate, hv, hm, Except.mapError, bind, Except.bind, throw, throwThe,
    MonadExceptOf.throw]

end Redemption

namespace Ticket

variable {secret : SigningSecret} {k : Ticket}

theorem isIssued_issue (k : Ticket) (secret : SigningSecret) {now : Time.Instant}
    (h : now.Stamps) (nonce : String) :
    (k.issue secret now nonce).IsIssued secret := ⟨nonce, now, h, rfl, rfl⟩

theorem IsIssued.redeem (h : k.IsIssued secret) (operator : OperatorId) (now : Time.Instant) :
    (k.redeem operator now).IsIssued secret := h

theorem Proper.issue (h : k.Proper) (secret : SigningSecret) (now : Time.Instant) (nonce : String) :
    (k.issue secret now nonce).Proper := ⟨h.user, h.event, h.quantity⟩

theorem Proper.redeem (h : k.Proper) (operator : OperatorId) (now : Time.Instant) :
    (k.redeem operator now).Proper :=
  ⟨h.user, h.event, h.quantity⟩

variable {token : String}

theorem IsIssued.verify (h : k.IsIssued secret) (hk : k.Proper) (htoken : k.qrPayload = some token)
    {presented : String} (hpresented : Text.IsPadded token presented) :
    ∃ nonce time, Token.verify secret presented = .ok (Claims.ofTicket k nonce time) := by
  obtain ⟨nonce, time, ht, hpayload, -⟩ := h
  cases htoken.symm.trans hpayload
  refine ⟨nonce, time, ?_⟩
  rw [Token.verify_sign hpresented, Claims.missing?_ofTicket nonce hk ht]

theorem IsIssued.digest (h : k.IsIssued secret) (htoken : k.qrPayload = some token) :
    k.qrPayloadHash = some (Token.digest token) := by
  obtain ⟨nonce, time, -, hpayload, hhash⟩ := h
  cases htoken.symm.trans hpayload
  exact hhash

theorem IsIssued.nonBlank? (h : k.IsIssued secret) (htoken : k.qrPayload = some token)
    {presented : String} (hpresented : Text.IsPadded token presented) :
    Text.nonBlank? presented = some token := by
  obtain ⟨nonce, time, -, hpayload, -⟩ := h
  cases htoken.symm.trans hpayload
  exact hpresented.nonBlank? (Token.not_blank_sign _ _) (Token.sign_ne_nil _ _)

theorem IsIssued.authenticate_own (h : k.IsIssued secret) (hk : k.Proper)
    (htoken : k.qrPayload = some token) : Redemption.authenticate secret k token = .ok () := by
  obtain ⟨nonce, time, hverify⟩ := h.verify hk htoken (.refl token)
  refine Redemption.authenticate_eq_ok_iff.mpr
    ⟨_, hverify, Claims.mismatch?_ofTicket nonce time k, fun digest hdigest _ => ?_⟩
  exact Option.some.inj (hdigest.symm.trans (h.digest htoken))

theorem IsIssued.sha256_of_authenticate (h : k.IsIssued secret) (htoken : k.qrPayload = some token)
    {presented : String} (ha : Redemption.authenticate secret k presented = .ok ()) :
    Digest.sha256 presented.toUTF8.toList = Digest.sha256 token.toUTF8.toList := by
  obtain ⟨claims, -, -, hdigest⟩ := Redemption.authenticate_eq_ok_iff.mp ha
  exact (Digest.hex_injective (hdigest _ (h.digest htoken) (Token.digest_ne_empty token))).symm

theorem IsIssued.authenticate_other (h : k.IsIssued secret) (hk : k.Proper)
    (htoken : k.qrPayload = some token) {k' : Ticket} (hne : k.id ≠ k'.id) :
    Redemption.authenticate secret k' token = .error (.tokenMismatch (.field "ticketId")) := by
  obtain ⟨nonce, time, hverify⟩ := h.verify hk htoken (.refl token)
  exact Redemption.authenticate_eq_error_of_mismatch hverify
    (Claims.mismatch?_ofTicket_of_ne nonce time hne)

end Ticket

end EventTickets
