import EventTickets.Digest.Sha256
import EventTickets.Digest.Text
import EventTickets.Ticket.Claims

/-!
# Signed tokens

A token is the base64 form of the claims' bytes, a point, and the hexadecimal HMAC of those very
bytes. Verification looks at the shape, the base64 form, the signature, the JSON text and the
required claims, in this order, and never writes the claims anew.
-/

namespace EventTickets

inductive TokenDefect where
  | shape
  | base64
  | json
  | missing (claim : String)
  | other (detail : String)
  deriving DecidableEq

namespace TokenDefect

def text : TokenDefect → String
  | .shape => "expected <payload>.<signature>"
  | .base64 => "<base64>"
  | .json => "<json>"
  | .missing claim => "missing " ++ claim
  | .other detail => detail

end TokenDefect

inductive TokenError where
  | missingSecret
  | malformed (defect : TokenDefect)
  | badSignature
  | unencodable (detail : String)
  deriving DecidableEq

namespace TokenError

def message : TokenError → String
  | .missingSecret => "ticket signing secret is not configured"
  | .malformed defect => "malformed ticket token: " ++ defect.text
  | .badSignature => "ticket token signature mismatch"
  | .unencodable detail => "failed to encode ticket payload: " ++ detail

end TokenError

/-- The key of all tokens; never blank. -/
structure SigningSecret where
  key : String
  key_ne : key.isEmpty = false

namespace SigningSecret

def ofText (s : String) : Except TokenError SigningSecret :=
  if h : (Text.trim s).isEmpty = false then .ok ⟨Text.trim s, h⟩ else .error .missingSecret

def redacted (_ : SigningSecret) : String := "SigningSecret(**redacted**)"

def signature (secret : SigningSecret) (bytes : Bytes) : String :=
  Digest.hex (Digest.hmacSha256 secret.key.toUTF8.toList bytes)

end SigningSecret

namespace Token

def sign (secret : SigningSecret) (claims : Claims) : String :=
  Digest.Base64Url.encode claims.bytes ++ "." ++ secret.signature claims.bytes

def parts? (token : String) : Option (String × String) :=
  let cs := Text.trimChars token.toList
  match cs.takeWhile (· ≠ '.'), cs.dropWhile (· ≠ '.') with
  | p :: payload, _ :: s :: signature =>
    if (s :: signature).contains '.' then none
    else some (String.ofList (p :: payload), String.ofList (s :: signature))
  | _, _ => none

def verify (secret : SigningSecret) (token : String) : Except TokenError Claims := do
  let some (payload, signature) := parts? token | throw (.malformed .shape)
  let some bytes := Digest.Base64Url.decode? payload | throw (.malformed .base64)
  if secret.signature bytes ≠ Text.lower signature then throw .badSignature
  let some claims := Claims.ofBytes? bytes | throw (.malformed .json)
  match claims.missing? with
  | some claim => throw (.malformed (.missing claim))
  | none => return claims

/-- Kept beside a ticket to recognise the one token issued for it. -/
def digest (token : String) : String := Digest.hex (Digest.sha256 token.toUTF8.toList)

end Token

end EventTickets
