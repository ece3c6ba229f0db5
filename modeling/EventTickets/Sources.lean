import EventTickets.Digest.Text
import EventTickets.Time.Instant
import EventTickets.Uuid

/-!
# Time and chance

Whatever does not follow from the request comes from three supplies: readings of the clock, new
identifiers and the bytes of nonces. A supply is an endless sequence together with how much of it is
taken.
-/

namespace EventTickets

open Time (Instant)

structure Supply (α : Type) where
  item : Nat → α
  taken : Nat

namespace Supply

def ofSequence {α : Type} (item : Nat → α) : Supply α := ⟨item, 0⟩

def draw {α : Type} : StateM (Supply α) α := fun s => (s.item s.taken,
    { s with taken := s.taken + 1 })

end Supply

abbrev Clock := Supply Instant

namespace Clock

def fixed (time : Instant) : Clock := .ofSequence fun _ => time

def stepping (start : Instant) : Clock := .ofSequence start.addSeconds

end Clock

abbrev NonceSource := Supply (Nat → List UInt8)

structure Sources where
  clock : Clock
  ids : Supply Uuid
  nonces : NonceSource

namespace Sources

def now : StateM Sources Instant := fun s =>
  let (time, clock) := s.clock.draw
  (time, { s with clock := clock })

def newId : StateM Sources Uuid := fun s =>
  let (id, ids) := s.ids.draw
  (id, { s with ids := ids })

def minNonceBytes : Nat := 16

def newNonce (size : Nat) : StateM Sources String := fun s =>
  let (bytes, nonces) := s.nonces.draw
  (Digest.Base64Url.encode (bytes (max size minNonceBytes)), { s with nonces := nonces })

/-- Identifiers that count from one. The leading byte moves on by `step` each time, so that the
order of identifiers differs from the order in which they were drawn. -/
def countedId (step k : Nat) : Uuid :=
  let n := k + 1
  ⟨BitVec.ofNat 8 (n * step) ++ 0x0000000000400080000000#88 ++ BitVec.ofNat 32 n⟩

def countedNonce (step k size : Nat) : List UInt8 :=
  let n := k + 1
  UInt8.ofNat (n * step % 256) :: List.replicate (size - 5) 0 ++
    [UInt8.ofNat (n >>> 24), UInt8.ofNat (n >>> 16), UInt8.ofNat (n >>> 8), UInt8.ofNat n]

def counted (clock : Clock) (step : Nat) : Sources :=
  ⟨clock, .ofSequence (countedId step), .ofSequence (countedNonce step)⟩

end Sources

end EventTickets
