import EventTickets.Digest.Sha256
import EventTickets.Sources

/-!
# Sources from a seed

Identifiers and nonces that nobody can foretell who does not know the seed: digests of the seed, a
label and counters. Identifiers are marked as random ones, of version 4.
-/

namespace EventTickets

namespace Sources

def counterBytes (n : Nat) : List UInt8 :=
  (List.range 8).map fun i => UInt8.ofNat (n >>> (8 * (7 - i)))

def seededBytes (seed : List UInt8) (label : UInt8) (k size : Nat) : List UInt8 :=
  ((List.range (size / 32 + 1)).flatMap fun i =>
    Digest.sha256 (seed ++ label :: counterBytes k ++ counterBytes i)).take size

def markRandom (bytes : List UInt8) : List UInt8 :=
  (bytes.modify 6 fun b => b &&& 0x0F ||| 0x40).modify 8 fun b => b &&& 0x3F ||| 0x80

def seededId (seed : List UInt8) (k : Nat) : Uuid :=
  ⟨BitVec.ofNat 128 ((markRandom (seededBytes seed 1 k 16)).foldl (fun n b => n * 256 + b.toNat) 0)⟩

def seeded (clock : Clock) (seed : List UInt8) : Sources :=
  ⟨clock, .ofSequence (seededId seed), .ofSequence (seededBytes seed 2)⟩

end Sources

end EventTickets
