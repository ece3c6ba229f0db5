import EventTickets.Time.Calendar

/-!
# Instants

An instant counts seconds from 1970-01-01T00:00:00Z and nanoseconds within the second. Nanoseconds
of a billion and more belong to a leap second, which follows its second and precedes the next one.
-/

namespace EventTickets.Time

structure Instant where
  seconds : Int
  nanos : Nat
  deriving DecidableEq

namespace Instant

def epoch : Instant := ⟨0, 0⟩

instance : LT Instant := ⟨fun a b => a.seconds < b.seconds ∨
    (a.seconds = b.seconds ∧ a.nanos < b.nanos)⟩

instance : LE Instant := ⟨fun a b => a.seconds < b.seconds ∨
    (a.seconds = b.seconds ∧ a.nanos ≤ b.nanos)⟩

instance (a b : Instant) : Decidable (a < b) :=
  inferInstanceAs (Decidable (a.seconds < b.seconds ∨ (a.seconds = b.seconds ∧ a.nanos < b.nanos)))

instance (a b : Instant) : Decidable (a ≤ b) :=
  inferInstanceAs (Decidable (a.seconds < b.seconds ∨ (a.seconds = b.seconds ∧ a.nanos ≤ b.nanos)))

theorem lt_iff (a b : Instant) :
    a < b ↔ a.seconds < b.seconds ∨ (a.seconds = b.seconds ∧ a.nanos < b.nanos) := Iff.rfl

theorem le_iff (a b : Instant) :
    a ≤ b ↔ a.seconds < b.seconds ∨ (a.seconds = b.seconds ∧ a.nanos ≤ b.nanos) := Iff.rfl

theorem not_lt {a b : Instant} : ¬ a < b ↔ b ≤ a := by
  rw [lt_iff, le_iff]; omega

/-- Moves forward by whole seconds; a leap second is left at the first of them. -/
def addSeconds (t : Instant) (n : Nat) : Instant :=
  if n = 0 then t else ⟨t.seconds + n, t.nanos % 1000000000⟩

def minSeconds : Int := (CivilDate.mk (-262143) 1 1).toDays * 86400

def maxSeconds : Int := (CivilDate.mk 262142 12 31).toDays * 86400 + 86399

end Instant

end EventTickets.Time
