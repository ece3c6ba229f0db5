import EventTickets.Store.Error

/-!
# Lock ledger

Keeps the latest stage a transaction has locked. The same stage may be locked again; an earlier one
is refused, and the ledger stays as it was.
-/

namespace EventTickets

structure LockLedger where
  held : Option LockStage
  deriving DecidableEq

namespace LockLedger

def empty : LockLedger := ⟨none⟩

def acquire (ledger : LockLedger) (stage : LockStage) : Except StoreError LockLedger :=
  match ledger.held with
  | some held => if stage.rank < held.rank then .error (.lockOrder held stage) else .ok ⟨some stage⟩
  | none => .ok ⟨some stage⟩

def Admits (ledger : LockLedger) (stage : LockStage) : Prop :=
  ∀ held, ledger.held = some held → held.rank ≤ stage.rank

@[simp] theorem empty_admits (stage : LockStage) : empty.Admits stage := by
  simp [Admits, empty]

@[simp] theorem some_admits (held stage : LockStage) :
    (LockLedger.mk (some held)).Admits stage ↔ held.rank ≤ stage.rank := by
  simp [Admits]

theorem Admits.mono {ledger : LockLedger} {stage stage' : LockStage} (h : ledger.Admits stage)
    (hr : stage.rank ≤ stage'.rank) : ledger.Admits stage' :=
  fun held hheld => Nat.le_trans (h held hheld) hr

theorem acquire_of_admits {ledger : LockLedger} {stage : LockStage} (h : ledger.Admits stage) :
    ledger.acquire stage = .ok ⟨some stage⟩ := by
  rcases ledger with ⟨_ | held⟩
  · rfl
  · simp [acquire, Nat.not_lt.mpr (some_admits _ _ |>.mp h)]

end LockLedger

end EventTickets
