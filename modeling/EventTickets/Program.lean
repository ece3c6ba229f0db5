/-!
# Programs that make calls

A signature says which calls there are and what each is answered with. A program over it either has
its result or makes one call and goes on with the answer. What the calls do is left to whoever runs
the program: the same program works on tables in memory and on a database.
-/

namespace EventTickets

structure Signature where
  Call : Type
  Reply : Call → Type

inductive Program (S : Signature) (α : Type) where
  | done (result : α)
  | call (c : S.Call) (next : S.Reply c → Program S α)

namespace Program

variable {S : Signature} {α β : Type}

protected def bind : Program S α → (α → Program S β) → Program S β
  | .done a, f => f a
  | .call c next, f => .call c fun reply => (next reply).bind f

instance : Monad (Program S) where
  pure := .done
  bind := Program.bind

def perform (c : S.Call) : Program S (S.Reply c) := .call c .done

/-- Runs a program in any monad in which its calls can be answered. -/
def run {m : Type → Type} [Monad m] (answer : (c : S.Call) → m (S.Reply c)) : Program S α → m α
  | .done a => pure a
  | .call c next => answer c >>= fun reply => (next reply).run answer

theorem run_bind {m : Type → Type} [Monad m] [LawfulMonad m] (answer : (c : S.Call) → m (S.Reply c))
    (p : Program S α) (f : α → Program S β) :
    (p >>= f).run answer = p.run answer >>= fun a => (f a).run answer := by
  induction p with
  | done a => exact (pure_bind a fun a => (f a).run answer).symm
  | call c next ih =>
    exact (congrArg (answer c >>= ·) (funext ih)).trans (bind_assoc (answer c) _ _).symm

end Program

end EventTickets
