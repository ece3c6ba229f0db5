import EventTickets.Service.Request

/-!
# Store faults

A fault waits for the next store call of a name. That call is not made; it fails with the fault, or
answers with nothing. A commit or rollback that was not made leaves no transaction open.
-/

namespace EventTickets

inductive FaultKind where
  | empty
  | database
  | decode
  deriving DecidableEq

namespace FaultKind

def ofName (s : String) : FaultKind :=
  if s = "empty" then .empty else if s = "decode" then .decode else .database

end FaultKind

structure Fault where
  call : String
  kind : FaultKind
  message : String
  deriving DecidableEq

namespace Fault

def reply (fault : Fault) (c : StoreCall) : Except StoreError c.Reply :=
  match fault.kind with
  | .database => .error (.database fault.message)
  | .decode => .error (.decode "row" fault.message)
  | .empty =>
    match c.emptyReply? with
    | some r => .ok r
    | none => .error (.database fault.message)

def endsTransaction : StoreCall → Bool
  | .commit => true
  | .rollback => true
  | _ => false

def take? (name : String) : List Fault → Option (Fault × List Fault)
  | [] => none
  | fault :: rest =>
    if fault.call = name then some (fault, rest)
    else (take? name rest).map fun (found, others) => (found, fault :: others)

def answer {σ : Type} (inner : (r : Request) → StateM σ r.Reply) :
    (r : Request) → StateM (σ × List Fault) r.Reply
  | .store c => fun (s, faults) =>
    match c.name?.bind (take? · faults) with
    | some (fault, rest) =>
      let s := if endsTransaction c then (inner (.store .abandon) s).2 else s
      (fault.reply c, (s, rest))
    | none =>
      let (reply, s) := inner (.store c) s
      (reply, (s, faults))
  | r => fun (s, faults) =>
    let (reply, s) := inner r s
    (reply, (s, faults))

end Fault

end EventTickets
