import EventTickets.Sql.Connection
import Mathlib.Data.List.Infix

/-!
# Statements and their answers

What a statement of a transaction does is told by the first word of its text. An answer to it is a
failure if the server refuses it, if a row cannot be read as what was asked for, or if a write that
is to concern one row concerns another number of rows.
-/

namespace EventTickets.Sql

def Reading.failure? {α : Type} : Reading α → Option StoreError
  | .ok _ => none
  | .error e => some e

namespace Row

def unredeemed (row : Row) : Reading Nat := do
  let count : Int64 ← row.first
  if count < 0 then throw (.decode "ticket_count" (toString count.toInt))
  return count.toInt.toNat

def lockedTicket (row : Row) : Reading LockedTicket := do
  let ticket ← row.ticket
  match ticket.orderStatus with
  | some status => return ⟨ticket, status⟩
  | none => throw (.decode "ticket" "order status missing")

end Row

namespace Outcome

variable {α : Type} (o : Outcome) (read : Row → Reading α)

def first? : Reading (Option α) :=
  match o.rows with
  | [] => .ok none
  | row :: _ => some <$> read row

def one : Reading α :=
  match o.rows with
  | [] => .error Asking.noRow
  | row :: _ => read row

def all : Reading (List α) := o.rows.mapM read

def anyRow (absent : StoreError) : Reading Unit := if o.affected = 0 then .error absent else .ok ()

end Outcome

namespace Statement

def Begins (word : String) (s : Statement) : Prop := word.toList <+: s.text.toList

def Writes (s : Statement) : Prop := s.Begins "INSERT" ∨ s.Begins "UPDATE"

def Selects : Statement → Prop
  | .eventTitle _ => True
  | .lockTicketProduct _ => True
  | .lockTransferProduct _ => True
  | .lockPromoByCode _ => True
  | .lockOrder _ => True
  | .lockOrderItems _ => True
  | .lockOrderTickets _ => True
  | .lockOrderOfTicket _ => True
  | .lockTicket _ => True
  | .countUnredeemed _ => True
  | .order _ => True
  | .orderItems _ => True
  | .orderTickets _ => True
  | .purchaser _ => True
  | _ => False

theorem begins_eq {word text : String} (rest : String) (h : text = word ++ rest) :
    word.toList <+: text.toList := by
  rw [h, String.toList_append]
  exact List.prefix_append _ _

theorem begins_append {word a : String} (h : word.toList <+: a.toList) (b : String) :
    word.toList <+: (a ++ b).toList := by
  rw [String.toList_append]
  exact h.trans (List.prefix_append _ _)

theorem Selects.begins {s : Statement} (h : s.Selects) : s.Begins "SELECT" := by
  have hselect : "SELECT".toList <+: "SELECT ".toList := begins_eq " " rfl
  cases s with
  | eventTitle event => exact begins_eq " title FROM events WHERE id = $1" rfl
  | lockTicketProduct id => exact begins_append (begins_append hselect _) _
  | lockTransferProduct id => exact begins_append (begins_append hselect _) _
  | lockPromoByCode code => exact begins_append (begins_append hselect _) _
  | lockOrder id => exact begins_append (begins_append (begins_append hselect _) _) _
  | lockOrderItems order => exact begins_append (begins_append hselect _) _
  | lockOrderTickets order => exact begins_append (begins_append (begins_append hselect _) _) _
  | lockOrderOfTicket ticket =>
    exact begins_eq
      " o.id FROM orders o JOIN tickets t ON t.order_id = o.id WHERE t.id = $1 FOR UPDATE OF o" rfl
  | lockTicket id => exact begins_append (begins_append (begins_append hselect _) _) _
  | countUnredeemed order =>
    exact begins_eq " count(*) FROM tickets WHERE order_id = $1 AND redeemed_at IS NULL" rfl
  | order id => exact begins_append (begins_append (begins_append hselect _) _) _
  | orderItems order => exact begins_append (begins_append hselect _) _
  | orderTickets order => exact begins_append (begins_append (begins_append hselect _) _) _
  | purchaser user => exact begins_append (begins_append hselect _) _
  | _ => exact h.elim

theorem begins_unique {s : Statement} {word word' : String} (h : s.Begins word)
    (h' : s.Begins word') (hlength : word.toList.length = word'.toList.length) : word = word' := by
  have hprefix := List.prefix_of_prefix_length_le h h' (Nat.le_of_eq hlength)
  exact String.toList_injective (List.IsPrefix.eq_of_length hprefix hlength)

theorem Selects.not_writes {s : Statement} (h : s.Selects) : ¬ s.Writes := by
  rintro (hwrites | hwrites)
  · exact absurd (begins_unique h.begins hwrites (by decide)) (by decide)
  · exact absurd (begins_unique h.begins hwrites (by decide)) (by decide)

theorem rollback_not_writes : ¬ Statement.rollback.Writes := by
  have hinsert : ¬ "INSERT".toList <+: "ROLLBACK".toList := by decide +kernel
  have hupdate : ¬ "UPDATE".toList <+: "ROLLBACK".toList := by decide +kernel
  rintro (h | h)
  · exact hinsert h
  · exact hupdate h

def unfit? : Statement → Outcome → Option StoreError
  | .eventTitle _, o => (o.first? (Row.first : Row → Reading String)).failure?
  | .lockTicketProduct _, o => (o.first? Row.ticketProduct).failure?
  | .lockTransferProduct _, o => (o.first? Row.transferProduct).failure?
  | .lockPromoByCode _, o => (o.first? Row.promoCode).failure?
  | .lockOrder _, o => (o.first? Row.order).failure?
  | .lockOrderItems _, o => (o.all Row.orderItem).failure?
  | .lockOrderTickets _, o => (o.all Row.ticket).failure?
  | .lockTicket _, o => (o.first? Row.lockedTicket).failure?
  | .countUnredeemed _, o => (o.one Row.unredeemed).failure?
  | .order _, o => (o.first? Row.order).failure?
  | .orderItems _, o => (o.all Row.orderItem).failure?
  | .orderTickets _, o => (o.all Row.ticket).failure?
  | .purchaser _, o => (o.first? Row.purchaser).failure?
  | .issueToken ticket _, o =>
    (o.anyRow (.database ("ticket " ++ ticket.text ++ " vanished"))).failure?
  | _, _ => none

/-- The guarded writes apply if they concern one row. -/
def Refuses : Statement → Outcome → Prop
  | .consumePromo _, o => o.affected ≠ 1
  | .reserve _ _ _, o => o.affected ≠ 1
  | .transition _ _, o => o.affected ≠ 1
  | .markRedeemed _ _ _, o => o.affected ≠ 1
  | _, _ => False

def failure? (s : Statement) : Answer → Option StoreError
  | .error e => some e.storeError
  | .ok o => s.unfit? o

/-- Answers to a statement after which its transaction may not go on. -/
def Failed (s : Statement) (answer : Answer) : Prop :=
  (s.failure? answer).isSome ∨ ∃ o, answer = .ok o ∧ s.Refuses o

end Statement

end EventTickets.Sql
