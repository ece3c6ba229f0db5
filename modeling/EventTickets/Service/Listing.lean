import EventTickets.Service.Request

/-!
# Reading orders, tickets and sales
-/

namespace EventTickets

def orderDetail (id : OrderId) (withPurchaser : Bool) : Service OrderDetail := do
  Service.demand (.orderNotFound id) (← Service.store (.orderDetail id withPurchaser))

def listOrders (query : OrderQuery) : Service (Page OrderSummary) :=
  Service.store (.listOrders query.normalized)

def listUserOrders (user : UserId) (limit offset : UInt32) : Service (Page OrderSummary) :=
  if user.isValid then Service.store (.listUserOrders user (OrderQuery.normalizeLimit limit) offset)
  else pure ⟨[], 0⟩

def listUserTickets (user : UserId) (event : Option EventId) : Service (List Ticket) :=
  Service.store (.listUserTickets user event)

/-- Figures outside of 64 bits stop the program, and there is no report. -/
def ticketStats (event : Option EventId) : Service (Option TicketStats) := do
  let rows ← Service.store (.statsRows event)
  let checkIns ← Service.store (.checkInRows event)
  return (SalesTally.reported? rows checkIns).map (·.stats)

end EventTickets
