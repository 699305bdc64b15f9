import HostingBilling.Store.Invoices
import HostingBilling.Store.Jobs
import HostingBilling.Store.Payments
import HostingBilling.Store.Services

/-!
# Settling a checkout

One transaction makes the order paid, its initial invoice and its payment, one service for each line
and a job for each service that still needs a machine. Each step finds what an earlier checkout of the
order left and adds only what is missing, so settling twice adds nothing.
-/

namespace HostingBilling

namespace Checkout

/-- What a checkout pays: its own total if that is positive, else the total of the order. -/
def paidCents (c : Checkout) (order : OrderRow) : Int :=
  (c.amountTotal.filter (0 < ·)).getD order.totalCents

/-- Moves an order to paid unless it is paid or past it, and gives its status. -/
def settleOrder (order : OrderRow) : Action OrderStatus := do
  if order.status.isSettled then return order.status
  let _ ← Orders.move order.id order.status .paid
  return .paid

/-- The service of a line, and its job if this call created one. -/
def prepareItem (order : OrderRow) (item : ItemRow) : Action (Option CommittedJob) := do
  let now ← Action.now
  let service ← Services.ensure order.userId item (firstExpiry item.cycle.name now)
  if service.status = .active ∨ service.status = .terminated then return none
  Services.start service.id
  match ← Jobs.create service.id .provisionVps with
  | some jobId => return some ⟨jobId, service.id, order.id, service.planId, service.userId⟩
  | none => return none

/-- The jobs created for the lines, in the order of the lines. -/
def prepareItems (order : OrderRow) : List ItemRow → Action (List CommittedJob)
  | [] => return []
  | item :: rest => do
    let task ← prepareItem order item
    return task.toList ++ (← prepareItems order rest)

def orderNotFound (id : Uuid) : Failure := .notFound ("order " ++ id.toText)

/-- What a checkout does to its order, inside a transaction. -/
def settle (c : Checkout) (orderId : Uuid) : Action (List CommittedJob) := do
  let some order ← Orders.lock orderId | throw (orderNotFound orderId)
  let status ← settleOrder order
  let items ← Orders.items order.id
  let invoiceId ← Invoices.ensureInitial order items
  let _ ← Payments.record {
    userId := order.userId
    orderId := order.id
    invoiceId
    intent := c.intent
    session := c.sessionId
    amountCents := c.paidCents order
    currency := order.currency }
  let created ← prepareItems order items
  if !created.isEmpty && status == .paid then
    let _ ← Orders.move order.id .paid .provisioning
  return created

/-- Settles a checkout. The jobs it gives are committed and wait to be submitted. -/
def carryOut (c : Checkout) : Action (List CommittedJob) := do
  let orderId ← Action.ofExcept c.orderId
  transaction (c.settle orderId)

end Checkout

end HostingBilling
