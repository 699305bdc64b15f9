import HostingBilling.Json.Writer
import HostingBilling.World

/-!
# Orders in the store

An order moves along one edge at a time, and only from the status it is expected in. Going back to
paid is allowed only while none of the order's jobs is live or completed.
-/

namespace HostingBilling

namespace Store

/-- Moves an order that stands in the expected status. -/
def moveOrder (now : Instant) (id : Uuid) (source target : OrderStatus) (s : Store) :
    Bool × Store :=
  let selects (r : OrderRow) : Bool := r.id == id && r.status == source
  let moved (r : OrderRow) : OrderRow := { r with status := target, updatedAt := now }
  (s.orders.any selects, { s with orders := changeRows selects moved s.orders })

/-- Whether a job of the order is live or completed. -/
def hasWorkDone (s : Store) (orderId : Uuid) : Bool :=
  s.jobs.any fun j =>
    (j.status.isLive || j.status == .completed) && s.isServiceOf orderId j.serviceId

/-- Takes a provisioning order back to `target`, unless a job of it is live or completed. -/
def revertOrder (now : Instant) (id : Uuid) (target : OrderStatus) (s : Store) : Bool × Store :=
  if s.hasWorkDone id then (false, s) else s.moveOrder now id .provisioning target

end Store

namespace Orders

/-- The order, for the rest of a transaction. -/
def lock (id : Uuid) : Action (Option OrderRow) := ask .lockOrder fun _ s => s.order? id

def items (id : Uuid) : Action (List ItemRow) := ask .orderItems fun _ s => s.itemsOf id

def status (id : Uuid) : Action (Option OrderStatus) :=
  ask .orderStatus fun _ s => (s.order? id).map (·.status)

/-- Moves an order along an edge of its life. The answer is false when it stood elsewhere. -/
def move (id : Uuid) (source target : OrderStatus) : Action Bool := do
  let target ← Action.ofExcept (source.become target)
  change .moveOrder fun now s => s.moveOrder now id source target

/-- Takes an order back from provisioning to paid. -/
def takeBack (id : Uuid) : Action Bool := do
  let target ← Action.ofExcept (OrderStatus.provisioning.stepBack .paid)
  change .revertOrder fun now s => s.revertOrder now id target

end Orders

/-- What a line is called on an invoice: the name in the copy of its plan, or a plain word. -/
def ItemRow.planName (r : ItemRow) : String :=
  let name := match r.planSnapshot.member? "name" with
    | none => ""
    | some .null => ""
    | some (.text s) => s
    | some v => v.write
  if name = "" then "Service" else name

end HostingBilling
