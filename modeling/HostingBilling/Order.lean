import HostingBilling.Failure
import HostingBilling.Instant
import HostingBilling.Json.Shape

/-!
# Orders

The life of an order as a table of edges, and the periods that an order line pays for.
-/

namespace HostingBilling

inductive OrderStatus where
  | draft
  | pendingPayment
  | paid
  | provisioning
  | active
  | cancelled
  | refunded
  deriving DecidableEq, Repr, Inhabited

namespace OrderStatus

def all : List OrderStatus :=
  [draft, pendingPayment, paid, provisioning, active, cancelled, refunded]

def name : OrderStatus → String
  | draft => "draft"
  | pendingPayment => "pending_payment"
  | paid => "paid"
  | provisioning => "provisioning"
  | active => "active"
  | cancelled => "cancelled"
  | refunded => "refunded"

def ofName (s : String) : Except Failure OrderStatus :=
  match all.find? fun x => x.name == s with
  | some x => .ok x
  | none => .error (.validation ("unknown order status: " ++ s))

/-- The forward edges of an order's life. -/
def edges : List (OrderStatus × OrderStatus) := [
  (draft, pendingPayment),
  (draft, cancelled),
  (pendingPayment, paid),
  (pendingPayment, cancelled),
  (paid, provisioning),
  (paid, refunded),
  (paid, cancelled),
  (provisioning, active),
  (provisioning, cancelled)]

/-- The edges taken back when the submission of provisioning work fails. They are no part of an
order's life. -/
def compensations : List (OrderStatus × OrderStatus) := [(provisioning, paid)]

def canBecome (source target : OrderStatus) : Bool := edges.contains (source, target)

/-- A status that nothing follows. -/
def isTerminal (s : OrderStatus) : Bool := !edges.any fun e => e.1 == s

/-- The checkout has settled: the order is paid or has moved past it. -/
def isSettled : OrderStatus → Bool
  | paid => true
  | provisioning => true
  | active => true
  | _ => false

def illegal (source target : OrderStatus) : Failure :=
  .illegalTransition .order source.name target.name

def become (source target : OrderStatus) : Except Failure OrderStatus :=
  if source.canBecome target then .ok target else .error (illegal source target)

def stepBack (source target : OrderStatus) : Except Failure OrderStatus :=
  if compensations.contains (source, target) then .ok target else .error (illegal source target)

end OrderStatus

/-- How often an order line is paid for. -/
inductive Cycle where
  | monthly
  | quarterly
  | annually
  deriving DecidableEq, Repr, Inhabited

namespace Cycle

def all : List Cycle := [monthly, quarterly, annually]

def name : Cycle → String
  | monthly => "monthly"
  | quarterly => "quarterly"
  | annually => "annually"

def ofName (s : String) : Except Failure Cycle :=
  match all.find? fun x => x.name == s with
  | some x => .ok x
  | none => .error (.validation ("unknown billing cycle: " ++ s))

def months : Cycle → Nat
  | monthly => 1
  | quarterly => 3
  | annually => 12

/-- The end of one period. A period that would end past the last instant ends where it starts. -/
def endOfPeriod (c : Cycle) (start : Instant) : Instant := (start.addMonths? c.months).getD start

end Cycle

/-- When a new service expires. A cycle of an unknown name pays for one month. -/
def firstExpiry (cycle : String) (now : Instant) : Instant :=
  match Cycle.ofName cycle with
  | .ok c => c.endOfPeriod now
  | .error _ => Cycle.monthly.endOfPeriod now

/-- When a renewal is due. With a cycle of an unknown name it is due in a week. -/
def renewalDue (cycle : String) (now : Instant) : Instant :=
  match Cycle.ofName cycle with
  | .ok c => c.endOfPeriod now
  | .error _ => (now.addDays? 7).getD now

end HostingBilling
